import SlotPattern.Proofs.Concatenation
import SlotPattern.Proofs.OptionFaults

/-!
# The first fault of a text

A text that does not compile is a text of the grammar and then something that no pattern goes on
with. The error is decided by the two alone: whatever follows, it stays the same. The exception is
a text that ends too soon, in an open slot or right behind a backslash, where more text can help.
-/

namespace SlotPattern

open Grammar

/-! ### Places in a text -/

/-- A text is cut in one way at a given byte. -/
theorem append_inj_of_utf8Length {as bs cs ds : List Char} (h : as ++ bs = cs ++ ds)
    (hlength : utf8Length as = utf8Length cs) : as = cs ∧ bs = ds := by
  induction as generalizing cs with
  | nil =>
    cases cs with
    | nil => exact ⟨rfl, h⟩
    | cons c cs =>
      have hpos := c.utf8Size_pos
      rw [utf8Length_nil, utf8Length_cons] at hlength
      omega
  | cons a as ih =>
    cases cs with
    | nil =>
      have hpos := a.utf8Size_pos
      rw [utf8Length_nil, utf8Length_cons] at hlength
      omega
    | cons c cs =>
      obtain ⟨rfl, htail⟩ := List.cons.inj h
      obtain ⟨rfl, hrest⟩ := ih htail (Nat.add_left_cancel hlength)
      exact ⟨rfl, hrest⟩

/-! ### Where a scan stops -/

namespace Grammar

/-- A text that no scan gets past, and the error that is reported if the text starts at `offset`.
`first` tells whether a slot that starts here is the first one. -/
inductive FaultText (first : Bool) (offset : Nat) : List Char → ParseError → Prop
  | dangling {cs : List Char} (hcs : ∀ c ∈ cs.head?, c ≠ '{' ∧ c ≠ '}') :
      FaultText first offset ('\\' :: cs) ⟨.danglingEscape, offset⟩
  | unmatched {cs : List Char} : FaultText first offset ('}' :: cs) ⟨.unmatchedBrace, offset⟩
  | unterminated {body cs : List Char} (hbody : BraceFree body)
      (hcs : cs = [] ∨ ∃ ds, cs = '{' :: ds) :
      FaultText first offset ('{' :: (body ++ cs)) ⟨.unterminatedSlot, offset⟩
  | slot {body cs : List Char} {e : ParseError} (hbody : BraceFree body)
      (h : Slot.read first (offset + 1 + utf8Length body) (lexed (offset + 1) body) = .error e) :
      FaultText first offset ('{' :: (body ++ '}' :: cs)) e

/-- What follows a fault does not change it, unless the text ends in an open slot or behind a
backslash. -/
theorem FaultText.append {first : Bool} {offset : Nat} {cs : List Char} {e : ParseError}
    (h : FaultText first offset cs e) (ds : List Char) :
    FaultText first offset (cs ++ ds) e ∨
      (cs = ['\\'] ∧ e = ⟨.danglingEscape, offset⟩) ∨
      ∃ body, BraceFree body ∧ cs = '{' :: body ∧ e = ⟨.unterminatedSlot, offset⟩ := by
  cases h with
  | @dangling cs hcs =>
    cases cs with
    | nil => exact .inr (.inl ⟨rfl, rfl⟩)
    | cons c cs => exact .inl (.dangling hcs)
  | unmatched => exact .inl .unmatched
  | @unterminated body cs hbody hcs =>
    rcases hcs with rfl | ⟨es, rfl⟩
    · exact .inr (.inr ⟨body, hbody, by rw [List.append_nil], rfl⟩)
    · rw [List.cons_append, List.append_assoc]
      exact .inl (.unterminated hbody (.inr ⟨es ++ ds, rfl⟩))
  | @slot body cs _ hbody hread =>
    rw [List.cons_append, List.append_assoc]
    exact .inl (.slot hbody hread)

end Grammar

namespace Scan

/-- The text begins with a text of the grammar, behind which a scan cannot go on. -/
def FailsOn (found : List Item) (offset : Nat) (cs : List Char) (e : ParseError) : Prop :=
  ∃ before after items, cs = before ++ after ∧ PatternText (isFirst found) before items ∧
    FaultText (isFirst (items.reverse ++ found)) (offset + utf8Length before) after e

theorem failsOn_of_faultText {found : List Item} {offset : Nat} {cs : List Char} {e : ParseError}
    (h : FaultText (isFirst found) offset cs e) : FailsOn found offset cs e :=
  ⟨[], cs, [], rfl, .nil, h⟩

/-- A scan that fails behind an item fails on the text with this item in front. -/
theorem FailsOn.cons {found : List Item} {item : Item} {offset next : Nat} {cs : List Char}
    {e : ParseError} (h : FailsOn (item :: found) next cs e) (front : List Char)
    (hnext : next = offset + utf8Length front)
    (hitem : ∀ before items, PatternText (isFirst (item :: found)) before items →
      PatternText (isFirst found) (front ++ before) (item :: items)) :
    FailsOn found offset (front ++ cs) e := by
  obtain ⟨before, after, items, rfl, htext, hfault⟩ := h
  refine ⟨front ++ before, after, item :: items, by rw [List.append_assoc], hitem _ _ htext, ?_⟩
  rw [List.reverse_cons, List.append_assoc, utf8Length_append, ← Nat.add_assoc, ← hnext]
  exact hfault

theorem failsOn_of_resume {cs : List Char} {found : List Item} {offset : Nat} {e : ParseError}
    (h : (inText found).resume offset cs = .error e) : FailsOn found offset cs e := by
  induction textShape cs generalizing found offset with
  | nil => cases h
  | @plain c cs hc _ ih =>
    rw [resume_plain _ _ hc] at h
    exact (ih h).cons [c] rfl fun _ _ htext => .plain hc htext
  | @escaped c cs hc _ ih =>
    rw [resume_escaped _ _ hc] at h
    have hnext : offset + 2 = offset + utf8Length ['\\', c] := by rcases hc with rfl | rfl <;> rfl
    exact (ih h).cons _ hnext fun _ _ htext => .escaped hc htext
  | dangling hcs =>
    rw [resume_dangling _ _ hcs] at h
    cases h
    exact failsOn_of_faultText (.dangling hcs)
  | unmatched =>
    cases h
    exact failsOn_of_faultText .unmatched
  | @slot body cs hbody _ ih =>
    rw [resume_slot _ _ hbody, bind_eq_error_iff] at h
    rcases h with hread | ⟨s, hread, h⟩
    · exact failsOn_of_faultText (.slot hbody hread)
    · have hnext :
          offset + 1 + utf8Length body + 1 = offset + utf8Length ('{' :: body ++ ['}']) := by
        rw [utf8Length_append, utf8Length_cons, ← Nat.add_assoc, ← Nat.add_assoc]
        rfl
      have hfails := (ih h).cons ('{' :: body ++ ['}']) hnext fun before items htext => by
        rw [List.append_assoc, List.singleton_append]
        exact .slot (read_eq_ok_iff.mp hread) htext
      rw [List.append_assoc, List.singleton_append] at hfails
      exact hfails
  | unterminated hbody hcs =>
    rw [resume_unterminated _ _ hbody hcs] at h
    cases h
    exact failsOn_of_faultText (.unterminated hbody hcs)

theorem resume_of_faultText {cs : List Char} {found : List Item} {offset : Nat} {e : ParseError}
    (h : FaultText (isFirst found) offset cs e) : (inText found).resume offset cs = .error e := by
  cases h with
  | dangling hcs => exact resume_dangling found offset hcs
  | unmatched => rfl
  | unterminated hbody hcs => exact resume_unterminated found offset hbody hcs
  | slot hbody h =>
    rw [resume_slot _ _ hbody, h]
    rfl

/-- A scan fails on exactly the texts that begin with a text of the grammar and cannot go on behind
it. -/
theorem resume_eq_error_iff {cs : List Char} {found : List Item} {offset : Nat} {e : ParseError} :
    (inText found).resume offset cs = .error e ↔ FailsOn found offset cs e := by
  refine ⟨failsOn_of_resume, ?_⟩
  rintro ⟨before, after, items, rfl, htext, hfault⟩
  rw [resume_append htext after rfl]
  exact resume_of_faultText hfault

end Scan

/-! ### Texts that end too soon -/

/-- The text ends too soon: in the slot that the error reports as open, or right behind the
backslash that it reports. -/
def Unfinished (cs : List Char) (e : ParseError) : Prop :=
  (e.fault = .unterminatedSlot ∧
      ∃ before body, cs = before ++ '{' :: body ∧ e.offset = utf8Length before ∧ '{' ∉ body) ∨
    (e.fault = .danglingEscape ∧
      ∃ before, cs = before ++ ['\\'] ∧ e.offset = utf8Length before)

namespace Scan

theorem FailsOn.append {cs : List Char} {e : ParseError} (h : FailsOn [] 0 cs e)
    (hcs : ¬Unfinished cs e) (ds : List Char) : FailsOn [] 0 (cs ++ ds) e := by
  obtain ⟨before, after, items, rfl, htext, hfault⟩ := h
  rcases hfault.append ds with hfault | ⟨rfl, rfl⟩ | ⟨body, hbody, rfl, rfl⟩
  · exact ⟨before, after ++ ds, items, by rw [List.append_assoc], htext, hfault⟩
  · exact absurd (.inr ⟨rfl, before, rfl, Nat.zero_add _⟩) hcs
  · have hopen : '{' ∉ body := fun hmem => (hbody _ hmem).1 rfl
    exact absurd (.inl ⟨rfl, before, body, rfl, Nat.zero_add _, hopen⟩) hcs

/-- If a text ends too soon, a brace behind it makes another result. -/
theorem exists_resume_ne_error {before after : List Char} {found : List Item} {e : ParseError}
    (hfault : FaultText (isFirst found) (utf8Length before) after e)
    (hcs : Unfinished (before ++ after) e) :
    ∃ ds, (inText found).resume (utf8Length before) (after ++ ds) ≠ .error e := by
  cases hfault with
  | @dangling cs _ =>
    rcases hcs with ⟨hfault, -⟩ | ⟨-, before', htext, hoffset⟩
    · cases hfault
    · obtain ⟨rfl, hafter⟩ := append_inj_of_utf8Length htext hoffset
      cases hafter
      exact ⟨['{'], nofun⟩
  | unmatched => rcases hcs with ⟨hfault, -⟩ | ⟨hfault, -⟩ <;> cases hfault
  | @unterminated body cs hbody hopen =>
    rcases hcs with ⟨-, before', body', htext, hoffset, hbody'⟩ | ⟨hfault, -⟩
    · obtain ⟨rfl, hafter⟩ := append_inj_of_utf8Length htext hoffset
      obtain rfl := (List.cons.inj hafter).2
      obtain rfl : cs = [] := by
        refine hopen.resolve_right ?_
        rintro ⟨ds, rfl⟩
        exact hbody' (List.mem_append_right _ List.mem_cons_self)
      refine ⟨['}'], fun hresume => ?_⟩
      rw [List.append_nil, List.cons_append, resume_slot _ _ hbody, bind_eq_error_iff] at hresume
      rcases hresume with hread | ⟨s, -, hresume⟩
      · exact (Slot.fault_ne_of_read_eq_error hbody hread).1 rfl
      · cases hresume
    · cases hfault
  | @slot body cs _ hbody hread =>
    rcases hcs with ⟨hfault, -⟩ | ⟨hfault, before', htext, hoffset⟩
    · exact absurd hfault (Slot.fault_ne_of_read_eq_error hbody hread).1
    -- The backslash stands in front of the closing brace, so it is not the last character.
    rcases Slot.read_eq_error hread with (hpoints | ⟨-, hother⟩) | ⟨-, _, _, _, -, -, -, rfl⟩
    · obtain ⟨front, c, back, _, _, rfl, hstart, -, -, -⟩ := hpoints.exists_char
      have hsplit : (before ++ '{' :: front) ++ c :: (back ++ '}' :: cs) = before' ++ ['\\'] := by
        rw [← htext]
        simp
      have hlength : utf8Length (before ++ '{' :: front) = utf8Length before' := by
        rw [← hoffset, hstart, utf8Length_append, utf8Length_cons, ← Nat.add_assoc]
        rfl
      obtain ⟨-, hlast⟩ := append_inj_of_utf8Length hsplit hlength
      simp at hlast
    · rw [hfault] at hother
      rcases hother with hother | hother <;> cases hother
    · cases hfault

theorem FailsOn.exists_append {cs : List Char} {e : ParseError} (h : FailsOn [] 0 cs e)
    (hcs : Unfinished cs e) : ∃ ds, ¬FailsOn [] 0 (cs ++ ds) e := by
  obtain ⟨before, after, items, rfl, htext, hfault⟩ := h
  rw [Nat.zero_add] at hfault
  obtain ⟨ds, hds⟩ := exists_resume_ne_error hfault hcs
  refine ⟨ds, fun hfails => hds ?_⟩
  rw [← resume_eq_error_iff, List.append_assoc, resume_append htext _ rfl, Nat.zero_add] at hfails
  exact hfails

end Scan

/-! ### Compiling -/

namespace Pattern

theorem compile_eq_error_iff {s : String} {e : ParseError} :
    compile s = .error e ↔ Scan.FailsOn [] 0 s.toList e := by
  rw [compile, map_eq_error_iff, Scan.run_tokenize, Scan.resume_eq_error_iff]

theorem compile_patternText {cs : List Char} {items : List Item} (h : PatternText true cs items) :
    compile (String.ofList cs) = .ok (ofItems items) := by
  refine compile_eq_ok_iff.mpr ⟨?_, merged_ofItems items⟩
  rw [items_ofItems, String.toList_ofList]
  exact h

/-- Behind a text that compiles, an error in the body of a slot is the error of the whole text. -/
theorem compile_slot_eq_error {before : String} {p : Pattern} (h : compile before = .ok p)
    {body : List Char} (hbody : BraceFree body) (after : List Char) {e : ParseError}
    (hread : Slot.read (Scan.isFirst p.items.reverse) (before.utf8ByteSize + 1 + utf8Length body)
      (lexed (before.utf8ByteSize + 1) body) = .error e) :
    compile (before ++ String.ofList ('{' :: (body ++ '}' :: after))) = .error e := by
  rw [compile_eq_error_iff, String.toList_append, String.toList_ofList]
  refine ⟨before.toList, _, p.items, rfl, (compile_eq_ok_iff.mp h).1, .slot hbody ?_⟩
  rw [utf8Length_eq_utf8ByteSize before.toList, String.ofList_toList, Nat.zero_add, List.append_nil]
  exact hread

/-- An error stays the same whatever follows the text, unless the text ends too soon. If a slot is
reported as open or a brace as one too many, the text before it compiles. -/
theorem compile_append_eq_error_iff {s : String} {e : ParseError} (h : compile s = .error e) :
    ((∀ t, compile (s ++ t) = .error e) ↔ ¬Unfinished s.toList e) ∧
      (e.fault = .unterminatedSlot ∨ e.fault = .unmatchedBrace →
        ∃ before after, s = before ++ after ∧ before.utf8ByteSize = e.offset ∧
          ∃ p, compile before = .ok p) := by
  rw [compile_eq_error_iff] at h
  refine ⟨⟨fun hall hends => ?_, fun hends t => ?_⟩, fun hbrace => ?_⟩
  · obtain ⟨ds, hds⟩ := h.exists_append hends
    have happend := hall (String.ofList ds)
    rw [compile_eq_error_iff, String.toList_append, String.toList_ofList] at happend
    exact hds happend
  · rw [compile_eq_error_iff, String.toList_append]
    exact h.append hends t.toList
  · obtain ⟨before, after, items, htext, hbefore, hfault⟩ := h
    have hoffset : e.offset = utf8Length before := by
      rw [Nat.zero_add] at hfault
      cases hfault with
      | dangling => rcases hbrace with hbrace | hbrace <;> cases hbrace
      | unmatched | unterminated => rfl
      | slot hbody hread =>
        obtain ⟨hopen, hclose⟩ := Slot.fault_ne_of_read_eq_error hbody hread
        exact absurd hbrace (not_or.mpr ⟨hopen, hclose⟩)
    refine ⟨String.ofList before, String.ofList after, ?_, ?_, _, compile_patternText hbefore⟩
    · rw [← String.ofList_append, ← htext, String.ofList_toList]
    · rw [hoffset, utf8Length_eq_utf8ByteSize]

/-- The first text has a second opening brace, so nothing can close its slot any more; the second
one only lacks the closing brace. -/
theorem compile_append_eq_error_iff_open_slots :
    (compile "é\x7ba\x7bb" = .error ⟨.unterminatedSlot, 2⟩ ∧
      (∀ t, compile ("é\x7ba\x7bb" ++ t) = .error ⟨.unterminatedSlot, 2⟩) ∧
      ∃ before after, "é\x7ba\x7bb" = before ++ after ∧ before.utf8ByteSize = 2 ∧
        ∃ p, compile before = .ok p) ∧
    compile "é\x7ba" = .error ⟨.unterminatedSlot, 2⟩ ∧
      ¬∀ t, compile ("é\x7ba" ++ t) = .error ⟨.unterminatedSlot, 2⟩ := by
  have hstays : compile "é\x7ba\x7bb" = .error ⟨.unterminatedSlot, 2⟩ := by decide +kernel
  have hopen : compile "é\x7ba" = .error ⟨.unterminatedSlot, 2⟩ := by decide +kernel
  have hends : ¬Unfinished "é\x7ba\x7bb".toList ⟨.unterminatedSlot, 2⟩ := by
    rintro (⟨-, before, body, htext, hoffset, hbody⟩ | ⟨hfault, -⟩)
    · have hsplit : ['é'] ++ '{' :: ['a', '{', 'b'] = before ++ '{' :: body := htext
      obtain ⟨-, hrest⟩ := append_inj_of_utf8Length hsplit hoffset
      cases hrest
      exact hbody (by decide)
    · cases hfault
  have hends' : Unfinished "é\x7ba".toList ⟨.unterminatedSlot, 2⟩ :=
    .inl ⟨rfl, ['é'], ['a'], rfl, rfl, by decide⟩
  obtain ⟨hiff, hbefore⟩ := compile_append_eq_error_iff hstays
  exact ⟨⟨hstays, hiff.mpr hends, hbefore (.inl rfl)⟩, hopen,
    fun hall => (compile_append_eq_error_iff hopen).1.mp hall hends'⟩

end Pattern

end SlotPattern
