import SlotPattern.Proofs.Shift
import SlotPattern.Proofs.WellFormed

/-!
# Texts one after the other

Two texts that compile mean, one after the other, what they mean alone: the one pattern and then the
other. An error in the second text is the same error further on, if no slot stands before it. Behind
a slot the first slot of a text is not the first one any more and may have constraints.
-/

namespace SlotPattern

/-! ### Texts behind a slot -/

namespace Grammar

theorem AlternativesText.imp {α : Type} {R R' : List Char → α → Prop}
    (hR : ∀ {cs a}, R cs a → R' cs a) {cs : List Char} {as : List α}
    (h : AlternativesText R cs as) : AlternativesText R' cs as := by
  induction h with
  | one h => exact .one (hR h)
  | more h _ ih => exact .more (hR h) ih

theorem OptionText.of_first {cs : List Char} {o : SlotOption} (h : OptionText true cs o)
    (first : Bool) : OptionText first cs o := by
  cases h with
  | unconstrained h => exact .unconstrained h

/-- What is a pattern by itself is one behind a slot too. -/
theorem PatternText.of_first {cs : List Char} {items : List Item} (h : PatternText true cs items)
    (first : Bool) : PatternText first cs items := by
  generalize htrue : true = b at h
  induction h with
  | nil => exact .nil
  | plain hc _ ih => exact .plain hc (ih htrue)
  | escaped hc _ ih => exact .escaped hc (ih htrue)
  | slot h rest =>
    subst htrue
    exact .slot (h.imp fun ho => ho.of_first first) rest

end Grammar

/-! ### Scans of two texts -/

namespace Scan

open Grammar

/-- Behind a text of the grammar a scan goes on with its items in hand. -/
theorem resume_append {first : Bool} {cs : List Char} {items : List Item}
    (h : PatternText first cs items) (ds : List Char) {found : List Item}
    (hfound : isFirst found = first) (offset : Nat) :
    (inText found).resume offset (cs ++ ds) =
      (inText (items.reverse ++ found)).resume (offset + utf8Length cs) ds := by
  induction h generalizing found offset with
  | nil => rfl
  | @plain _ c cs items hc _ ih =>
    have hchar : isFirst (.char c :: found) = _ := hfound
    rw [List.cons_append, resume_plain _ _ hc, ih hchar, List.reverse_cons, List.append_assoc,
      utf8Length_cons, Nat.add_assoc]
    rfl
  | @escaped _ c cs items hc _ ih =>
    have hchar : isFirst (.char c :: found) = _ := hfound
    have hlength : utf8Length ('\\' :: c :: cs) = 2 + utf8Length cs := by
      rw [utf8Length_cons, utf8Length_cons, ← Nat.add_assoc]
      rcases hc with rfl | rfl <;> rfl
    rw [List.cons_append, List.cons_append, resume_escaped _ _ hc, ih hchar, List.reverse_cons,
      List.append_assoc, hlength, Nat.add_assoc]
    rfl
  | @slot _ body cs options items h _ ih =>
    have hbody := braceFree_of_bodyText h
    have hslot : isFirst (.slot ⟨options⟩ :: found) = false := rfl
    have hread : Slot.read (isFirst found) (offset + 1 + utf8Length body) (lexed (offset + 1) body) =
        .ok ⟨options⟩ := read_eq_ok_iff.mpr (hfound ▸ h)
    have hlength : utf8Length ('{' :: (body ++ '}' :: cs)) =
        1 + utf8Length body + 1 + utf8Length cs := by
      rw [utf8Length_cons, utf8Length_append, utf8Length_cons, ← Nat.add_assoc, ← Nat.add_assoc]
      rfl
    rw [List.cons_append, List.append_assoc, List.cons_append, resume_slot _ _ hbody, hread,
      ok_bind, ih hslot, List.reverse_cons, List.append_assoc, hlength]
    simp only [Nat.add_assoc]
    rfl

/-- Behind other items a text is scanned as it is by itself, only further on. The items are found
behind the others. No slot may be among these. -/
theorem resume_behind (d : Nat) {found : List Item} (hfound : isFirst found = true)
    (new : List Item) (offset : Nat) (cs : List Char) :
    (inText (new ++ found)).resume (offset + d) cs =
      shiftResult d (found.reverse ++ ·) ((inText new).resume offset cs) := by
  induction textShape cs generalizing new offset with
  | nil => simp [resume_nil]
  | plain hc _ ih =>
    rw [resume_plain _ _ hc, resume_plain _ _ hc, Nat.add_right_comm]
    exact ih (_ :: new) _
  | escaped hc _ ih =>
    rw [resume_escaped _ _ hc, resume_escaped _ _ hc, Nat.add_right_comm]
    exact ih (_ :: new) _
  | dangling hcs =>
    rw [resume_dangling _ _ hcs, resume_dangling _ _ hcs]
    rfl
  | unmatched => rfl
  | @slot body cs hbody _ ih =>
    have hfirst : isFirst (new ++ found) = isFirst new := by
      simp only [isFirst, List.any_append, Bool.not_eq_true'] at hfound ⊢
      rw [hfound, Bool.or_false]
    rw [resume_slot _ _ hbody, resume_slot _ _ hbody, hfirst, Nat.add_right_comm offset,
      Nat.add_right_comm (offset + 1), Nat.add_right_comm (offset + 1 + utf8Length body), lexed_shift]
    exact bind_shift d (Slot.read_shift d _ _ _) fun s => ih (.slot s :: new) _
  | unterminated hbody hcs =>
    rw [resume_unterminated _ _ hbody hcs, resume_unterminated _ _ hbody hcs]
    rfl

end Scan

/-! ### Patterns one after the other -/

namespace Pattern

/-- The segments of one pattern and then those of another. A literal at the end of the one and a
literal at the start of the other are one literal. -/
def append (p q : Pattern) : Pattern :=
  match p.segments.getLast?, q.segments with
  | some (.literal text), .literal more :: rest =>
    ⟨p.segments.dropLast ++ .literal (text ++ more) :: rest⟩
  | _, _ => ⟨p.segments ++ q.segments⟩

theorem segments_append (p q : Pattern) :
    (∃ before text more after, p.segments = before ++ [.literal text] ∧
        q.segments = .literal more :: after ∧
        (p.append q).segments = before ++ .literal (text ++ more) :: after) ∨
      (∀ a ∈ p.segments.getLast?, ∀ b ∈ q.segments.head?, Segment.Apart a b) ∧
        (p.append q).segments = p.segments ++ q.segments := by
  unfold append
  split
  next text more rest hlast hfirst =>
    have hsegments := List.dropLast_append_getLast? _ (Option.mem_def.mpr hlast)
    exact .inl ⟨_, text, more, rest, hsegments.symm, hfirst, rfl⟩
  next hnone =>
    refine .inr ⟨fun a ha b hb => ?_, rfl⟩
    cases a with
    | slot s => exact apart_slot_left s b
    | literal text =>
      cases b with
      | slot s => exact apart_slot_right _ s
      | literal more =>
        obtain ⟨rest, hq⟩ := List.head?_eq_some_iff.mp hb
        exact absurd hq (hnone text more rest ha)

theorem items_append (p q : Pattern) : (p.append q).items = p.items ++ q.items := by
  rcases segments_append p q with ⟨before, text, more, after, hp, hq, happend⟩ | ⟨-, happend⟩
  · simp [items, hp, hq, happend, Segment.items]
  · rw [items, happend, List.flatMap_append]
    rfl

theorem Merged.append {p q : Pattern} (hp : p.Merged) (hq : q.Merged) : (p.append q).Merged := by
  obtain ⟨hpne, hpapart⟩ := hp
  obtain ⟨hqne, hqapart⟩ := hq
  rcases segments_append p q with
    ⟨before, text, more, after, hbefore, hafter, happend⟩ | ⟨hapart, happend⟩
  · rw [hbefore] at hpne hpapart
    rw [hafter] at hqne hqapart
    obtain ⟨hchain, -, hlast⟩ := List.isChain_append.mp hpapart
    -- Neighbours are apart whatever the text of a literal is.
    have hjoined : (before ++ [Segment.literal (text ++ more)]).IsChain Segment.Apart := by
      refine List.isChain_append.mpr ⟨hchain, .singleton _, fun a ha b hb => ?_⟩
      cases hb
      exact hlast a ha (.literal text) rfl
    have hrest : (Segment.literal (text ++ more) :: after).IsChain Segment.Apart := by
      obtain ⟨hfirst, hafter⟩ := List.isChain_cons.mp hqapart
      exact List.isChain_cons.mpr ⟨hfirst, hafter⟩
    refine ⟨fun other hother => ?_, happend ▸ List.isChain_split.mpr ⟨hjoined, hrest⟩⟩
    rw [happend, List.mem_append, List.mem_cons] at hother
    rcases hother with hother | heq | hother
    · exact hpne other (List.mem_append_left _ hother)
    · have htext := hpne text (List.mem_append_right _ List.mem_cons_self)
      cases heq
      simp [htext]
    · exact hqne other (List.mem_cons_of_mem _ hother)
  · refine ⟨fun text htext => ?_, happend ▸ List.isChain_append.mpr ⟨hpapart, hqapart, hapart⟩⟩
    rw [happend, List.mem_append] at htext
    exact htext.elim (hpne text) (hqne text)

theorem isFirst_items {p : Pattern} (h : p.slots = []) : Scan.isFirst p.items.reverse = true := by
  rw [← filterMap_slot_items, List.filterMap_eq_nil_iff] at h
  simp only [Scan.isFirst, List.any_reverse, Bool.not_eq_true', List.any_eq_false]
  intro item hitem
  cases item with
  | char c => exact Bool.false_ne_true
  | slot s => cases h _ hitem

/-! ### Compiling -/

/-- If a text compiles, so does a text that begins with it and goes on with another text that
compiles: the patterns are joined. If the text has no slot, and what it goes on with does not
compile, the fault is the same and as many bytes further on as the text takes. -/
theorem compile_append {s t : String} {p : Pattern} (hs : compile s = .ok p) :
    (∀ q, compile t = .ok q → compile (s ++ t) = .ok (p.append q)) ∧
      ∀ e, p.slots = [] → compile t = .error e →
        compile (s ++ t) = .error ⟨e.fault, e.offset + s.utf8ByteSize⟩ := by
  obtain ⟨htext, hmerged⟩ := compile_eq_ok_iff.mp hs
  have hscan : compile (s ++ t) =
      ofItems <$> (Scan.inText p.items.reverse).resume (0 + s.utf8ByteSize) t.toList := by
    rw [compile, Scan.run_tokenize, String.toList_append, Scan.resume_append htext _ rfl,
      utf8Length_eq_utf8ByteSize, String.ofList_toList, List.append_nil]
  constructor
  · intro q ht
    obtain ⟨htext', hmerged'⟩ := compile_eq_ok_iff.mp ht
    have hresume : (Scan.inText p.items.reverse).resume (0 + s.utf8ByteSize) t.toList =
        .ok (p.items.reverse.reverse ++ q.items) :=
      Scan.resume_eq_ok_iff.mpr ⟨q.items, htext'.of_first _, rfl⟩
    rw [hscan, hresume, List.reverse_reverse, ← items_append]
    exact congrArg Except.ok (ofItems_items (hmerged.append hmerged'))
  · intro e hslots ht
    rw [compile, map_eq_error_iff, Scan.run_tokenize] at ht
    have hbehind := Scan.resume_behind s.utf8ByteSize (isFirst_items hslots) [] 0 t.toList
    rw [hscan, map_eq_error_iff, ← List.nil_append p.items.reverse, hbehind, ht]
    rfl

/-- The literals touch and become one, and an offset moves on by the four bytes of the first text. -/
theorem compile_append_at_literals : ∃ p q,
    compile "é\\\x7b" = .ok p ∧ compile "b\x7ba\x7d" = .ok q ∧
      p.append q = ⟨[.literal "é\x7bb", .slot ⟨[⟨[.name "a"], .unconstrained⟩]⟩]⟩ ∧
      compile ("é\\\x7b" ++ "b\x7ba\x7d") = .ok (p.append q) ∧
      compile "b\x7b1\x7d" = .error ⟨.invalidIdentifier "1", 2⟩ ∧
      compile ("é\\\x7b" ++ "b\x7b1\x7d") = .error ⟨.invalidIdentifier "1", 6⟩ := by
  let p : Pattern := ⟨[.literal "é\x7b"]⟩
  let q : Pattern := ⟨[.literal "b", .slot ⟨[⟨[.name "a"], .unconstrained⟩]⟩]⟩
  have hp : compile "é\\\x7b" = .ok p := by decide +kernel
  have hq : compile "b\x7ba\x7d" = .ok q := by decide +kernel
  have herror : compile "b\x7b1\x7d" = .error ⟨.invalidIdentifier "1", 2⟩ := by decide +kernel
  have hsize : "é\\\x7b".utf8ByteSize = 4 := by decide +kernel
  have hfault := (compile_append hp).2 _ rfl herror
  rw [hsize] at hfault
  exact ⟨p, q, hp, hq, by decide +kernel, (compile_append hp).1 q hq, herror, hfault⟩

end Pattern

end SlotPattern
