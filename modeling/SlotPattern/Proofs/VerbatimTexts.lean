import Mathlib.Data.List.Flatten
import SlotPattern.Proofs.AdjacentAtoms
import SlotPattern.Proofs.Rendering

/-!
# Texts that are printed back as they are

Compiling a text and printing the pattern changes nothing but groups: a group with a single member
loses its parentheses, and of equal members only the first stays. So a text is printed back as it is
if and only if each of its groups has several members and all of them are distinct.
-/

namespace SlotPattern

open Grammar

/-! ### The groups of a text -/

/-- Where a search for groups stands in a text. -/
inductive GroupSearch
  /-- In literal text. -/
  | text
  /-- Behind a backslash. -/
  | escaped
  /-- In a slot. -/
  | slot
  /-- In a group of a slot, behind these characters of it, the latest first. -/
  | group (inside : List Char)

/-- What stands between the parentheses of each group, from where the search stands. -/
def groupsFrom : GroupSearch → List Char → List (List Char)
  | _, [] => []
  | .text, c :: cs =>
    if c = '\\' then groupsFrom .escaped cs
    else if c = '{' then groupsFrom .slot cs
    else groupsFrom .text cs
  | .escaped, _ :: cs => groupsFrom .text cs
  | .slot, c :: cs =>
    if c = '(' then groupsFrom (.group []) cs
    else if c = '}' then groupsFrom .text cs
    else groupsFrom .slot cs
  | .group inside, c :: cs =>
    if c = ')' then inside.reverse :: groupsFrom .slot cs
    else groupsFrom (.group (c :: inside)) cs

/-- Does a group with these characters have at least two members, all of them distinct? -/
def HasDistinctMembers (inside : List Char) : Prop :=
  2 ≤ (inside.splitOn '|').length ∧ (inside.splitOn '|').Nodup

/-- Every group in a slot of the text has at least two members, all of them distinct. -/
def Canonical (cs : List Char) : Prop :=
  ∀ inside ∈ groupsFrom .text cs, HasDistinctMembers inside

instance (inside : List Char) : Decidable (HasDistinctMembers inside) :=
  inferInstanceAs (Decidable (_ ∧ _))

instance (cs : List Char) : Decidable (Canonical cs) :=
  inferInstanceAs (Decidable (∀ inside ∈ groupsFrom .text cs, HasDistinctMembers inside))

theorem groupsFrom_slot_append {cs : List Char} (h : ∀ c ∈ cs, c ≠ '(' ∧ c ≠ '}')
    (ds : List Char) : groupsFrom .slot (cs ++ ds) = groupsFrom .slot ds := by
  induction cs with
  | nil => rfl
  | cons c cs ih =>
    obtain ⟨⟨hopen, hclose⟩, hcs⟩ := List.forall_mem_cons.mp h
    rw [List.cons_append, groupsFrom, if_neg hopen, if_neg hclose, ih hcs]

theorem groupsFrom_group_append {cs : List Char} (h : ')' ∉ cs) (inside ds : List Char) :
    groupsFrom (.group inside) (cs ++ ')' :: ds) = (inside.reverse ++ cs) :: groupsFrom .slot ds := by
  induction cs generalizing inside with
  | nil => simp [groupsFrom]
  | cons c cs ih =>
    obtain ⟨hc, hcs⟩ := not_or.mp (List.mem_cons.not.mp h)
    rw [List.cons_append, groupsFrom, if_neg (Ne.symm hc), ih hcs]
    simp

/-! ### What is printed for a part of a text -/

/-- For the part `cs` of a text, which takes a search from `start` to `stop` and has these groups,
`text` is printed. -/
structure Reprinted (start stop : GroupSearch) (cs text : List Char) (groups : List (List Char)) :
    Prop where
  groupsFrom_append : ∀ ds, groupsFrom start (cs ++ ds) = groups ++ groupsFrom stop ds
  sublist : text.Sublist cs
  eq_iff : text = cs ↔ ∀ inside ∈ groups, HasDistinctMembers inside

namespace Reprinted

variable {start middle stop : GroupSearch} {cs ds text more : List Char}
  {groups others : List (List Char)}

/-- Where there is no group, nothing may change. -/
theorem verbatim (h : ∀ ds, groupsFrom start (cs ++ ds) = groupsFrom stop ds) :
    Reprinted start stop cs cs [] where
  groupsFrom_append := h
  sublist := List.Sublist.refl _
  eq_iff := by simp

theorem append (hfront : Reprinted start middle cs text groups)
    (hback : Reprinted middle stop ds more others) :
    Reprinted start stop (cs ++ ds) (text ++ more) (groups ++ others) where
  groupsFrom_append rest := by
    rw [List.append_assoc, hfront.groupsFrom_append, hback.groupsFrom_append, List.append_assoc]
  sublist := hfront.sublist.append hback.sublist
  eq_iff := by
    rw [List.forall_mem_append, ← hfront.eq_iff, ← hback.eq_iff]
    constructor
    · intro h
      -- Neither part can make up for what is missing in the other.
      have hfrontLength := hfront.sublist.length_le
      have hbackLength := hback.sublist.length_le
      have hlength := congrArg List.length h
      simp only [List.length_append] at hlength
      exact List.append_inj h (by omega)
    · rintro ⟨rfl, rfl⟩
      rfl

end Reprinted

/-- A symbol of a slot outside groups. -/
theorem reprinted_symbol {c : Char} (hopen : c ≠ '(') (hclose : c ≠ '}') :
    Reprinted .slot .slot [c] [c] [] :=
  .verbatim fun ds => groupsFrom_slot_append (by simpa using ⟨hopen, hclose⟩) ds

/-! ### Members and groups -/

theorem alternatives_cons_eq (item : List Char) (items : List (List Char)) :
    alternatives (item :: items) = item ++ items.flatMap ('|' :: ·) := by
  induction items generalizing item with
  | nil => simp
  | cons next items ih =>
    rw [alternatives_cons item (List.cons_ne_nil _ _), ih, List.flatMap_cons, List.cons_append]

theorem alternatives_eraseDups_sublist (vs : List Value) :
    (alternatives (vs.eraseDups.map Value.text)).Sublist (alternatives (vs.map Value.text)) := by
  cases vs with
  | nil => exact List.Sublist.refl _
  | cons v vs =>
    have hrest := (eraseDups_sublist (vs.filter fun w => !w == v)).trans List.filter_sublist
    rw [List.eraseDups_cons, List.map_cons, List.map_cons, alternatives_cons_eq,
      alternatives_cons_eq]
    exact ((hrest.map Value.text).flatMap _).append_left v.text

namespace Grammar

variable {cs : List Char} {v w : Value} {vs : List Value}

theorem MemberText.text_eq (h : MemberText cs v) : v.text = cs := by
  cases h with
  | name h => exact String.toList_ofList
  | nothing => rfl

theorem MemberText.unique (hv : MemberText cs v) (hw : MemberText cs w) : v = w := by
  cases hv with
  | name hv =>
    cases hw with
    | name => rfl
    | nothing => cases hv.isWordChar '?' List.mem_cons_self
  | nothing =>
    cases hw with
    | name hw => cases hw.isWordChar '?' List.mem_cons_self
    | nothing => rfl

/-- No character of a member has a meaning outside it. -/
theorem MemberText.ne_symbol (h : MemberText cs v) : ∀ c ∈ cs, c ≠ '(' ∧ c ≠ '}' ∧ c ≠ '|' := by
  intro c hc
  rcases h.char_cases c hc with hword | rfl
  · refine ⟨?_, ?_, ?_⟩ <;> rintro rfl <;> cases hword
  · decide

theorem openGroup_notMem_groupText (h : AlternativesText MemberText cs vs) : '(' ∉ cs := by
  intro hmem
  rcases groupText_char_cases h _ hmem with hword | hmark | hbar
  · cases hword
  · cases hmark
  · cases hbar

theorem memberText_of_mem (h : AlternativesText MemberText cs vs) :
    ∀ v ∈ vs, MemberText v.text v := by
  intro v hv
  obtain ⟨ds, hds⟩ := exists_text_of_alternativesText h v hv
  rw [hds.text_eq]
  exact hds

theorem alternatives_text_eq (h : AlternativesText MemberText cs vs) :
    alternatives (vs.map Value.text) = cs := by
  induction h with
  | one h => rw [List.map_singleton, alternatives_singleton, h.text_eq]
  | more h rest ih =>
    have hne := mt (List.map_eq_nil_iff (f := Value.text)).mp (ne_nil_of_alternativesText rest)
    rw [List.map_cons, alternatives_cons _ hne, ih, h.text_eq]

/-- The members of a group stand between its bars. -/
theorem splitOn_groupText (h : AlternativesText MemberText cs vs) :
    cs.splitOn '|' = vs.map Value.text := by
  rw [← alternatives_text_eq h]
  apply List.splitOn_intercalate
  · intro text htext hbar
    obtain ⟨v, hv, rfl⟩ := List.mem_map.mp htext
    obtain ⟨-, -, hne⟩ := (memberText_of_mem h v hv).ne_symbol '|' hbar
    exact hne rfl
  · exact mt List.map_eq_nil_iff.mp (ne_nil_of_alternativesText h)

theorem hasDistinctMembers_iff (h : AlternativesText MemberText cs vs) :
    HasDistinctMembers cs ↔ 2 ≤ vs.length ∧ vs.Nodup := by
  have htext := memberText_of_mem h
  rw [HasDistinctMembers, splitOn_groupText h, List.length_map]
  refine and_congr_right fun _ => ⟨List.Nodup.of_map _, List.Nodup.map_on ?_⟩
  intro v hv w hw heq
  exact (htext v hv).unique (heq ▸ htext w hw)

/-- What is printed for a group is the group itself, if nothing of it is left out. -/
theorem atomText_eraseDups_eq_iff (h : AlternativesText MemberText cs vs) :
    atomText (vs.eraseDups.map Value.text) = '(' :: (cs ++ [')']) ↔ HasDistinctMembers cs := by
  rw [hasDistinctMembers_iff h]
  constructor
  · intro heq
    have hne : vs.eraseDups ≠ [] := (values_of_atomText (.group h)).1
    have hrest : AlternativesText MemberText (alternatives (vs.eraseDups.map Value.text))
        vs.eraseDups :=
      alternativesText_alternatives hne fun v hv =>
        memberText_of_mem h v (List.mem_eraseDups.mp hv)
    rw [atomText] at heq
    split at heq
    next hlength =>
      have hsame : alternatives (vs.eraseDups.map Value.text) = cs := by simpa using heq
      have hvalues : vs.eraseDups.length = vs.length := by
        have hmembers := splitOn_groupText hrest
        rw [hsame, splitOn_groupText h] at hmembers
        simpa using (congrArg List.length hmembers).symm
      have hall : vs.eraseDups = vs := (eraseDups_sublist vs).eq_of_length hvalues
      rw [List.length_map, hall] at hlength
      exact ⟨hlength, hall ▸ nodup_eraseDups vs⟩
    next =>
      exact absurd (heq ▸ List.mem_cons_self) (openGroup_notMem_groupText hrest)
  · rintro ⟨hlength, hnodup⟩
    have hseveral : 1 < (vs.map Value.text).length := by
      rw [List.length_map]
      exact hlength
    rw [eraseDups_of_nodup hnodup, atomText, if_pos hseveral, alternatives_text_eq h]
    rfl

theorem MemberText.reprinted (h : MemberText cs v) : Reprinted .slot .slot cs v.text [] := by
  rw [h.text_eq]
  refine .verbatim (groupsFrom_slot_append fun c hc => ?_)
  obtain ⟨hopen, hclose, -⟩ := h.ne_symbol c hc
  exact ⟨hopen, hclose⟩

theorem AtomText.reprinted (h : AtomText cs vs) :
    ∃ groups, Reprinted .slot .slot cs (atomText (vs.map Value.text)) groups := by
  cases h with
  | @member _ v h =>
    have htext : atomText ([v].map Value.text) = v.text := alternatives_singleton v.text
    rw [htext]
    exact ⟨[], h.reprinted⟩
  | @group cs vs h =>
    refine ⟨[cs], ?_, ?_, ?_⟩
    · intro ds
      have hgroup := groupsFrom_group_append (closeGroup_notMem_groupText h) [] ds
      rw [List.cons_append, List.append_assoc, List.singleton_append, groupsFrom, if_pos rfl]
      exact hgroup
    · have hmembers := alternatives_eraseDups_sublist vs
      rw [alternatives_text_eq h] at hmembers
      rw [atomText]
      split
      · exact (hmembers.append (List.Sublist.refl [')'])).cons_cons '('
      · exact (hmembers.trans (List.sublist_append_left cs [')'])).cons '('
    · rw [List.forall_mem_singleton]
      exact atomText_eraseDups_eq_iff h

/-! ### Slots and patterns -/

theorem AlternativesText.reprinted {α : Type} {R : List Char → α → Prop} {text : α → List Char}
    (hR : ∀ {cs a}, R cs a → ∃ groups, Reprinted .slot .slot cs (text a) groups) {cs : List Char}
    {as : List α} (h : AlternativesText R cs as) :
    ∃ groups, Reprinted .slot .slot cs (alternatives (as.map text)) groups := by
  induction h with
  | one h =>
    rw [List.map_singleton, alternatives_singleton]
    exact hR h
  | more h rest ih =>
    obtain ⟨groups, hfront⟩ := hR h
    obtain ⟨others, hback⟩ := ih
    have hne := mt (List.map_eq_nil_iff (f := text)).mp (ne_nil_of_alternativesText rest)
    have hbar : Reprinted .slot .slot ['|'] ['|'] [] := reprinted_symbol (by decide) (by decide)
    rw [List.map_cons, alternatives_cons _ hne]
    exact ⟨_, hfront.append (hbar.append hback)⟩

theorem OptionText.reprinted {first : Bool} {cs : List Char} {o : SlotOption}
    (h : OptionText first cs o) : ∃ groups, Reprinted .slot .slot cs o.text groups := by
  cases h with
  | unconstrained h => exact h.reprinted
  | @constrained cs ds names values op source target =>
    obtain ⟨hatom, -⟩ := source
    obtain ⟨groups, hsource⟩ := hatom.reprinted
    obtain ⟨others, htarget⟩ := target.reprinted
    have hop : Reprinted .slot .slot [op.toChar] [op.toChar] [] := by
      cases op <;> exact reprinted_symbol (by decide) (by decide)
    have htext : (⟨values, op.constraint names⟩ : SlotOption).text =
        atomText ((names.map Value.name).map Value.text) ++
          ([op.toChar] ++ atomText (values.map Value.text)) := by
      rw [List.map_map, ← List.append_assoc]
      cases op <;> rfl
    rw [htext]
    exact ⟨_, hsource.append (hop.append htarget)⟩

theorem PatternText.reprinted {first : Bool} {cs : List Char} {items : List Item}
    (h : PatternText first cs items) :
    ∃ groups, Reprinted .text .text cs (items.flatMap Item.text) groups := by
  induction h with
  | nil => exact ⟨[], .verbatim fun _ => rfl⟩
  | @plain first c cs items hc _ ih =>
    obtain ⟨groups, hrest⟩ := ih
    obtain ⟨hopen, hclose, hescape⟩ := hc
    have hchar : Reprinted .text .text [c] [c] [] := .verbatim fun ds => by
      rw [List.singleton_append, groupsFrom, if_neg hescape, if_neg hopen]
    have htext : Item.text (.char c) = [c] := if_neg (not_or.mpr ⟨hopen, hclose⟩)
    rw [List.flatMap_cons, htext]
    exact ⟨_, hchar.append hrest⟩
  | @escaped first c cs items hc _ ih =>
    obtain ⟨groups, hrest⟩ := ih
    have hchar : Reprinted .text .text ['\\', c] ['\\', c] [] := .verbatim fun _ => rfl
    have htext : Item.text (.char c) = ['\\', c] := if_pos hc
    rw [List.flatMap_cons, htext]
    exact ⟨_, hchar.append hrest⟩
  | @slot first body cs options items hbody _ ih =>
    obtain ⟨others, hrest⟩ := ih
    obtain ⟨groups, hoptions⟩ :=
      AlternativesText.reprinted (R := OptionText first) OptionText.reprinted hbody
    have hopen : Reprinted .text .slot ['{'] ['{'] [] := .verbatim fun _ => rfl
    have hclose : Reprinted .slot .text ['}'] ['}'] [] := .verbatim fun _ => rfl
    have htext : Item.text (.slot ⟨options⟩) =
        ['{'] ++ (alternatives (options.map SlotOption.text) ++ ['}']) := rfl
    have hsplit : '{' :: (body ++ '}' :: cs) = ['{'] ++ (body ++ ['}']) ++ cs := by simp
    rw [List.flatMap_cons, htext, hsplit]
    exact ⟨_, (hopen.append (hoptions.append hclose)).append hrest⟩

end Grammar

namespace Pattern

/-- A text is printed back as it is, character by character, exactly if every group in its slots has
at least two members, all of them distinct. -/
theorem toString_eq_iff_canonical {s : String} {p : Pattern} (h : compile s = .ok p) :
    toString p = s ↔ Canonical s.toList := by
  obtain ⟨htext, -⟩ := compile_eq_ok_iff.mp h
  obtain ⟨groups, hreprinted⟩ := htext.reprinted
  have hgroups : groupsFrom .text s.toList = groups := by
    have hend := hreprinted.groupsFrom_append []
    rw [List.append_nil] at hend
    exact hend.trans (List.append_nil groups)
  rw [flatMap_text_items] at hreprinted
  rw [Canonical, hgroups, ← hreprinted.eq_iff, ← toList_toString]
  exact String.toList_inj.symm

/-- A group of values, a group of sources and escaped braces come back as they are; a source that is
given twice does not. -/
theorem toString_eq_iff_canonical_groups :
    ∃ p q, compile "\x7b(é|a)|?\x7d\\\x7d~\x7b(é|a)>(b[0]|?)|a~c\x7d" = .ok p ∧
      Canonical "\x7b(é|a)|?\x7d\\\x7d~\x7b(é|a)>(b[0]|?)|a~c\x7d".toList ∧
      toString p = "\x7b(é|a)|?\x7d\\\x7d~\x7b(é|a)>(b[0]|?)|a~c\x7d" ∧
      compile "\x7ba\x7d\x7b(a|a)>b\x7d" = .ok q ∧ ¬Canonical "\x7ba\x7d\x7b(a|a)>b\x7d".toList ∧
      toString q ≠ "\x7ba\x7d\x7b(a|a)>b\x7d" := by
  let p : Pattern := ⟨[.slot ⟨[⟨[.name "é", .name "a"], .unconstrained⟩,
    ⟨[.nothing], .unconstrained⟩]⟩, .literal "\x7d~",
    .slot ⟨[⟨[.name "b[0]", .nothing], .requires ["é", "a"]⟩, ⟨[.name "c"], .excludes ["a"]⟩]⟩]⟩
  let q : Pattern := ⟨[.slot ⟨[⟨[.name "a"], .unconstrained⟩]⟩,
    .slot ⟨[⟨[.name "b"], .requires ["a"]⟩]⟩]⟩
  have hp : compile "\x7b(é|a)|?\x7d\\\x7d~\x7b(é|a)>(b[0]|?)|a~c\x7d" = .ok p := by
    decide +kernel
  have hq : compile "\x7ba\x7d\x7b(a|a)>b\x7d" = .ok q := by decide +kernel
  have hcanonical : Canonical "\x7b(é|a)|?\x7d\\\x7d~\x7b(é|a)>(b[0]|?)|a~c\x7d".toList := by
    decide +kernel
  have hrepeated : ¬Canonical "\x7ba\x7d\x7b(a|a)>b\x7d".toList := by decide +kernel
  refine ⟨p, q, hp, hcanonical, (toString_eq_iff_canonical hp).mpr hcanonical, hq, hrepeated, ?_⟩
  exact mt (toString_eq_iff_canonical hq).mp hrepeated

end Pattern

end SlotPattern
