import Mathlib.Data.List.Nodup
import SlotPattern.Naming

/-!
# Rows of sequential names

The counters of all kinds stand in one table, but a name depends on its own kind alone: it ends in
how often the kind has been asked for before, as long as that is a number of 64 bits. Nothing
separates kind and number, so two names can be equal when one kind is another with digits behind it,
and only then.
-/

namespace SlotPattern

/-! ### Numbered texts -/

/-- The second text is the first one with decimal digits behind it, at least one. -/
def ExtendedByDigits (a b : String) : Prop :=
  ∃ digits : List Char, digits ≠ [] ∧ (∀ c ∈ digits, c.isDigit = true) ∧
    b.toList = a.toList ++ digits

/-- Is the last character of the text a decimal digit? -/
def EndsInDigit (a : String) : Prop :=
  ∃ c ∈ a.toList.getLast?, c.isDigit = true

theorem ExtendedByDigits.endsInDigit {a b : String} (h : ExtendedByDigits a b) :
    EndsInDigit b := by
  obtain ⟨digits, hne, hdigits, hb⟩ := h
  refine ⟨digits.getLast hne, ?_, hdigits _ (List.getLast_mem hne)⟩
  rw [hb, List.getLast?_append, List.getLast?_eq_some_getLast hne]
  rfl

theorem toList_append_toString (a : String) (n : Nat) :
    (a ++ toString n).toList = a.toList ++ Nat.toDigits 10 n := by
  rw [String.toList_append, Nat.toString_eq_repr, Nat.toList_repr]

/-- A number that takes in the end of another text has it as its first digits. -/
theorem eq_or_extendedByDigits {a b : String} {m n : Nat} {between : List Char}
    (hb : b.toList = a.toList ++ between)
    (hm : Nat.toDigits 10 m = between ++ Nat.toDigits 10 n) :
    (a = b ∧ m = n) ∨ ExtendedByDigits a b := by
  cases between with
  | nil =>
    rw [List.append_nil] at hb
    have hvalue := congrArg (Nat.ofDigitChars 10 · 0) hm
    simp only [List.nil_append, Nat.ofDigitChars_ten_toDigits] at hvalue
    exact .inl ⟨(String.toList_inj.mp hb).symm, hvalue⟩
  | cons c cs =>
    refine .inr ⟨c :: cs, List.cons_ne_nil c cs, fun d hd => ?_, hb⟩
    have hmem : d ∈ Nat.toDigits 10 m := hm ▸ List.mem_append_left _ hd
    exact Nat.isDigit_of_mem_toDigits (by decide) (by decide) hmem

/-- Two numbered texts are equal only if they have the same parts, or if one text is the other with
digits behind it. -/
theorem append_toString_eq {a b : String} {m n : Nat} (h : a ++ toString m = b ++ toString n) :
    (a = b ∧ m = n) ∨ ExtendedByDigits a b ∨ ExtendedByDigits b a := by
  have hlist := congrArg String.toList h
  rw [toList_append_toString, toList_append_toString, List.append_eq_append_iff] at hlist
  rcases hlist with ⟨between, hb, hm⟩ | ⟨between, ha, hn⟩
  · rcases eq_or_extendedByDigits hb hm with heq | hext
    · exact .inl heq
    · exact .inr (.inl hext)
  · rcases eq_or_extendedByDigits ha hn with heq | hext
    · exact .inl ⟨heq.1.symm, heq.2.symm⟩
    · exact .inr (.inr hext)

/-! ### Rows of names -/

/-- An earlier place of a member counts among those before a later place. -/
theorem count_take_lt {as : List String} {a : String} {i j : Nat} (hij : i < j)
    (ha : as[i]? = some a) : (as.take i).count a < (as.take j).count a := by
  have hnext : (as.take (i + 1)).count a = (as.take i).count a + 1 := by
    rw [List.take_add_one, ha, Option.toList_some, List.count_append, List.count_singleton_self]
  have hle : (as.take (i + 1)).count a ≤ (as.take j).count a :=
    (List.take_sublist_take_left hij).count_le a
  omega

namespace NamingSequence

/-- The names that a sequence hands out when it is asked for names of these kinds, one after the
other. -/
def nameAll (s : NamingSequence) : List String → List String
  | [] => []
  | kind :: kinds => (s.next kind).1 :: (s.next kind).2.nameAll kinds

theorem length_nameAll (s : NamingSequence) (kinds : List String) :
    (s.nameAll kinds).length = kinds.length := by
  induction kinds generalizing s with
  | nil => rfl
  | cons kind kinds ih => rw [nameAll, List.length_cons, ih, List.length_cons]

/-- A name ends in how many names of its kind have been handed out before, counted with 64 bits. -/
theorem getElem?_nameAll (s : NamingSequence) (kinds : List String) (i : Nat) :
    (s.nameAll kinds)[i]? = kinds[i]?.map fun kind =>
      kind ++ toString (s.count kind + .ofNat ((kinds.take i).count kind)) := by
  induction kinds generalizing s i with
  | nil => rfl
  | cons first kinds ih =>
    cases i with
    | zero => simp [nameAll, next_fst]
    | succ i =>
      rw [nameAll, List.getElem?_cons_succ, List.getElem?_cons_succ, ih]
      congr 1
      funext kind
      rw [count_next, List.take_succ_cons, List.count_cons]
      by_cases h : kind = first
      · subst h
        rw [if_pos rfl, beq_self_eq_true, if_pos rfl, UInt64.add_assoc, UInt64.ofNat_add,
          UInt64.add_comm (.ofNat _)]
        rfl
      · simp [h, Ne.symm h]

section Counted

variable {kinds : List String} (hcalls : ∀ kind, kinds.count kind < UInt64.size)
include hcalls

/-- No counter has started again from zero. -/
theorem getElem?_nameAll_empty {i : Nat} {kind : String} (h : kinds[i]? = some kind) :
    (empty.nameAll kinds)[i]? = some (kind ++ toString ((kinds.take i).count kind)) := by
  have hcount : (kinds.take i).count kind < UInt64.size :=
    Nat.lt_of_le_of_lt ((List.take_sublist i kinds).count_le kind) (hcalls kind)
  have hnumber : toString (UInt64.ofNat ((kinds.take i).count kind)) =
      toString ((kinds.take i).count kind) :=
    congrArg toString (UInt64.toNat_ofNat_of_lt hcount)
  rw [getElem?_nameAll, h, Option.map_some, count_empty, UInt64.zero_add, hnumber]

/-- Two names are equal only if one kind is the other with digits behind it. -/
theorem extendedByDigits_of_lt {i j : Nat} {a b : String} (hij : i < j)
    (ha : kinds[i]? = some a) (hb : kinds[j]? = some b)
    (h : (empty.nameAll kinds)[i]? = (empty.nameAll kinds)[j]?) :
    ExtendedByDigits a b ∨ ExtendedByDigits b a := by
  rw [getElem?_nameAll_empty hcalls ha, getElem?_nameAll_empty hcalls hb, Option.some_inj] at h
  rcases append_toString_eq h with ⟨rfl, hcount⟩ | hext
  · have hlt := count_take_lt hij ha
    omega
  · exact hext

theorem nodup_nameAll (h : ∀ kind ∈ kinds, ¬EndsInDigit kind) :
    (empty.nameAll kinds).Nodup := by
  rw [List.nodup_iff_getElem?_ne_getElem?]
  intro i j hij hj heq
  rw [length_nameAll] at hj
  have hb := List.getElem?_eq_getElem hj
  have ha := List.getElem?_eq_getElem (Nat.lt_trans hij hj)
  rcases extendedByDigits_of_lt hcalls hij ha hb heq with hext | hext
  · exact h _ (List.getElem_mem hj) hext.endsInDigit
  · exact h _ (List.getElem_mem _) hext.endsInDigit

end Counted

/-- The names of each kind are numbered from zero, whatever other kinds come between, until the
kind has been asked for so often that its counter starts again. Two of them are equal only if one
kind is the other with digits behind it, so if no kind ends in a digit, all names differ. -/
theorem nameAll_numbered (kinds : List String)
    (hcalls : ∀ kind, kinds.count kind < UInt64.size) :
    (empty.nameAll kinds).length = kinds.length ∧
      (∀ (n : Nat) (kind : String) (i : Nat),
        kinds[n]? = some kind → (kinds.take n).count kind = i →
          (empty.nameAll kinds)[n]? = some (kind ++ toString i)) ∧
      (∀ (m n : Nat) (a b : String), m ≠ n → kinds[m]? = some a → kinds[n]? = some b →
        (empty.nameAll kinds)[m]? = (empty.nameAll kinds)[n]? →
          ExtendedByDigits a b ∨ ExtendedByDigits b a) ∧
      ((∀ kind ∈ kinds, ¬EndsInDigit kind) → (empty.nameAll kinds).Nodup) := by
  refine ⟨length_nameAll empty kinds, ?_, ?_, nodup_nameAll hcalls⟩
  · rintro n kind i hkind rfl
    exact getElem?_nameAll_empty hcalls hkind
  · intro m n a b hne ha hb heq
    rcases Nat.lt_or_gt_of_ne hne with hlt | hgt
    · exact extendedByDigits_of_lt hcalls hlt ha hb heq
    · exact (extendedByDigits_of_lt hcalls hgt hb ha heq.symm).symm

/-- The eleventh name of a kind is the first one of the kind with the digit `1` behind it. -/
theorem nameAll_numbered_digit_kind :
    ∃ kinds : List String, kinds = "Name1" :: List.replicate 11 "Name" ∧
      (empty.nameAll kinds)[0]? = some "Name10" ∧ (empty.nameAll kinds)[11]? = some "Name10" ∧
      (ExtendedByDigits "Name1" "Name" ∨ ExtendedByDigits "Name" "Name1") ∧
      (empty.nameAll ["Name", "Other", "Name"]).Nodup := by
  let kinds := "Name1" :: List.replicate 11 "Name"
  have hfew {kinds : List String} (hlength : kinds.length < UInt64.size) (kind : String) :
      kinds.count kind < UInt64.size :=
    Nat.lt_of_le_of_lt List.count_le_length hlength
  obtain ⟨-, hnumbered, hequal, -⟩ := nameAll_numbered kinds (hfew (by decide))
  have hfirst := hnumbered 0 "Name1" 0 rfl rfl
  have hlast := hnumbered 11 "Name" 10 rfl (by decide)
  have hdistinct : ∀ kind ∈ ["Name", "Other", "Name"], ¬EndsInDigit kind := by
    simp [EndsInDigit]
  exact ⟨kinds, rfl, hfirst, hlast,
    hequal 0 11 "Name1" "Name" (by decide) rfl rfl (hfirst.trans hlast.symm),
    (nameAll_numbered _ (hfew (by decide))).2.2.2 hdistinct⟩

end NamingSequence

end SlotPattern
