import Mathlib.Logic.ExistsUnique
import SlotPattern.Pattern.Basic
import SlotPattern.Proofs.Name
import SlotPattern.Proofs.Splits

/-!
# The parts of a name

A name consists of an identifier and subscripts, and it falls into such parts in one way only. The
key of a name is its identifier.
-/

namespace SlotPattern.Name

open Text

/-- May the character stand inside an identifier or between brackets? -/
def IsWordPart (c : Char) : Prop := isAlphanumeric c = true ∨ c = '_'

/-- A subscript with its brackets. -/
def bracketed (key : List Char) : List Char := '[' :: (key ++ [']'])

theorem flatMap_bracketed_cons (key : List Char) (keys : List (List Char)) :
    (key :: keys).flatMap bracketed = '[' :: key ++ ']' :: keys.flatMap bracketed := by
  simp [bracketed]

/-- An identifier, by its first character and the others, and the subscripts behind it. -/
structure Parts where
  first : Char
  others : List Char
  keys : List (List Char)
  first_proper : isAlphabetic first = true ∨ first = '_'
  others_proper : ∀ c ∈ others, IsWordPart c
  keys_nonempty : ∀ key ∈ keys, key ≠ []
  keys_proper : ∀ key ∈ keys, ∀ c ∈ key, IsWordPart c

namespace Parts

/-- The identifier. -/
def identifier (p : Parts) : String := .ofList (p.first :: p.others)

/-- The name that is put together from the parts. -/
def text (p : Parts) : String := .ofList (p.first :: p.others ++ p.keys.flatMap bracketed)

end Parts

theorem isStart_iff {c : Char} : isStart c = true ↔ isAlphabetic c = true ∨ c = '_' := by
  simp [isStart]

theorem isInner_iff {c : Char} : isInner c = true ↔ IsWordPart c := by
  simp [isInner, IsWordPart]

/-! ### Parts of names -/

theorem subscriptsText_flatMap {keys : List (List Char)} (hne : ∀ key ∈ keys, key ≠ [])
    (hinner : ∀ key ∈ keys, ∀ c ∈ key, IsWordPart c) :
    SubscriptsText (keys.flatMap bracketed) := by
  induction keys with
  | nil => exact .nil
  | cons key keys ih =>
    obtain ⟨hkey, hne⟩ := List.forall_mem_cons.mp hne
    obtain ⟨hcs, hinner⟩ := List.forall_mem_cons.mp hinner
    rw [flatMap_bracketed_cons]
    exact .cons hkey (fun c hc => isInner_iff.mpr (hcs c hc)) (ih hne hinner)

theorem SubscriptsText.exists_keys {cs : List Char} (h : SubscriptsText cs) :
    ∃ keys : List (List Char), (∀ key ∈ keys, key ≠ []) ∧
      (∀ key ∈ keys, ∀ c ∈ key, IsWordPart c) ∧ cs = keys.flatMap bracketed := by
  induction h with
  | nil => exact ⟨[], List.forall_mem_nil _, List.forall_mem_nil _, rfl⟩
  | @cons key rest nonempty inner _ ih =>
    obtain ⟨keys, hne, hinner, rfl⟩ := ih
    have hkey : ∀ c ∈ key, IsWordPart c := fun c hc => isInner_iff.mp (inner c hc)
    exact ⟨key :: keys, List.forall_mem_cons.mpr ⟨nonempty, hne⟩,
      List.forall_mem_cons.mpr ⟨hkey, hinner⟩, (flatMap_bracketed_cons key keys).symm⟩

namespace Parts

theorem identifierText (p : Parts) : IdentifierText (p.first :: p.others) :=
  .intro (isStart_iff.mpr p.first_proper) fun c hc => isInner_iff.mpr (p.others_proper c hc)

theorem subscriptsText (p : Parts) : SubscriptsText (p.keys.flatMap bracketed) :=
  subscriptsText_flatMap p.keys_nonempty p.keys_proper

/-- The parts can be put together to a name. -/
theorem nameText_text (p : Parts) : NameText p.text.toList := by
  rw [text, String.toList_ofList]
  exact .intro p.identifierText p.subscriptsText

/-- Every name has parts. -/
theorem exists_text_eq {s : String} (h : NameText s.toList) : ∃ p : Parts, p.text = s := by
  generalize hs : s.toList = cs at h
  obtain ⟨⟨start, inner⟩, hkeys⟩ := h
  obtain ⟨keys, hne, hinner, rfl⟩ := hkeys.exists_keys
  refine ⟨⟨_, _, keys, isStart_iff.mp start, fun c hc => isInner_iff.mp (inner c hc), hne, hinner⟩,
    ?_⟩
  rw [text, ← hs, String.ofList_toList]

end Parts

/-! ### The parts can be read off the name -/

theorem IsWordPart.ne_closeBracket {c : Char} (h : IsWordPart c) : c ≠ ']' :=
  ne_closeBracket_of_isInner (isInner_iff.mpr h)

/-- Subscripts are cut apart at the closing brackets. -/
theorem eq_of_flatMap_bracketed_eq {keys keys' : List (List Char)}
    (hkeys : ∀ key ∈ keys, ∀ c ∈ key, IsWordPart c)
    (hkeys' : ∀ key ∈ keys', ∀ c ∈ key, IsWordPart c)
    (h : keys.flatMap bracketed = keys'.flatMap bracketed) : keys = keys' := by
  induction keys generalizing keys' with
  | nil =>
    cases keys' with
    | nil => rfl
    | cons key' keys' => cases h
  | cons key keys ih =>
    cases keys' with
    | nil => cases h
    | cons key' keys' =>
      obtain ⟨hkey, hmore⟩ := List.forall_mem_cons.mp hkeys
      obtain ⟨hkey', hmore'⟩ := List.forall_mem_cons.mp hkeys'
      rw [flatMap_bracketed_cons, flatMap_bracketed_cons] at h
      obtain ⟨rfl, -, hrest⟩ := append_cons_inj_of_forall (p := (· = ']'))
        (fun c hc => (hkey c hc).ne_closeBracket) (fun c hc => (hkey' c hc).ne_closeBracket)
        rfl rfl (List.cons.inj h).2
      rw [ih hmore hmore' hrest]

namespace Parts

theorem base_text (p : Parts) : base p.text.toList = p.first :: p.others := by
  rw [text, String.toList_ofList]
  exact (base_append p.identifierText p.subscriptsText).1

theorem subscripts_text (p : Parts) :
    p.text.toList.dropWhile (· != '[') = p.keys.flatMap bracketed := by
  rw [text, String.toList_ofList]
  exact (base_append p.identifierText p.subscriptsText).2

theorem eq_of_text_eq {p q : Parts} (h : p.text = q.text) : p = q := by
  have hidentifier : p.first :: p.others = q.first :: q.others := by
    rw [← p.base_text, h, q.base_text]
  have hsubscripts : p.keys.flatMap bracketed = q.keys.flatMap bracketed := by
    rw [← p.subscripts_text, h, q.subscripts_text]
  have hkeys := eq_of_flatMap_bracketed_eq p.keys_proper q.keys_proper hsubscripts
  obtain ⟨hfirst, hothers⟩ := List.cons.inj hidentifier
  cases p
  cases q
  simp only at hfirst hothers hkeys
  subst hfirst hothers hkeys
  rfl

end Parts

/-- A text is accepted as a name if it consists of an identifier and subscripts, and only then. It
falls into these parts in one way, and its key is the identifier. -/
theorem isValueName_iff_parts (s : String) :
    (isValueName s.toList = true ↔ ∃! p : Parts, p.text = s) ∧
      ∀ p : Parts, p.text = s → (Value.name s).key? = some p.identifier := by
  constructor
  · rw [isValueName_iff]
    constructor
    · intro h
      obtain ⟨p, hp⟩ := Parts.exists_text_eq h
      exact ⟨p, hp, fun q hq => Parts.eq_of_text_eq (hq.trans hp.symm)⟩
    · rintro ⟨p, rfl, -⟩
      exact p.nameText_text
  · rintro p rfl
    rw [Value.key?, Value.name?_name, Option.map_some, p.base_text, Parts.identifier]

/-- Two subscripts behind an identifier that starts with a letter of two bytes. -/
theorem isValueName_iff_parts_two_subscripts :
    ∃ p : Parts, p.text = "é_1[0][key]" ∧ p.keys = ["0".toList, "key".toList] ∧
      isValueName "é_1[0][key]".toList = true ∧ (∃! q : Parts, q.text = "é_1[0][key]") ∧
      (Value.name "é_1[0][key]").key? = some "é_1" := by
  have hdigits : isAlphanumeric '0' = true ∧ isAlphanumeric '1' = true := by decide +kernel
  have hletters : isAlphanumeric 'k' = true ∧ isAlphanumeric 'e' = true ∧
      isAlphanumeric 'y' = true := by decide +kernel
  have hothers : ∀ c ∈ "_1".toList, IsWordPart c := by simp [IsWordPart, hdigits]
  have hkeys : ∀ key ∈ ["0".toList, "key".toList], ∀ c ∈ key, IsWordPart c := by
    simp [IsWordPart, hdigits, hletters]
  let p : Parts := ⟨'é', "_1".toList, ["0".toList, "key".toList], by decide +kernel, hothers,
    by simp, hkeys⟩
  obtain ⟨haccepted, hkey⟩ := isValueName_iff_parts "é_1[0][key]"
  have hname : isValueName "é_1[0][key]".toList = true := by decide +kernel
  have htext : p.text = "é_1[0][key]" := rfl
  exact ⟨p, htext, rfl, hname, haccepted.mp hname, hkey p htext⟩

end SlotPattern.Name
