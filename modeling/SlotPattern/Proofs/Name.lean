import SlotPattern.Name

/-!
# What a name looks like

The check of a name runs over it once, with an automaton for the subscripts. Here a name is built
up from its parts instead, and the check is shown to accept exactly the names built that way.
-/

namespace SlotPattern.Name

/-- A character that may start an identifier, and then characters that may stand inside one. -/
inductive IdentifierText : List Char → Prop
  | intro {c : Char} {cs : List Char} (start : isStart c = true)
      (inner : ∀ d ∈ cs, isInner d = true) : IdentifierText (c :: cs)

/-- A row of subscripts `[…]`. Between the brackets there is at least one character, and all of them
may stand inside an identifier. -/
inductive SubscriptsText : List Char → Prop
  | nil : SubscriptsText []
  | cons {key rest : List Char} (nonempty : key ≠ []) (inner : ∀ c ∈ key, isInner c = true)
      (more : SubscriptsText rest) : SubscriptsText ('[' :: key ++ ']' :: rest)

/-- An identifier with subscripts. -/
inductive NameText : List Char → Prop
  | intro {identifier subscripts : List Char} (plain : IdentifierText identifier)
      (keys : SubscriptsText subscripts) : NameText (identifier ++ subscripts)

/-! ### Identifiers -/

theorem isIdentifier_iff {cs : List Char} : isIdentifier cs = true ↔ IdentifierText cs := by
  constructor
  · intro h
    cases cs with
    | nil => simp [isIdentifier] at h
    | cons c cs =>
      simp only [isIdentifier, Bool.and_eq_true, List.all_eq_true] at h
      exact .intro h.1 h.2
  · rintro ⟨start, inner⟩
    simp only [isIdentifier, Bool.and_eq_true, List.all_eq_true]
    exact ⟨start, inner⟩

theorem IdentifierText.isInner {cs : List Char} (h : IdentifierText cs) :
    ∀ c ∈ cs, isInner c = true := by
  obtain ⟨start, inner⟩ := h
  intro c hc
  rcases List.mem_cons.mp hc with rfl | hc
  · exact isInner_of_isStart start
  · exact inner c hc

theorem IdentifierText.ne_nil {cs : List Char} (h : IdentifierText cs) : cs ≠ [] := by
  cases h
  exact List.cons_ne_nil _ _

/-- An identifier is a name without subscripts. -/
theorem IdentifierText.nameText {cs : List Char} (h : IdentifierText cs) : NameText cs := by
  rw [← List.append_nil cs]
  exact .intro h .nil

theorem ne_openBracket_of_isInner {c : Char} (h : Name.isInner c = true) : c ≠ '[' := by
  rintro rfl
  exact absurd h (by decide)

theorem ne_closeBracket_of_isInner {c : Char} (h : Name.isInner c = true) : c ≠ ']' := by
  rintro rfl
  exact absurd h (by decide)

/-! ### Subscripts -/

/-- What the reader of subscripts still wants to see when it stands at `b`. -/
def Bracket.Awaits : Bracket → List Char → Prop
  | .outside, cs => SubscriptsText cs
  | .opened, cs => SubscriptsText ('[' :: cs)
  | .inside, cs => ∃ key rest, cs = key ++ ']' :: rest ∧ (∀ c ∈ key, isInner c = true) ∧
      SubscriptsText rest

theorem Bracket.awaits_of_step {b b' : Bracket} {c : Char} {cs : List Char}
    (h : b.step c = some b') (rest : b'.Awaits cs) : b.Awaits (c :: cs) := by
  cases b with
  | outside =>
    simp only [step, Option.ite_none_right_eq_some, Option.some.injEq] at h
    obtain ⟨rfl, rfl⟩ := h
    exact rest
  | opened =>
    simp only [step, Option.ite_none_right_eq_some, Option.some.injEq] at h
    obtain ⟨hc, rfl⟩ := h
    obtain ⟨key, more, rfl, inner, tail⟩ := rest
    exact .cons (List.cons_ne_nil c key) (List.forall_mem_cons.mpr ⟨hc, inner⟩) tail
  | inside =>
    simp only [step] at h
    split at h
    next heq =>
      obtain rfl := Option.some.inj h
      exact ⟨[], cs, by rw [heq]; rfl, List.forall_mem_nil _, rest⟩
    next =>
      simp only [Option.ite_none_right_eq_some, Option.some.injEq] at h
      obtain ⟨hc, rfl⟩ := h
      obtain ⟨key, more, rfl, inner, tail⟩ := rest
      exact ⟨c :: key, more, rfl, List.forall_mem_cons.mpr ⟨hc, inner⟩, tail⟩

theorem Bracket.awaits_of_foldlM {b : Bracket} {cs : List Char}
    (h : cs.foldlM Bracket.step b = some .outside) : b.Awaits cs := by
  induction cs generalizing b with
  | nil =>
    obtain rfl := Option.some.inj h
    exact .nil
  | cons c cs ih =>
    rw [List.foldlM_cons, Option.bind_eq_bind, Option.bind_eq_some_iff] at h
    obtain ⟨b', hstep, hrest⟩ := h
    exact awaits_of_step hstep (ih hrest)

theorem Bracket.foldlM_inside {key : List Char} (inner : ∀ c ∈ key, isInner c = true) :
    key.foldlM Bracket.step .inside = some .inside := by
  induction key with
  | nil => rfl
  | cons c key ih =>
    obtain ⟨hc, inner⟩ := List.forall_mem_cons.mp inner
    rw [List.foldlM_cons, step, if_neg (ne_closeBracket_of_isInner hc), if_pos hc]
    exact ih inner

theorem SubscriptsText.foldlM_step {cs : List Char} (h : SubscriptsText cs) :
    cs.foldlM Bracket.step .outside = some .outside := by
  induction h with
  | nil => rfl
  | @cons key rest nonempty inner _ ih =>
    obtain ⟨c, key, rfl⟩ := List.exists_cons_of_ne_nil nonempty
    obtain ⟨hc, inner⟩ := List.forall_mem_cons.mp inner
    have hkey : ('[' :: (c :: key)).foldlM Bracket.step .outside = some .inside := by
      simp only [List.foldlM_cons, Bracket.step, if_true, Option.bind_eq_bind, Option.bind_some, hc]
      exact Bracket.foldlM_inside inner
    rw [List.foldlM_append, hkey]
    exact ih

theorem isSubscripts_iff {cs : List Char} : isSubscripts cs = true ↔ SubscriptsText cs := by
  rw [isSubscripts, beq_iff_eq]
  exact ⟨Bracket.awaits_of_foldlM, SubscriptsText.foldlM_step⟩

/-- Subscripts start with a bracket, if there are any. -/
theorem SubscriptsText.eq_nil_or_cons {cs : List Char} (h : SubscriptsText cs) :
    cs = [] ∨ ∃ ds, cs = '[' :: ds := by
  cases h with
  | nil => exact .inl rfl
  | cons => exact .inr ⟨_, rfl⟩

/-! ### Names -/

/-- The base of a name is the identifier in front, and the rest are the subscripts. -/
theorem base_append {identifier subscripts : List Char} (plain : IdentifierText identifier)
    (keys : SubscriptsText subscripts) :
    base (identifier ++ subscripts) = identifier ∧
      (identifier ++ subscripts).dropWhile (· != '[') = subscripts := by
  have hplain : ∀ c ∈ identifier, (c != '[') = true := fun c hc =>
    bne_iff_ne.mpr (ne_openBracket_of_isInner (plain.isInner c hc))
  rw [base, List.takeWhile_append_of_pos hplain, List.dropWhile_append_of_pos hplain]
  rcases keys.eq_nil_or_cons with rfl | ⟨ds, rfl⟩ <;> simp

theorem isValueName_iff {cs : List Char} : isValueName cs = true ↔ NameText cs := by
  rw [isValueName, Bool.and_eq_true, isIdentifier_iff, isSubscripts_iff]
  constructor
  · rintro ⟨plain, keys⟩
    have hsplit : base cs ++ cs.dropWhile (· != '[') = cs := List.takeWhile_append_dropWhile
    rw [← hsplit]
    exact .intro plain keys
  · rintro ⟨plain, keys⟩
    obtain ⟨hbase, hrest⟩ := base_append plain keys
    rw [hbase, hrest]
    exact ⟨plain, keys⟩

theorem SubscriptsText.char_cases {cs : List Char} (h : SubscriptsText cs) :
    ∀ c ∈ cs, isInner c = true ∨ c = '[' ∨ c = ']' := by
  induction h with
  | nil => exact List.forall_mem_nil _
  | cons _ inner _ ih =>
    intro c hc
    simp only [List.cons_append, List.mem_cons, List.mem_append] at hc
    rcases hc with rfl | hc | rfl | hc
    · exact .inr (.inl rfl)
    · exact .inl (inner c hc)
    · exact .inr (.inr rfl)
    · exact ih c hc

/-- The characters of a name are those of identifiers and brackets. -/
theorem NameText.char_cases {cs : List Char} (h : NameText cs) :
    ∀ c ∈ cs, isInner c = true ∨ c = '[' ∨ c = ']' := by
  obtain ⟨plain, keys⟩ := h
  intro c hc
  rcases List.mem_append.mp hc with hc | hc
  · exact .inl (plain.isInner c hc)
  · exact keys.char_cases c hc

theorem NameText.ne_nil {cs : List Char} (h : NameText cs) : cs ≠ [] := by
  obtain ⟨plain, _⟩ := h
  exact List.append_ne_nil_of_left_ne_nil plain.ne_nil _

end SlotPattern.Name
