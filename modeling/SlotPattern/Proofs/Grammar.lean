import SlotPattern.Pattern.Parser
import SlotPattern.Proofs.Name
import SlotPattern.Proofs.Splits

/-!
# The grammar of patterns

The texts of a pattern and of its parts, each together with what it stands for. Every relation here
builds a text from smaller ones:

    text   := (plain | '\' brace | '{' body '}')*
    body   := option ('|' option)*
    option := atom | source ('>' | '~') atom
    atom   := member | '(' member ('|' member)* ')'
    member := name | '?'

A source is an atom of plain identifiers, and the first slot of a pattern has no source.
-/

namespace SlotPattern.Grammar

open Name

/-- A name, or the mark `?`. -/
inductive MemberText : List Char → Value → Prop
  | name {cs : List Char} (h : NameText cs) : MemberText cs (.name (String.ofList cs))
  | nothing : MemberText ['?'] .nothing

/-- Texts of one kind with bars between them. There is at least one. -/
inductive AlternativesText {α : Type} (R : List Char → α → Prop) : List Char → List α → Prop
  | one {cs : List Char} {a : α} (h : R cs a) : AlternativesText R cs [a]
  | more {cs ds : List Char} {a : α} {as : List α} (h : R cs a)
      (rest : AlternativesText R ds as) : AlternativesText R (cs ++ '|' :: ds) (a :: as)

/-- A member, or a group of members in parentheses. Of equal members of a group the first counts. -/
inductive AtomText : List Char → List Value → Prop
  | member {cs : List Char} {v : Value} (h : MemberText cs v) : AtomText cs [v]
  | group {cs : List Char} {vs : List Value} (h : AlternativesText MemberText cs vs) :
      AtomText ('(' :: (cs ++ [')'])) vs.eraseDups

/-- An atom whose members are plain identifiers. -/
inductive SourceText : List Char → List String → Prop
  | intro {cs : List Char} {names : List String} (h : AtomText cs (names.map Value.name))
      (plain : ∀ n ∈ names, IdentifierText n.toList) : SourceText cs names

/-- An atom, or a source, an operator and an atom. In the first slot there is no operator. -/
inductive OptionText : Bool → List Char → SlotOption → Prop
  | unconstrained {first : Bool} {cs : List Char} {values : List Value} (h : AtomText cs values) :
      OptionText first cs ⟨values, .unconstrained⟩
  | constrained {cs ds : List Char} {names : List String} {values : List Value} (op : Operator)
      (source : SourceText cs names) (target : AtomText ds values) :
      OptionText false (cs ++ op.toChar :: ds) ⟨values, op.constraint names⟩

/-- Options with bars between them. -/
abbrev BodyText (first : Bool) : List Char → List SlotOption → Prop :=
  AlternativesText (OptionText first)

/-- Does the character stand for itself in literal text? -/
def IsPlain (c : Char) : Prop := c ≠ '{' ∧ c ≠ '}' ∧ c ≠ '\\'

/-- The text of a pattern, when no slot comes before it or when one does. -/
inductive PatternText : Bool → List Char → List Item → Prop
  | nil {first : Bool} : PatternText first [] []
  | plain {first : Bool} {c : Char} {cs : List Char} {items : List Item} (hc : IsPlain c)
      (rest : PatternText first cs items) : PatternText first (c :: cs) (.char c :: items)
  | escaped {first : Bool} {c : Char} {cs : List Char} {items : List Item} (hc : c = '{' ∨ c = '}')
      (rest : PatternText first cs items) : PatternText first ('\\' :: c :: cs) (.char c :: items)
  | slot {first : Bool} {body cs : List Char} {options : List SlotOption} {items : List Item}
      (h : BodyText first body options) (rest : PatternText false cs items) :
      PatternText first ('{' :: (body ++ '}' :: cs)) (.slot ⟨options⟩ :: items)

/-! ### Slots hold no braces -/

/-- A text without braces. -/
def BraceFree (cs : List Char) : Prop := ∀ c ∈ cs, c ≠ '{' ∧ c ≠ '}'

@[simp] theorem braceFree_nil : BraceFree [] := List.forall_mem_nil _

@[simp] theorem braceFree_cons {c : Char} {cs : List Char} :
    BraceFree (c :: cs) ↔ (c ≠ '{' ∧ c ≠ '}') ∧ BraceFree cs := List.forall_mem_cons

@[simp] theorem braceFree_append {cs ds : List Char} :
    BraceFree (cs ++ ds) ↔ BraceFree cs ∧ BraceFree ds := List.forall_mem_append

theorem BraceFree.ne_of_mem {cs : List Char} (h : BraceFree cs) {c d : Char} (hc : c ∈ cs)
    (hd : d = '{' ∨ d = '}') : c ≠ d := by
  rcases hd with rfl | rfl
  · exact (h c hc).1
  · exact (h c hc).2

/-- The first brace of a text splits it in one way. -/
theorem BraceFree.append_cons_inj {xs ys us vs : List Char} {c d : Char} (hx : BraceFree xs)
    (hy : BraceFree ys) (hc : c = '{' ∨ c = '}') (hd : d = '{' ∨ d = '}')
    (h : xs ++ c :: us = ys ++ d :: vs) : xs = ys ∧ c = d ∧ us = vs := by
  have hfree {cs : List Char} (hcs : BraceFree cs) : ∀ e ∈ cs, ¬(e = '{' ∨ e = '}') :=
    fun e he => not_or.mpr (hcs e he)
  exact append_cons_inj_of_forall (hfree hx) (hfree hy) hc hd h

theorem braceFree_of_nameText {cs : List Char} (h : NameText cs) : BraceFree cs := by
  intro c hc
  constructor <;> rintro rfl <;> exact absurd (h.char_cases _ hc) (by decide)

theorem MemberText.braceFree {cs : List Char} {v : Value} (h : MemberText cs v) :
    BraceFree cs := by
  cases h with
  | name h => exact braceFree_of_nameText h
  | nothing => simp

/-- Alternatives have the characters of their parts, and bars. -/
theorem AlternativesText.forall_mem {α : Type} {R : List Char → α → Prop} {P : Char → Prop}
    (hR : ∀ {cs a}, R cs a → ∀ c ∈ cs, P c) (hbar : P '|') {cs : List Char} {as : List α}
    (h : AlternativesText R cs as) : ∀ c ∈ cs, P c := by
  induction h with
  | one h => exact hR h
  | more h _ ih =>
    intro c hc
    rcases List.mem_append.mp hc with hc | hc
    · exact hR h c hc
    · rcases List.mem_cons.mp hc with rfl | hc
      · exact hbar
      · exact ih c hc

theorem AlternativesText.braceFree {α : Type} {R : List Char → α → Prop}
    (hR : ∀ {cs a}, R cs a → BraceFree cs) {cs : List Char} {as : List α}
    (h : AlternativesText R cs as) : BraceFree cs :=
  h.forall_mem hR (by decide)

theorem AtomText.braceFree {cs : List Char} {vs : List Value} (h : AtomText cs vs) :
    BraceFree cs := by
  cases h with
  | member h => exact h.braceFree
  | group h => simp [h.braceFree MemberText.braceFree]

theorem OptionText.braceFree {first : Bool} {cs : List Char} {o : SlotOption}
    (h : OptionText first cs o) : BraceFree cs := by
  cases h with
  | unconstrained h => exact h.braceFree
  | constrained op source target =>
    obtain ⟨source, _⟩ := source
    cases op <;> simp [source.braceFree, target.braceFree, Operator.toChar]

theorem braceFree_of_bodyText {first : Bool} {cs : List Char} {os : List SlotOption}
    (h : BodyText first cs os) : BraceFree cs :=
  h.braceFree OptionText.braceFree

/-! ### What a text starts with -/

@[simp] theorem patternText_nil {first : Bool} {items : List Item} :
    PatternText first [] items ↔ items = [] := by
  constructor
  · rintro ⟨⟩
    rfl
  · rintro rfl
    exact .nil

theorem patternText_plain {first : Bool} {c : Char} {cs : List Char} {items : List Item}
    (hc : IsPlain c) : PatternText first (c :: cs) items ↔
      ∃ rest, items = .char c :: rest ∧ PatternText first cs rest := by
  constructor
  · intro h
    cases h with
    | plain _ rest => exact ⟨_, rfl, rest⟩
    | escaped => exact absurd rfl hc.2.2
    | slot => exact absurd rfl hc.1
  · rintro ⟨rest, rfl, h⟩
    exact .plain hc h

theorem patternText_escaped {first : Bool} {c : Char} {cs : List Char} {items : List Item}
    (hc : c = '{' ∨ c = '}') : PatternText first ('\\' :: c :: cs) items ↔
      ∃ rest, items = .char c :: rest ∧ PatternText first cs rest := by
  constructor
  · intro h
    cases h with
    | plain hc _ => exact absurd rfl hc.2.2
    | escaped _ rest => exact ⟨_, rfl, rest⟩
  · rintro ⟨rest, rfl, h⟩
    exact .escaped hc h

theorem patternText_slot {first : Bool} {body cs : List Char} {items : List Item}
    (hbody : BraceFree body) : PatternText first ('{' :: (body ++ '}' :: cs)) items ↔
      ∃ options rest, items = .slot ⟨options⟩ :: rest ∧ BodyText first body options ∧
        PatternText false cs rest := by
  constructor
  · generalize htext : '{' :: (body ++ '}' :: cs) = text
    intro h
    cases h with
    | nil => simp at htext
    | plain hc _ => exact absurd (List.cons.inj htext).1.symm hc.1
    | escaped => simp at htext
    | @slot _ body' cs' options items h rest =>
      obtain ⟨rfl, -, rfl⟩ := hbody.append_cons_inj (braceFree_of_bodyText h) (.inr rfl) (.inr rfl)
        (List.cons.inj htext).2
      exact ⟨options, items, rfl, h, rest⟩
  · rintro ⟨options, rest, rfl, h, hrest⟩
    exact .slot h hrest

/-! ### What no text starts with -/

theorem not_patternText_dangling {first : Bool} {cs : List Char} {items : List Item}
    (hcs : ∀ c ∈ cs.head?, c ≠ '{' ∧ c ≠ '}') : ¬PatternText first ('\\' :: cs) items := by
  intro h
  cases h with
  | plain hc _ => exact hc.2.2 rfl
  | escaped hc _ =>
    obtain ⟨hopen, hclose⟩ := hcs _ rfl
    exact hc.elim hopen hclose

theorem not_patternText_unmatched {first : Bool} {cs : List Char} {items : List Item} :
    ¬PatternText first ('}' :: cs) items := by
  intro h
  cases h with
  | plain hc _ => exact hc.2.1 rfl

theorem not_patternText_unterminated {first : Bool} {body cs : List Char} {items : List Item}
    (hbody : BraceFree body) (hcs : cs = [] ∨ ∃ ds, cs = '{' :: ds) :
    ¬PatternText first ('{' :: (body ++ cs)) items := by
  generalize htext : '{' :: (body ++ cs) = text
  intro h
  cases h with
  | nil => simp at htext
  | plain hc _ => exact absurd (List.cons.inj htext).1.symm hc.1
  | escaped => simp at htext
  | @slot _ body' cs' _ _ h _ =>
    have heq := (List.cons.inj htext).2
    rcases hcs with rfl | ⟨ds, rfl⟩
    · rw [List.append_nil] at heq
      exact hbody.ne_of_mem (heq ▸ List.mem_append_cons_self) (.inr rfl) rfl
    · have hsplit := hbody.append_cons_inj (braceFree_of_bodyText h) (.inl rfl) (.inr rfl) heq
      exact absurd hsplit.2.1 (by decide)

end SlotPattern.Grammar
