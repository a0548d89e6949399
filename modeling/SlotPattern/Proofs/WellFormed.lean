import SlotPattern.Proofs.Compile
import SlotPattern.Proofs.FirstOccurrences

/-!
# Well-formed patterns

What holds of every compiled pattern, stated on the pattern alone. A pattern with these properties
is the meaning of its canonical text, so they describe exactly the patterns that can be compiled,
and compiling undoes printing.
-/

namespace SlotPattern

open Grammar Name

/-! ### The properties -/

/-- An option has values, all of them distinct and with proper names; a constraint has sources, all
of them distinct and plain identifiers. -/
structure SlotOption.WellFormed (o : SlotOption) : Prop where
  values_ne_nil : o.values ≠ []
  values_nodup : o.values.Nodup
  names : ∀ text, .name text ∈ o.values → NameText text.toList
  sources_ne_nil : o.constraint.isConstrained = true → o.constraint.sources ≠ []
  sources_nodup : o.constraint.sources.Nodup
  sources_plain : ∀ n ∈ o.constraint.sources, IdentifierText n.toList

/-- A slot has options. -/
structure Slot.WellFormed (s : Slot) : Prop where
  options_ne_nil : s.options ≠ []
  options : ∀ o ∈ s.options, o.WellFormed

/-- No option of the slot has a constraint. -/
def Slot.Unconstrained (s : Slot) : Prop :=
  ∀ o ∈ s.options, o.constraint.isConstrained = false

/-- Literal text is merged and holds no backslash, and the first slot has no constraint. -/
structure Pattern.WellFormed (p : Pattern) : Prop where
  merged : p.Merged
  literals : ∀ text, .literal text ∈ p.segments → '\\' ∉ text.toList
  slots : ∀ s, .slot s ∈ p.segments → s.WellFormed
  first : ∀ s ∈ p.slots.head?, s.Unconstrained

/-! ### What a derivation stands for is well-formed -/

theorem nameText_of_memberText {cs : List Char} {text : String}
    (h : MemberText cs (.name text)) : NameText text.toList := by
  cases h with
  | name h =>
    rw [String.toList_ofList]
    exact h

theorem ne_nil_of_alternativesText {α : Type} {R : List Char → α → Prop} {cs : List Char}
    {as : List α} (h : AlternativesText R cs as) : as ≠ [] := by
  cases h <;> exact List.cons_ne_nil _ _

theorem exists_text_of_alternativesText {α : Type} {R : List Char → α → Prop} {cs : List Char}
    {as : List α} (h : AlternativesText R cs as) : ∀ a ∈ as, ∃ ds, R ds a := by
  induction h with
  | @one cs a h =>
    intro b hb
    rw [List.mem_singleton.mp hb]
    exact ⟨cs, h⟩
  | @more cs _ a _ h _ ih =>
    intro b hb
    rcases List.mem_cons.mp hb with rfl | hb
    · exact ⟨cs, h⟩
    · exact ih b hb

theorem values_of_atomText {cs : List Char} {vs : List Value} (h : AtomText cs vs) :
    vs ≠ [] ∧ vs.Nodup ∧ ∀ text, .name text ∈ vs → NameText text.toList := by
  cases h with
  | member h =>
    refine ⟨List.cons_ne_nil _ _, List.nodup_singleton _, fun text htext => ?_⟩
    obtain rfl := List.mem_singleton.mp htext
    exact nameText_of_memberText h
  | @group _ vs h =>
    refine ⟨?_, nodup_eraseDups vs, fun text htext => ?_⟩
    · obtain ⟨v, vs, rfl⟩ := List.exists_cons_of_ne_nil (ne_nil_of_alternativesText h)
      rw [List.eraseDups_cons]
      exact List.cons_ne_nil _ _
    · obtain ⟨ds, hds⟩ := exists_text_of_alternativesText h _ (List.mem_eraseDups.mp htext)
      exact nameText_of_memberText hds

theorem sources_constraint (op : Operator) (names : List String) :
    (op.constraint names).sources = names := by
  cases op <;> rfl

theorem wellFormed_of_optionText {first : Bool} {cs : List Char} {o : SlotOption}
    (h : OptionText first cs o) :
    o.WellFormed ∧ (first = true → o.constraint.isConstrained = false) := by
  cases h with
  | unconstrained h =>
    obtain ⟨hne, hnodup, hnames⟩ := values_of_atomText h
    refine ⟨⟨hne, hnodup, hnames, fun h => ?_, List.nodup_nil, List.forall_mem_nil _⟩, fun _ => rfl⟩
    cases h
  | constrained op source target =>
    obtain ⟨hatom, plain⟩ := source
    obtain ⟨hne, hnodup, hnames⟩ := values_of_atomText target
    obtain ⟨hsources, hdistinct, -⟩ := values_of_atomText hatom
    refine ⟨⟨hne, hnodup, hnames, fun _ => ?_, ?_, ?_⟩, fun h => ?_⟩
    · rw [sources_constraint]
      exact fun h => hsources (List.map_eq_nil_iff.mpr h)
    · rw [sources_constraint]
      exact hdistinct.of_map _
    · rw [sources_constraint]
      exact plain
    · cases h

theorem wellFormed_of_bodyText {first : Bool} {cs : List Char} {os : List SlotOption}
    (h : BodyText first cs os) :
    (⟨os⟩ : Slot).WellFormed ∧ (first = true → (⟨os⟩ : Slot).Unconstrained) := by
  have hoption : ∀ o ∈ os, o.WellFormed ∧ (first = true → o.constraint.isConstrained = false) := by
    intro o ho
    obtain ⟨ds, hds⟩ := exists_text_of_alternativesText h o ho
    exact wellFormed_of_optionText hds
  exact ⟨⟨ne_nil_of_alternativesText h, fun o ho => (hoption o ho).1⟩,
    fun hfirst o ho => (hoption o ho).2 hfirst⟩

/-- The slot of an item, if it is one. -/
def Item.slot? : Item → Option Slot
  | .char _ => none
  | .slot s => some s

theorem Item.filterMap_slot?_chars (cs : List Char) :
    (cs.map Item.char).filterMap Item.slot? = [] := by
  rw [List.filterMap_map]
  exact List.filterMap_eq_nil_iff.mpr fun _ _ => rfl

theorem wellFormed_of_patternText {first : Bool} {cs : List Char} {items : List Item}
    (h : PatternText first cs items) :
    .char '\\' ∉ items ∧ (∀ s, .slot s ∈ items → s.WellFormed) ∧
      (first = true → ∀ s ∈ (items.filterMap Item.slot?).head?, s.Unconstrained) := by
  have hchar {c : Char} {items : List Item} (hc : c ≠ '\\') (h : Item.char '\\' ∉ items) :
      Item.char '\\' ∉ Item.char c :: items := by
    simpa [eq_comm, h] using hc
  induction h with
  | nil => simp
  | plain hc _ ih =>
    obtain ⟨hescape, hslots, hfirst⟩ := ih
    exact ⟨hchar hc.2.2 hescape, fun s hs => hslots s (by simpa using hs), hfirst⟩
  | escaped hc _ ih =>
    obtain ⟨hescape, hslots, hfirst⟩ := ih
    refine ⟨hchar ?_ hescape, fun s hs => hslots s (by simpa using hs), hfirst⟩
    rcases hc with rfl | rfl <;> decide
  | slot hbody _ ih =>
    obtain ⟨hescape, hslots, -⟩ := ih
    obtain ⟨hwell, hunconstrained⟩ := wellFormed_of_bodyText hbody
    refine ⟨by simpa using hescape, fun s hs => ?_, fun hfirst s hs => ?_⟩
    · rcases List.mem_cons.mp hs with hs | hs
      · cases hs
        exact hwell
      · exact hslots s hs
    · cases hs
      exact hunconstrained hfirst

namespace Pattern

theorem char_mem_items {p : Pattern} {text : String} {c : Char} (h : .literal text ∈ p.segments)
    (hc : c ∈ text.toList) : .char c ∈ p.items :=
  List.mem_flatMap.mpr ⟨_, h, List.mem_map_of_mem hc⟩

theorem slot_mem_items {p : Pattern} {s : Slot} (h : .slot s ∈ p.segments) : .slot s ∈ p.items :=
  List.mem_flatMap.mpr ⟨_, h, List.mem_singleton.mpr rfl⟩

theorem filterMap_slot_items (p : Pattern) : p.items.filterMap Item.slot? = p.slots := by
  obtain ⟨segments⟩ := p
  simp only [items, slots]
  induction segments with
  | nil => rfl
  | cons segment segments ih =>
    rw [List.flatMap_cons, List.filterMap_append, ih]
    cases segment with
    | literal text =>
      rw [Segment.items, Item.filterMap_slot?_chars]
      rfl
    | slot s => rfl

theorem wellFormed_of_items {p : Pattern} (hmerged : p.Merged) (hescape : .char '\\' ∉ p.items)
    (hslots : ∀ s, .slot s ∈ p.items → s.WellFormed)
    (hfirst : ∀ s ∈ (p.items.filterMap Item.slot?).head?, s.Unconstrained) : p.WellFormed := by
  rw [filterMap_slot_items] at hfirst
  exact ⟨hmerged, fun _ hl hc => hescape (char_mem_items hl hc),
    fun _ hs => hslots _ (slot_mem_items hs), hfirst⟩

theorem wellFormed_of_compile {s : String} {p : Pattern} (h : compile s = .ok p) :
    p.WellFormed := by
  obtain ⟨htext, hmerged⟩ := compile_eq_ok_iff.mp h
  obtain ⟨hescape, hslots, hfirst⟩ := wellFormed_of_patternText htext
  exact wellFormed_of_items hmerged hescape hslots (hfirst rfl)

end Pattern

/-! ### A well-formed pattern is the meaning of its text -/

theorem alternativesText_alternatives {α : Type} {R : List Char → α → Prop} {text : α → List Char}
    {as : List α} (hne : as ≠ []) (h : ∀ a ∈ as, R (text a) a) :
    AlternativesText R (alternatives (as.map text)) as := by
  match as with
  | [] => exact absurd rfl hne
  | [a] =>
    rw [List.map_singleton, alternatives_singleton]
    exact .one (h a List.mem_cons_self)
  | a :: b :: as =>
    rw [List.map_cons, alternatives_cons _ (by simp)]
    exact .more (h a List.mem_cons_self) (alternativesText_alternatives (List.cons_ne_nil b as)
      fun c hc => h c (List.mem_cons_of_mem a hc))

theorem memberText_text {v : Value} (h : ∀ text, v = .name text → NameText text.toList) :
    MemberText v.text v := by
  cases v with
  | nothing => exact .nothing
  | name text =>
    have hname := MemberText.name (h text rfl)
    rw [String.ofList_toList] at hname
    exact hname

theorem atomText_atomText {vs : List Value} (hne : vs ≠ []) (hnodup : vs.Nodup)
    (hnames : ∀ text, .name text ∈ vs → NameText text.toList) :
    AtomText (atomText (vs.map Value.text)) vs := by
  have hmember : ∀ v ∈ vs, MemberText v.text v := fun v hv =>
    memberText_text fun text htext => hnames text (htext ▸ hv)
  rw [atomText]
  split
  · have hgroup := AtomText.group (alternativesText_alternatives hne hmember)
    rw [eraseDups_of_nodup hnodup] at hgroup
    exact hgroup
  next hlength =>
    match vs with
    | [] => exact absurd rfl hne
    | [v] =>
      rw [List.map_singleton, alternatives_singleton]
      exact .member (hmember v List.mem_cons_self)
    | v :: w :: vs => simp at hlength

theorem sourceText_atomText {names : List String} (hne : names ≠ []) (hnodup : names.Nodup)
    (hplain : ∀ n ∈ names, IdentifierText n.toList) :
    SourceText (atomText (names.map String.toList)) names := by
  have htext : names.map String.toList = (names.map Value.name).map Value.text := by
    rw [List.map_map]
    rfl
  rw [htext]
  refine ⟨atomText_atomText ?_ ?_ ?_, hplain⟩
  · exact fun h => hne (List.map_eq_nil_iff.mp h)
  · exact hnodup.map fun _ _ h => Value.name.inj h
  · intro text htext
    obtain ⟨n, hn, heq⟩ := List.mem_map.mp htext
    exact Value.name.inj heq ▸ (hplain n hn).nameText

theorem optionText_text {first : Bool} {o : SlotOption} (h : o.WellFormed)
    (hfirst : first = true → o.constraint.isConstrained = false) :
    OptionText first o.text o := by
  obtain ⟨values, constraint⟩ := o
  obtain ⟨hne, hnodup, hnames, hsources, hdistinct, hplain⟩ := h
  have htarget := atomText_atomText hne hnodup hnames
  have hconstrained (op : Operator) {names : List String} (hfirst : first = false)
      (hsources : names ≠ []) (hdistinct : names.Nodup)
      (hplain : ∀ n ∈ names, IdentifierText n.toList) :
      OptionText first (atomText (names.map String.toList) ++ [op.toChar] ++
        atomText (values.map Value.text)) ⟨values, op.constraint names⟩ := by
    rw [hfirst, List.append_assoc, List.singleton_append]
    exact .constrained op (sourceText_atomText hsources hdistinct hplain) htarget
  cases constraint with
  | unconstrained => exact .unconstrained htarget
  | requires names =>
    exact hconstrained .requires (by simpa [Constraint.isConstrained] using hfirst) (hsources rfl)
      hdistinct hplain
  | excludes names =>
    exact hconstrained .excludes (by simpa [Constraint.isConstrained] using hfirst) (hsources rfl)
      hdistinct hplain

theorem bodyText_alternatives {first : Bool} {s : Slot} (h : s.WellFormed)
    (hfirst : first = true → s.Unconstrained) :
    BodyText first (alternatives (s.options.map SlotOption.text)) s.options :=
  alternativesText_alternatives h.options_ne_nil fun o ho =>
    optionText_text (h.options o ho) fun hf => hfirst hf o ho

theorem patternText_literal {first : Bool} {cs ds : List Char} {items : List Item}
    (hcs : '\\' ∉ cs) (h : PatternText first ds items) :
    PatternText first (cs.flatMap literalCharText ++ ds) (cs.map .char ++ items) := by
  induction cs with
  | nil => exact h
  | cons c cs ih =>
    obtain ⟨hc, hcs⟩ := not_or.mp (List.mem_cons.not.mp hcs)
    rw [List.flatMap_cons, List.append_assoc, List.map_cons, List.cons_append, literalCharText]
    split
    next hbrace => exact .escaped hbrace (ih hcs)
    next hbrace =>
      obtain ⟨hopen, hclose⟩ := not_or.mp hbrace
      exact .plain ⟨hopen, hclose, Ne.symm hc⟩ (ih hcs)

theorem patternText_flatMap_text {first : Bool} {segments : List Segment}
    (hliterals : ∀ text, .literal text ∈ segments → '\\' ∉ text.toList)
    (hslots : ∀ s, .slot s ∈ segments → s.WellFormed)
    (hfirst : first = true → ∀ s ∈ (segments.filterMap Segment.slot?).head?, s.Unconstrained) :
    PatternText first (segments.flatMap Segment.text) (segments.flatMap Segment.items) := by
  induction segments generalizing first with
  | nil => exact .nil
  | cons segment segments ih =>
    have hliterals' := fun text h => hliterals text (List.mem_cons_of_mem segment h)
    have hslots' := fun s h => hslots s (List.mem_cons_of_mem segment h)
    rw [List.flatMap_cons, List.flatMap_cons]
    cases segment with
    | literal text =>
      exact patternText_literal (hliterals text List.mem_cons_self) (ih hliterals' hslots' hfirst)
    | slot s =>
      have hbody := bodyText_alternatives (hslots s List.mem_cons_self) fun hf => hfirst hf s rfl
      have hrest : PatternText false _ _ := ih hliterals' hslots' fun h => by cases h
      simp only [Segment.text, Slot.text, List.cons_append, List.append_assoc]
      exact .slot hbody hrest

namespace Pattern

theorem toList_toString (p : Pattern) : (toString p).toList = p.text :=
  String.toList_ofList

theorem compile_text {p : Pattern} (h : p.WellFormed) : compile (toString p) = .ok p := by
  refine compile_eq_ok_iff.mpr ⟨?_, h.merged⟩
  rw [toList_toString]
  exact patternText_flatMap_text h.literals h.slots fun _ => h.first

/-- The patterns that some text compiles to are the well-formed ones. -/
theorem exists_compile_iff_wellFormed (p : Pattern) :
    (∃ s, compile s = .ok p) ↔ p.WellFormed := by
  constructor
  · rintro ⟨s, hs⟩
    exact wellFormed_of_compile hs
  · intro h
    exact ⟨toString p, compile_text h⟩

/-- Compiling undoes printing, and the canonical text determines the pattern. -/
theorem compile_toString {s : String} {p : Pattern} (h : compile s = .ok p) :
    compile (toString p) = .ok p ∧
      ∀ t q, compile t = .ok q → (p = q ↔ toString p = toString q) := by
  have hp := compile_text (wellFormed_of_compile h)
  refine ⟨hp, fun t q ht => ⟨fun hpq => hpq ▸ rfl, fun htext => ?_⟩⟩
  have hq := compile_text (wellFormed_of_compile ht)
  rw [← htext, hp] at hq
  exact Except.ok.inj hq

theorem compile_toString_repeated_members :
    ∃ p q, compile "\x7b(é|é)\x7d\\\x7d\x7bé~a[0]\x7d" = .ok p ∧
      compile "\x7bé\x7d\\\x7d\x7b(é|é)~(a[0])\x7d" = .ok q ∧
      compile (toString p) = .ok p ∧ (p = q ↔ toString p = toString q) := by
  let p : Pattern := ⟨[.slot ⟨[⟨[.name "é"], .unconstrained⟩]⟩, .literal "\x7d",
    .slot ⟨[⟨[.name "a[0]"], .excludes ["é"]⟩]⟩]⟩
  have hp : compile "\x7b(é|é)\x7d\\\x7d\x7bé~a[0]\x7d" = .ok p := by decide +kernel
  have hq : compile "\x7bé\x7d\\\x7d\x7b(é|é)~(a[0])\x7d" = .ok p := by decide +kernel
  obtain ⟨hround, hequal⟩ := compile_toString hp
  exact ⟨p, p, hp, hq, hround, hequal _ _ hq⟩

end Pattern

end SlotPattern
