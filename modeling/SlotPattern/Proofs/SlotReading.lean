import SlotPattern.Proofs.Grammar
import SlotPattern.Proofs.Lexing

/-!
# Reading the body of a slot

The readers of a slot accept exactly the texts of the grammar. One direction says of each reader
that what it has read is a text for the value it returns, and what it leaves is the rest; the other
says that it reads the lexemes of such a text, whatever may follow them.
-/

namespace SlotPattern

open Grammar Name

/-- A sequence of computations succeeds if each of them does in turn. -/
theorem bind_eq_ok_iff {ε α β : Type} {x : Except ε α} {f : α → Except ε β} {b : β} :
    x >>= f = .ok b ↔ ∃ a, x = .ok a ∧ f a = .ok b := by
  cases x <;> simp [bind, Except.bind]

theorem map_eq_ok_iff {ε α β : Type} {f : α → β} {x : Except ε α} {b : β} :
    f <$> x = .ok b ↔ ∃ a, x = .ok a ∧ f a = b := by
  cases x <;> simp [Functor.map, Except.map]

theorem map_eq_error_iff {ε α β : Type} {f : α → β} {x : Except ε α} {e : ε} :
    f <$> x = .error e ↔ x = .error e := by
  cases x <;> simp [Functor.map, Except.map]

@[simp] theorem ok_bind {ε α β : Type} (a : α) (f : α → Except ε β) :
    (.ok a : Except ε α) >>= f = f a := rfl

/-! ### What is read is a text -/

theorem memberText_of_readName {text : List Char} {offset : Nat} {rest : List (Located Lexeme)}
    {v : Value} (h : Value.readName text offset rest = .ok v) : MemberText text v := by
  unfold Value.readName at h
  split at h
  · cases h
  · split at h
    next hname =>
      cases h
      exact .name (isValueName_iff.mp hname)
    next => cases h

theorem memberText_of_readNothing {offset : Nat} {rest : List (Located Lexeme)} {v : Value}
    (h : Value.readNothing offset rest = .ok v) : MemberText ['?'] v := by
  unfold Value.readNothing at h
  split at h
  · cases h
  · cases h
    exact .nothing

theorem memberText_of_readMember {l : Located Lexeme} {rest : List (Located Lexeme)} {v : Value}
    (h : Value.readMember l rest = .ok v) : MemberText l.item.text v := by
  unfold Value.readMember at h
  split at h
  next hl => exact hl ▸ memberText_of_readName h
  next hl => exact hl ▸ memberText_of_readNothing h
  all_goals cases h

/-- A group goes on behind a bar, or ends at a parenthesis. -/
theorem readGroup_cons {opened : Nat} {l : Located Lexeme} {rest left : List (Located Lexeme)}
    {vs : List Value} (h : Atom.readGroup opened (l :: rest) = .ok (vs, left)) :
    ∃ v, Value.readMember l rest = .ok v ∧
      ((∃ offset more ws, rest = ⟨.bar, offset⟩ :: more ∧
          Atom.readGroup opened more = .ok (ws, left) ∧ vs = v :: ws) ∨
        ∃ offset, rest = ⟨.closeGroup, offset⟩ :: left ∧ vs = [v]) := by
  rw [Atom.readGroup, bind_eq_ok_iff] at h
  obtain ⟨v, hv, h⟩ := h
  refine ⟨v, hv, ?_⟩
  split at h
  · cases h
  · rw [bind_eq_ok_iff] at h
    obtain ⟨⟨ws, left'⟩, hws, h⟩ := h
    cases h
    exact .inl ⟨_, _, ws, rfl, hws, rfl⟩
  · cases h
    exact .inr ⟨_, rfl, rfl⟩
  · cases h
  · cases h

theorem groupText_of_readGroup {opened : Nat} {ls left : List (Located Lexeme)} {vs : List Value}
    (h : Atom.readGroup opened ls = .ok (vs, left)) :
    ∃ cs, spelling ls = cs ++ ')' :: spelling left ∧ AlternativesText MemberText cs vs := by
  induction ls using Atom.readGroup.induct generalizing vs with
  | case1 => cases h
  | case2 l rest ih =>
    obtain ⟨v, hv, ⟨_, more, ws, rfl, hws, rfl⟩ | ⟨_, rfl, rfl⟩⟩ := readGroup_cons h
    · obtain ⟨cs, hcs, hmembers⟩ := ih hws
      refine ⟨l.item.text ++ '|' :: cs, ?_, .more (memberText_of_readMember hv) hmembers⟩
      simp [hcs, Lexeme.text]
    · exact ⟨l.item.text, by simp [Lexeme.text], .one (memberText_of_readMember hv)⟩

theorem atomText_of_read {first : Bool} {stop : Nat} {ls left : List (Located Lexeme)} {a : Atom}
    (h : Atom.read first stop ls = .ok (a, left)) :
    ∃ cs, spelling ls = cs ++ spelling left ∧ AtomText cs a.values := by
  unfold Atom.read at h
  split at h
  · cases h
  next offset rest =>
    obtain ⟨⟨vs, left'⟩, hvs, h⟩ := bind_eq_ok_iff.mp h
    cases h
    obtain ⟨cs, hcs, hmembers⟩ := groupText_of_readGroup hvs
    exact ⟨_, by simp [hcs, Lexeme.text], .group hmembers⟩
  next text offset rest =>
    obtain ⟨v, hv, h⟩ := bind_eq_ok_iff.mp h
    cases h
    exact ⟨text, spelling_cons _ _, .member (memberText_of_readName hv)⟩
  next offset rest =>
    obtain ⟨v, hv, h⟩ := bind_eq_ok_iff.mp h
    cases h
    exact ⟨['?'], spelling_cons _ _, .member (memberText_of_readNothing hv)⟩
  · cases h
  · cases h

theorem source_eq_ok_iff {offset : Nat} {v : Value} {name : String} :
    v.source offset = .ok name ↔ v = .name name ∧ IdentifierText name.toList := by
  cases v with
  | nothing => simp [Value.source]
  | name text =>
    rw [← isIdentifier_iff, Value.source, Value.name.injEq]
    split
    next hplain =>
      rw [Except.ok.injEq]
      exact ⟨fun h => ⟨h, h ▸ hplain⟩, And.left⟩
    next hplain =>
      constructor
      · intro h
        cases h
      · rintro ⟨rfl, h⟩
        exact absurd h hplain

/-- The sources of an atom are its values, when all of them are plain identifiers. -/
theorem sources_eq_ok_iff {a : Atom} {names : List String} :
    a.sources = .ok names ↔
      a.values = names.map Value.name ∧ ∀ n ∈ names, IdentifierText n.toList := by
  obtain ⟨values, offset⟩ := a
  simp only [Atom.sources]
  induction values generalizing names with
  | nil =>
    rw [List.mapM_nil]
    constructor
    · intro h
      cases h
      exact ⟨rfl, List.forall_mem_nil _⟩
    · rintro ⟨h, -⟩
      rw [List.map_eq_nil_iff.mp h.symm]
      rfl
  | cons v values ih =>
    simp only [List.mapM_cons, bind_eq_ok_iff, source_eq_ok_iff, ih]
    constructor
    · rintro ⟨name, ⟨rfl, hname⟩, rest, ⟨hrest, hplain⟩, h⟩
      cases h
      exact ⟨by rw [hrest, List.map_cons], List.forall_mem_cons.mpr ⟨hname, hplain⟩⟩
    · rintro ⟨h, hplain⟩
      obtain ⟨name, rest, rfl, rfl, rfl⟩ := List.map_eq_cons_iff.mp h.symm
      obtain ⟨hname, hplain⟩ := List.forall_mem_cons.mp hplain
      exact ⟨name, ⟨rfl, hname⟩, rest, ⟨rfl, hplain⟩, rfl⟩

theorem atomText_of_readTarget {op : Operator} {source : Atom} {stop : Nat}
    {rest : List (Located Lexeme)} {o : SlotOption}
    (h : SlotOption.readTarget op source stop rest = .ok o) :
    ∃ names, o.constraint = op.constraint names ∧ source.values = names.map Value.name ∧
      (∀ n ∈ names, IdentifierText n.toList) ∧ AtomText (spelling rest) o.values := by
  unfold SlotOption.readTarget at h
  split at h
  · cases h
  · cases h
  · obtain ⟨names, hnames, h⟩ := bind_eq_ok_iff.mp h
    obtain ⟨⟨target, left⟩, htarget, h⟩ := bind_eq_ok_iff.mp h
    obtain ⟨hvalues, hplain⟩ := sources_eq_ok_iff.mp hnames
    obtain ⟨cs, hcs, hatom⟩ := atomText_of_read htarget
    dsimp only at h
    split at h
    · cases h
      refine ⟨names, rfl, hvalues, hplain, ?_⟩
      rw [hcs, spelling_nil, List.append_nil]
      exact hatom
    · cases h

theorem optionText_of_read {first : Bool} {stop : Nat} {ls : List (Located Lexeme)}
    {o : SlotOption} (h : SlotOption.read first stop ls = .ok o) :
    OptionText first (spelling ls) o := by
  unfold SlotOption.read at h
  split at h
  · cases h
  · obtain ⟨⟨a, rest⟩, ha, h⟩ := bind_eq_ok_iff.mp h
    obtain ⟨cs, hcs, hatom⟩ := atomText_of_read ha
    dsimp only at h
    rw [hcs]
    split at h
    · cases h
      rw [spelling_nil, List.append_nil]
      exact .unconstrained hatom
    · split at h
      · cases h
      next hfirst =>
        obtain ⟨names, hconstraint, hvalues, hplain, htarget⟩ := atomText_of_readTarget h
        obtain rfl : first = false := Bool.eq_false_iff.mpr hfirst
        obtain ⟨values, constraint⟩ := o
        obtain rfl : constraint = _ := hconstraint
        rw [hvalues] at hatom
        exact .constrained _ ⟨hatom, hplain⟩ htarget
    · cases h

/-! ### Bars between options -/

@[simp] theorem alternatives_singleton (cs : List Char) : alternatives [cs] = cs := by
  simp [alternatives, List.intercalate]

theorem alternatives_cons (cs : List Char) {items : List (List Char)} (h : items ≠ []) :
    alternatives (cs :: items) = cs ++ '|' :: alternatives items := by
  obtain ⟨ds, items, rfl⟩ := List.exists_cons_of_ne_nil h
  simp [alternatives, List.intercalate_cons_cons]

theorem alternatives_append_head (cs ds : List Char) (items : List (List Char)) :
    alternatives ((cs ++ ds) :: items) = cs ++ alternatives (ds :: items) := by
  cases items with
  | nil => rw [alternatives_singleton, alternatives_singleton]
  | cons es items =>
    rw [alternatives_cons _ (List.cons_ne_nil _ _), alternatives_cons _ (List.cons_ne_nil _ _),
      List.append_assoc]

/-- Whether a parenthesis is open behind a lexeme, when `grouped` tells whether one is open before
it. A bar outside groups cannot be passed. -/
def Lexeme.pass (grouped : Bool) : Lexeme → Option Bool
  | .openGroup => some true
  | .closeGroup => some false
  | .bar => if grouped then some true else none
  | _ => some grouped

theorem Lexeme.eq_bar_of_pass_eq_none {grouped : Bool} {l : Lexeme} (h : l.pass grouped = none) :
    l = .bar ∧ grouped = false := by
  cases l <;> cases grouped <;> first | exact ⟨rfl, rfl⟩ | cases h

namespace OptionBody

/-- The characters of an option that has been cut out. -/
def text (b : OptionBody) : List Char :=
  spelling b.lexemes

/-- Puts lexemes before those of an option. -/
def prepend (ls : List (Located Lexeme)) (b : OptionBody) : OptionBody :=
  ⟨ls ++ b.lexemes, b.stop⟩

theorem cut_bar (stop offset : Nat) (ls : List (Located Lexeme)) :
    cut stop false (⟨.bar, offset⟩ :: ls) = ⟨[], offset⟩ :: cut stop false ls := rfl

theorem cut_pass (stop : Nat) {grouped after : Bool} {l : Located Lexeme}
    (h : l.item.pass grouped = some after) (ls : List (Located Lexeme)) :
    cut stop grouped (l :: ls) = (cut stop after ls).modifyHead (prepend [l]) := by
  obtain ⟨l, offset⟩ := l
  cases l <;> cases grouped <;> cases h <;> rfl

theorem cut_ne_nil (stop : Nat) (grouped : Bool) (ls : List (Located Lexeme)) :
    cut stop grouped ls ≠ [] := by
  induction ls generalizing grouped with
  | nil => exact List.cons_ne_nil _ _
  | cons l ls ih =>
    rw [cut]
    split
    · exact List.cons_ne_nil _ _
    · exact fun h => ih _ (List.modifyHead_eq_nil_iff.mp h)

/-- Cutting a body takes away nothing but bars. -/
theorem alternatives_cut (stop : Nat) (grouped : Bool) (ls : List (Located Lexeme)) :
    alternatives ((cut stop grouped ls).map text) = spelling ls := by
  induction ls generalizing grouped with
  | nil => rfl
  | cons l ls ih =>
    cases hpass : l.item.pass grouped with
    | none =>
      obtain ⟨item, offset⟩ := l
      obtain ⟨rfl, rfl⟩ := Lexeme.eq_bar_of_pass_eq_none hpass
      have hne : (cut stop false ls).map text ≠ [] := mt List.map_eq_nil_iff.mp (cut_ne_nil _ _ _)
      rw [cut_bar, List.map_cons, alternatives_cons _ hne, ih, spelling_cons]
      rfl
    | some after =>
      obtain ⟨b, bs, hcut⟩ := List.exists_cons_of_ne_nil (cut_ne_nil stop after ls)
      have htail : alternatives (spelling b.lexemes :: bs.map text) = spelling ls := by
        rw [← ih after, hcut]
        rfl
      rw [cut_pass stop hpass, hcut, spelling_cons, ← htail, ← alternatives_append_head]
      simp [text, prepend]

end OptionBody

theorem bodyText_of_mapM_read {first : Bool} {b : OptionBody} {bs : List OptionBody}
    {os : List SlotOption}
    (h : (b :: bs).mapM (fun b => SlotOption.read first b.stop b.lexemes) = .ok os) :
    BodyText first (alternatives ((b :: bs).map OptionBody.text)) os := by
  induction bs generalizing b os with
  | nil =>
    simp only [List.mapM_cons, bind_eq_ok_iff] at h
    obtain ⟨o, ho, os, hos, h⟩ := h
    cases hos
    cases h
    rw [List.map_singleton, alternatives_singleton]
    exact .one (optionText_of_read ho)
  | cons c bs ih =>
    rw [List.mapM_cons, bind_eq_ok_iff] at h
    obtain ⟨o, ho, h⟩ := h
    obtain ⟨os, hos, h⟩ := bind_eq_ok_iff.mp h
    cases h
    rw [List.map_cons, alternatives_cons _ (by simp)]
    exact .more (optionText_of_read ho) (ih hos)

theorem bodyText_of_read {first : Bool} {stop : Nat} {ls : List (Located Lexeme)} {s : Slot}
    (h : Slot.read first stop ls = .ok s) : BodyText first (spelling ls) s.options := by
  obtain ⟨os, hos, h⟩ := bind_eq_ok_iff.mp h
  cases h
  rw [← OptionBody.alternatives_cut stop false ls]
  obtain ⟨b, bs, hcut⟩ := List.exists_cons_of_ne_nil (OptionBody.cut_ne_nil stop false ls)
  rw [hcut] at hos ⊢
  exact bodyText_of_mapM_read hos

/-! ### Every text is read -/

/-- Is the lexeme a value by itself? -/
def Lexeme.isValue : Lexeme → Bool
  | .word _ | .optional => true
  | _ => false

/-- Nothing follows that would make a value longer. -/
def EndsValue (rest : List (Located Lexeme)) : Prop := ∀ l ∈ rest.head?, l.item.isValue = false

theorem endsValue_nil : EndsValue [] := fun _ h => by cases h

theorem endsValue_cons {l : Located Lexeme} {rest : List (Located Lexeme)}
    (h : l.item.isValue = false) : EndsValue (l :: rest) := fun _ hl => by
  cases hl
  exact h

/-- The lexeme that spells a value. -/
def Value.lexeme : Value → Lexeme
  | .name text => .word text.toList
  | .nothing => .optional

theorem lexed_memberText {cs : List Char} {v : Value} (h : MemberText cs v) (offset : Nat) :
    lexed offset cs = [⟨v.lexeme, offset⟩] := by
  cases h with
  | name h => rw [lexed_word offset h.ne_nil h.isWordChar, Value.lexeme, String.toList_ofList]
  | nothing => rfl

theorem readName_nameText {cs : List Char} (h : NameText cs) (offset : Nat)
    {rest : List (Located Lexeme)} (hrest : EndsValue rest) :
    Value.readName cs offset rest = .ok (.name (String.ofList cs)) := by
  unfold Value.readName
  split
  · cases hrest _ rfl
  · rw [if_pos (isValueName_iff.mpr h)]

theorem readNothing_endsValue (offset : Nat) {rest : List (Located Lexeme)}
    (hrest : EndsValue rest) : Value.readNothing offset rest = .ok .nothing := by
  unfold Value.readNothing
  split
  · cases hrest _ rfl
  · rfl

theorem readMember_memberText {cs : List Char} {v : Value} (h : MemberText cs v) (offset : Nat)
    {rest : List (Located Lexeme)} (hrest : EndsValue rest) :
    Value.readMember ⟨v.lexeme, offset⟩ rest = .ok v := by
  cases h with
  | name h =>
    simp only [Value.lexeme, String.toList_ofList]
    exact readName_nameText h offset hrest
  | nothing => exact readNothing_endsValue offset hrest

theorem read_memberText {cs : List Char} {v : Value} (h : MemberText cs v) (first : Bool)
    (stop offset : Nat) {rest : List (Located Lexeme)} (hrest : EndsValue rest) :
    Atom.read first stop (⟨v.lexeme, offset⟩ :: rest) = .ok (⟨[v], offset⟩, rest) := by
  cases h with
  | name h =>
    simp only [Value.lexeme, String.toList_ofList, Atom.read, readName_nameText h offset hrest]
    rfl
  | nothing =>
    simp only [Value.lexeme, Atom.read, readNothing_endsValue offset hrest]
    rfl

theorem readGroup_groupText {cs : List Char} {vs : List Value}
    (h : AlternativesText MemberText cs vs) (opened offset close : Nat)
    (left : List (Located Lexeme)) :
    Atom.readGroup opened (lexed offset cs ++ ⟨.closeGroup, close⟩ :: left) = .ok (vs, left) := by
  induction h generalizing offset with
  | one h =>
    rw [lexed_memberText h, List.singleton_append, Atom.readGroup,
      readMember_memberText h _ (endsValue_cons rfl)]
    rfl
  | more h _ ih =>
    rw [lexed_append_symbol _ _ _ rfl, lexed_memberText h, List.singleton_append, List.cons_append,
      List.cons_append, Atom.readGroup, readMember_memberText h _ (endsValue_cons rfl), ok_bind]
    exact bind_eq_ok_iff.mpr ⟨_, ih _, rfl⟩

theorem lexed_group (offset : Nat) (cs : List Char) : ∃ close,
    lexed offset ('(' :: (cs ++ [')'])) =
      ⟨.openGroup, offset⟩ :: (lexed (offset + 1) cs ++ [⟨.closeGroup, close⟩]) := by
  rw [lexed_symbol_cons _ _ rfl, lexed_append_symbol _ _ _ rfl]
  exact ⟨_, rfl⟩

/-- A group is read, whatever may follow it. -/
theorem read_group {cs : List Char} {vs : List Value} (h : AlternativesText MemberText cs vs)
    (first : Bool) (stop offset : Nat) (rest : List (Located Lexeme)) :
    Atom.read first stop (lexed offset ('(' :: (cs ++ [')'])) ++ rest) =
      .ok (⟨vs.eraseDups, offset⟩, rest) := by
  obtain ⟨close, hlexed⟩ := lexed_group offset cs
  rw [hlexed, List.cons_append, List.append_assoc, List.singleton_append, Atom.read,
    readGroup_groupText h]
  rfl

theorem read_atomText {cs : List Char} {vs : List Value} (h : AtomText cs vs) (first : Bool)
    (stop offset : Nat) {rest : List (Located Lexeme)} (hrest : EndsValue rest) :
    Atom.read first stop (lexed offset cs ++ rest) = .ok (⟨vs, offset⟩, rest) := by
  cases h with
  | member h =>
    rw [lexed_memberText h]
    exact read_memberText h first stop offset hrest
  | group h => exact read_group h first stop offset rest

/-- May an atom start with the lexeme? -/
def Lexeme.opensAtom : Lexeme → Bool
  | .word _ | .optional | .openGroup => true
  | _ => false

theorem lexed_atomText {cs : List Char} {vs : List Value} (h : AtomText cs vs) (offset : Nat) :
    ∃ l ls, lexed offset cs = ⟨l, offset⟩ :: ls ∧ l.opensAtom = true := by
  cases h with
  | @member cs v h =>
    refine ⟨v.lexeme, [], lexed_memberText h offset, ?_⟩
    cases v <;> rfl
  | @group cs vs h =>
    obtain ⟨close, hlexed⟩ := lexed_group offset cs
    exact ⟨_, _, hlexed, rfl⟩

theorem lexed_atomText_ne_nil {cs : List Char} {vs : List Value} (h : AtomText cs vs)
    (offset : Nat) : lexed offset cs ≠ [] := by
  obtain ⟨l, ls, hlexed, -⟩ := lexed_atomText h offset
  rw [hlexed]
  exact List.cons_ne_nil _ _

theorem lexed_atomText_ne_operator {cs : List Char} {vs : List Value} (h : AtomText cs vs)
    {offset mark : Nat} {op : Operator} {rest ls : List (Located Lexeme)} :
    lexed offset cs ++ rest ≠ ⟨.operator op, mark⟩ :: ls := by
  obtain ⟨l, ls', hlexed, hl⟩ := lexed_atomText h offset
  rw [hlexed]
  rintro ⟨⟩
  cases hl

theorem lexeme_operator (op : Operator) : (Token.ofChar op.toChar).lexeme = .operator op := by
  cases op <;> rfl

theorem isWord_lexeme_operator (op : Operator) :
    (Token.ofChar op.toChar).lexeme.isWord = false := by
  rw [lexeme_operator]
  rfl

theorem lexed_append_operator (offset : Nat) (cs : List Char) (op : Operator) (ds : List Char) :
    ∃ mark next, lexed offset (cs ++ op.toChar :: ds) =
      lexed offset cs ++ ⟨.operator op, mark⟩ :: lexed next ds := by
  rw [lexed_append_symbol _ _ _ (isWord_lexeme_operator op), lexeme_operator]
  exact ⟨_, _, rfl⟩

theorem readTarget_atomText {ds : List Char} {values : List Value} (h : AtomText ds values)
    (op : Operator) {source : Atom} {names : List String} (hsource : source.sources = .ok names)
    (stop offset : Nat) :
    SlotOption.readTarget op source stop (lexed offset ds) =
      .ok ⟨values, op.constraint names⟩ := by
  have hread := read_atomText h false stop offset endsValue_nil
  rw [List.append_nil] at hread
  unfold SlotOption.readTarget
  split
  next heq => exact absurd heq (lexed_atomText_ne_nil h offset)
  next heq =>
    rw [← List.append_nil (lexed offset ds)] at heq
    exact absurd heq (lexed_atomText_ne_operator h)
  next =>
    rw [hsource, hread, ok_bind, ok_bind]
    rfl

/-- How the reader of an option goes on behind the first atom. -/
theorem SlotOption.read_append_atomText {cs : List Char} {values : List Value}
    (h : AtomText cs values) {first : Bool} {stop offset : Nat} {rest : List (Located Lexeme)} :
    Atom.read first stop (lexed offset cs ++ rest) = .ok (⟨values, offset⟩, rest) →
      SlotOption.read first stop (lexed offset cs ++ rest) =
        match rest with
        | [] => .ok ⟨values, .unconstrained⟩
        | ⟨.operator op, mark⟩ :: rest =>
          if first then .error ⟨.constraintOnFirstSlot, mark⟩
          else SlotOption.readTarget op ⟨values, offset⟩ stop rest
        | l :: _ => .error (unexpected first l) := by
  intro hread
  unfold SlotOption.read
  split
  next heq => exact absurd heq (lexed_atomText_ne_operator h)
  next =>
    rw [hread]
    rfl

theorem read_optionText {first : Bool} {cs : List Char} {o : SlotOption}
    (h : OptionText first cs o) (stop offset : Nat) :
    SlotOption.read first stop (lexed offset cs) = .ok o := by
  cases h with
  | unconstrained h =>
    rw [← List.append_nil (lexed offset cs)]
    exact SlotOption.read_append_atomText h (read_atomText h first stop offset endsValue_nil)
  | @constrained cs ds names values op source target =>
    obtain ⟨hatom, plain⟩ := source
    obtain ⟨mark, next, hlexed⟩ := lexed_append_operator offset cs op ds
    rw [hlexed, SlotOption.read_append_atomText hatom
      (read_atomText hatom false stop offset (endsValue_cons rfl))]
    exact readTarget_atomText target op (sources_eq_ok_iff.mpr ⟨rfl, plain⟩) stop _

/-! ### Bars outside groups -/

/-- Whether a parenthesis is open behind a row of lexemes. -/
def passAll (grouped : Bool) (ls : List (Located Lexeme)) : Option Bool :=
  ls.foldlM (fun g l => l.item.pass g) grouped

theorem passAll_append (grouped : Bool) (ls rest : List (Located Lexeme)) :
    passAll grouped (ls ++ rest) = (passAll grouped ls).bind fun g => passAll g rest :=
  List.foldlM_append

theorem passAll_memberText {cs : List Char} {v : Value} (h : MemberText cs v) (grouped : Bool)
    (offset : Nat) : passAll grouped (lexed offset cs) = some grouped := by
  rw [lexed_memberText h]
  cases v <;> rfl

theorem passAll_groupText {cs : List Char} {vs : List Value}
    (h : AlternativesText MemberText cs vs) (offset : Nat) :
    passAll true (lexed offset cs) = some true := by
  induction h generalizing offset with
  | one h => exact passAll_memberText h true offset
  | more h _ ih =>
    rw [lexed_append_symbol _ _ _ rfl, passAll_append, passAll_memberText h]
    exact ih _

theorem passAll_atomText {cs : List Char} {vs : List Value} (h : AtomText cs vs) (offset : Nat) :
    passAll false (lexed offset cs) = some false := by
  cases h with
  | member h => exact passAll_memberText h false offset
  | @group cs vs h =>
    obtain ⟨close, hlexed⟩ := lexed_group offset cs
    have hgroup : passAll true (lexed (offset + 1) cs ++ [⟨.closeGroup, close⟩]) = some false := by
      rw [passAll_append, passAll_groupText h]
      rfl
    rw [hlexed]
    exact hgroup

theorem passAll_optionText {first : Bool} {cs : List Char} {o : SlotOption}
    (h : OptionText first cs o) (offset : Nat) : passAll false (lexed offset cs) = some false := by
  cases h with
  | unconstrained h => exact passAll_atomText h offset
  | @constrained cs ds names values op source target =>
    obtain ⟨hatom, _⟩ := source
    obtain ⟨mark, next, hlexed⟩ := lexed_append_operator offset cs op ds
    rw [hlexed, passAll_append, passAll_atomText hatom]
    exact passAll_atomText target next

/-- What can be passed stays together when a body is cut. -/
theorem OptionBody.cut_append (stop : Nat) {grouped after : Bool} {ls : List (Located Lexeme)}
    (h : passAll grouped ls = some after) (rest : List (Located Lexeme)) :
    OptionBody.cut stop grouped (ls ++ rest) =
      (OptionBody.cut stop after rest).modifyHead (prepend ls) := by
  induction ls generalizing grouped with
  | nil =>
    obtain rfl := Option.some.inj h
    exact (congrFun List.modifyHead_id (OptionBody.cut stop grouped rest)).symm
  | cons l ls ih =>
    obtain ⟨g, hl, hls⟩ := Option.bind_eq_some_iff.mp h
    rw [List.cons_append, cut_pass stop hl, ih hls, List.modifyHead_modifyHead]
    rfl

/-- All bars of an option are in groups, so the first cut is at the bar behind it. -/
theorem OptionBody.cut_optionText {first : Bool} {cs : List Char} {o : SlotOption}
    (h : OptionText first cs o) (stop offset : Nat) (ds : List Char) :
    OptionBody.cut stop false (lexed offset (cs ++ '|' :: ds)) =
      ⟨lexed offset cs, offset + utf8Length cs⟩ ::
        OptionBody.cut stop false (lexed (offset + utf8Length cs + 1) ds) := by
  rw [lexed_append_symbol _ _ _ rfl, cut_append stop (passAll_optionText h offset),
    show (Token.ofChar '|').lexeme = .bar from rfl, cut_bar, List.modifyHead_cons, prepend,
    List.append_nil]
  rfl

theorem mapM_read_bodyText {first : Bool} {cs : List Char} {os : List SlotOption}
    (h : BodyText first cs os) (stop offset : Nat) :
    (OptionBody.cut stop false (lexed offset cs)).mapM
      (fun b => SlotOption.read first b.stop b.lexemes) = .ok os := by
  induction h generalizing offset with
  | @one cs o h =>
    have hcut : OptionBody.cut stop false (lexed offset cs) = [⟨lexed offset cs, stop⟩] := by
      rw [← List.append_nil (lexed offset cs),
        OptionBody.cut_append stop (passAll_optionText h offset)]
      rfl
    rw [hcut, List.mapM_cons, read_optionText h, List.mapM_nil]
    rfl
  | @more cs ds o os h _ ih =>
    rw [OptionBody.cut_optionText h, List.mapM_cons, read_optionText h, ih, ok_bind, ok_bind]
    rfl

/-- A slot is read from exactly the texts of its grammar. -/
theorem read_eq_ok_iff {first : Bool} {stop offset : Nat} {cs : List Char} {s : Slot} :
    Slot.read first stop (lexed offset cs) = .ok s ↔ BodyText first cs s.options := by
  constructor
  · intro h
    rw [← spelling_lexed offset cs]
    exact bodyText_of_read h
  · intro h
    exact bind_eq_ok_iff.mpr ⟨s.options, mapM_read_bodyText h stop offset, rfl⟩

end SlotPattern
