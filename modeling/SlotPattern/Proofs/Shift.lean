import SlotPattern.Proofs.Scan

/-!
# Texts that stand further on

A text that starts some bytes further on has its tokens and lexemes, and the errors that are found
in it, that many bytes further on. Every reader commutes with this shift, and the values that it
returns are the same.
-/

namespace SlotPattern

variable {α α' β β' : Type} (d : Nat)

/-! ### What is shifted -/

/-- The same item, `d` bytes further on. -/
def Located.shift (l : Located α) : Located α := ⟨l.item, l.offset + d⟩

@[simp] theorem Located.shift_mk (a : α) (offset : Nat) :
    Located.shift d ⟨a, offset⟩ = ⟨a, offset + d⟩ := rfl

@[simp] theorem Located.item_shift (l : Located α) : (l.shift d).item = l.item := rfl

/-- The same error, `d` bytes further on. -/
def ParseError.shift (e : ParseError) : ParseError := ⟨e.fault, e.offset + d⟩

/-- The same atom, `d` bytes further on. -/
def Atom.shift (a : Atom) : Atom := ⟨a.values, a.offset + d⟩

/-- The same option, `d` bytes further on. -/
def OptionBody.shift (b : OptionBody) : OptionBody := ⟨b.lexemes.map (.shift d), b.stop + d⟩

/-- The result of a reader, `d` bytes further on: `f` shifts a value, and errors are shifted. -/
def shiftResult (f : α → α') : Except ParseError α → Except ParseError α'
  | .ok a => .ok (f a)
  | .error e => .error (e.shift d)

@[simp] theorem shiftResult_ok (f : α → α') (a : α) : shiftResult d f (.ok a) = .ok (f a) := rfl

@[simp] theorem shiftResult_error (f : α → α') (e : ParseError) :
    shiftResult d f (.error e) = .error (e.shift d) := rfl

/-- If two readers commute with the shift, so do both in sequence. -/
theorem bind_shift {x : Except ParseError α} {x' : Except ParseError α'} {f : α → α'}
    {g : β → β'} {h : α → Except ParseError β} {h' : α' → Except ParseError β'}
    (hx : x' = shiftResult d f x) (hh : ∀ a, h' (f a) = shiftResult d g (h a)) :
    x' >>= h' = shiftResult d g (x >>= h) := by
  subst hx
  cases x with
  | ok a => exact hh a
  | error e => rfl

theorem mapM_shift {f : α → α'} {h : α → Except ParseError β} {h' : α' → Except ParseError β}
    (hh : ∀ a, h' (f a) = shiftResult d id (h a)) (as : List α) :
    (as.map f).mapM h' = shiftResult d id (as.mapM h) := by
  induction as with
  | nil => rfl
  | cons a as ih =>
    rw [List.map_cons, List.mapM_cons, List.mapM_cons]
    exact bind_shift d (hh a) fun b => bind_shift d ih fun bs => rfl

/-! ### Tokens and lexemes -/

theorem tokensFrom_shift (offset : Nat) (cs : List Char) :
    tokensFrom (offset + d) cs = (tokensFrom offset cs).map (.shift d) := by
  induction cs generalizing offset with
  | nil => rfl
  | cons c cs ih =>
    rw [tokensFrom_cons, tokensFrom_cons, Nat.add_right_comm, ih]
    rfl

theorem attach_shift (l : Located Lexeme) (ls : List (Located Lexeme)) :
    Lexeme.attach (l.shift d) (ls.map (.shift d)) = (Lexeme.attach l ls).map (.shift d) := by
  obtain ⟨item, offset⟩ := l
  cases item with
  | word text =>
    cases ls with
    | nil => rfl
    | cons l ls =>
      obtain ⟨item, _⟩ := l
      cases item <;> rfl
  | _ => rfl

theorem lexemes_shift (ts : List (Located Token)) :
    lexemes (ts.map (.shift d)) = (lexemes ts).map (.shift d) := by
  induction ts with
  | nil => rfl
  | cons t ts ih =>
    rw [List.map_cons, lexemes_cons, lexemes_cons, ih, ← attach_shift]
    rfl

theorem lexed_shift (offset : Nat) (cs : List Char) :
    lexed (offset + d) cs = (lexed offset cs).map (.shift d) := by
  rw [lexed, tokensFrom_shift, lexemes_shift, lexed]

/-! ### Values, groups and atoms -/

theorem readName_shift (text : List Char) (offset : Nat) (rest : List (Located Lexeme)) :
    Value.readName text (offset + d) (rest.map (.shift d)) =
      shiftResult d id (Value.readName text offset rest) := by
  cases rest with
  | nil =>
    simp only [List.map_nil, Value.readName]
    split <;> rfl
  | cons l rest =>
    obtain ⟨item, _⟩ := l
    cases item with
    | optional => rfl
    | _ =>
      simp only [List.map_cons, Located.shift_mk, Value.readName]
      split <;> rfl

theorem readNothing_shift (offset : Nat) (rest : List (Located Lexeme)) :
    Value.readNothing (offset + d) (rest.map (.shift d)) =
      shiftResult d id (Value.readNothing offset rest) := by
  cases rest with
  | nil => rfl
  | cons l rest =>
    obtain ⟨item, _⟩ := l
    cases item <;> rfl

theorem readMember_shift (l : Located Lexeme) (rest : List (Located Lexeme)) :
    Value.readMember (l.shift d) (rest.map (.shift d)) =
      shiftResult d id (Value.readMember l rest) := by
  obtain ⟨item, offset⟩ := l
  cases item with
  | word text => exact readName_shift d text offset rest
  | optional => exact readNothing_shift d offset rest
  | _ => rfl

theorem readGroup_shift (opened : Nat) (ls : List (Located Lexeme)) :
    Atom.readGroup (opened + d) (ls.map (.shift d)) =
      shiftResult d (Prod.map id (List.map (.shift d))) (Atom.readGroup opened ls) := by
  match ls with
  | [] => rfl
  | l :: rest =>
    rw [List.map_cons, Atom.readGroup, Atom.readGroup]
    refine bind_shift d (readMember_shift d l rest) fun v => ?_
    cases rest with
    | nil => rfl
    | cons l more =>
      obtain ⟨item, _⟩ := l
      cases item with
      | bar => exact bind_shift d (readGroup_shift opened more) fun _ => rfl
      | _ => rfl
termination_by ls.length

theorem unexpected_shift (first : Bool) (l : Located Lexeme) :
    unexpected first (l.shift d) = (unexpected first l).shift d := by
  obtain ⟨item, offset⟩ := l
  cases item <;> rfl

theorem Atom.read_shift (first : Bool) (stop : Nat) (ls : List (Located Lexeme)) :
    Atom.read first (stop + d) (ls.map (.shift d)) =
      shiftResult d (Prod.map (.shift d) (List.map (.shift d))) (Atom.read first stop ls) := by
  match ls with
  | [] => rfl
  | ⟨.openGroup, offset⟩ :: rest => exact bind_shift d (readGroup_shift d offset rest) fun _ => rfl
  | ⟨.word text, offset⟩ :: rest =>
    exact bind_shift d (readName_shift d text offset rest) fun _ => rfl
  | ⟨.optional, offset⟩ :: rest =>
    exact bind_shift d (readNothing_shift d offset rest) fun _ => rfl
  | ⟨.closeGroup, _⟩ :: _ | ⟨.bar, _⟩ :: _ | ⟨.operator _, _⟩ :: _ | ⟨.escape, _⟩ :: _
  | ⟨.openSlot, _⟩ :: _ | ⟨.closeSlot, _⟩ :: _ => rfl

theorem source_shift (offset : Nat) (v : Value) :
    v.source (offset + d) = shiftResult d id (v.source offset) := by
  cases v with
  | nothing => rfl
  | name text =>
    rw [Value.source, Value.source]
    split <;> rfl

theorem sources_shift (a : Atom) : (a.shift d).sources = shiftResult d id a.sources := by
  rw [Atom.sources, ← List.map_id (a.shift d).values]
  exact mapM_shift d (source_shift d a.offset) a.values

/-! ### Options and slots -/

theorem readTarget_shift (op : Operator) (source : Atom) (stop : Nat)
    (rest : List (Located Lexeme)) :
    SlotOption.readTarget op (source.shift d) (stop + d) (rest.map (.shift d)) =
      shiftResult d id (SlotOption.readTarget op source stop rest) := by
  -- The end of the option and a second operator are refused before the sources are looked at.
  match rest with
  | [] | ⟨.operator _, _⟩ :: _ => rfl
  | ⟨.word _, _⟩ :: _ | ⟨.optional, _⟩ :: _ | ⟨.openGroup, _⟩ :: _ | ⟨.closeGroup, _⟩ :: _
  | ⟨.bar, _⟩ :: _ | ⟨.escape, _⟩ :: _ | ⟨.openSlot, _⟩ :: _ | ⟨.closeSlot, _⟩ :: _ =>
    refine bind_shift d (sources_shift d source) fun names => ?_
    refine bind_shift d (Atom.read_shift d false stop _) fun (target, left) => ?_
    cases left with
    | nil => rfl
    | cons l left => exact congrArg Except.error (unexpected_shift d false l)

theorem SlotOption.read_shift (first : Bool) (stop : Nat) (ls : List (Located Lexeme)) :
    SlotOption.read first (stop + d) (ls.map (.shift d)) =
      shiftResult d id (SlotOption.read first stop ls) := by
  match ls with
  | ⟨.operator _, _⟩ :: _ => rfl
  | [] | ⟨.word _, _⟩ :: _ | ⟨.optional, _⟩ :: _ | ⟨.openGroup, _⟩ :: _ | ⟨.closeGroup, _⟩ :: _
  | ⟨.bar, _⟩ :: _ | ⟨.escape, _⟩ :: _ | ⟨.openSlot, _⟩ :: _ | ⟨.closeSlot, _⟩ :: _ =>
    refine bind_shift d (Atom.read_shift d first stop _) fun (a, rest) => ?_
    cases rest with
    | nil => rfl
    | cons l rest =>
      obtain ⟨item, offset⟩ := l
      cases item with
      | operator op =>
        cases first with
        | true => rfl
        | false => exact readTarget_shift d op a stop rest
      | _ => exact congrArg Except.error (unexpected_shift d first _)

theorem cut_shift (stop : Nat) (grouped : Bool) (ls : List (Located Lexeme)) :
    OptionBody.cut (stop + d) grouped (ls.map (.shift d)) =
      (OptionBody.cut stop grouped ls).map (.shift d) := by
  induction ls generalizing grouped with
  | nil => rfl
  | cons l ls ih =>
    cases hpass : l.item.pass grouped with
    | none =>
      obtain ⟨item, offset⟩ := l
      obtain ⟨rfl, rfl⟩ := Lexeme.eq_bar_of_pass_eq_none hpass
      rw [List.map_cons, Located.shift_mk, OptionBody.cut_bar, OptionBody.cut_bar, ih]
      rfl
    | some after =>
      have hshift : (l.shift d).item.pass grouped = some after := hpass
      rw [List.map_cons, OptionBody.cut_pass _ hshift, OptionBody.cut_pass _ hpass, ih]
      cases OptionBody.cut stop after ls <;> rfl

/-- A slot is read the same wherever it stands. -/
theorem Slot.read_shift (first : Bool) (stop : Nat) (ls : List (Located Lexeme)) :
    Slot.read first (stop + d) (ls.map (.shift d)) =
      shiftResult d id (Slot.read first stop ls) := by
  rw [Slot.read, cut_shift]
  exact bind_shift d (mapM_shift d (fun b => SlotOption.read_shift d first b.stop b.lexemes) _)
    fun _ => rfl

end SlotPattern
