import SlotPattern.Proofs.FaultPlaces
import SlotPattern.Proofs.FirstOccurrences

/-!
# Where faults of options and slots are reported

What keeps an option from being read is reported at one of its lexemes, or at the bar or the closing
brace that ends it. The one exception is a source in a group: it is reported at the opening
parenthesis of the group. A slot has the fault of its first option that cannot be read.
-/

namespace SlotPattern

open Grammar

variable {e : ParseError} {stop : Nat} {ls rest : List (Located Lexeme)}

/-! ### Sources -/

/-- Is the value a plain identifier? -/
def Value.isPlain (v : Value) : Bool :=
  Name.isIdentifier v.text

theorem Value.toList_toString (v : Value) : (toString v).toList = v.text :=
  String.toList_ofList

theorem Value.source_of_not_isPlain {v : Value} (h : v.isPlain = false) (offset : Nat) :
    v.source offset = .error ⟨.invalidIdentifier (toString v), offset⟩ := by
  cases v with
  | nothing => rfl
  | name text =>
    rw [isPlain, Value.text] at h
    rw [source, h, if_neg Bool.false_ne_true]
    simp [toString, Value.text]

theorem Value.exists_source_of_isPlain {v : Value} (h : v.isPlain = true) (offset : Nat) :
    ∃ name, v.source offset = .ok name := by
  cases v with
  | nothing => cases h
  | name text => exact ⟨text, if_pos h⟩

/-- The first value of an atom that is no plain identifier is no source. -/
theorem sources_eq_error {a : Atom} (h : a.sources = .error e) :
    ∃ v, a.values.find? (fun v => !v.isPlain) = some v ∧
      e = ⟨.invalidIdentifier (toString v), a.offset⟩ := by
  obtain ⟨values, offset⟩ := a
  simp only [Atom.sources] at h
  induction values with
  | nil => cases h
  | cons v values ih =>
    cases hplain : v.isPlain with
    | false =>
      rw [List.mapM_cons, Value.source_of_not_isPlain hplain] at h
      cases h
      exact ⟨v, by simp [hplain], rfl⟩
    | true =>
      obtain ⟨name, hname⟩ := Value.exists_source_of_isPlain hplain offset
      rw [mapM_cons_eq_error_of_ok hname] at h
      obtain ⟨w, hw, he⟩ := ih h
      exact ⟨w, by simpa [hplain] using hw, he⟩

/-- The text of a group and the operator behind it. The value is the first member of the group that
is no plain identifier. -/
inductive Grammar.ImproperSource : List Char → Value → Prop
  | intro {group rest : List Char} {members : List Value} {v : Value} {op : Operator}
      (h : AlternativesText MemberText group members)
      (hv : members.find? (fun v => !v.isPlain) = some v) :
      ImproperSource ('(' :: (group ++ ')' :: op.toChar :: rest)) v

theorem Grammar.ImproperSource.exists_cons {cs : List Char} {v : Value} (h : ImproperSource cs v) :
    ∃ rest, cs = '(' :: rest := by
  obtain ⟨-, -⟩ := h
  exact ⟨_, rfl⟩

theorem Grammar.ImproperSource.append {cs : List Char} {v : Value} (h : ImproperSource cs v)
    (ds : List Char) : ImproperSource (cs ++ ds) v := by
  obtain ⟨h, hv⟩ := h
  rw [List.cons_append, List.append_assoc, List.cons_append, List.cons_append]
  exact .intro h hv

/-! ### Options -/

/-- What keeps an option that ends at `stop` from being read, and the error that is reported. -/
inductive OptionFault (first : Bool) (stop : Nat) : List (Located Lexeme) → ParseError → Prop
  | noSource {op : Operator} {offset : Nat} {rest : List (Located Lexeme)} :
      OptionFault first stop (⟨.operator op, offset⟩ :: rest)
        ⟨if first then .constraintOnFirstSlot else .danglingConstraint, offset⟩
  | atom {ls : List (Located Lexeme)} {e : ParseError}
      (hls : ∀ op offset rest, ls ≠ ⟨.operator op, offset⟩ :: rest)
      (h : Atom.read first stop ls = .error e) : OptionFault first stop ls e
  | unexpected {ls rest : List (Located Lexeme)} {a : Atom} {l : Located Lexeme}
      (h : Atom.read first stop ls = .ok (a, l :: rest)) (hl : ∀ op, l.item ≠ .operator op) :
      OptionFault first stop ls (unexpected first l)
  | firstSlot {ls rest : List (Located Lexeme)} {a : Atom} {op : Operator} {offset : Nat}
      (hfirst : first = true)
      (h : Atom.read first stop ls = .ok (a, ⟨.operator op, offset⟩ :: rest)) :
      OptionFault first stop ls ⟨.constraintOnFirstSlot, offset⟩
  | constraint {ls rest : List (Located Lexeme)} {a : Atom} {op : Operator} {offset : Nat}
      {e : ParseError} (hfirst : first = false)
      (h : Atom.read first stop ls = .ok (a, ⟨.operator op, offset⟩ :: rest))
      (htarget : SlotOption.readTarget op a stop rest = .error e) : OptionFault first stop ls e

theorem OptionFault.of_read {first : Bool} (h : SlotOption.read first stop ls = .error e) :
    OptionFault first stop ls e := by
  unfold SlotOption.read at h
  split at h
  next op offset rest =>
    cases h
    exact .noSource
  next hls =>
    rcases bind_eq_error_iff.mp h with h | ⟨⟨a, left⟩, ha, h⟩
    · exact .atom hls h
    dsimp only at h
    split at h
    · cases h
    next op offset rest =>
      split at h
      next hfirst =>
        cases h
        exact .firstSlot hfirst ha
      next hfirst => exact .constraint (Bool.eq_false_iff.mpr hfirst) ha h
    next l rest hl =>
      cases h
      exact .unexpected ha fun op hitem => hl op l.offset (by rw [← hitem])

theorem readTarget_eq_error {op : Operator} {source : Atom} {after : Bool}
    (h : SlotOption.readTarget op source stop rest = .error e)
    (hpass : passAll false rest = some after) :
    source.sources = .error e ∨ (e.PointsUpTo stop rest ∧ e.fault ≠ .constraintOnFirstSlot) := by
  unfold SlotOption.readTarget at h
  split at h
  · cases h
    exact .inr ⟨.inr ⟨rfl, .inr rfl⟩, nofun⟩
  next op' offset rest =>
    cases h
    exact .inr ⟨.inl (.head ⟨op', rfl⟩), nofun⟩
  next hrest =>
    rcases bind_eq_error_iff.mp h with h | ⟨names, -, h⟩
    · exact .inl h
    rcases bind_eq_error_iff.mp h with h | ⟨⟨target, left⟩, htarget, h⟩
    · obtain ⟨hpoints, hhead⟩ := Atom.read_eq_error h
      refine .inr ⟨hpoints, fun hfault => ?_⟩
      obtain ⟨op', offset, rest, rfl⟩ := hhead hfault
      exact hrest op' offset rest rfl
    dsimp only at h
    split at h
    · cases h
    next l left =>
      cases h
      refine .inr ⟨.inl (unexpected_pointsInto_of_read htarget hpass), ?_⟩
      obtain ⟨item, offset⟩ := l
      cases item <;> exact nofun

theorem Value.text_lexeme (v : Value) : v.lexeme.text = v.text := by
  cases v <;> rfl

/-- A bad source is the text at which it is reported, or a member of the group there. -/
theorem source_eq_error {first : Bool} {offset mark : Nat} {cs : List Char} {a : Atom}
    {op : Operator}
    (h : Atom.read first stop (lexed offset cs) = .ok (a, ⟨.operator op, mark⟩ :: rest))
    (hsource : a.sources = .error e) :
    e.PointsInto (lexed offset cs) ∨
      ∃ v, ImproperSource cs v ∧ e = ⟨.invalidIdentifier (toString v), offset⟩ := by
  obtain ⟨v, hv, rfl⟩ := sources_eq_error hsource
  obtain ⟨as, bs, rfl, hatom, hoffset, hbs⟩ := Atom.read_lexed_eq_ok h
  obtain ⟨ds, rfl, -⟩ := exists_cons_of_lexed_eq_operator hbs.symm
  rw [hoffset]
  generalize a.values = values at hatom hv
  cases hatom with
  | @member _ w hmember =>
    obtain ⟨hplain, rfl⟩ : w.isPlain = false ∧ w = v := by
      rw [List.find?_singleton] at hv
      split at hv
      next hw => exact ⟨by simpa using hw, Option.some.inj hv⟩
      next => cases hv
    obtain ⟨mark, next, hlexed⟩ := lexed_append_operator offset as op ds
    rw [hlexed, lexed_memberText hmember]
    refine .inl (.head ⟨?_, ?_, ?_⟩)
    · cases w <;> rfl
    · rw [Value.toList_toString]
      exact hplain
    · rw [Value.toList_toString, Value.text_lexeme]
      exact List.prefix_append _ _
  | @group group members hgroup =>
    rw [find?_eraseDups] at hv
    refine .inr ⟨v, ?_, rfl⟩
    rw [List.cons_append, List.append_assoc, List.singleton_append]
    exact .intro hgroup hv

/-- A fault of an option is reported at one of its lexemes or at its end, or it is a source in a
group at its start. -/
theorem SlotOption.read_eq_error {first after : Bool} {offset : Nat} {cs : List Char}
    (h : SlotOption.read first stop (lexed offset cs) = .error e)
    (hpass : passAll false (lexed offset cs) = some after) :
    e.PointsUpTo stop (lexed offset cs) ∨
      (first = false ∧
        ∃ v, ImproperSource cs v ∧ e = ⟨.invalidIdentifier (toString v), offset⟩) := by
  have hfault := OptionFault.of_read h
  clear h
  generalize hls : lexed offset cs = ls at hfault hpass ⊢
  cases hfault with
  | @noSource op _ rest =>
    refine .inl (.inl (.head ?_))
    cases first
    · exact .inr ⟨op, rfl⟩
    · exact ⟨op, rfl⟩
  | atom _ h => exact .inl (Atom.read_eq_error h).1
  | unexpected h _ => exact .inl (.inl (unexpected_pointsInto_of_read h hpass))
  | firstSlot hfirst h =>
    subst hfirst
    exact .inl (.inl (unexpected_pointsInto_of_read h hpass))
  | @constraint _ rest a op mark _ hfirst h htarget =>
    have hleft := Atom.passAll_left h hpass
    have hrest : passAll false rest = some after := hleft
    rcases readTarget_eq_error htarget hrest with hsource | ⟨hpoints, -⟩
    · subst hls
      exact (source_eq_error h hsource).imp .inl (⟨hfirst, ·⟩)
    · exact .inl (hpoints.mono ((List.suffix_cons _ _).isInfix.trans (Atom.left_part h)))

/-! ### Slots -/

/-- The lexemes of an option are a part of those of the body. -/
theorem lexed_option_part {first : Bool} {lead option rest : List Char}
    (hlead : OptionStart first lead) (hrest : rest = [] ∨ ∃ ds, rest = '|' :: ds) (offset : Nat) :
    lexed (offset + utf8Length lead) option <:+: lexed offset (lead ++ (option ++ rest)) := by
  have hprefix : lexed (offset + utf8Length lead) option <+:
      lexed (offset + utf8Length lead) (option ++ rest) := by
    rcases hrest with rfl | ⟨ds, rfl⟩
    · exact (List.append_nil option).symm ▸ List.prefix_rfl
    · rw [lexed_append_symbol _ _ _ rfl]
      exact List.prefix_append _ _
  refine hprefix.isInfix.trans (List.IsSuffix.isInfix ?_)
  cases hlead with
  | opening => exact List.suffix_rfl
  | @bar ds os =>
    rw [List.append_assoc, List.singleton_append, lexed_append_symbol _ _ _ rfl, utf8Length_append,
      ← Nat.add_assoc]
    exact (List.suffix_cons _ _).trans (List.suffix_append _ _)

/-- A fault of a slot's body is reported at one of its lexemes or at the closing brace, or it is a
source in a group at which an option starts. -/
theorem Slot.read_eq_error {first : Bool} {offset : Nat} {cs : List Char}
    (h : Slot.read first stop (lexed offset cs) = .error e) :
    e.PointsUpTo stop (lexed offset cs) ∨
      (first = false ∧ ∃ lead after v, cs = lead ++ after ∧ OptionStart false lead ∧
        ImproperSource after v ∧
        e = ⟨.invalidIdentifier (toString v), offset + utf8Length lead⟩) := by
  obtain ⟨lead, option, rest, stop', rfl, hlead, ⟨after, hpass⟩, hends, hread⟩ :=
    Slot.exists_option_of_read_eq_error h
  have hrest : rest = [] ∨ ∃ ds, rest = '|' :: ds := hends.imp And.left And.left
  rcases SlotOption.read_eq_error hread hpass with (hpoints | ⟨hoffset, hfault⟩) | ⟨rfl, v, hv, rfl⟩
  · exact .inl (.inl (hpoints.mono (lexed_option_part hlead hrest offset)))
  · rcases hends with ⟨-, rfl⟩ | ⟨⟨ds, rfl⟩, rfl⟩
    · exact .inl (.inr ⟨hoffset, hfault⟩)
    · refine .inl (.inl ?_)
      rw [← List.append_assoc, lexed_append_symbol _ _ _ rfl]
      refine ⟨_, _, _, rfl, hoffset, ?_⟩
      rcases hfault with hfault | hfault <;> rw [hfault]
      · exact rfl
      · exact .inl rfl
  · exact .inr ⟨rfl, lead, option ++ rest, v, rfl, hlead, hv.append rest, rfl⟩

/-- Within the body of a slot no slot is reported as open, nor a brace as one too many. -/
theorem Slot.fault_ne_of_read_eq_error {first : Bool} {offset : Nat} {cs : List Char}
    (hcs : BraceFree cs) (h : Slot.read first stop (lexed offset cs) = .error e) :
    e.fault ≠ .unterminatedSlot ∧ e.fault ≠ .unmatchedBrace := by
  rcases Slot.read_eq_error h with (hpoints | ⟨-, hfault⟩) | ⟨-, _, _, v, -, -, -, rfl⟩
  · obtain ⟨before, c, after, item, behind, rfl, -, -, hchar, hfault⟩ := hpoints.exists_char
    obtain ⟨hopen, hclose⟩ := hcs c (List.mem_append_right _ List.mem_cons_self)
    constructor <;> intro heq <;> rw [heq] at hfault
    · rcases hfault with rfl | rfl
      · exact hopen (hchar.eq_of_text rfl rfl)
      · exact hclose (hchar.eq_of_text rfl rfl)
    · exact hfault
  · rcases hfault with hfault | hfault <;> rw [hfault] <;> exact ⟨nofun, nofun⟩
  · exact ⟨nofun, nofun⟩

end SlotPattern
