import SlotPattern.Proofs.Meaning

/-!
# Rendered text

A chosen name is rendered between braces, which is also how a slot is written that offers this name
alone. So rendered text can be compiled again, unless a brace of the literal text has come out
without its backslash. Whatever the slots of the new pattern draw, it renders the same text.
-/

namespace SlotPattern

open Grammar Name

/-! ### Texts item by item -/

/-- The characters of an item, with a backslash before a brace of literal text. -/
def Item.text : Item → List Char
  | .char c => literalCharText c
  | .slot s => s.text

theorem Segment.flatMap_text_items (segment : Segment) :
    segment.items.flatMap Item.text = segment.text := by
  cases segment with
  | literal text => rw [items, List.flatMap_map]; rfl
  | slot s => rw [items, List.flatMap_singleton]; rfl

theorem Pattern.flatMap_text_items (p : Pattern) : p.items.flatMap Item.text = p.text := by
  rw [items, List.flatMap_assoc]
  exact List.flatMap_congr fun segment _ => segment.flatMap_text_items

/-! ### Slots that offer a single name -/

namespace Slot

/-- The slot that offers one name, without a constraint. -/
def only (name : String) : Slot := ⟨[⟨[.name name], .unconstrained⟩]⟩

theorem unconstrained_only (name : String) : (only name).Unconstrained := by
  intro o ho
  rw [List.mem_singleton.mp ho]
  rfl

theorem wellFormed_only {name : String} (h : NameText name.toList) : (only name).WellFormed where
  options_ne_nil := List.cons_ne_nil _ _
  options o ho := by
    obtain rfl := List.mem_singleton.mp ho
    refine ⟨List.cons_ne_nil _ _, List.nodup_singleton _, ?_, ?_, List.nodup_nil, ?_⟩
    · intro text htext
      rw [Value.name.inj (List.mem_singleton.mp htext)]
      exact h
    · intro hconstrained
      cases hconstrained
    · exact List.forall_mem_nil _

theorem text_only (name : String) : (only name).text = '{' :: (name.toList ++ ['}']) := by
  simp [text, only, SlotOption.text, Constraint.text, Value.text, atomText, alternatives]

theorem candidates_only (name : String) (h : History) (lookback : Lookback) :
    (only name).candidates h lookback = [.name name] := by
  simp [candidates, eligible, only, Constraint.isEligible, List.eraseDups_cons]

end Slot

/-! ### What rendered text is read as -/

/-- The items that the rendered text of a piece is read as. -/
def Piece.items : Piece → List Item
  | .literal text => text.toList.map .char
  | .value name => [.slot (.only name)]
  | .nothing => []

/-- The pattern that the rendered text of a row of pieces is read as. -/
def Pattern.ofPieces (pieces : List Piece) : Pattern :=
  .ofItems (pieces.flatMap Piece.items)

/-- Can the item be written and read again, wherever it stands? -/
def Item.Readable : Item → Prop
  | .char c => IsPlain c
  | .slot s => s.WellFormed ∧ s.Unconstrained

/-- Pieces whose rendered text can be read again. -/
def Readable (pieces : List Piece) : Prop :=
  ∀ item ∈ pieces.flatMap Piece.items, item.Readable

theorem readable_nil : Readable [] := List.forall_mem_nil _

theorem readable_cons {piece : Piece} {pieces : List Piece} :
    Readable (piece :: pieces) ↔ (∀ item ∈ piece.items, item.Readable) ∧ Readable pieces := by
  rw [Readable, List.flatMap_cons, List.forall_mem_append]
  rfl

theorem Piece.flatMap_text_items {piece : Piece} (h : ∀ item ∈ piece.items, item.Readable) :
    piece.items.flatMap Item.text = piece.render.toList := by
  cases piece with
  | literal text =>
    have hplain : ∀ c ∈ text.toList, literalCharText c = [c] := by
      intro c hc
      obtain ⟨hopen, hclose, -⟩ : IsPlain c := h _ (List.mem_map_of_mem hc)
      exact if_neg (not_or.mpr ⟨hopen, hclose⟩)
    rw [items, List.flatMap_map]
    exact (List.flatMap_congr hplain).trans (List.flatMap_singleton' _)
  | value name =>
    rw [items, List.flatMap_singleton, render, String.toList_append, String.toList_append]
    exact Slot.text_only name
  | nothing => rfl

theorem Readable.flatMap_text_items {pieces : List Piece} (h : Readable pieces) :
    (pieces.flatMap Piece.items).flatMap Item.text = (render pieces).toList := by
  rw [List.flatMap_assoc, render, String.toList_join, List.flatMap_map]
  refine List.flatMap_congr fun piece hpiece => Piece.flatMap_text_items fun item hitem => ?_
  exact h item (List.mem_flatMap.mpr ⟨piece, hpiece, hitem⟩)

namespace Pattern

variable {pieces : List Piece}

theorem items_ofPieces (pieces : List Piece) :
    (ofPieces pieces).items = pieces.flatMap Piece.items :=
  items_ofItems _

/-- The slots are those of the chosen names. -/
theorem slots_ofPieces (pieces : List Piece) :
    (ofPieces pieces).slots = (chosenNames pieces).map Slot.only := by
  rw [← filterMap_slot_items, items_ofPieces]
  induction pieces with
  | nil => rfl
  | cons piece pieces ih =>
    rw [List.flatMap_cons, List.filterMap_append, ih]
    cases piece with
    | literal text =>
      rw [Piece.items, Item.filterMap_slot?_chars]
      rfl
    | value name => rfl
    | nothing => rfl

theorem toString_ofPieces (h : Readable pieces) : toString (ofPieces pieces) = render pieces := by
  apply String.toList_injective
  rw [toList_toString, ← flatMap_text_items, items_ofPieces, h.flatMap_text_items]

theorem wellFormed_ofPieces (h : Readable pieces) : (ofPieces pieces).WellFormed := by
  rw [Readable, ← items_ofPieces] at h
  refine wellFormed_of_items (merged_ofItems _) ?_ ?_ ?_
  · intro hescape
    have hplain : IsPlain '\\' := h _ hescape
    exact hplain.2.2 rfl
  · intro s hs
    exact (h _ hs).1
  · intro s hs
    obtain ⟨item, hitem, hslot⟩ := List.mem_filterMap.mp (List.mem_of_mem_head? hs)
    cases item with
    | char c => cases hslot
    | slot s' =>
      cases hslot
      exact (h _ hitem).2

theorem compile_render (h : Readable pieces) : compile (render pieces) = .ok (ofPieces pieces) := by
  rw [← toString_ofPieces h]
  exact compile_text (wellFormed_ofPieces h)

end Pattern

/-! ### The pieces of a run -/

section Run

variable {lookback : Lookback}

/-- Can every piece that the segment becomes be read again? -/
def Segment.Readable : Segment → Prop
  | .literal text => ∀ c ∈ text.toList, IsPlain c
  | .slot s => s.WellFormed

theorem Becomes.readable {drawn : List Value} {segments : List Segment} {pieces : List Piece}
    (h : Becomes lookback drawn segments pieces) (hread : ∀ segment ∈ segments, segment.Readable) :
    Readable pieces := by
  induction h with
  | nil => exact readable_nil
  | @literal drawn text segments pieces _ ih =>
    obtain ⟨hplain, hread⟩ := List.forall_mem_cons.mp hread
    refine readable_cons.mpr ⟨?_, ih hread⟩
    intro item hitem
    obtain ⟨c, hc, rfl⟩ := List.mem_map.mp hitem
    exact hplain c hc
  | @draw drawn s o v segments pieces ho _ hv _ ih =>
    obtain ⟨hwell, hread⟩ := List.forall_mem_cons.mp hread
    refine readable_cons.mpr ⟨?_, ih hread⟩
    intro item hitem
    cases v with
    | nothing => cases hitem
    | name text =>
      obtain rfl := List.mem_singleton.mp hitem
      have hname := (hwell.options o ho).names text hv
      exact ⟨Slot.wellFormed_only hname, Slot.unconstrained_only text⟩
  | empty _ _ ih =>
    obtain ⟨-, hread⟩ := List.forall_mem_cons.mp hread
    exact readable_cons.mpr ⟨List.forall_mem_nil _, ih hread⟩

/-- Slots that offer a single name take it, so the pieces have the items of the segments. -/
theorem flatMap_items_resolveFrom {segments : List Segment}
    (honly : ∀ s, .slot s ∈ segments → ∃ name, s = .only name) (h : History) (w : Words) :
    (resolveFrom lookback segments h w).1.flatMap Piece.items =
      segments.flatMap Segment.items := by
  induction segments generalizing h w with
  | nil => rfl
  | cons segment segments ih =>
    have hrest := ih fun s hs => honly s (List.mem_cons_of_mem segment hs)
    cases segment with
    | literal text =>
      rw [resolveFrom_literal, Prod.map_fst, List.flatMap_cons, List.flatMap_cons, hrest]
      rfl
    | slot s =>
      obtain ⟨name, rfl⟩ := honly s List.mem_cons_self
      have hcandidates := Slot.candidates_only name h lookback
      obtain ⟨v, hv, left, hpick⟩ :=
        Words.exists_pick_eq_some (hcandidates ▸ List.cons_ne_nil _ _) w
      rw [hcandidates, List.mem_singleton] at hv
      rw [resolveFrom_draw hpick, Prod.map_fst, List.flatMap_cons, List.flatMap_cons, hrest, hv]
      rfl

end Run

namespace Pattern

theorem render_resolve_ofPieces {pieces : List Piece} (h : Readable pieces) (lookback : Lookback)
    (w : Words) : render ((ofPieces pieces).resolve lookback w).1 = render pieces := by
  have honly : ∀ s, .slot s ∈ (ofPieces pieces).segments → ∃ name, s = .only name := by
    intro s hs
    have hslot : s ∈ (ofPieces pieces).slots := List.mem_filterMap.mpr ⟨_, hs, rfl⟩
    rw [slots_ofPieces] at hslot
    obtain ⟨name, -, rfl⟩ := List.mem_map.mp hslot
    exact ⟨name, rfl⟩
  -- The new pieces have the items of the old ones, though literal text may be cut otherwise.
  have hitems : ((ofPieces pieces).resolve lookback w).1.flatMap Piece.items =
      pieces.flatMap Piece.items :=
    (flatMap_items_resolveFrom honly .empty w).trans (items_ofPieces pieces)
  have hnew : Readable ((ofPieces pieces).resolve lookback w).1 := by
    rw [Readable, hitems]
    exact h
  rw [← toString_ofPieces hnew, ← toString_ofPieces h, ofPieces, hitems, ofPieces]

/-- The rendered text of a run compiles, if literal text has no braces. The slots of the new pattern
offer the chosen names, one each, and it renders nothing but the text that it was compiled from. -/
theorem compile_render_resolve {s : String} {p : Pattern} (h : compile s = .ok p)
    (hliterals : ∀ text, .literal text ∈ p.segments → BraceFree text.toList)
    (lookback : Lookback) (w : Words) :
    ∃ q, compile (render (p.resolve lookback w).1) = .ok q ∧
      q.slots = (chosenNames (p.resolve lookback w).1).map Slot.only ∧
      ∀ lookback' w', render (q.resolve lookback' w').1 = render (p.resolve lookback w).1 := by
  have hwell := wellFormed_of_compile h
  have hsegments : ∀ segment ∈ p.segments, segment.Readable := by
    intro segment hsegment
    cases segment with
    | literal text =>
      intro c hc
      obtain ⟨hopen, hclose⟩ := hliterals text hsegment c hc
      refine ⟨hopen, hclose, ?_⟩
      rintro rfl
      exact hwell.literals text hsegment hc
    | slot s => exact hwell.slots s hsegment
  have hreadable : Readable (p.resolve lookback w).1 :=
    (becomes_resolveFrom hwell.slots [] w).readable hsegments
  exact ⟨ofPieces (p.resolve lookback w).1, compile_render hreadable, slots_ofPieces _,
    render_resolve_ofPieces hreadable⟩

/-- The slot in the middle draws `?`, and the literal texts on both sides of it become one. -/
theorem compile_render_resolve_joined_literals :
    ∃ p q, compile "\x7ba|b\x7d-\x7b?\x7d-\x7ba>c[1]\x7d" = .ok p ∧
      (∀ text, .literal text ∈ p.segments → BraceFree text.toList) ∧
      render (p.resolve .history (.ofScript [])).1 = "\x7ba\x7d--\x7bc[1]\x7d" ∧
      compile "\x7ba\x7d--\x7bc[1]\x7d" = .ok q ∧ q.slots = ["a", "c[1]"].map Slot.only ∧
      ∀ lookback w, render (q.resolve lookback w).1 = "\x7ba\x7d--\x7bc[1]\x7d" := by
  let p : Pattern := ⟨[.slot ⟨[⟨[.name "a"], .unconstrained⟩, ⟨[.name "b"], .unconstrained⟩]⟩,
    .literal "-", .slot ⟨[⟨[.nothing], .unconstrained⟩]⟩, .literal "-",
    .slot ⟨[⟨[.name "c[1]"], .requires ["a"]⟩]⟩]⟩
  have hp : compile "\x7ba|b\x7d-\x7b?\x7d-\x7ba>c[1]\x7d" = .ok p := by decide +kernel
  have hliterals : ∀ text, .literal text ∈ p.segments → BraceFree text.toList := by
    intro text ht
    have hdash : text = "-" := by simpa [p] using ht
    rw [hdash]
    simp
  have hpieces : (p.resolve .history (.ofScript [])).1 =
      [.value "a", .literal "-", .nothing, .literal "-", .value "c[1]"] := by decide +kernel
  have hrender : render (p.resolve .history (.ofScript [])).1 = "\x7ba\x7d--\x7bc[1]\x7d" := by
    rw [hpieces]
    rfl
  obtain ⟨q, hq, hslots, hfixed⟩ := compile_render_resolve hp hliterals .history (.ofScript [])
  rw [hrender] at hq hfixed
  rw [hpieces] at hslots
  exact ⟨p, q, hp, hliterals, hrender, hq, hslots, hfixed⟩

end Pattern

end SlotPattern
