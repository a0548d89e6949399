import SlotPattern.Proofs.FirstOccurrences
import SlotPattern.Proofs.Traces

/-!
# Declared names

A pattern tells which names it can choose and from which keys of data they are drawn. Both lists go
through the values in the order in which they are declared. Whatever a run chooses is among them, so
data for all keys is enough to put a text in the place of every marker.
-/

namespace SlotPattern

/-! ### Names and keys -/

/-- A name without its subscripts. -/
def Name.stripped (name : String) : String :=
  String.ofList (base name.toList)

/-- The names of all values, as often as they are declared. -/
def Pattern.declaredNames (p : Pattern) : List String :=
  p.values.filterMap Value.name?

/-- The keys of all values, as often as they are declared. -/
def Pattern.declaredKeys (p : Pattern) : List String :=
  p.values.filterMap Value.key?

namespace Pattern

variable {p : Pattern}

theorem declaredKeys_eq_map (p : Pattern) :
    p.declaredKeys = p.declaredNames.map Name.stripped := by
  rw [declaredKeys, declaredNames, List.map_filterMap]
  rfl

/-- It makes no difference whether names are listed once before or after they are stripped. -/
theorem keys_eq_eraseDups_map (p : Pattern) :
    p.keys = (p.valueNames.map Name.stripped).eraseDups := by
  calc p.keys = (p.declaredNames.map Name.stripped).eraseDups := by
        rw [← declaredKeys_eq_map, keys, declaredKeys]
    _ = (p.valueNames.map Name.stripped).eraseDups :=
        (eraseDups_map_eraseDups Name.stripped p.declaredNames).symm

theorem stripped_mem_keys {name : String} (h : name ∈ p.valueNames) :
    Name.stripped name ∈ p.keys := by
  rw [keys_eq_eraseDups_map, List.mem_eraseDups]
  exact List.mem_map_of_mem h

/-! ### What runs choose -/

theorem mem_valueNames_of_chosen {lookback : Lookback} {w : Words} {name : String}
    (h : .value name ∈ (p.resolve lookback w).1) : name ∈ p.valueNames := by
  obtain ⟨events, left, htrace, hsegments⟩ := exists_trace lookback p.segments .empty w
  rw [resolve, ← hsegments, htrace.resolveFrom_eq, List.mem_map] at h
  obtain ⟨event, hmem, hpiece⟩ := h
  -- Only a slot that has drawn a name becomes one.
  cases event with
  | literal text => cases hpiece
  | dead s => cases hpiece
  | drawn s v =>
    cases v with
    | nothing => cases hpiece
    | name text =>
      cases hpiece
      have hs : s ∈ p.slots := by
        rw [slots, ← hsegments]
        exact List.mem_filterMap.mpr ⟨_, List.mem_map_of_mem hmem, rfl⟩
      have hv : Value.name name ∈ p.values :=
        List.mem_flatMap.mpr ⟨s, hs, htrace.mem_values hmem⟩
      rw [valueNames, List.mem_eraseDups]
      exact List.mem_filterMap.mpr ⟨_, hv, rfl⟩

end Pattern

/-! ### Putting texts in the place of markers -/

/-- What stands in the output for a piece, if there is data for the key of a chosen name. What the
data say about a key may depend on the name. -/
def Piece.fill? (data : String → Option (String → String)) : Piece → Option String
  | .literal text => some text
  | .value name => (data (Name.stripped name)).map (· name)
  | .nothing => some ""

/-- The output with data in the place of all markers. -/
def fill? (data : String → Option (String → String)) (pieces : List Piece) : Option String :=
  String.join <$> pieces.mapM (Piece.fill? data)

/-- Data that put every marker back leave the output as it is rendered. -/
theorem fill?_markers (pieces : List Piece) :
    fill? (fun _ => some fun name => (Piece.value name).render) pieces = some (render pieces) := by
  have hpiece (piece : Piece) :
      piece.fill? (fun _ => some fun name => (Piece.value name).render) = some piece.render := by
    cases piece <;> rfl
  have hpieces : pieces.mapM (Piece.fill? fun _ => some fun name => (Piece.value name).render) =
      some (pieces.map Piece.render) := by
    induction pieces with
    | nil => rfl
    | cons piece pieces ih => simp [List.mapM_cons, hpiece, ih]
  rw [fill?, hpieces, render]
  rfl

theorem exists_fill? {data : String → Option (String → String)} {pieces : List Piece}
    (h : ∀ name, .value name ∈ pieces → (data (Name.stripped name)).isSome = true) :
    ∃ text, fill? data pieces = some text := by
  have hpieces : ∃ texts, pieces.mapM (Piece.fill? data) = some texts := by
    induction pieces with
    | nil => exact ⟨[], rfl⟩
    | cons piece pieces ih =>
      obtain ⟨texts, htexts⟩ := ih fun name hname => h name (List.mem_cons_of_mem piece hname)
      have hpiece : ∃ text, piece.fill? data = some text := by
        cases piece with
        | literal text => exact ⟨text, rfl⟩
        | nothing => exact ⟨"", rfl⟩
        | value name =>
          obtain ⟨text, htext⟩ := Option.isSome_iff_exists.mp (h name List.mem_cons_self)
          exact ⟨text name, by rw [Piece.fill?, htext, Option.map_some]⟩
      obtain ⟨text, htext⟩ := hpiece
      exact ⟨text :: texts, by simp [List.mapM_cons, htext, htexts]⟩
  obtain ⟨texts, htexts⟩ := hpieces
  exact ⟨String.join texts, by rw [fill?, htexts]; rfl⟩

namespace Pattern

/-- The names and the keys of a pattern are listed once each, in the order in which they are first
declared, and the keys are those of the listed names. No run chooses another name, so with data for
all keys there is a text for every marker of every output. -/
theorem introspection_covers_runs (p : Pattern) :
    (p.valueNames.Nodup ∧ FirstOccurrences p.declaredNames p.valueNames) ∧
    (p.keys.Nodup ∧ FirstOccurrences p.declaredKeys p.keys) ∧
    p.keys = (p.valueNames.map Name.stripped).eraseDups ∧
    ∀ lookback w,
      (∀ name ∈ chosenNames (p.resolve lookback w).1,
        name ∈ p.valueNames ∧ Name.stripped name ∈ p.keys) ∧
      fill? (fun _ => some fun name => (Piece.value name).render) (p.resolve lookback w).1 =
        some (render (p.resolve lookback w).1) ∧
      ∀ data : String → Option (String → String), (∀ key ∈ p.keys, (data key).isSome = true) →
        ∃ text, fill? data (p.resolve lookback w).1 = some text := by
  refine ⟨⟨nodup_eraseDups _, firstOccurrences_eraseDups _⟩,
    ⟨nodup_eraseDups _, firstOccurrences_eraseDups _⟩, keys_eq_eraseDups_map p, ?_⟩
  intro lookback w
  refine ⟨?_, fill?_markers _, ?_⟩
  · intro name hname
    obtain ⟨piece, hpiece, hchosen⟩ := List.mem_filterMap.mp hname
    cases piece with
    | literal | nothing => cases hchosen
    | value other =>
      cases hchosen
      have hmem := mem_valueNames_of_chosen hpiece
      exact ⟨hmem, stripped_mem_keys hmem⟩
  · intro data hdata
    apply exists_fill?
    intro name hname
    exact hdata _ (stripped_mem_keys (mem_valueNames_of_chosen hname))

/-- Two names with different subscripts are drawn from one key. -/
example :
    let p : Pattern := ⟨[.slot ⟨[⟨[.name "a[0]", .name "b"], .unconstrained⟩]⟩,
      .slot ⟨[⟨[.nothing, .name "a[1]"], .unconstrained⟩, ⟨[.name "b"], .requires ["b"]⟩]⟩]⟩
    p.valueNames = ["a[0]", "b", "a[1]"] ∧ p.keys = ["a", "b"] := by
  decide +kernel

end Pattern

end SlotPattern
