/-!
# Tables with text keys

A table assigns values to texts. Its entries ascend by key, in the order of code points, so that two
tables with the same values are equal.
-/

namespace SlotPattern

universe u

/-- A finite map from texts. -/
structure Table (α : Type u) where
  entries : List (String × α)
  ascending : entries.Pairwise fun a b => a.1 < b.1

namespace Table

variable {α : Type u}

/-- The table without entries. -/
def empty : Table α := ⟨[], .nil⟩

/-- The value of a key. -/
def get? (t : Table α) (key : String) : Option α :=
  t.entries.lookup key

/-- Has the table a value for the key? -/
def contains (t : Table α) (key : String) : Bool :=
  (t.get? key).isSome

/-- The keys, in ascending order. -/
def keys (t : Table α) : List String :=
  t.entries.map (·.1)

/-- How many entries the table has. -/
def size (t : Table α) : Nat :=
  t.entries.length

/-! ### Insertion -/

/-- Puts an entry into its place among ascending entries, instead of one with the same key. -/
def insertEntry (key : String) (value : α) : List (String × α) → List (String × α)
  | [] => [(key, value)]
  | e :: es =>
    if key < e.1 then (key, value) :: e :: es
    else if key = e.1 then (key, value) :: es
    else e :: insertEntry key value es

theorem mem_insertEntry {key : String} {value : α} {e : String × α} {es : List (String × α)}
    (h : e ∈ insertEntry key value es) : e = (key, value) ∨ e ∈ es := by
  induction es with
  | nil => simpa [insertEntry] using h
  | cons a es ih =>
    simp only [insertEntry] at h
    split at h
    · simpa using h
    · split at h
      · simp only [List.mem_cons] at h ⊢
        exact h.imp_right .inr
      · simp only [List.mem_cons] at h ⊢
        rcases h with h | h
        · exact .inr (.inl h)
        · exact (ih h).imp_right .inr

theorem lt_of_not_lt_of_ne {a b : String} (h : ¬a < b) (hne : a ≠ b) : b < a := by
  refine Classical.byContradiction fun h' => hne ?_
  exact String.le_antisymm (String.not_lt.mp h') (String.not_lt.mp h)

theorem pairwise_insertEntry (key : String) (value : α) {es : List (String × α)}
    (h : es.Pairwise fun a b => a.1 < b.1) :
    (insertEntry key value es).Pairwise fun a b => a.1 < b.1 := by
  induction es with
  | nil => simp [insertEntry]
  | cons e es ih =>
    obtain ⟨hlt, hes⟩ := List.pairwise_cons.mp h
    simp only [insertEntry]
    split
    next hk =>
      refine List.pairwise_cons.mpr ⟨fun a ha => ?_, h⟩
      rcases List.mem_cons.mp ha with rfl | ha
      · exact hk
      · exact String.lt_trans hk (hlt a ha)
    next hk =>
      split
      next heq => exact List.pairwise_cons.mpr ⟨fun a ha => heq ▸ hlt a ha, hes⟩
      next hne =>
        refine List.pairwise_cons.mpr ⟨fun a ha => ?_, ih hes⟩
        rcases mem_insertEntry ha with rfl | ha
        · exact lt_of_not_lt_of_ne hk hne
        · exact hlt a ha

/-- The table in which `key` has `value`. -/
def insert (t : Table α) (key : String) (value : α) : Table α :=
  ⟨insertEntry key value t.entries, pairwise_insertEntry key value t.ascending⟩

/-- The table with the given entries; of two with the same key the later one counts. -/
def ofList (es : List (String × α)) : Table α :=
  es.foldl (fun t e => t.insert e.1 e.2) empty

/-- The entries of both tables; where both have a key, `u` decides. -/
def merge (t u : Table α) : Table α :=
  u.entries.foldr (fun e t => t.insert e.1 e.2) t

/-! ### What a key finds -/

@[simp] theorem get?_empty (key : String) : (empty : Table α).get? key = none := rfl

theorem lookup_cons_eq (key : String) (e : String × α) (es : List (String × α)) :
    (e :: es).lookup key = if key = e.1 then some e.2 else es.lookup key := by
  obtain ⟨k, value⟩ := e
  rw [List.lookup_cons]
  by_cases h : key = k
  · rw [if_pos h, beq_iff_eq.mpr h]
  · rw [if_neg h, beq_false_of_ne h]

/-- A new key is found at the end of the entries. -/
theorem lookup_append_singleton {es : List (String × α)} {key : String} {value : α}
    (hnew : es.lookup key = none) (other : String) :
    (es ++ [(key, value)]).lookup other = if other = key then some value else es.lookup other := by
  rw [List.lookup_append, lookup_cons_eq, List.lookup_nil]
  by_cases h : other = key
  · simp [h, hnew]
  · simp [h]

theorem lookup_insertEntry (key other : String) (value : α) (es : List (String × α)) :
    (insertEntry key value es).lookup other =
      if other = key then some value else es.lookup other := by
  induction es with
  | nil => simp [insertEntry, lookup_cons_eq]
  | cons e es ih =>
    simp only [insertEntry]
    split
    · simp only [lookup_cons_eq]
    · split
      next heq => simp only [lookup_cons_eq, ← heq]; split <;> rfl
      next hne =>
        simp only [lookup_cons_eq, ih]
        by_cases h : other = e.1
        · have : other ≠ key := fun hk => hne (hk ▸ h)
          simp [← h, this]
        · simp [h]

theorem get?_insert (t : Table α) (key other : String) (value : α) :
    (t.insert key value).get? other = if other = key then some value else t.get? other :=
  lookup_insertEntry key other value t.entries

theorem lookup_foldr_insert (t : Table α) (es : List (String × α)) (key : String) :
    (es.foldr (fun e t => t.insert e.1 e.2) t).get? key = (es.lookup key).or (t.get? key) := by
  induction es with
  | nil => rfl
  | cons e es ih =>
    rw [List.foldr_cons, get?_insert, ih, lookup_cons_eq]
    split <;> rfl

theorem get?_merge (t u : Table α) (key : String) :
    (t.merge u).get? key = (u.get? key).or (t.get? key) :=
  lookup_foldr_insert t u.entries key

/-! ### The keys of a table -/

theorem isSome_lookup_iff {key : String} {es : List (String × α)} :
    (es.lookup key).isSome = true ↔ key ∈ es.map (·.1) := by
  induction es with
  | nil => simp
  | cons e es ih =>
    rw [lookup_cons_eq, List.map_cons, List.mem_cons]
    split
    next heq => simp [heq]
    next hne => rw [ih, or_iff_right hne]

theorem contains_iff_mem_keys {t : Table α} {key : String} :
    t.contains key = true ↔ key ∈ t.keys :=
  isSome_lookup_iff

theorem nodup_keys (t : Table α) : t.keys.Nodup := by
  rw [keys, List.Nodup, List.pairwise_map]
  refine t.ascending.imp ?_
  intro a b hlt heq
  rw [heq] at hlt
  exact String.lt_irrefl _ hlt

@[simp] theorem contains_empty (key : String) : (empty : Table α).contains key = false := rfl

@[simp] theorem contains_insert (t : Table α) (key other : String) (value : α) :
    (t.insert key value).contains other = true ↔ other = key ∨ t.contains other = true := by
  rw [contains, get?_insert]
  split <;> simp [contains, *]

@[simp] theorem contains_merge (t u : Table α) (key : String) :
    (t.merge u).contains key = true ↔ t.contains key = true ∨ u.contains key = true := by
  rw [contains, get?_merge, Option.isSome_or, Bool.or_eq_true, or_comm]
  rfl

/-- In a list that ascends by key, the elements before one of them are the smaller ones. -/
theorem mem_before_iff {β : Type u} {key : β → String} {before after : List β} {a b : β}
    (h : (before ++ a :: after).Pairwise fun x y => key x < key y) :
    b ∈ before ↔ b ∈ before ++ a :: after ∧ key b < key a := by
  rw [List.pairwise_append, List.pairwise_cons] at h
  obtain ⟨-, ⟨hafter, -⟩, hbelow⟩ := h
  rw [List.mem_append, List.mem_cons]
  constructor
  · intro hb
    exact ⟨.inl hb, hbelow b hb a List.mem_cons_self⟩
  · rintro ⟨hb | rfl | hb, hlt⟩
    · exact hb
    · exact absurd hlt (String.lt_irrefl _)
    · exact absurd hlt (String.lt_asymm (hafter b hb))

/-- A key has only one entry, so it is not among those before. -/
theorem lookup_before {t : Table α} {before after : List (String × α)} {key : String} {value : α}
    (h : t.entries = before ++ (key, value) :: after) : before.lookup key = none := by
  have hascending := t.ascending
  rw [h] at hascending
  rw [List.lookup_eq_none_iff]
  intro e he
  have hlt := ((mem_before_iff hascending).mp he).2
  rw [bne_iff_ne]
  rintro rfl
  exact String.lt_irrefl _ hlt

/-! ### Equality -/

theorem lookup_eq_none_of_lt {key : String} {es : List (String × α)}
    (h : ∀ e ∈ es, key < e.1) : es.lookup key = none := by
  induction es with
  | nil => rfl
  | cons e es ih =>
    have hne : key ≠ e.1 := fun heq => String.lt_irrefl key (heq ▸ h e List.mem_cons_self)
    rw [lookup_cons_eq, if_neg hne]
    exact ih fun a ha => h a (List.mem_cons_of_mem e ha)

/-- A key finds the value of its entry. -/
theorem get?_eq_some_iff {t : Table α} {key : String} {value : α} :
    t.get? key = some value ↔ (key, value) ∈ t.entries := by
  obtain ⟨es, hes⟩ := t
  simp only [get?]
  induction es with
  | nil => simp
  | cons e es ih =>
    obtain ⟨hlt, hes⟩ := List.pairwise_cons.mp hes
    rw [lookup_cons_eq, List.mem_cons, ← ih hes]
    split
    next heq =>
      rw [heq, lookup_eq_none_of_lt hlt]
      simp [Prod.ext_iff, eq_comm]
    next hne => simp [Prod.ext_iff, hne]

/-- Ascending entries are determined by what each key finds. -/
theorem eq_of_lookup_eq {es fs : List (String × α)}
    (hes : es.Pairwise fun a b => a.1 < b.1) (hfs : fs.Pairwise fun a b => a.1 < b.1)
    (h : ∀ key, es.lookup key = fs.lookup key) : es = fs := by
  induction es generalizing fs with
  | nil =>
    cases fs with
    | nil => rfl
    | cons f fs => simpa [lookup_cons_eq] using h f.1
  | cons e es ih =>
    cases fs with
    | nil => simpa [lookup_cons_eq] using h e.1
    | cons f fs =>
      obtain ⟨hlt, hes⟩ := List.pairwise_cons.mp hes
      obtain ⟨hlt', hfs⟩ := List.pairwise_cons.mp hfs
      have hkey : e.1 = f.1 := by
        refine Classical.byContradiction fun hne => ?_
        by_cases hef : e.1 < f.1
        · have hn := lookup_eq_none_of_lt fun a ha => String.lt_trans hef (hlt' a ha)
          have := h e.1
          rw [lookup_cons_eq, if_pos rfl, lookup_cons_eq, if_neg hne, hn] at this
          contradiction
        · have hfe := lt_of_not_lt_of_ne hef hne
          have hn := lookup_eq_none_of_lt fun a ha => String.lt_trans hfe (hlt a ha)
          have := h f.1
          rw [lookup_cons_eq, if_neg (Ne.symm hne), hn, lookup_cons_eq, if_pos rfl] at this
          contradiction
      have hvalue : e.2 = f.2 := by
        have := h e.1
        rw [lookup_cons_eq, if_pos rfl, lookup_cons_eq, if_pos hkey] at this
        exact Option.some.inj this
      rw [show e = f from Prod.ext hkey hvalue, ih hes hfs fun key => ?_]
      by_cases hk : key = e.1
      · rw [hk, lookup_eq_none_of_lt hlt, hkey, lookup_eq_none_of_lt hlt']
      · have := h key
        rwa [lookup_cons_eq, if_neg hk, lookup_cons_eq, if_neg (hkey ▸ hk)] at this

/-- Two tables are equal if every key finds the same in both. -/
@[ext] theorem ext {t u : Table α} (h : ∀ key, t.get? key = u.get? key) : t = u := by
  obtain ⟨es, hes⟩ := t
  obtain ⟨fs, hfs⟩ := u
  obtain rfl : es = fs := eq_of_lookup_eq hes hfs h
  rfl

/-! ### Merging -/

theorem merge_assoc (t u v : Table α) : (t.merge u).merge v = t.merge (u.merge v) := by
  ext1 key
  rw [get?_merge, get?_merge, get?_merge, get?_merge, Option.or_assoc]

theorem merge_self (t : Table α) : t.merge t = t := by
  ext1 key
  rw [get?_merge, Option.or_self]

@[simp] theorem merge_empty (t : Table α) : t.merge empty = t := rfl

@[simp] theorem empty_merge (t : Table α) : empty.merge t = t := by
  ext1 key
  rw [get?_merge, get?_empty, Option.or_none]

end Table

end SlotPattern
