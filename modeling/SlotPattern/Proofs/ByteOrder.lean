import Mathlib.Algebra.Group.Nat.Defs

/-!
# The order of texts

Texts are compared by their code points. In UTF-8 this is the order of their bytes: a character with
a longer encoding starts with a greater byte, and encodings of one length carry the code points
digit by digit, to the base 64.
-/

namespace SlotPattern.Text

/-- The bytes of a text in UTF-8. -/
def utf8Bytes (s : String) : List UInt8 :=
  s.toUTF8.data.toList

/-! ### Numbers of several bytes -/

/-- A byte behind the first one. It carries the last six bits of `v`. -/
def continuationByte (v : Nat) : UInt8 := .ofNat (v % 64 + 128)

/-- The number `v` in bytes, `more` of them behind the first one. The first byte carries what is
left of `v`, on top of `mark`. -/
def multibyte (mark : Nat) : Nat → Nat → List UInt8
  | 0, v => [.ofNat (v + mark)]
  | more + 1, v => multibyte mark more (v / 64) ++ [continuationByte v]

theorem ofNat_lt_ofNat {m n : Nat} (h : m < n) (hn : n < 256) :
    UInt8.ofNat m < UInt8.ofNat n := by
  rw [UInt8.lt_iff_toNat_lt, UInt8.toNat_ofNat', UInt8.toNat_ofNat']
  omega

theorem cons_ofNat_lt_cons_ofNat {m n : Nat} (h : m < n) (hn : n < 256) (bs cs : List UInt8) :
    UInt8.ofNat m :: bs < UInt8.ofNat n :: cs := by
  apply List.cons_lt_cons_iff.mpr
  left
  exact ofNat_lt_ofNat h hn

variable {mark more v w : Nat}

theorem multibyte_eq_cons (mark more v : Nat) :
    ∃ bs, multibyte mark more v = .ofNat (v / 64 ^ more + mark) :: bs := by
  induction more generalizing v with
  | zero => exact ⟨[], by simp [multibyte]⟩
  | succ more ih =>
    obtain ⟨bs, hbs⟩ := ih (v / 64)
    refine ⟨bs ++ [continuationByte v], ?_⟩
    rw [multibyte, hbs, Nat.div_div_eq_div_mul, ← Nat.pow_succ', List.cons_append]

/-- Numbers with the same mark and as many bytes compare like their bytes, whatever follows. -/
theorem multibyte_append_lt (h : v < w) (hw : w / 64 ^ more + mark < 256) (bs cs : List UInt8) :
    multibyte mark more v ++ bs < multibyte mark more w ++ cs := by
  induction more generalizing v w bs cs with
  | zero =>
    rw [Nat.pow_zero, Nat.div_one] at hw
    exact cons_ofNat_lt_cons_ofNat (by omega) hw bs cs
  | succ more ih =>
    rw [Nat.pow_succ', ← Nat.div_div_eq_div_mul] at hw
    rw [multibyte, multibyte, List.append_assoc, List.append_assoc]
    rcases Nat.lt_or_ge (v / 64) (w / 64) with hdigits | hdigits
    · exact ih hdigits hw _ _
    · have heq : v / 64 = w / 64 := by omega
      rw [heq]
      apply List.append_left_lt
      exact cons_ofNat_lt_cons_ofNat (by omega) (by omega) bs cs

/-! ### Characters -/

/-- The mark of the first byte of a code point, and how many bytes follow it. -/
inductive Utf8Form (v : Nat) : Nat → Nat → Prop
  | one (below : v < 0x80) : Utf8Form v 0 0
  | two (above : 0x80 ≤ v) (below : v < 0x800) : Utf8Form v 0xC0 1
  | three (above : 0x800 ≤ v) (below : v < 0x10000) : Utf8Form v 0xE0 2
  | four (above : 0x10000 ≤ v) (below : v < 0x110000) : Utf8Form v 0xF0 3

theorem toNat_lt_maxCodePoint (c : Char) : c.toNat < 0x110000 := by
  have hvalid : c.toNat < 0xD800 ∨ 0xDFFF < c.toNat ∧ c.toNat < 0x110000 := c.valid
  omega

theorem exists_utf8Form (c : Char) : ∃ mark more,
    Utf8Form c.toNat mark more ∧ String.utf8EncodeChar c = multibyte mark more c.toNat := by
  fun_cases String.utf8EncodeChar c with
  | case1 v h => exact ⟨0, 0, .one (Nat.lt_succ_of_le h), rfl⟩
  | case2 v h h' =>
    refine ⟨0xC0, 1, .two (Nat.lt_of_not_le h) (Nat.lt_succ_of_le h'), ?_⟩
    have hfirst : v / 64 % 32 = v / 64 := by omega
    rw [hfirst]
    rfl
  | case3 v _ h h' =>
    refine ⟨0xE0, 2, .three (Nat.lt_of_not_le h) (Nat.lt_succ_of_le h'), ?_⟩
    have hfirst : v / 4096 % 16 = v / 64 / 64 := by omega
    rw [hfirst]
    rfl
  | case4 v _ _ h =>
    have hlast : v < 0x110000 := toNat_lt_maxCodePoint c
    refine ⟨0xF0, 3, .four (Nat.lt_of_not_le h) hlast, ?_⟩
    have hfirst : v / 262144 % 8 = v / 64 / 64 / 64 := by omega
    have hsecond : v / 4096 = v / 64 / 64 := by omega
    rw [hfirst, hsecond]
    rfl

/-- Two code points have the same form, or the greater one has the greater first byte. -/
theorem Utf8Form.eq_or_first_lt {mark' more' : Nat} (hv : Utf8Form v mark more)
    (hw : Utf8Form w mark' more') (h : v < w) : w / 64 ^ more' + mark' < 256 ∧
      (mark = mark' ∧ more = more' ∨ v / 64 ^ more + mark < w / 64 ^ more' + mark') := by
  cases hv <;> cases hw <;> omega

/-- Characters compare like their bytes, whatever follows. -/
theorem utf8EncodeChar_append_lt {c d : Char} (h : c < d) (bs cs : List UInt8) :
    String.utf8EncodeChar c ++ bs < String.utf8EncodeChar d ++ cs := by
  obtain ⟨mark, more, hc, hcbytes⟩ := exists_utf8Form c
  obtain ⟨mark', more', hd, hdbytes⟩ := exists_utf8Form d
  rw [hcbytes, hdbytes]
  obtain ⟨hbyte, ⟨rfl, rfl⟩ | hfirst⟩ := hc.eq_or_first_lt hd h
  · exact multibyte_append_lt h hbyte bs cs
  · obtain ⟨bs', hbs⟩ := multibyte_eq_cons mark more c.toNat
    obtain ⟨cs', hcs⟩ := multibyte_eq_cons mark' more' d.toNat
    rw [hbs, hcs]
    exact cons_ofNat_lt_cons_ofNat hfirst hbyte _ _

/-! ### Texts -/

theorem utf8Bytes_eq_flatMap (s : String) :
    utf8Bytes s = s.toList.flatMap String.utf8EncodeChar := by
  have hs : s.toByteArray = s.toList.utf8Encode := by
    rw [← String.toByteArray_ofList, String.ofList_toList]
  rw [utf8Bytes, String.toUTF8_eq_toByteArray, hs, List.utf8Encode, List.data_toByteArray]

theorem flatMap_utf8EncodeChar_lt {cs ds : List Char} (h : cs < ds) :
    cs.flatMap String.utf8EncodeChar < ds.flatMap String.utf8EncodeChar := by
  induction h with
  | @nil d ds =>
    rw [List.flatMap_nil, List.flatMap_cons]
    obtain ⟨b, bs, hd⟩ := List.exists_cons_of_ne_nil (String.utf8EncodeChar_ne_nil (c := d))
    rw [hd]
    exact List.nil_lt_cons b _
  | rel hlt =>
    rw [List.flatMap_cons, List.flatMap_cons]
    exact utf8EncodeChar_append_lt hlt _ _
  | cons _ ih =>
    rw [List.flatMap_cons, List.flatMap_cons]
    exact List.append_left_lt ih

/-- The order of texts is the order of their bytes. -/
theorem utf8Bytes_lt_iff {s t : String} : utf8Bytes s < utf8Bytes t ↔ s < t := by
  have hmono {s t : String} (h : s < t) : utf8Bytes s < utf8Bytes t := by
    rw [utf8Bytes_eq_flatMap, utf8Bytes_eq_flatMap]
    exact flatMap_utf8EncodeChar_lt h
  constructor
  · intro hbytes
    apply Classical.byContradiction
    intro hle
    rcases Classical.em (t < s) with hlt | hge
    · exact List.lt_asymm hbytes (hmono hlt)
    · have heq : s = t := String.le_antisymm (String.not_lt.mp hge) (String.not_lt.mp hle)
      rw [heq] at hbytes
      exact List.lt_irrefl _ hbytes
  · exact hmono

end SlotPattern.Text
