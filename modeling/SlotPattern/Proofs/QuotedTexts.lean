import Mathlib.Data.Nat.Digits.Defs
import SlotPattern.Ron.Text

/-!
# Quoted texts are read back

The reader of quoted texts undoes each escape that a character is written with, whatever the
character, and takes one that stands for itself as it is. So a text can be read off its form between
quotation marks.
-/

namespace SlotPattern

open Text

namespace Ron

/-! ### Escapes -/

/-- The reader goes on from the place that a character leads to. If the character completes one of
the text, this is put in front. -/
theorem readQuoted_step {e next : Escape} {c : Char} {char : Option Char}
    (hstep : e.step c = some (char, next)) (hquote : e = .outside → c ≠ '"') (rest : List Char) :
    readQuoted e (c :: rest) = (readQuoted next rest).map (Prod.map (char.toList ++ ·) id) := by
  rw [readQuoted, hstep]
  · simp only [Option.bind_eq_bind, Option.bind_some]
    cases readQuoted next rest <;> rfl
  · exact hquote

/-- A character that completes none of the text only leads to the next place. -/
theorem readQuoted_pass {e next : Escape} {c : Char} (hstep : e.step c = some (none, next))
    (hquote : e = .outside → c ≠ '"') (rest : List Char) :
    readQuoted e (c :: rest) = readQuoted next rest := by
  rw [readQuoted_step hstep hquote]
  cases readQuoted next rest <;> rfl

/-- A short escape stands for the character that it was made from. -/
theorem escapedChar?_of_shortEscape? {c letter : Char} (h : shortEscape? c = some letter) :
    escapedChar? letter = some c ∧ letter ≠ 'x' ∧ letter ≠ 'u' := by
  unfold shortEscape? at h
  split_ifs at h with hc hc hc hc hself <;> cases h
  iterate 4 exact ⟨congrArg some hc.symm, by decide⟩
  rcases hself with rfl | rfl | rfl <;> exact ⟨rfl, by decide⟩

/-- What has no short escape can stand by itself between quotation marks. -/
theorem ne_of_shortEscape?_eq_none {c : Char} (h : shortEscape? c = none) :
    c ≠ '\\' ∧ c ≠ '"' := by
  constructor <;> rintro rfl <;> exact absurd h (by decide)

/-! ### Code points -/

theorem hexDigit?_digitChar {d : Nat} (hd : d < 16) : hexDigit? d.digitChar = some d := by
  decide +revert

theorem digitChar_ne_closeBrace {d : Nat} (hd : d < 16) : d.digitChar ≠ '}' := by
  decide +revert

theorem readQuoted_digit {n count d : Nat} (hcount : count < 6) (hd : d < 16) (rest : List Char) :
    readQuoted (.codePoint n count) (d.digitChar :: rest) =
      readQuoted (.codePoint (16 * n + d) (count + 1)) rest := by
  have hstep : (Escape.codePoint n count).step d.digitChar =
      some (none, .codePoint (16 * n + d) (count + 1)) := by
    simp only [Escape.step, if_neg (digitChar_ne_closeBrace hd), if_pos hcount,
      hexDigit?_digitChar hd]
    rfl
  exact readQuoted_pass hstep nofun rest

/-- Up to six hexadecimal digits are read as the number that they make up. -/
theorem readQuoted_toDigits {n : Nat} (hn : n < 16 ^ 6) (rest : List Char) :
    readQuoted (.codePoint 0 0) (Nat.toDigits 16 n ++ rest) =
      readQuoted (.codePoint n (Nat.toDigits 16 n).length) rest := by
  induction n using Nat.strongRecOn generalizing rest with
  | ind n ih =>
    by_cases hsmall : n < 16
    · rw [Nat.toDigits_of_lt_base hsmall, List.singleton_append,
        readQuoted_digit (by decide) hsmall, Nat.mul_zero, Nat.zero_add]
      rfl
    · -- The last digit is split off; those before it leave room for it.
      have hbase : 16 ≤ n := Nat.not_lt.mp hsmall
      have hdigits := Nat.toDigits_of_base_le (by decide) hbase
      have hlength : (Nat.toDigits 16 (n / 16)).length < 6 := by
        have hle := (Nat.length_toDigits_le_iff (by decide) (by decide)).mpr hn
        rw [hdigits, List.length_append, List.length_singleton] at hle
        exact hle
      have hlt : n / 16 < n := Nat.div_lt_self (by omega) (by decide)
      rw [hdigits, List.append_assoc, List.singleton_append, ih _ hlt (hlt.trans hn),
        readQuoted_digit hlength (Nat.mod_lt _ (by decide)), Nat.div_add_mod, List.length_append,
        List.length_singleton]

theorem charOf?_toNat (c : Char) : charOf? c.toNat = some c := by
  have hvalid : c.toNat.isValidChar := c.valid
  rw [charOf?, if_pos hvalid, Char.ofNat_toNat]

theorem toNat_lt (c : Char) : c.toNat < 16 ^ 6 := by
  have hvalid : c.toNat.isValidChar := c.valid
  unfold Nat.isValidChar at hvalid
  omega

theorem readQuoted_codePointEscape (c : Char) (rest : List Char) :
    readQuoted .outside (codePointEscape c ++ rest) =
      (readQuoted .outside rest).map (Prod.map (c :: ·) id) := by
  let digits := Nat.toDigits 16 c.toNat
  have hclose : (Escape.codePoint c.toNat digits.length).step '}' = some (some c, .outside) := by
    have hne : digits.length ≠ 0 := Nat.pos_iff_ne_zero.mp Nat.length_toDigits_pos
    simp only [Escape.step, if_pos, if_neg hne, charOf?_toNat]
    rfl
  calc
    readQuoted .outside (codePointEscape c ++ rest)
    _ = readQuoted .outside ('\\' :: 'u' :: '{' :: (digits ++ '}' :: rest)) := by
      simp [codePointEscape, digits]
    _ = readQuoted .backslash ('u' :: '{' :: (digits ++ '}' :: rest)) :=
      readQuoted_pass rfl (fun _ => by decide) _
    _ = readQuoted .brace ('{' :: (digits ++ '}' :: rest)) := readQuoted_pass rfl (by nofun) _
    _ = readQuoted (.codePoint 0 0) (digits ++ '}' :: rest) := readQuoted_pass rfl (by nofun) _
    _ = readQuoted (.codePoint c.toNat digits.length) ('}' :: rest) :=
      readQuoted_toDigits (toNat_lt c) _
    _ = (readQuoted .outside rest).map (Prod.map (c :: ·) id) := readQuoted_step hclose nofun rest

/-! ### Quoted texts -/

theorem readQuoted_escapeChar (c : Char) (rest : List Char) :
    readQuoted .outside (escapeChar c ++ rest) =
      (readQuoted .outside rest).map (Prod.map (c :: ·) id) := by
  unfold escapeChar
  split
  next letter hshort =>
    obtain ⟨hletter, hx, hu⟩ := escapedChar?_of_shortEscape? hshort
    have hstep : Escape.backslash.step letter = some (some c, .outside) := by
      simp only [Escape.step, if_neg hx, if_neg hu, hletter]
      rfl
    calc
      readQuoted .outside ('\\' :: letter :: rest)
      _ = readQuoted .backslash (letter :: rest) := readQuoted_pass rfl (fun _ => by decide) _
      _ = (readQuoted .outside rest).map (Prod.map (c :: ·) id) := readQuoted_step hstep nofun rest
  next hnone =>
    obtain ⟨hescape, hquote⟩ := ne_of_shortEscape?_eq_none hnone
    split
    · have hstep : Escape.outside.step c = some (some c, .outside) := if_neg hescape
      rw [List.singleton_append, readQuoted_step hstep fun _ => hquote]
      rfl
    · exact readQuoted_codePointEscape c rest

/-- A text is read back if each of its characters is. -/
theorem readQuoted_flatMap {written : Char → List Char}
    (hwritten : ∀ c rest, readQuoted .outside (written c ++ rest) =
      (readQuoted .outside rest).map (Prod.map (c :: ·) id)) (cs rest : List Char) :
    readQuoted .outside (cs.flatMap written ++ '"' :: rest) = some (cs, rest) := by
  induction cs with
  | nil => rfl
  | cons c cs ih =>
    rw [List.flatMap_cons, List.append_assoc, hwritten, ih]
    rfl

theorem readText_writeText (s : String) : readText (writeText s).toList = some (s.toList, []) := by
  rw [writeText, String.toList_ofList]
  exact readQuoted_flatMap readQuoted_escapeChar s.toList []

/-- Apostrophes need no escape between quotation marks. -/
theorem readText_quote (s : String) : readText (quote s).toList = some (s.toList, []) := by
  rw [quote, String.toList_ofList]
  refine readQuoted_flatMap (fun c rest => ?_) s.toList []
  split
  next hc =>
    subst hc
    have hstep : Escape.outside.step '\'' = some (some '\'', .outside) := rfl
    exact readQuoted_step hstep (fun _ => by decide) rest
  next => exact readQuoted_escapeChar c rest

end Ron

end SlotPattern
