import SlotPattern.Proofs.QuotedTexts
import SlotPattern.Variety

/-!
# Rows of the variety report are read back

A row starts with a number set flush right, and it ends in a quoted text. The share between the two
is made up of digits, a point and blanks, so nothing in it can be taken for the one or the other.
Therefore a row shows which text it is about, and how often that occurs.
-/

namespace SlotPattern

open Text

/-! ### Columns -/

theorem isDigit_of_mem_toDigits {n : Nat} {c : Char} (hc : c ∈ Nat.toDigits 10 n) :
    c.isDigit = true :=
  Nat.isDigit_of_mem_toDigits (by decide) (by decide) hc

theorem ne_quote_of_mem_toDigits {n : Nat} {c : Char} (hc : c ∈ Nat.toDigits 10 n) : c ≠ '"' := by
  rintro rfl
  exact absurd (isDigit_of_mem_toDigits hc) (by decide)

theorem ne_quote_of_mem_blanks {n : Nat} {c : Char} (hc : c ∈ List.replicate n ' ') : c ≠ '"' := by
  rw [List.eq_of_mem_replicate hc]
  decide

theorem toList_flushRight (width : Nat) (s : String) :
    (flushRight width s).toList = List.replicate (width - s.toList.length) ' ' ++ s.toList := by
  rw [flushRight, String.toList_ofList, List.leftpad]

/-- A number with one decimal place has no quotation mark in it, in whatever column it is set. -/
theorem ne_quote_of_mem_oneDecimal {width : Nat} {x : Float} {c : Char}
    (hc : c ∈ (flushRight width (oneDecimal x)).toList) : c ≠ '"' := by
  simp only [toList_flushRight, oneDecimal, String.toList_append, Nat.toString_eq_repr,
    Nat.toList_repr, List.mem_append] at hc
  rcases hc with hblank | (hdigit | hpoint) | hdigit
  · exact ne_quote_of_mem_blanks hblank
  · exact ne_quote_of_mem_toDigits hdigit
  · rintro rfl
    exact absurd hpoint (by decide)
  · exact ne_quote_of_mem_toDigits hdigit

/-! ### Rows -/

namespace Frequency

/-- What a row shows: the number behind its blanks, and the text between its quotation marks. -/
def ofRow? (line : String) : Option Frequency := do
  let digits := (line.toList.dropWhile (· == ' ')).takeWhile Char.isDigit
  let (text, _) ← Ron.readText (line.toList.dropWhile (· != '"'))
  return ⟨.ofList text, Nat.ofDigitChars 10 digits 0⟩

variable {line : String} {blanks n : Nat} {rest share : List Char} {s : String}

theorem digits_of_toList_eq
    (h : line.toList = List.replicate blanks ' ' ++ (Nat.toDigits 10 n ++ ' ' :: rest)) :
    (line.toList.dropWhile (· == ' ')).takeWhile Char.isDigit = Nat.toDigits 10 n := by
  obtain ⟨d, ds, hdigits⟩ := List.exists_cons_of_ne_nil (Nat.toDigits_ne_nil (n := n) (b := 10))
  have hfirst : d.isDigit = true := isDigit_of_mem_toDigits (hdigits ▸ List.mem_cons_self)
  have hblank : ¬(d == ' ') = true := by
    rw [beq_iff_eq]
    rintro rfl
    cases hfirst
  have hdrop : line.toList.dropWhile (· == ' ') = Nat.toDigits 10 n ++ ' ' :: rest := by
    rw [h, List.dropWhile_append_of_pos, hdigits, List.cons_append,
      List.dropWhile_cons_of_neg (p := (· == ' ')) hblank]
    intro c hc
    rw [List.eq_of_mem_replicate hc, beq_self_eq_true]
  rw [hdrop, List.takeWhile_append_of_pos fun c hc => isDigit_of_mem_toDigits hc,
    List.takeWhile_cons_of_neg (by decide), List.append_nil]

/-- A line with a number behind blanks, and with a quoted text behind something without a quotation
mark, shows the number and the text. -/
theorem ofRow?_eq_some (hshare : ∀ c ∈ share, c ≠ '"') (h : line.toList =
      List.replicate blanks ' ' ++ (Nat.toDigits 10 n ++ ' ' :: (share ++ (quote s).toList))) :
    ofRow? line = some ⟨s, n⟩ := by
  have hquote : (quote s).toList.dropWhile (· != '"') = (quote s).toList := by
    rw [quote, String.toList_ofList]
    exact List.dropWhile_cons_of_neg (by decide)
  have hbefore : ∀ c ∈ List.replicate blanks ' ' ++ (Nat.toDigits 10 n ++ ' ' :: share),
      (c != '"') = true := by
    intro c hc
    rw [bne_iff_ne]
    simp only [List.mem_append, List.mem_cons] at hc
    rcases hc with hblank | hdigit | rfl | hc
    · exact ne_quote_of_mem_blanks hblank
    · exact ne_quote_of_mem_toDigits hdigit
    · decide
    · exact hshare c hc
  have htext : line.toList.dropWhile (· != '"') = (quote s).toList := by
    have hsplit : line.toList =
        (List.replicate blanks ' ' ++ (Nat.toDigits 10 n ++ ' ' :: share)) ++ (quote s).toList := by
      simp [h]
    rw [hsplit, List.dropWhile_append_of_pos hbefore, hquote]
  simp only [ofRow?, htext, Ron.readText_quote, digits_of_toList_eq h]
  simp

/-- A row shows its frequency, whatever the number of samples is. -/
theorem ofRow?_row (total : Nat) (f : Frequency) : ofRow? (row total f) = some f := by
  let share := (flushRight 5 (oneDecimal (percent f.count total))).toList ++ ['%', ' ', ' ']
  have hshare : ∀ c ∈ share, c ≠ '"' := by
    intro c hc
    rcases List.mem_append.mp hc with hc | hc
    · exact ne_quote_of_mem_oneDecimal hc
    · rintro rfl
      exact absurd hc (by decide)
  have hrow : (row total f).toList = List.replicate (6 - (toString f.count).toList.length) ' ' ++
      (Nat.toDigits 10 f.count ++ ' ' :: (share ++ (quote f.text).toList)) := by
    simp [row, share, toList_flushRight]
  exact ofRow?_eq_some hshare hrow

end Frequency

end SlotPattern
