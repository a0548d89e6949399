import SlotPattern.Ron.Reader

/-!
# Numbers in RON

A number is a whole number of 64 bits, a decimal fraction, or a word for what is no finite number.
Numbers are only passed over: each function here gives what is left of a text behind one.
-/

namespace SlotPattern.Ron

/-- The number that digits of a base make up, where marks `_` between them count for nothing. -/
def wholeNumber? (base : Nat) (digits : List Char) : Option Nat :=
  if digits.head?.all (· == '_') then none
  else (digits.filter (· != '_')).foldlM (fun n c => do
    let d ← hexDigit? c
    if d < base then return base * n + d else failure) 0

/-- Drops a sign, if there is one. -/
def dropSign (text : List Char) : List Char :=
  if text.head? = some '+' ∨ text.head? = some '-' then text.tail else text

/-- Drops a whole number with an optional sign: decimal, or with `0x`, `0b` or `0o` before its
digits. It has to fit in 64 bits, of which a sign takes one. -/
def dropWhole? (text : List Char) : Option (List Char) := do
  let unsigned := dropSign text
  let (base, body) := match unsigned with
    | '0' :: 'x' :: rest => (16, rest)
    | '0' :: 'b' :: rest => (2, rest)
    | '0' :: 'o' :: rest => (8, rest)
    | _ => (10, unsigned)
  let isDigit := fun c => (hexDigit? c).isSome || c == '_'
  let n ← wholeNumber? base (body.takeWhile isDigit)
  let limit := match text.head? with
    | some '-' => UInt64.size / 2 + 1
    | some '+' => UInt64.size / 2
    | _ => UInt64.size
  if n < limit then return body.dropWhile isDigit else failure

/-- May the character stand in a decimal fraction? -/
def isFractionChar (c : Char) : Bool :=
  c.isDigit || c == '.' || c == 'e' || c == 'E' || c == '+' || c == '-'

/-- Is the text a decimal fraction: a sign, digits with a point among or around them, and an
exponent, of which all but one digit may be missing? -/
def isFraction (text : List Char) : Bool :=
  let body := dropSign text
  let whole := body.takeWhile Char.isDigit
  let rest := body.dropWhile Char.isDigit
  let (part, rest) := match rest with
    | '.' :: more => (more.takeWhile Char.isDigit, more.dropWhile Char.isDigit)
    | _ => ([], rest)
  let exponentOk := match rest with
    | [] => true
    | c :: more =>
      let digits := dropSign more
      (c == 'e' || c == 'E') && !digits.isEmpty && digits.all Char.isDigit
  !(whole.isEmpty && part.isEmpty) && exponentOk

/-- Drops a decimal fraction. -/
def dropFraction? (text : List Char) : Option (List Char) :=
  if isFraction (text.takeWhile isFractionChar) then some (text.dropWhile isFractionChar) else none

/-- Drops a word for what is no finite number, with an optional sign. -/
def dropNotFinite? (text : List Char) : Option (List Char) :=
  let body := dropSign text
  if Reader.startsWithWord "inf".toList body || Reader.startsWithWord "NaN".toList body then
    some (body.drop 3)
  else none

/-- Drops a number. What reads farther as a fraction than as a whole number is one, and so is what
is no whole number. -/
def dropNumber? (text : List Char) : Option (List Char) :=
  let body := dropSign text
  let fraction := body.takeWhile isFractionChar
  let whole := body.takeWhile fun c => (hexDigit? c).isSome || c == '_'
  (dropNotFinite? text).or <|
    if whole.length < fraction.length then dropFraction? text
    else (dropWhole? text).or (dropFraction? text)

end SlotPattern.Ron
