/-!
# Numbers with one decimal place

A binary fraction is rounded to tenths from its exact value, a half to the even neighbour, and
numbers are set flush right in a column.
-/

namespace SlotPattern.Text

/-- `num / den` rounded to the nearest whole number, a half to the even one. -/
def roundHalfEven (num den : Nat) : Nat :=
  let q := num / den
  let r := num % den
  if 2 * r < den then q
  else if den < 2 * r then q + 1
  else q + q % 2

/-- The nearest number of tenths to a finite `x ≥ 0`, which is `m * 2 ^ (e - 1075)` for the
significand `m` and the exponent field `e`. -/
def tenthsOf (x : Float) : Nat :=
  let bits := x.toBits.toNat
  let field := (bits >>> 52) % 2048
  let fraction := bits % (1 <<< 52)
  let m := if field = 0 then fraction else fraction + (1 <<< 52)
  let e := max field 1
  if 1075 ≤ e then (10 * m) <<< (e - 1075) else roundHalfEven (10 * m) (1 <<< (1075 - e))

/-- A finite `x ≥ 0` with one decimal place. -/
def oneDecimal (x : Float) : String :=
  let tenths := tenthsOf x
  toString (tenths / 10) ++ "." ++ toString (tenths % 10)

/-- A text set flush right in a column of the given width; a longer text stays whole. -/
def flushRight (width : Nat) (s : String) : String :=
  String.ofList (s.toList.leftpad width ' ')

end SlotPattern.Text
