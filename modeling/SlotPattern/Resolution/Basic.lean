import SlotPattern.Words
import SlotPattern.Resolution.History

/-!
# Resolving a pattern

A pattern is resolved from left to right: literal text is copied, and each slot draws one of its
candidates. The rendered text shows every chosen name between braces.
-/

namespace SlotPattern

/-- What a segment has become. -/
inductive Piece
  | literal (text : String)
  /-- The name that a slot has chosen. -/
  | value (name : String)
  /-- A slot that drew `?`, or had no candidate. -/
  | nothing
  deriving DecidableEq

namespace Piece

/-- The name in the piece. -/
def name? : Piece → Option String
  | .value name => some name
  | _ => none

/-- The rendered text of the piece. -/
def render : Piece → String
  | .literal text => text
  | .value name => "\x7b" ++ name ++ "\x7d"
  | .nothing => ""

end Piece

/-- The piece that a drawn value makes. -/
def Value.piece : Value → Piece
  | .name text => .value text
  | .nothing => .nothing

/-- The pieces that segments become after the history `h`, and the words left over. A slot without
candidates draws nothing and leaves the history as it is. -/
def resolveFrom (lookback : Lookback) : List Segment → History → Words → List Piece × Words
  | [], _, w => ([], w)
  | .literal text :: rest, h, w =>
    let (pieces, left) := resolveFrom lookback rest h w
    (.literal text :: pieces, left)
  | .slot s :: rest, h, w =>
    match w.pick (s.candidates h lookback) with
    | (none, w) =>
      let (pieces, left) := resolveFrom lookback rest h w
      (.nothing :: pieces, left)
    | (some v, w) =>
      let (pieces, left) := resolveFrom lookback rest (h.record v.name?) w
      (v.piece :: pieces, left)

/-- The pieces that a pattern becomes, and the words left over. -/
def Pattern.resolve (p : Pattern) (lookback : Lookback) (w : Words) : List Piece × Words :=
  resolveFrom lookback p.segments .empty w

/-- The names in a row of pieces. -/
def chosenNames (pieces : List Piece) : List String :=
  pieces.filterMap Piece.name?

/-- The rendered text of a row of pieces. -/
def render (pieces : List Piece) : String :=
  String.join (pieces.map Piece.render)

end SlotPattern
