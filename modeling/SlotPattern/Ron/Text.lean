import SlotPattern.Text.Quoted

/-!
# Texts in RON

A text stands between quotation marks, with escapes inside, or as a raw text: `r"…"`, or with
equally many `#` on both sides, in which a backslash is a character like any other.
-/

namespace SlotPattern.Ron

/-- Writes a text between quotation marks. -/
def writeText (s : String) : String :=
  String.ofList ('"' :: Text.escape s.toList ++ ['"'])

/-- The value of a hexadecimal digit. -/
def hexDigit? (c : Char) : Option Nat :=
  if '0' ≤ c ∧ c ≤ '9' then some (c.toNat - '0'.toNat)
  else if 'a' ≤ c ∧ c ≤ 'f' then some (c.toNat - 'a'.toNat + 10)
  else if 'A' ≤ c ∧ c ≤ 'F' then some (c.toNat - 'A'.toNat + 10)
  else none

/-- The character that a letter behind a backslash stands for. -/
def escapedChar? (c : Char) : Option Char :=
  if c = '0' then some '\x00'
  else if c = 't' then some '\t'
  else if c = 'n' then some '\n'
  else if c = 'r' then some '\r'
  else if c = '\\' ∨ c = '"' ∨ c = '\'' then some c
  else none

/-- The character with a code point, if there is one. -/
def charOf? (n : Nat) : Option Char :=
  if n.isValidChar then some (Char.ofNat n) else none

/-- Where a reader of a quoted text stands. -/
inductive Escape
  /-- Outside every escape. -/
  | outside
  /-- Behind a backslash. -/
  | backslash
  /-- Behind `\x`, where two hexadecimal digits follow, or behind the first of them. -/
  | byte (high : Option Nat)
  /-- Behind `\u`. -/
  | brace
  /-- Behind the opening brace of a code point and `count` digits of it, which make up `n`. -/
  | codePoint (n count : Nat)

/-- What one character does to a reader of a quoted text: it may complete a character of the text,
and it leads to the next place. -/
def Escape.step (e : Escape) (c : Char) : Option (Option Char × Escape) :=
  match e with
  | .outside => if c = '\\' then some (none, .backslash) else some (some c, .outside)
  | .backslash =>
    if c = 'x' then some (none, .byte none)
    else if c = 'u' then some (none, .brace)
    else do return (some (← escapedChar? c), .outside)
  | .byte none => do return (none, .byte (some (← hexDigit? c)))
  | .byte (some high) => do return (some (Char.ofNat (16 * high + (← hexDigit? c))), .outside)
  | .brace => if c = '{' then some (none, .codePoint 0 0) else none
  | .codePoint n count =>
    if c = '}' then
      if count = 0 then none else do return (some (← charOf? n), .outside)
    else if count < 6 then do
      return (none, .codePoint (16 * n + (← hexDigit? c)) (count + 1))
    else none

/-- Reads a text up to its closing quotation mark, and returns it with what is left. -/
def readQuoted : Escape → List Char → Option (List Char × List Char)
  | _, [] => none
  | .outside, '"' :: rest => some ([], rest)
  | e, c :: rest => do
    let (char, next) ← e.step c
    let (text, left) ← readQuoted next rest
    return (char.toList ++ text, left)

/-- Reads a raw text up to a quotation mark with `hashes` marks `#` behind it, and returns it with
what is left. -/
def readRaw (hashes : Nat) : List Char → Option (List Char × List Char)
  | [] => none
  | c :: rest =>
    if c = '"' ∧ rest.take hashes = List.replicate hashes '#' then some ([], rest.drop hashes)
    else do
      let (text, left) ← readRaw hashes rest
      return (c :: text, left)

/-- Reads a text in either form, if one starts here. -/
def readText : List Char → Option (List Char × List Char)
  | '"' :: rest => readQuoted .outside rest
  | 'r' :: rest =>
    match rest.dropWhile (· == '#') with
    | '"' :: inner => readRaw (rest.takeWhile (· == '#')).length inner
    | _ => none
  | _ => none

/-- Reads a character between apostrophes, if one starts here. -/
def readChar : List Char → Option (Char × List Char)
  | '\'' :: '\\' :: rest => readEscaped .backslash rest
  | '\'' :: c :: '\'' :: rest => if c = '\'' then none else some (c, rest)
  | _ => none
where
  /-- Reads the rest of an escape and the closing apostrophe. -/
  readEscaped (e : Escape) : List Char → Option (Char × List Char)
    | [] => none
    | c :: rest => do
      match ← e.step c with
      | (some char, _) => if rest.head? = some '\'' then some (char, rest.tail) else none
      | (none, next) => readEscaped next rest

end SlotPattern.Ron
