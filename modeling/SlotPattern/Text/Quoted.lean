import SlotPattern.Text.Visibility

/-!
# Escaped and quoted text

Inside quotation marks a character that would end the text, or that does not show by itself, is
written as an escape: a backslash and a letter where there is a short form, and otherwise the code
point in hexadecimal between braces.
-/

namespace SlotPattern.Text

/-- The character after the backslash in the short escape of a character, if it has one. -/
def shortEscape? (c : Char) : Option Char :=
  if c = '\x00' then some '0'
  else if c = '\t' then some 't'
  else if c = '\n' then some 'n'
  else if c = '\r' then some 'r'
  else if c = '\\' ∨ c = '"' ∨ c = '\'' then some c
  else none

/-- The escape that names a code point in hexadecimal, without leading zeros. -/
def codePointEscape (c : Char) : List Char :=
  ['\\', 'u', '{'] ++ Nat.toDigits 16 c.toNat ++ ['}']

/-- A character with every escape: short where there is one, by code point where the character does
not show by itself. -/
def escapeChar (c : Char) : List Char :=
  match shortEscape? c with
  | some e => ['\\', e]
  | none => if isVisible c then [c] else codePointEscape c

/-- The characters of a text, each escaped. -/
def escape (cs : List Char) : List Char :=
  cs.flatMap escapeChar

/-- A text between quotation marks, in which an apostrophe needs no escape. -/
def quote (s : String) : String :=
  let inner := s.toList.flatMap fun c => if c = '\'' then [c] else escapeChar c
  String.ofList ('"' :: inner ++ ['"'])

end SlotPattern.Text
