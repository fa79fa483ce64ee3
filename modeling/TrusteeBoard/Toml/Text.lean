import TrusteeBoard.Toml.Basic

/-!
# Writing TOML strings

`stringText` writes a string in the plainest kind that holds it: between double or single quotes on
one line, else on several lines, and with escapes only where nothing else is possible. The kind
depends on what the string contains and on its longest runs of quotes.
-/

namespace TrusteeBoard.Toml

/-- Control characters that only an escape can write. -/
def needsEscape (c : Char) : Bool :=
  c ≠ '\t' && c ≠ '\n' && (c.toNat < 32 || c.toNat = 127)

/-- The length of the longest run of a character, given the one that ends just before. -/
def longestRun (c : Char) (current : Nat) : List Char → Nat
  | [] => current
  | d :: rest =>
    if d = c then longestRun c (current + 1) rest else max current (longestRun c 0 rest)

/-- The kinds of strings. -/
inductive StringKind where
  | basic
  | literal
  | multiBasic
  | multiLiteral
  deriving DecidableEq, Repr

/-- The kind that a string is written in. -/
def StringKind.of (cs : List Char) : StringKind :=
  let control := cs.any needsEscape
  let backslash := cs.contains '\\'
  let newline := cs.contains '\n'
  let doubles := longestRun '"' 0 cs
  let singles := longestRun '\'' 0 cs
  if !control && !backslash && !newline && doubles = 0 then .basic
  else if !control && !newline && singles = 0 then .literal
  else if !control && !backslash && doubles ≤ 2 then .multiBasic
  else if !control && singles ≤ 2 then .multiLiteral
  else if newline then .multiBasic
  else .basic

/-- A digit of an escaped code point, in upper case. -/
def codeDigit (n : Nat) : Char :=
  (Nat.digitChar n).toUpper

/-- A character other than a newline or a double quote between double quotes. -/
def charText (c : Char) : List Char :=
  if c = '\\' then ['\\', '\\']
  else if c = '\x08' then ['\\', 'b']
  else if c = '\t' then ['\\', 't']
  else if c = '\x0c' then ['\\', 'f']
  else if c = '\r' then ['\\', 'r']
  else if needsEscape c then
    ['\\', 'u', '0', '0', codeDigit (c.toNat / 16), codeDigit (c.toNat % 16)]
  else [c]

/-- A character between double quotes on one line. -/
def basicCharText (c : Char) : List Char :=
  if c = '"' then ['\\', '"']
  else if c = '\n' then ['\\', 'n']
  else charText c

/-- The content of a string of several lines between double quotes, after `run` quotes that are not
escaped. The third quote in a row is escaped. -/
def multiBasicText (run : Nat) : List Char → List Char
  | [] => []
  | c :: rest =>
    if c = '"' then
      if run = 2 then '\\' :: '"' :: multiBasicText 0 rest else '"' :: multiBasicText (run + 1) rest
    else if c = '\n' then '\n' :: multiBasicText 0 rest
    else charText c ++ multiBasicText 0 rest

/-- The line end after the opening quotes, which is no part of the string. -/
def openingLine (cs : List Char) : List Char :=
  if cs.contains '\n' then ['\n'] else []

/-- A string with its quotes. -/
def stringText (cs : List Char) : List Char :=
  match StringKind.of cs with
  | .basic => '"' :: cs.flatMap basicCharText ++ ['"']
  | .literal => '\'' :: cs ++ ['\'']
  | .multiBasic => ['"', '"', '"'] ++ openingLine cs ++ multiBasicText 0 cs ++ ['"', '"', '"']
  | .multiLiteral => ['\'', '\'', '\''] ++ openingLine cs ++ cs ++ ['\'', '\'', '\'']

/-- A line of a key and a value. -/
def lineText (key : String) (value : List Char) : List Char :=
  key.toList ++ [' ', '=', ' '] ++ value ++ ['\n']

/-- A header line, with an empty line before it. -/
def headerText (key : String) : List Char :=
  ['\n', '['] ++ key.toList ++ [']', '\n']

end TrusteeBoard.Toml
