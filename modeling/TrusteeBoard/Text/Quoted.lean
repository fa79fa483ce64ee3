import TrusteeBoard.Text.Unprinted

/-!
# Quoted text

`quoted` writes a text between double quotes for a message: quotes and backslashes get a backslash,
the usual control characters their letter, and every other character that does not print its code
point in hexadecimal.
-/

namespace TrusteeBoard.Text

/-- The digits of a number in lower-case hexadecimal. -/
def hex (n : Nat) : String :=
  String.ofList (Nat.toDigits 16 n)

/-- How a character is written between quotes. -/
def quotedChar (c : Char) : String :=
  if c = '"' then "\\\""
  else if c = '\\' then "\\\\"
  else if c = '\n' then "\\n"
  else if c = '\t' then "\\t"
  else if c = '\r' then "\\r"
  else if c = '\x00' then "\\0"
  else if isUnprinted c then "\\u\x7b" ++ hex c.toNat ++ "\x7d"
  else c.toString

def quoted (s : String) : String :=
  "\"" ++ String.join (s.toList.map quotedChar) ++ "\""

end TrusteeBoard.Text
