import TrusteeBoard.Text.Quoted

/-!
# JSON values and their text

`Json` is the tree of a JSON text. A number is kept as its literal, and the members of an object as
they are written, repeated keys included. A string may escape half of a surrogate pair on its own;
it then denotes no text, and `none` stands for it. `Json.text` writes a value without spaces,
`Json.pretty` on indented lines.
-/

namespace TrusteeBoard

/-- A JSON value. -/
inductive Json where
  | null
  | bool (b : Bool)
  | number (literal : List Char)
  | string (content : Option String)
  | array (items : List Json)
  | object (members : List (Option String × Json))

namespace Json

/-- A string value. -/
def str (s : String) : Json := .string (some s)

/-- A number value. -/
def nat (n : Nat) : Json := .number (Nat.toDigits 10 n)

/-- An object with the given members. -/
def record (members : List (String × Json)) : Json :=
  .object (members.map fun m => (some m.1, m.2))

def orNull {α : Type} (encode : α → Json) : Option α → Json
  | some a => encode a
  | none => .null

def list {α : Type} (encode : α → Json) (items : List α) : Json :=
  .array (items.map encode)

/-! ### Text -/

/-- A character within a string literal. Quotes, backslashes and control characters are escaped. -/
def charText (c : Char) : List Char :=
  if c = '"' then ['\\', '"']
  else if c = '\\' then ['\\', '\\']
  else if c = '\x08' then ['\\', 'b']
  else if c = '\t' then ['\\', 't']
  else if c = '\n' then ['\\', 'n']
  else if c = '\x0c' then ['\\', 'f']
  else if c = '\r' then ['\\', 'r']
  else if c.toNat < 32 then
    ['\\', 'u', '0', '0', Nat.digitChar (c.toNat / 16), Nat.digitChar (c.toNat % 16)]
  else [c]

/-- A string literal. -/
def stringText : Option String → List Char
  | some s => '"' :: s.toList.flatMap charText ++ ['"']
  | none => "\"\\ud800\"".toList

def boolText (b : Bool) : List Char :=
  if b then ['t', 'r', 'u', 'e'] else ['f', 'a', 'l', 's', 'e']

mutual

/-- The text of a value, without spaces. -/
def text : Json → List Char
  | .null => ['n', 'u', 'l', 'l']
  | .bool b => boolText b
  | .number literal => literal
  | .string content => stringText content
  | .array [] => ['[', ']']
  | .array (item :: items) => '[' :: text item ++ itemsText items
  | .object [] => ['\x7b', '\x7d']
  | .object ((key, value) :: members) =>
    '\x7b' :: stringText key ++ ':' :: text value ++ membersText members

/-- The items after the first, with the closing bracket. -/
def itemsText : List Json → List Char
  | [] => [']']
  | item :: items => ',' :: text item ++ itemsText items

/-- The members after the first, with the closing brace. -/
def membersText : List (Option String × Json) → List Char
  | [] => ['\x7d']
  | (key, value) :: members =>
    ',' :: stringText key ++ ':' :: text value ++ membersText members

end

/-- The text of a value, without spaces, as a string. -/
def compact (j : Json) : String :=
  String.ofList j.text

/-- The start of a line at a depth of nesting. -/
def newline (depth : Nat) : List Char :=
  '\n' :: List.replicate (2 * depth) ' '

mutual

/-- The text of a value on lines of their own for items and members, indented by two spaces. -/
def prettyText (depth : Nat) : Json → List Char
  | .null => ['n', 'u', 'l', 'l']
  | .bool b => boolText b
  | .number literal => literal
  | .string content => stringText content
  | .array [] => ['[', ']']
  | .array (item :: items) =>
    '[' :: newline (depth + 1) ++ prettyText (depth + 1) item ++ prettyItems depth items
  | .object [] => ['\x7b', '\x7d']
  | .object ((key, value) :: members) =>
    '\x7b' :: newline (depth + 1) ++ stringText key ++ [':', ' '] ++
      prettyText (depth + 1) value ++ prettyMembers depth members

def prettyItems (depth : Nat) : List Json → List Char
  | [] => newline depth ++ [']']
  | item :: items =>
    ',' :: newline (depth + 1) ++ prettyText (depth + 1) item ++ prettyItems depth items

def prettyMembers (depth : Nat) : List (Option String × Json) → List Char
  | [] => newline depth ++ ['\x7d']
  | (key, value) :: members =>
    ',' :: newline (depth + 1) ++ stringText key ++ [':', ' '] ++
      prettyText (depth + 1) value ++ prettyMembers depth members

end

def pretty (j : Json) : String :=
  String.ofList (j.prettyText 0)

end Json

end TrusteeBoard
