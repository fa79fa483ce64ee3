import TrusteeBoard.Json.Basic

/-!
# Reading values out of JSON

A record is written as an object of its fields or as an array of them in order. A `FieldReader`
reads fields one after the other from either form: by name, each at most once, or by position.
Members with other names are ignored, further items are not.
-/

namespace TrusteeBoard.Json

/-- The fields of a record: members by name, or the items not read yet. -/
inductive Fields where
  | named (members : List (String × Json))
  | positional (items : List Json)

/-- Reads some fields of a record. -/
abbrev FieldReader := StateT Fields Option

namespace Fields

/-- The members of an object whose keys are all text, or the items of an array. -/
def ofJson? : Json → Option Fields
  | .object members =>
    .named <$> members.mapM fun (key, value) => key.map fun key => (key, value)
  | .array items => some (.positional items)
  | _ => none

/-- Whether no item is left over. -/
def isDone : Fields → Bool
  | .named _ => true
  | .positional items => items.isEmpty

end Fields

/-- The value of the next field, if it is there. -/
def field? (name : String) : FieldReader (Option Json) := fun fields =>
  match fields with
  | .named members =>
    match members.filter fun m => m.1 == name with
    | [] => some (none, fields)
    | [m] => some (some m.2, fields)
    | _ => none
  | .positional [] => some (none, fields)
  | .positional (item :: items) => some (some item, .positional items)

/-- A field that has to be there. -/
def required {α : Type} (name : String) (read : Json → Option α) : FieldReader α := do
  match ← field? name with
  | some value => read value
  | none => failure

/-- A field with a default. -/
def defaulted {α : Type} (name : String) (read : Json → Option α) (default : α) :
    FieldReader α := do
  match ← field? name with
  | some value => read value
  | none => return default

/-- A field that may be null. As a member it may also be missing. -/
def nullable {α : Type} (name : String) (read : Json → Option α) : FieldReader (Option α) := do
  match ← field? name, ← get with
  | some .null, _ => return none
  | some value, _ => some <$> read value
  | none, .named _ => return none
  | none, .positional _ => failure

/-- A record with the fields that a reader reads. -/
def readRecord {α : Type} (reader : FieldReader α) (j : Json) : Option α := do
  let (a, rest) ← reader.run (← Fields.ofJson? j)
  if rest.isDone then return a else none

/-- A natural number below a bound, written with digits only. -/
def readNat (bound : Nat) : Json → Option Nat
  | .number literal =>
    if literal.all Char.isDigit && Nat.ofDigitChars 10 literal 0 < bound then
      some (Nat.ofDigitChars 10 literal 0)
    else none
  | _ => none

def readBool : Json → Option Bool
  | .bool b => some b
  | _ => none

def readString : Json → Option String
  | .string content => content
  | _ => none

def readList {α : Type} (read : Json → Option α) : Json → Option (List α)
  | .array items => items.mapM read
  | _ => none

/-- The members of an object whose keys and values can be read. -/
def readMembers {κ α : Type} (readKey : String → Option κ) (read : Json → Option α) :
    Json → Option (List (κ × α))
  | .object members =>
    members.mapM fun (key, value) => do return (← readKey (← key), ← read value)
  | _ => none

/-- The name of a case, with its content if it is written as an object of one member. -/
def readCase : Json → Option (String × Option Json)
  | .string (some name) => some (name, none)
  | .object [(some name, content)] => some (name, some content)
  | _ => none

/-- A case without content, by name. Its content is null if it is written at all. -/
def readPlainCase {α : Type} (ofName : String → Option α) (j : Json) : Option α :=
  match readCase j with
  | some (name, none) => ofName name
  | some (name, some .null) => ofName name
  | _ => none

end TrusteeBoard.Json
