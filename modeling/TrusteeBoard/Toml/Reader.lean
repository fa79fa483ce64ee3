import TrusteeBoard.Toml.Basic

/-!
# Reading values out of TOML

The fields of a record are entries of a table; entries with other names are ignored. A case is its
name, or a table with its name as only key and its content as value.
-/

namespace TrusteeBoard.Toml

/-- The value of a key of a table, read, or a default if there is none. -/
def Entries.defaulted {α : Type} (entries : Entries) (key : String) (read : Toml → Option α)
    (default : α) : Option α :=
  match entries.find? key with
  | some value => read value
  | none => some default

def readText : Toml → Option String
  | .text s => some s
  | _ => none

/-- A natural number below a bound. -/
def readNat (bound : Nat) : Toml → Option Nat
  | .integer n => if 0 ≤ n ∧ n < bound then some n.toNat else none
  | _ => none

/-- The name of a case, with its content if it is written as a table. -/
def readCase : Toml → Option (String × Option Toml)
  | .text name => some (name, none)
  | .table _ [(name, content)] => some (name, some content)
  | _ => none

/-- A case without content, by name. Its content is an empty table or array if it is written at
all. -/
def readPlainCase {α : Type} (ofName : String → Option α) (value : Toml) : Option α :=
  match readCase value with
  | some (name, none) => ofName name
  | some (name, some (.table _ [])) => ofName name
  | some (name, some (.array [])) => ofName name
  | _ => none

end TrusteeBoard.Toml
