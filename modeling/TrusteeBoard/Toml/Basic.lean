/-!
# TOML values

`Toml` is the tree of a TOML document. A table remembers how it came about, because that decides
whether later lines may add to it.
-/

namespace TrusteeBoard

/-- How a table came about. -/
inductive Toml.Origin where
  /-- Written between braces; closed. -/
  | inline
  /-- Written under a header of its own. -/
  | header
  /-- Named on the way to another header. -/
  | implicit
  /-- Named on the way to a dotted key. -/
  | dotted
  deriving DecidableEq, Repr

/-- A TOML value. Floats and points in time are kept as they are written. -/
inductive Toml where
  | text (s : String)
  | integer (n : Int)
  | float (literal : List Char)
  | bool (b : Bool)
  | dateTime (literal : List Char)
  | array (items : List Toml)
  | table (origin : Toml.Origin) (entries : List (String × Toml))
  /-- The tables under the repeated headers of one array, in order. -/
  | tables (elements : List (List (String × Toml)))

namespace Toml

/-- The entries of a table. -/
abbrev Entries : Type := List (String × Toml)

/-- The value of a key. -/
def Entries.find? (entries : Entries) (key : String) : Option Toml :=
  entries.lookup key

/-- The entries with the value of a key set in its place, or at the end if it is new. -/
def Entries.set (entries : Entries) (key : String) (value : Toml) : Entries :=
  match entries with
  | [] => [(key, value)]
  | (k, v) :: rest => if k = key then (k, value) :: rest else (k, v) :: Entries.set rest key value

end Toml

end TrusteeBoard
