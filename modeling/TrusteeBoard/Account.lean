/-!
# Names

An account name (`Account`) is one to twelve letters, drawn from `a` to `z`, `1` to `5` and the dot,
and does not end in a dot. Accounts are ordered letter by letter; `Account.keyBytes` keeps that
order. A treasury symbol (`TreasurySymbol`) is one to seven capital letters. Both are built only
from text that passes the check, and `NameError` says which check a text failed.
-/

namespace TrusteeBoard

/-- Why a text is not a name. -/
inductive NameError where
  | account (raw : String)
  | symbol (raw : String)
  deriving DecidableEq, Repr

/-- The text reported for a rejected name. -/
def NameError.message : NameError → String
  | .account raw => s!"invalid account name '{raw}': expected 1-12 chars of a-z, 1-5 and '.'"
  | .symbol raw => s!"invalid treasury symbol '{raw}': expected 1-7 uppercase letters"

/-! ### Account names -/

/-- The letters that account names are made of. -/
def isAccountLetter (c : Char) : Bool :=
  ('a' ≤ c && c ≤ 'z') || ('1' ≤ c && c ≤ '5') || c == '.'

/-- One to twelve account letters, the last of them no dot. -/
def isAccountName (letters : List Char) : Bool :=
  !letters.isEmpty && letters.length ≤ 12 && letters.getLast? != some '.' &&
    letters.all isAccountLetter

/-- A well-formed account name. -/
structure Account where
  letters : List Char
  wellFormed : isAccountName letters = true
  deriving DecidableEq

namespace Account

def toString (a : Account) : String :=
  String.ofList a.letters

instance : ToString Account := ⟨toString⟩

instance : Repr Account := ⟨fun a _ => a.toString⟩

def ofLetters? (letters : List Char) : Option Account :=
  if h : isAccountName letters = true then some ⟨letters, h⟩ else none

def ofString? (raw : String) : Option Account :=
  ofLetters? raw.toList

def parse (raw : String) : Except NameError Account :=
  match ofString? raw with
  | some a => .ok a
  | none => .error (.account raw)

instance : Ord Account := ⟨compareOn letters⟩

instance : Std.TransOrd Account := inferInstanceAs (Std.TransCmp (compareOn letters))

instance : Std.LawfulEqOrd Account where
  eq_of_compare {a b} h := by
    have : a.letters = b.letters := Std.LawfulEqOrd.eq_of_compare h
    cases a
    cases b
    simp_all

/-- The bytes under which a store files the account. -/
def keyBytes (a : Account) : List UInt8 :=
  a.letters.map fun c => c.toNat.toUInt8

end Account

/-! ### Treasury symbols -/

/-- One to seven capital letters. -/
def isSymbol (letters : List Char) : Bool :=
  !letters.isEmpty && letters.length ≤ 7 && letters.all fun c => 'A' ≤ c && c ≤ 'Z'

/-- The symbol of the treasury whose holdings weight the ballots. -/
structure TreasurySymbol where
  letters : List Char
  wellFormed : isSymbol letters = true
  deriving DecidableEq

namespace TreasurySymbol

def toString (s : TreasurySymbol) : String :=
  String.ofList s.letters

instance : ToString TreasurySymbol := ⟨toString⟩

instance : Repr TreasurySymbol := ⟨fun s _ => s.toString⟩

def ofString? (raw : String) : Option TreasurySymbol :=
  if h : isSymbol raw.toList = true then some ⟨raw.toList, h⟩ else none

def parse (raw : String) : Except NameError TreasurySymbol :=
  match ofString? raw with
  | some s => .ok s
  | none => .error (.symbol raw)

end TreasurySymbol

end TrusteeBoard
