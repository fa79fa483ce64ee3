import TrusteeBoard.Toml.Basic
import TrusteeBoard.Json.Parser

/-!
# Numbers and points in time of TOML

Integers are decimal with a sign, or hexadecimal, octal or binary without one, and fit a signed
64-bit word. Digits may be grouped by single underscores. Floats are kept as written; a positive one
beyond the largest double is refused. Dates are checked against the calendar.
-/

namespace TrusteeBoard.Toml

/-! ### Digits -/

/-- The digits after the first of a number, single underscores between digits left out. -/
def groupedTail (isDigit : Char → Bool) : List Char → List Char × List Char
  | '_' :: d :: rest =>
    if isDigit d then
      let (ds, rest) := groupedTail isDigit rest
      (d :: ds, rest)
    else ([], '_' :: d :: rest)
  | d :: rest =>
    if isDigit d then
      let (ds, rest) := groupedTail isDigit rest
      (d :: ds, rest)
    else ([], d :: rest)
  | [] => ([], [])

/-- One or more digits, grouped. -/
def grouped? (isDigit : Char → Bool) : List Char → Option (List Char × List Char)
  | d :: rest =>
    if isDigit d then
      let (ds, rest) := groupedTail isDigit rest
      some (d :: ds, rest)
    else none
  | [] => none

/-- A decimal number without superfluous zeros. -/
def decimal? : List Char → Option (List Char × List Char)
  | '0' :: rest => some (['0'], rest)
  | cs => grouped? Char.isDigit cs

/-- Whether a number is negative, and the input after its sign. -/
def sign : List Char → Bool × List Char
  | '+' :: rest => (false, rest)
  | '-' :: rest => (true, rest)
  | cs => (false, cs)

def isHexDigit (c : Char) : Bool := (Json.hexValue? c).isSome

def isOctalDigit (c : Char) : Bool := '0' ≤ c && c ≤ '7'

def isBinaryDigit (c : Char) : Bool := c = '0' || c = '1'

/-- The number that digits denote in a base up to sixteen. -/
def ofDigits (base : Nat) (digits : List Char) : Nat :=
  digits.foldl (fun n d => n * base + (Json.hexValue? d).getD 0) 0

/-! ### Integers -/

/-- An integer that fits a signed 64-bit word. -/
def inRange (n : Int) : Option Toml :=
  if -0x8000000000000000 ≤ n ∧ n < 0x8000000000000000 then some (.integer n) else none

def based? (base : Nat) (isDigit : Char → Bool) (cs : List Char) : Option (Toml × List Char) := do
  let (digits, rest) ← grouped? isDigit cs
  return (← inRange (ofDigits base digits), rest)

def integer? : List Char → Option (Toml × List Char)
  | '0' :: 'x' :: rest => based? 16 isHexDigit rest
  | '0' :: 'o' :: rest => based? 8 isOctalDigit rest
  | '0' :: 'b' :: rest => based? 2 isBinaryDigit rest
  | cs => do
    let (negative, cs) := sign cs
    let (digits, rest) ← decimal? cs
    let n : Int := ofDigits 10 digits
    return (← inRange (if negative then -n else n), rest)

/-! ### Floats -/

/-- The least number that is no finite double any more. -/
def floatLimit : Nat := Nat.pow 2 1024 - Nat.pow 2 970

/-- Whether `digits`, taken as a whole number, times ten to `exponent` reaches the limit. The bounds
on the number of places keep the powers of ten small. -/
def exceedsDouble (digits : List Char) (exponent : Int) : Bool :=
  let m := digits.dropWhile (· = '0')
  let places := m.length + exponent
  if m.isEmpty || places < 308 then false
  else if 310 < places then true
  else if 0 ≤ exponent then floatLimit ≤ ofDigits 10 m * Nat.pow 10 exponent.toNat
  else floatLimit * Nat.pow 10 (-exponent).toNat ≤ ofDigits 10 m

def fraction? : List Char → Option (List Char × List Char)
  | '.' :: rest => grouped? Char.isDigit rest
  | _ => none

def exponent? : List Char → Option (Int × List Char)
  | e :: rest =>
    if e = 'e' || e = 'E' then do
      let (negative, rest) := sign rest
      let (digits, rest) ← grouped? Char.isDigit rest
      let n : Int := ofDigits 10 digits
      return (if negative then -n else n, rest)
    else none
  | [] => none

def special? : List Char → Option (List Char)
  | 'i' :: 'n' :: 'f' :: rest => some rest
  | 'n' :: 'a' :: 'n' :: rest => some rest
  | _ => none

/-- A float: a decimal number with a fraction, an exponent or both, or a word. -/
def float? (cs : List Char) : Option (Toml × List Char) := do
  let (negative, unsigned) := sign cs
  let found (rest : List Char) := (Toml.float (cs.take (cs.length - rest.length)), rest)
  match special? unsigned with
  | some rest => return found rest
  | none =>
    let (whole, afterWhole) ← decimal? unsigned
    let (fraction, afterFraction) := (fraction? afterWhole).getD ([], afterWhole)
    let (exponent, rest) := (exponent? afterFraction).getD (0, afterFraction)
    if rest.length = afterWhole.length then none
    else if !negative && exceedsDouble (whole ++ fraction) (exponent - fraction.length) then none
    else return found rest

/-! ### Points in time -/

/-- A number of exactly two digits within bounds. -/
def two? (low high : Nat) : List Char → Option (Nat × List Char)
  | a :: b :: rest =>
    let n := ofDigits 10 [a, b]
    if a.isDigit && b.isDigit && low ≤ n && n ≤ high then some (n, rest) else none
  | _ => none

def char? (c : Char) : List Char → Option (List Char)
  | d :: rest => if c = d then some rest else none
  | [] => none

def daysInMonth (year month : Nat) : Nat :=
  if month = 2 then
    if year % 4 = 0 ∧ (year % 100 ≠ 0 ∨ year % 400 = 0) then 29 else 28
  else if month = 4 ∨ month = 6 ∨ month = 9 ∨ month = 11 then 30
  else 31

def date? : List Char → Option (List Char)
  | a :: b :: c :: d :: rest => do
    if !([a, b, c, d].all Char.isDigit) then none
    else
      let (month, rest) ← two? 1 12 (← char? '-' rest)
      let (_, rest) ← two? 1 (daysInMonth (ofDigits 10 [a, b, c, d]) month) (← char? '-' rest)
      return rest
  | _ => none

/-- Fractions of a second, if there are any. -/
def afterSecond (cs : List Char) : List Char :=
  match cs with
  | '.' :: rest => if (rest.takeWhile Char.isDigit).isEmpty then cs else rest.dropWhile Char.isDigit
  | _ => cs

def time? (cs : List Char) : Option (List Char) := do
  let (_, rest) ← two? 0 23 cs
  let (_, rest) ← two? 0 59 (← char? ':' rest)
  let (_, rest) ← two? 0 60 (← char? ':' rest)
  return afterSecond rest

def offset? : List Char → Option (List Char)
  | 'Z' :: rest => some rest
  | 'z' :: rest => some rest
  | c :: rest =>
    if c = '+' || c = '-' then do
      let (_, rest) ← two? 0 23 rest
      let (_, rest) ← two? 0 59 (← char? ':' rest)
      return rest
    else none
  | [] => none

/-- The input after a time of day that follows a date, with its offset, if there is one. -/
def afterDate (cs : List Char) : List Char :=
  match cs with
  | c :: rest =>
    if c = 'T' || c = 't' || c = ' ' then
      match time? rest with
      | some rest => (offset? rest).getD rest
      | none => cs
    else cs
  | [] => cs

/-- A date, a time of day, or both with or without an offset. -/
def dateTime? (cs : List Char) : Option (Toml × List Char) := do
  let rest ← (date? cs).map afterDate <|> time? cs
  return (.dateTime (cs.take (cs.length - rest.length)), rest)

/-- A number or point in time. -/
def number? (cs : List Char) : Option (Toml × List Char) :=
  dateTime? cs <|> float? cs <|> integer? cs

end TrusteeBoard.Toml
