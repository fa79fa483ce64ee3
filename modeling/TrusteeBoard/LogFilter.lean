import TrusteeBoard.Pattern.Group

/-!
# Log filters

A log filter is a list of directives, joined by commas. A directive names a level, a target, a span
in brackets with or without a field in braces, or a target and a span. An equals sign and a level
may follow a target or a span, and a value that of a field: a number or a pattern.

The parts of a directive are found without the blanks around it, by their bytes, and are cut out of
the directive with its blanks. So blanks at the start move what is cut out, and those at the end
belong to a level. `check` tells a directive that cannot be read from one that is cut inside a
character.
-/

namespace TrusteeBoard.LogFilter

/-- What is wrong with a log filter. -/
inductive Fault where
  /-- A directive cannot be read. -/
  | malformed
  /-- A directive is cut inside a character. -/
  | brokenCharacter
  deriving DecidableEq

/-! ### Levels -/

/-- The words for levels. -/
def levels : List String :=
  ["off", "error", "warn", "info", "debug", "trace"]

/-- The largest number of a level. -/
def maxLevel : Nat := 5

/-- Characters after a sign, which may be missing. -/
def unsigned : List Char → List Char
  | '+' :: cs | '-' :: cs => cs
  | cs => cs

/-- Whether some characters are the number of a level. It may have a plus sign. -/
def isLevelNumber (cs : List Char) : Bool :=
  let digits := if cs.head? = some '+' then cs.tail else cs
  !digits.isEmpty && digits.all Char.isDigit && Nat.ofDigitChars 10 digits 0 ≤ maxLevel

/-- Whether some characters are a level, as a number or as a word in any case of its letters. -/
def isLevel (cs : List Char) : Bool :=
  isLevelNumber cs || levels.contains (String.ofList (cs.map Char.toLower))

/-! ### Fields -/

/-- The words for numbers. -/
def numberWords : List String :=
  ["inf", "infinity", "nan"]

/-- Whether some characters are nothing or an exponent. -/
def isExponent : List Char → Bool
  | [] => true
  | c :: cs =>
    let digits := unsigned cs
    c.toLower = 'e' && !digits.isEmpty && digits.all Char.isDigit

/-- Whether some characters are a decimal number. It has a digit before its point or after it. -/
def isDecimal (cs : List Char) : Bool :=
  let hasDigit (cs : List Char) := cs.head?.any Char.isDigit
  match cs.dropWhile Char.isDigit with
  | '.' :: rest => (hasDigit cs || hasDigit rest) && isExponent (rest.dropWhile Char.isDigit)
  | rest => hasDigit cs && isExponent rest

/-- Whether some characters are a number. -/
def isNumber (cs : List Char) : Bool :=
  let cs := unsigned cs
  isDecimal cs || numberWords.contains (String.ofList (cs.map Char.toLower))

/-- Whether a field can be read. What stands between its first equals sign and the next is its
value. -/
def isField (cs : List Char) : Bool :=
  !cs.isEmpty &&
    match cs.dropWhile (· ≠ '=') with
    | '=' :: rest =>
      let value := rest.takeWhile (· ≠ '=')
      isNumber value || Pattern.isPattern value
    | _ => true

/-! ### Directives -/

/-- The characters after some number of bytes, if that is where one begins. -/
def dropBytes? : Nat → List Char → Option (List Char)
  | 0, cs => some cs
  | _ + 1, [] => none
  | n + 1, c :: cs => if c.utf8Size ≤ n + 1 then dropBytes? (n + 1 - c.utf8Size) cs else none

/-- The characters of some number of bytes, if that is where one ends. -/
def takeBytes? : Nat → List Char → Option (List Char)
  | 0, _ => some []
  | _ + 1, [] => none
  | n + 1, c :: cs =>
    if c.utf8Size ≤ n + 1 then (c :: ·) <$> takeBytes? (n + 1 - c.utf8Size) cs else none

/-- The characters of a text from one of its bytes up to another. -/
def cut (text : List Char) (start stop : Nat) : Except Fault (List Char) :=
  match dropBytes? start text >>= takeBytes? (stop - start) with
  | some part => .ok part
  | none => .error .brokenCharacter

/-- The first character of a kind, with the bytes before it and what follows it. -/
def find? (kind : Char → Bool) (before : Nat) : List Char → Option (Nat × Char × List Char)
  | [] => none
  | c :: cs => if kind c then some (before, c, cs) else find? kind (before + c.utf8Size) cs

/-- Characters that a target begins with. -/
def beginsTarget (c : Char) : Bool :=
  c = '-' || c = ':' || c = '_' || Text.isAlphanumeric c

section

variable (text : List Char)

/-- Checks the level that begins at a byte. It may be missing. -/
def checkLevel (start : Nat) : Except Fault Unit :=
  match dropBytes? start text with
  | none => .error .brokenCharacter
  | some level => if level.isEmpty || isLevel level then .ok () else .error .malformed

/-- Checks what follows a span, which ends at a byte. -/
def checkEnding (start : Nat) : List Char → Except Fault Unit
  | [] => .ok ()
  | '=' :: _ => checkLevel text (start + 1)
  | _ => .error .malformed

/-- Checks what follows the brace of a field, which begins at a byte. -/
def checkField (start : Nat) (cs : List Char) : Except Fault Unit := do
  let some (stop, _, rest) := find? (· = '\x7d') start cs | throw .malformed
  unless isField (← cut text start stop) do throw .malformed
  match rest with
  | ']' :: rest => checkEnding text (stop + 2) rest
  | _ => throw .malformed

/-- Checks what follows the bracket of a span, which begins at a byte. -/
def checkSpan (start : Nat) (cs : List Char) : Except Fault Unit := do
  let some (stop, c, rest) := find? (fun c => c = ']' || c = '\x7b') start cs | throw .malformed
  discard <| cut text start stop
  if c = ']' then checkEnding text (stop + 1) rest else checkField text (stop + 1) rest

/-- Checks a directive, given also without the blanks around it. -/
def checkTrimmed : List Char → Except Fault Unit
  | [] => .error .malformed
  | '[' :: cs => checkSpan text 1 cs
  | c :: cs => do
    unless beginsTarget c do throw .malformed
    match find? (fun c => c = '=' || c = '[') c.utf8Size cs with
    | none => return
    | some (stop, c, rest) =>
      discard <| cut text 0 stop
      if c = '=' then checkLevel text (stop + 1) else checkSpan text (stop + 1) rest

end

/-- The characters between the blanks around them. -/
def trim (cs : List Char) : List Char :=
  ((cs.dropWhile Text.isWhitespace).reverse.dropWhile Text.isWhitespace).reverse

def checkDirective (cs : List Char) : Except Fault Unit :=
  checkTrimmed cs (trim cs)

/-- Checks the directives of a log filter. Empty ones are left out. -/
def check (filter : String) : Except Fault Unit :=
  ((filter.splitOn ",").filter (· ≠ "")).forM fun directive => checkDirective directive.toList

end TrusteeBoard.LogFilter
