import TrusteeBoard.Json.Parser

/-!
# Blanks, keys and strings of TOML

The parts of a line that hold text: blanks and comments, bare and quoted keys, and the four kinds of
strings. Every parser answers with what it read and the rest of the input.
-/

namespace TrusteeBoard.Toml

/-! ### Blanks and comments -/

def isBlank (c : Char) : Bool :=
  c = ' ' || c = '\t'

def skipBlanks (cs : List Char) : List Char :=
  cs.dropWhile isBlank

/-- Characters that stand for themselves on one line: no control characters but the tab. -/
def isPlain (c : Char) : Bool :=
  c = '\t' || (32 ≤ c.toNat && c.toNat ≠ 127)

def newline? : List Char → Option (List Char)
  | '\n' :: rest => some rest
  | '\r' :: '\n' :: rest => some rest
  | _ => none

def skipComment : List Char → List Char
  | '#' :: rest => rest.dropWhile isPlain
  | cs => cs

/-- The input after the end of a line, which may hold blanks and a comment first. -/
def lineEnd? (cs : List Char) : Option (List Char) :=
  match skipComment (skipBlanks cs) with
  | [] => some []
  | cs => newline? cs

/-- Skips blanks, line ends and comments, each comment up to the end of its line. -/
def skipTrivia? (inComment : Bool) : List Char → Option (List Char)
  | [] => if inComment then none else some []
  | '\n' :: rest => skipTrivia? false rest
  | '\r' :: '\n' :: rest => skipTrivia? false rest
  | c :: rest =>
    if inComment then if isPlain c then skipTrivia? true rest else none
    else if isBlank c then skipTrivia? false rest
    else if c = '#' then skipTrivia? true rest
    else some (c :: rest)

/-! ### Strings -/

/-- The character of a code point that is one. -/
def ofCode? (n : Nat) : Option Char :=
  if n.isValidChar then some (Char.ofNat n) else none

def simpleEscape? : Char → Option Char
  | '"' => some '"'
  | '\\' => some '\\'
  | 'b' => some '\x08'
  | 'f' => some '\x0c'
  | 'n' => some '\n'
  | 'r' => some '\r'
  | 't' => some '\t'
  | _ => none

/-- One more character before the rest of a string. -/
def consChar (c : Char) (rest : List Char × List Char) : List Char × List Char :=
  (c :: rest.1, rest.2)

/-- A string on one line after its opening double quote. -/
def basicBody : List Char → Option (List Char × List Char)
  | [] => none
  | '"' :: rest => some ([], rest)
  | '\\' :: 'u' :: a :: b :: c :: d :: rest => do
    let code ← Json.hex4? a b c d
    return consChar (← ofCode? code) (← basicBody rest)
  | '\\' :: 'U' :: a :: b :: c :: d :: e :: f :: g :: h :: rest => do
    let code := (← Json.hex4? a b c d) * 0x10000 + (← Json.hex4? e f g h)
    return consChar (← ofCode? code) (← basicBody rest)
  | '\\' :: c :: rest => do return consChar (← simpleEscape? c) (← basicBody rest)
  | c :: rest => if isPlain c && c ≠ '\\' then consChar c <$> basicBody rest else none

/-- A string on one line after its opening single quote. -/
def literalBody : List Char → Option (List Char × List Char)
  | [] => none
  | '\'' :: rest => some ([], rest)
  | c :: rest => if isPlain c then consChar c <$> literalBody rest else none

/-- The end of a string of several lines: the three quotes, after up to two that belong to it. -/
def closing (quote : Char) : List Char → List Char × List Char
  | c :: d :: rest =>
    if c = quote ∧ d = quote then ([quote, quote], rest)
    else if c = quote then ([quote], d :: rest)
    else ([], c :: d :: rest)
  | [c] => if c = quote then ([quote], []) else ([], [c])
  | [] => ([], [])

/-- Whether a backslash before `rest` ends its line, so that blanks and line ends after it are left
out. -/
def endsLine (rest : List Char) : Bool :=
  (newline? (skipBlanks rest)).isSome

/-- A string of several lines after its opening double quotes; `skipping` while blanks and line ends
are left out. -/
def multiBasicBody (skipping : Bool) : List Char → Option (List Char × List Char)
  | [] => none
  | '"' :: '"' :: '"' :: rest => some (closing '"' rest)
  | '\n' :: rest =>
    if skipping then multiBasicBody true rest
    else consChar '\n' <$> multiBasicBody false rest
  | '\r' :: '\n' :: rest =>
    if skipping then multiBasicBody true rest
    else consChar '\n' <$> multiBasicBody false rest
  | '\\' :: 'u' :: a :: b :: c :: d :: rest => do
    let code ← Json.hex4? a b c d
    return consChar (← ofCode? code) (← multiBasicBody false rest)
  | '\\' :: 'U' :: a :: b :: c :: d :: e :: f :: g :: h :: rest => do
    let code := (← Json.hex4? a b c d) * 0x10000 + (← Json.hex4? e f g h)
    return consChar (← ofCode? code) (← multiBasicBody false rest)
  | '\\' :: c :: rest =>
    if endsLine (c :: rest) then multiBasicBody true (c :: rest)
    else do return consChar (← simpleEscape? c) (← multiBasicBody false rest)
  | c :: rest =>
    if skipping && isBlank c then multiBasicBody true rest
    else if isPlain c && c ≠ '\\' then consChar c <$> multiBasicBody false rest
    else none

/-- A string of several lines after its opening single quotes. -/
def multiLiteralBody : List Char → Option (List Char × List Char)
  | [] => none
  | '\'' :: '\'' :: '\'' :: rest => some (closing '\'' rest)
  | '\n' :: rest => consChar '\n' <$> multiLiteralBody rest
  | '\r' :: '\n' :: rest => consChar '\n' <$> multiLiteralBody rest
  | c :: rest => if isPlain c then consChar c <$> multiLiteralBody rest else none

/-- The input without a line end right at its start. -/
def dropNewline (cs : List Char) : List Char :=
  (newline? cs).getD cs

/-- A string of any of the four kinds. -/
def string? : List Char → Option (List Char × List Char)
  | '"' :: '"' :: '"' :: rest => multiBasicBody false (dropNewline rest)
  | '"' :: rest => basicBody rest
  | '\'' :: '\'' :: '\'' :: rest => multiLiteralBody (dropNewline rest)
  | '\'' :: rest => literalBody rest
  | _ => none

/-! ### Keys -/

def isBareKeyChar (c : Char) : Bool :=
  c.isAlphanum || c = '_' || c = '-'

/-- A bare key or one in quotes of one line. -/
def simpleKey? : List Char → Option (List Char × List Char)
  | '"' :: rest => basicBody rest
  | '\'' :: rest => literalBody rest
  | cs =>
    match cs.takeWhile isBareKeyChar with
    | [] => none
    | key => some (key, cs.dropWhile isBareKeyChar)

/-- Keys joined by dots, with blanks around each. The fuel bounds their number. -/
def keyPath? : Nat → List Char → Option (List String × List Char)
  | 0, _ => none
  | fuel + 1, cs => do
    let (key, rest) ← simpleKey? (skipBlanks cs)
    match skipBlanks rest with
    | '.' :: rest =>
      let (path, rest) ← keyPath? fuel rest
      return (String.ofList key :: path, rest)
    | rest => return ([String.ofList key], rest)

/-- The bound on nesting: arrays and inline tables nest and dotted keys chain less deep than this.
-/
def nestingLimit : Nat := 80

/-- A key of fewer parts than the limit. -/
def key? (cs : List Char) : Option (List String × List Char) :=
  keyPath? (nestingLimit - 1) cs

end TrusteeBoard.Toml
