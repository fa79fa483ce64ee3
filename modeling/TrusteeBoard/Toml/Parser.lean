import TrusteeBoard.Toml.Document
import TrusteeBoard.Toml.Lexical
import TrusteeBoard.Toml.Number

/-!
# Reading TOML

`Toml.parse?` reads a document of TOML 1.0. Lines are read first, into pairs and headers
(`statements?`), and put together afterwards. The fuel of the recursive parsers is computed from the
input; the depth bounds the nesting of arrays and inline tables.
-/

namespace TrusteeBoard.Toml

/-- The pair of a path whose last part is the key. -/
def Pair.ofPath? (path : List String) (value : Toml) : Option Pair := do
  return ⟨path.dropLast, ← path.getLast?, value⟩

mutual

/-- A value at a given depth of nesting still allowed. -/
def value? : (fuel depth : Nat) → List Char → Option (Toml × List Char)
  | 0, _, _ => none
  | fuel + 1, depth, cs =>
    match cs with
    | '[' :: rest =>
      match depth with
      | 0 => none
      | depth + 1 => do
        let (items, rest) ← items? fuel depth rest
        return (.array items, rest)
    | '\x7b' :: rest =>
      match depth, skipBlanks rest with
      | 0, _ => none
      | _ + 1, '\x7d' :: rest => some (.table .inline [], rest)
      | depth + 1, rest => do
        let (pairs, rest) ← pairs? fuel depth rest
        let entries ← insertPairs .inline [] pairs
        return (.table .inline entries, rest)
    | 't' :: 'r' :: 'u' :: 'e' :: rest => some (.bool true, rest)
    | 'f' :: 'a' :: 'l' :: 's' :: 'e' :: rest => some (.bool false, rest)
    | c :: _ =>
      if c = '"' || c = '\'' then do
        let (s, rest) ← string? cs
        return (.text (String.ofList s), rest)
      else number? cs
    | [] => none

/-- The items of an array and its closing bracket. -/
def items? : (fuel depth : Nat) → List Char → Option (List Toml × List Char)
  | 0, _, _ => none
  | fuel + 1, depth, cs => do
    match ← skipTrivia? false cs with
    | ']' :: rest => return ([], rest)
    | cs =>
      let (item, rest) ← value? fuel depth cs
      match ← skipTrivia? false rest with
      | ',' :: rest =>
        let (items, rest) ← items? fuel depth rest
        return (item :: items, rest)
      | ']' :: rest => return ([item], rest)
      | _ => none

/-- The pairs of an inline table, one or more, and its closing brace. -/
def pairs? : (fuel depth : Nat) → List Char → Option (List Pair × List Char)
  | 0, _, _ => none
  | fuel + 1, depth, cs => do
    let (path, rest) ← key? cs
    let rest ← char? '=' rest
    let (value, rest) ← value? fuel depth (skipBlanks rest)
    let pair ← Pair.ofPath? path value
    match skipBlanks rest with
    | ',' :: rest =>
      let (pairs, rest) ← pairs? fuel depth rest
      return (pair :: pairs, rest)
    | '\x7d' :: rest => return ([pair], rest)
    | _ => none

end

/-- A line with a key and a value, which may go on over several lines. -/
def pairLine? (cs : List Char) : Option (Pair × List Char) := do
  let (path, rest) ← key? cs
  let rest ← char? '=' rest
  let (value, rest) ← value? (2 * rest.length + 2) (nestingLimit - 1) (skipBlanks rest)
  let pair ← Pair.ofPath? path value
  let rest ← lineEnd? rest
  return (pair, rest)

/-- A header line after its opening brackets. -/
def headerLine? (isElement : Bool) (cs : List Char) : Option (Section × List Char) := do
  let (path, rest) ← key? cs
  let rest ← char? ']' rest
  let rest ← if isElement then char? ']' rest else some rest
  let rest ← lineEnd? rest
  return (⟨isElement, path, []⟩, rest)

/-- A document with one more pair before its first header. -/
def Document.consPair (pair : Pair) (d : Document) : Document :=
  { d with pairs := pair :: d.pairs }

/-- The document of a header and what follows it. -/
def Document.consHeader (header : Section) (d : Document) : Document :=
  ⟨[], { header with pairs := d.pairs } :: d.sections⟩

/-- The lines of a document. -/
def document? : Nat → List Char → Option Document
  | 0, _ => none
  | fuel + 1, cs =>
    match skipBlanks cs with
    | [] => some ⟨[], []⟩
    | '[' :: '[' :: rest => do
      let (header, rest) ← headerLine? true rest
      return .consHeader header (← document? fuel rest)
    | '[' :: rest => do
      let (header, rest) ← headerLine? false rest
      return .consHeader header (← document? fuel rest)
    | c :: rest =>
      if c = '#' || c = '\n' || c = '\r' then do
        document? fuel (← lineEnd? (c :: rest))
      else do
        let (pair, rest) ← pairLine? (c :: rest)
        return .consPair pair (← document? fuel rest)

/-- The text without a byte order mark at its start. -/
def dropByteOrderMark : List Char → List Char
  | '\ufeff' :: rest => rest
  | cs => cs

/-- The entries of the document that a text consists of. -/
def parse? (s : String) : Option Entries := do
  let cs := dropByteOrderMark s.toList
  (← document? (cs.length + 1) cs).entries?

end TrusteeBoard.Toml
