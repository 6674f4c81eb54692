import Rulebook.Document.Read
import Rulebook.Yaml.Cursor

/-!
Writing a document tree as YAML in block style.

Nested mappings are indented by two columns; sequences stand at the column of
their key.  Text is plain unless a reader could take it for something else: a
text that spells null, a truth value or a number, or that structure would break,
is put in single quotes, one with unprintable characters in double quotes, and
one of several lines becomes a literal block.
-/

namespace Rulebook.Yaml

/-! ## The style of a text -/

/-- Is `m · 10 ^ e` below the point from which on it rounds to no finite double? -/
def isFinite (m : Nat) (e : Int) : Bool :=
  let places : Int := (Nat.toDigits 10 m).length + e
  if m == 0 || places ≤ 308 then true
  else if places > 310 then false
  else
    let limit := Nat.pow 2 1024 - Nat.pow 2 970
    if 0 ≤ e then m * Nat.pow 10 e.toNat < limit else m < limit * Nat.pow 10 (-e).toNat

def spellsFloat (s : String) : Bool :=
  let cs := s.toList
  let unsigned := match cs with
    | '+' :: rest | '-' :: rest => rest
    | rest => rest
  let (whole, rest) := unsigned.span Char.isDigit
  let (part, rest) := match rest with
    | '.' :: ds => ds.span Char.isDigit
    | _ => ([], rest)
  let digits := whole ++ part
  let exponent? : Option Int := match rest with
    | [] => some 0
    | c :: ds => if c == 'e' || c == 'E' then Text.signed? (String.ofList ds) else none
  let decimal := match exponent? with
    | some e => !digits.isEmpty && isFinite (Nat.ofDigitChars 10 digits 0) (e - part.length)
    | none => false
  decimal || [".inf", ".Inf", ".INF", "+.inf", "+.Inf", "+.INF", "-.inf", "-.Inf", "-.INF",
    ".nan", ".NaN", ".NAN"].contains s

/-- Would the text, left plain, be read as null, a truth value or a number, or does it stand for
a number with needless zeros? -/
def spellsOther (s : String) : Bool :=
  let unsigned := match s.toList with
    | '+' :: rest | '-' :: rest => rest
    | rest => rest
  s.isEmpty || Literal.null? s || (Literal.bool? s).isSome || (Literal.integer? s).isSome ||
    Literal.paddedDigits unsigned || spellsFloat s

def isPrintable (c : Char) : Bool :=
  let n := c.toNat
  n == 0x0A || (0x20 ≤ n && n ≤ 0x7E) || (0xA0 ≤ n && n ≤ 0xFFFD && n != 0xFEFF) || 0x10000 ≤ n

def isBreak (c : Char) : Bool :=
  c == '\n' || c == '\r' || c == '\u0085' || c == '\u2028' || c == '\u2029'

def gapOrEnd : List Char → Bool
  | [] => true
  | c :: _ => isGap c || isBreak c

/-- Do characters that mean structure stand at the start, or at a place that gives them meaning? -/
def hasIndicator (cs : List Char) : Bool :=
  let marker := match cs with
    | '-' :: '-' :: '-' :: _ | '.' :: '.' :: '.' :: _ => true
    | _ => false
  let first := match cs with
    | [] => false
    | c :: rest =>
        if c == '-' || c == '?' || c == ':' then gapOrEnd rest
        else [',', '[', ']', '{', '}', '#', '&', '*', '!', '|', '>', '\'', '"', '%', '@',
          '\x60'].contains c
  marker || first || within cs
where
  within : List Char → Bool
    | [] => false
    | c :: rest =>
        ((isGap c || isBreak c) && rest.head? == some '#') ||
          (rest.head? == some ':' && gapOrEnd (rest.drop 1)) || within rest

def spaceBeforeBreak : List Char → Bool
  | ' ' :: c :: cs => isBreak c || spaceBeforeBreak (c :: cs)
  | _ :: cs => spaceBeforeBreak cs
  | [] => false

def spaceAfterBreak : List Char → Bool
  | b :: c :: cs => (isBreak b && c == ' ') || spaceAfterBreak (c :: cs)
  | _ => false

def hasUnprintable (cs : List Char) : Bool :=
  cs.any (!isPrintable ·) || spaceBeforeBreak cs

/-! ## The written text -/

def singleQuoted (cs : List Char) : String :=
  "'" ++ String.ofList (cs.flatMap fun c => if c == '\'' then ['\'', '\''] else [c]) ++ "'"

def hexDigits (width n : Nat) : List Char :=
  let ds := (Nat.toDigits 16 n).map Char.toUpper
  List.replicate (width - ds.length) '0' ++ ds

def escaped (c : Char) : List Char :=
  if c == '\x00' then ['\\', '0']
  else if c == '\x07' then ['\\', 'a']
  else if c == '\x08' then ['\\', 'b']
  else if c == '\t' then ['\\', 't']
  else if c == '\n' then ['\\', 'n']
  else if c == '\x0B' then ['\\', 'v']
  else if c == '\x0C' then ['\\', 'f']
  else if c == '\r' then ['\\', 'r']
  else if c == '\x1B' then ['\\', 'e']
  else if c == '"' || c == '\\' then ['\\', c]
  else if c == '\u0085' then ['\\', 'N']
  else if c == '\u2028' then ['\\', 'L']
  else if c == '\u2029' then ['\\', 'P']
  else if isPrintable c then [c]
  else if c.toNat ≤ 0xFF then '\\' :: 'x' :: hexDigits 2 c.toNat
  else if c.toNat ≤ 0xFFFF then '\\' :: 'u' :: hexDigits 4 c.toNat
  else '\\' :: 'U' :: hexDigits 8 c.toNat

def doubleQuoted (cs : List Char) : String :=
  "\"" ++ String.ofList (cs.flatMap escaped) ++ "\""

def literalBlock (s : String) : List String :=
  let cs := s.toList
  let hint := match cs with
    | c :: _ => if c == ' ' || isBreak c then "2" else ""
    | [] => ""
  let (chomp, body) := match cs.reverse with
    | '\n' :: '\n' :: rest => ("+", ('\n' :: rest).reverse)
    | ['\n'] => ("+", [])
    | '\n' :: rest => ("", rest.reverse)
    | _ => ("-", cs)
  let lines := (String.ofList body).splitOn "\n"
  ("|" ++ hint ++ chomp) :: lines.map fun line => if line.isEmpty then line else "  " ++ line

def scalarLines (s : String) : List String :=
  let cs := s.toList
  let edges := cs.head? == some ' ' || cs.getLast? == some ' '
  if cs.any (· == '\n') then
    if hasUnprintable cs || cs.getLast? == some ' ' then [doubleQuoted cs] else literalBlock s
  else if hasUnprintable cs || spaceAfterBreak cs then [doubleQuoted cs]
  else if spellsOther s || edges || cs.any isBreak || hasIndicator cs then [singleQuoted cs]
  else [s]

def indent (line : String) : String :=
  if line.isEmpty then line else "  " ++ line

mutual

def lines : Node → List String
  | .plain s => [s]
  | .text s => scalarLines s
  | .null => ["null"]
  | .bool b => [if b then "true" else "false"]
  | .integer n => [Text.ofInt n]
  | .fraction => [".nan"]
  | .list items | .sequence items => if items.isEmpty then ["[]"] else itemLines items
  | .mapping entries => if entries.isEmpty then ["\x7b\x7d"] else entryLines entries

def itemLines : List Node → List String
  | [] => []
  | item :: items =>
      (match item, lines item with
        | _, [] => []
        | .text _, first :: rest => ("- " ++ first) :: rest
        | _, first :: rest => ("- " ++ first) :: rest.map indent) ++ itemLines items

def entryLines : List (Node × Node) → List String
  | [] => []
  | (key, value) :: entries =>
      let name := String.intercalate " " (lines key)
      (match value with
        | .mapping (e :: es) => (name ++ ":") :: (lines (.mapping (e :: es))).map indent
        | .list (i :: is) => (name ++ ":") :: lines (.list (i :: is))
        | .sequence (i :: is) => (name ++ ":") :: lines (.sequence (i :: is))
        | node => match lines node with
            | [] => [name ++ ":"]
            | first :: rest => (name ++ ": " ++ first) :: rest) ++ entryLines entries

end

def render (node : Node) : String :=
  String.join ((lines node).map (· ++ "\n"))

end Rulebook.Yaml
