import Rulebook.Document.Node
import Rulebook.Text.Decimal

/-!
Writing a document tree as JSON over several lines: two spaces for each level,
one item or field a line, and empty arrays and objects in one piece.
-/

namespace Rulebook.Json

def hexDigit (n : Nat) : Char :=
  ((Nat.toDigits 16 n).head?).getD '0'

def escaped (c : Char) : List Char :=
  if c == '"' || c == '\\' then ['\\', c]
  else if c == '\x08' then ['\\', 'b']
  else if c == '\x0C' then ['\\', 'f']
  else if c == '\n' then ['\\', 'n']
  else if c == '\r' then ['\\', 'r']
  else if c == '\t' then ['\\', 't']
  else if c.toNat < 0x20 then
    ['\\', 'u', '0', '0', hexDigit (c.toNat / 16), hexDigit (c.toNat % 16)]
  else [c]

def quoted (s : String) : String :=
  "\"" ++ String.ofList (s.toList.flatMap escaped) ++ "\""

def indent (line : String) : String := "  " ++ line

/-- The first string put before the first line, the last one after the last line. -/
def frame (before after : String) : List String → List String
  | [] => []
  | [line] => [before ++ line ++ after]
  | line :: rest => (before ++ line) :: (rest.dropLast ++ [(rest.getLast?.getD "") ++ after])

mutual

def lines : Node → List String
  | .plain s | .text s => [quoted s]
  | .null | .fraction => ["null"]
  | .bool b => [if b then "true" else "false"]
  | .integer n => [Text.ofInt n]
  | .list items | .sequence items =>
      if items.isEmpty then ["[]"] else "[" :: (itemLines items).map indent ++ ["]"]
  | .mapping entries =>
      if entries.isEmpty then ["\x7b\x7d"]
      else "\x7b" :: (entryLines entries).map indent ++ ["\x7d"]

def itemLines : List Node → List String
  | [] => []
  | item :: items => frame "" (if items.isEmpty then "" else ",") (lines item) ++ itemLines items

def entryLines : List (Node × Node) → List String
  | [] => []
  | (key, value) :: entries =>
      let name := String.intercalate "" (lines key)
      frame (name ++ ": ") (if entries.isEmpty then "" else ",") (lines value) ++
        entryLines entries

end

def render (node : Node) : String :=
  String.intercalate "\n" (lines node)

end Rulebook.Json
