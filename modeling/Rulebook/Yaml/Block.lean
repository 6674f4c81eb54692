import Rulebook.Yaml.Scalar

/-!
Block scalars of a YAML text: the indented lines under a `|` or a `>`.

A literal block keeps its line breaks.  A folded one joins two lines by a space,
unless an empty line stands between them or one of them starts with a gap.  The
block is indented as its first line with content is, or as the header says; the
header also says what becomes of the line breaks at the end.
-/

namespace Rulebook.Yaml

/-! ## Headers -/

inductive Chomping where
  | strip
  | clip
  | keep
  deriving DecidableEq, Repr

def Chomping.marked? : Char → Option Chomping
  | '-' => some .strip
  | '+' => some .keep
  | _ => none

def indentationMarked? (c : Char) : Option Nat :=
  if '1' ≤ c && c ≤ '9' then some (c.toNat - '0'.toNat) else none

structure BlockHeader where
  literal : Bool
  chomping? : Option Chomping
  indentation? : Option Nat

/-- Reads the marks of a header, each kind at most once, and the end of its line.  The characters
of the next line follow. -/
def BlockHeader.read? (header : BlockHeader) : List Char → Option (BlockHeader × List Char)
  | [] => some (header, [])
  | c :: cs =>
      match header.chomping?, Chomping.marked? c, header.indentation?, indentationMarked? c with
      | none, some chomping, _, _ =>
          { header with chomping? := some chomping }.read? cs
      | _, _, none, some n => { header with indentation? := some n }.read? cs
      | _, _, _, _ =>
          match (c :: cs).dropWhile isGap with
          | [] => some (header, [])
          | '\n' :: rest => some (header, rest)
          | '#' :: rest => some (header, (rest.dropWhile (· != '\n')).drop 1)
          | _ => none

def blockHeader? (c : Cursor) : Option (BlockHeader × Cursor) := do
  let (header, rest) ← match c.rest with
    | '|' :: cs => BlockHeader.read? ⟨true, none, none⟩ cs
    | '>' :: cs => BlockHeader.read? ⟨false, none, none⟩ cs
    | _ => none
  return (header, ⟨rest, 0, c.line + 1⟩)

/-! ## Lines -/

def reach? : List Char → (column reach : Nat) → Option Nat
  | [], column, reach => some (max reach column)
  | c :: cs, column, reach =>
      if c == ' ' then reach? cs (column + 1) reach
      else if c == '\n' then reach? cs 0 (max reach column)
      else if c == '\t' then none
      else some (max reach column)

/-- The text of a block so far, in reverse, and what waits for its next line: the break that
ended the last one, the empty lines after it, and whether it started with a gap. -/
structure BlockText where
  seen : List Char
  ended : Bool
  empties : Nat
  spaced : Bool

def BlockText.opened (text : BlockText) (literal : Bool) (first : Char) : List Char :=
  let joint :=
    if !text.ended then []
    else if literal || text.spaced || isGap first then ['\n']
    else if text.empties == 0 then [' ']
    else []
  List.replicate text.empties '\n' ++ joint ++ text.seen

def BlockText.closed (text : BlockText) (chomping : Chomping) : List Char :=
  let lastBreak := if text.ended then ['\n'] else []
  match chomping with
  | .strip => text.seen
  | .clip => lastBreak ++ text.seen
  | .keep => List.replicate text.empties '\n' ++ lastBreak ++ text.seen

/-- The rest of a block at `indent`, inside a line (`inside`) or in its indentation.  The block
ends at a line that is indented less; a tab may not stand in the indentation. -/
def blockRest (literal : Bool) (indent : Nat) : List Char → (column line : Nat) →
    (inside : Bool) → BlockText → Option (BlockText × Cursor)
  | [], column, line, _, text => some (text, ⟨[], column, line⟩)
  | c :: cs, column, line, true, text =>
      if c == '\n' then
        blockRest literal indent cs 0 (line + 1) false { text with ended := true, empties := 0 }
      else
        blockRest literal indent cs (column + 1) line true { text with seen := c :: text.seen }
  | c :: cs, column, line, false, text =>
      if c == '\n' then
        blockRest literal indent cs 0 (line + 1) false { text with empties := text.empties + 1 }
      else if c == ' ' && column < indent then
        blockRest literal indent cs (column + 1) line false text
      else if c == '\t' && column < indent then none
      else if column != indent then some (text, ⟨c :: cs, column, line⟩)
      else
        blockRest literal indent cs (column + 1) line true
          ⟨c :: text.opened literal c, false, 0, isGap c⟩

def block? (parent : Int) (c : Cursor) : Option Scalar := do
  let (header, start) ← blockHeader? c
  let indent ← match header.indentation? with
    | some n => some ((max parent 0).toNat + n)
    | none => (reach? start.rest 0 0).map fun reach => max 1 (max reach (parent + 1).toNat)
  let (text, after) ←
    blockRest header.literal indent start.rest 0 start.line false ⟨[], false, 0, false⟩
  return ⟨String.ofList (text.closed (header.chomping?.getD .clip)).reverse, after.line, after⟩

end Rulebook.Yaml
