import Rulebook.Document.Node
import Rulebook.Yaml.Block

/-!
Reading a YAML text as a document tree.

Understood are block and bracketed mappings and sequences, scalars in all
styles, comments, and one document, which a marker may open.  A block
collection holds the entries that stand at its column; what is indented further
belongs to an entry, and a sequence that is the value of a key may stand at the
column of the key.  An empty place is the empty plain scalar.  `Yaml.parse?`
answers `none` for any text that is not such a document.
-/

namespace Rulebook.Yaml

structure Parsed where
  node : Node
  lastLine : Nat
  after : Cursor

def nothing : Node := .plain ""

def Scalar.parsed (node : String → Node) (s : Scalar) : Parsed :=
  ⟨node s.text, s.lastLine, s.after⟩

/-! ## Inside brackets -/

mutual

def bracketedNode : Nat → Cursor → Option Parsed
  | 0, _ => none
  | fuel + 1, c =>
      if c.atMarker then none
      else match c.rest with
        | '[' :: _ => bracketedItems fuel ((c.forward 1).toToken true) []
        | '{' :: _ => bracketedEntries fuel ((c.forward 1).toToken true) []
        | '"' :: _ | '\'' :: _ => (quoted? c).map (·.parsed .text)
        | _ => (plain? true 0 c).map (·.parsed .plain)

def bracketedValue : Nat → Cursor → Option Parsed
  | 0, _ => none
  | fuel + 1, c =>
      let c := c.toToken true
      match c.rest with
      | ',' :: _ | ']' :: _ | '}' :: _ => some ⟨nothing, c.line, c⟩
      | _ => bracketedNode fuel c

/-- The items up to the closing bracket; an item may be a single key and value. -/
def bracketedItems : Nat → Cursor → (seen : List Node) → Option Parsed
  | 0, _, _ => none
  | fuel + 1, c, seen =>
      match c.rest with
      | ']' :: _ => some ⟨.sequence seen.reverse, c.line, c.forward 1⟩
      | _ => do
          let item ← bracketedNode fuel c
          let next := item.after.toToken true
          let (node, next) ← match next.rest with
            | ':' :: _ =>
                if next.line != c.line then none
                else do
                  let value ← bracketedValue fuel (next.forward 1)
                  pure (.mapping [(item.node, value.node)], value.after.toToken true)
            | _ => pure (item.node, next)
          match next.rest with
          | ',' :: _ => bracketedItems fuel ((next.forward 1).toToken true) (node :: seen)
          | ']' :: _ => bracketedItems fuel next (node :: seen)
          | _ => none

/-- The entries up to the closing brace; a key may stand without a value. -/
def bracketedEntries : Nat → Cursor → (seen : List (Node × Node)) → Option Parsed
  | 0, _, _ => none
  | fuel + 1, c, seen =>
      match c.rest with
      | '}' :: _ => some ⟨.mapping seen.reverse, c.line, c.forward 1⟩
      | _ => do
          let key ← bracketedNode fuel c
          let next := key.after.toToken true
          let (value, next) ← match next.rest with
            | ':' :: _ =>
                if next.line != c.line then none
                else do
                  let value ← bracketedValue fuel (next.forward 1)
                  pure (value.node, value.after.toToken true)
            | _ => pure (nothing, next)
          match next.rest with
          | ',' :: _ =>
              bracketedEntries fuel ((next.forward 1).toToken true) ((key.node, value) :: seen)
          | '}' :: _ => bracketedEntries fuel next ((key.node, value) :: seen)
          | _ => none

end

/-! ## Blocks -/

def key? (c : Cursor) : Option (Node × Cursor) :=
  match c.rest with
  | '"' :: _ | '\'' :: _ => do
      let s ← quoted? c
      colon c.line (.text s.text) s.after.afterContent
  | ':' :: _ => colon c.line nothing c
  | _ => do
      let s ← plain? false 0 { c with rest := c.rest.takeWhile (· != '\n') }
      colon c.line (.plain s.text) (c.forward (s.after.column - c.column))
where
  colon (line : Nat) (key : Node) (c : Cursor) : Option (Node × Cursor) :=
    match c.rest with
    | ':' :: cs => if c.line == line && gapNext cs then some (key, c.forward 1) else none
    | _ => none

/-- A scalar or bracketed node after which its line ends.  Further lines of a plain scalar and
the lines of a block scalar are indented by more than `parent`. -/
def lineNode (fuel : Nat) (parent : Int) (c : Cursor) : Option (Node × Cursor) :=
  match c.rest with
  | '|' :: _ | '>' :: _ => (block? parent c).map fun s => (.text s.text, s.after.toToken false)
  | '[' :: _ | '{' :: _ => (bracketedNode fuel c).bind lineEnd
  | '"' :: _ | '\'' :: _ => (quoted? c).bind fun s => lineEnd (s.parsed .text)
  | _ => (plain? false (parent + 1).toNat c).bind fun s => lineEnd (s.parsed .plain)
where
  lineEnd (parsed : Parsed) : Option (Node × Cursor) :=
    let next := if parsed.after.line == parsed.lastLine then parsed.after.afterContent
      else parsed.after.toToken false
    if next.rest.isEmpty || next.line != parsed.lastLine then some (parsed.node, next) else none

mutual

def blockNode : Nat → (parent : Int) → Cursor → Option (Node × Cursor)
  | 0, _, _ => none
  | fuel + 1, parent, c =>
      if c.atDash then blockItems fuel c.column c []
      else match key? c with
        | some _ => blockEntries fuel c.column c []
        | none => lineNode fuel parent c

def blockValue : Nat → (column : Nat) → Cursor → Option (Node × Cursor)
  | 0, _, _ => none
  | fuel + 1, column, c =>
      let next := c.afterContent
      if next.rest.isEmpty then some (nothing, next)
      else if next.line == c.line then lineNode fuel column next
      else if next.column > column then blockNode fuel column next
      else if next.column == column && next.atDash then blockItems fuel column next []
      else some (nothing, next)

def blockEntries : Nat → (column : Nat) → Cursor → (seen : List (Node × Node)) →
    Option (Node × Cursor)
  | 0, _, _, _ => none
  | fuel + 1, column, c, seen =>
      if c.rest.isEmpty || c.column < column || c.atMarker then
        some (.mapping seen.reverse, c)
      else if c.column > column then none
      else match key? c with
        | none => none
        | some (key, c) =>
            match blockValue fuel column c with
            | none => none
            | some (value, c) => blockEntries fuel column c ((key, value) :: seen)

def blockItems : Nat → (column : Nat) → Cursor → (seen : List Node) → Option (Node × Cursor)
  | 0, _, _, _ => none
  | fuel + 1, column, c, seen =>
      if c.rest.isEmpty || c.column < column || c.atMarker then
        some (.sequence seen.reverse, c)
      else if c.column > column then none
      else if !c.atDash then some (.sequence seen.reverse, c)
      else
        let next := (c.forward 1).toToken false
        if next.rest.isEmpty || next.column ≤ column then
          blockItems fuel column next (nothing :: seen)
        else match blockNode fuel column next with
          | none => none
          | some (item, c) => blockItems fuel column c (item :: seen)

end

/-! ## Documents -/

def content? (fuel : Nat) (c : Cursor) : Option (Node × Cursor) :=
  match c.atMarker, c.rest with
  | true, '-' :: _ =>
      let next := (c.forward 3).afterContent
      if next.rest.isEmpty || next.atMarker then some (nothing, next)
      else if next.line == c.line then lineNode fuel (-1) next
      else blockNode fuel (-1) next
  | true, _ => some (nothing, c)
  | false, [] => some (nothing, c)
  | false, _ => blockNode fuel (-1) c

def parse? (text : String) : Option Node := do
  let cs := characters text
  if !cs.all isAllowed then none
  let fuel := 4 * cs.length + 8
  let (node, after) ← content? fuel ((Cursor.atStart cs).toToken false)
  match after.atMarker, after.rest with
  | true, '.' :: _ =>
      let last := (after.forward 3).afterContent
      if last.rest.isEmpty then some node else none
  | _, [] => some node
  | _, _ => none

end Rulebook.Yaml
