/-!
Places in a YAML text, and the white space and comments between its tokens.
-/

namespace Rulebook.Yaml

structure Cursor where
  rest : List Char
  column : Nat
  line : Nat

def isAllowed (c : Char) : Bool :=
  let n := c.toNat
  n == 0x09 || n == 0x0A || n == 0x0D || (0x20 ≤ n && n ≤ 0x7E) || n == 0x85 ||
    (0xA0 ≤ n && n ≤ 0xFFFD && n != 0xFEFF) || 0x10000 ≤ n

/-- The characters of a text with every line break as a line feed, without a byte order mark. -/
def characters (text : String) : List Char :=
  match text.toList with
  | '\uFEFF' :: cs => breaks cs []
  | cs => breaks cs []
where
  breaks : List Char → List Char → List Char
    | [], seen => seen.reverse
    | '\r' :: '\n' :: cs, seen => breaks cs ('\n' :: seen)
    | c :: cs, seen =>
        breaks cs ((if c == '\r' || c == '\u0085' then '\n' else c) :: seen)

def isGap (c : Char) : Bool := c == ' ' || c == '\t'

def gapNext : List Char → Bool
  | [] => true
  | c :: _ => isGap c || c == '\n'

namespace Cursor

def atStart (cs : List Char) : Cursor := ⟨cs, 0, 0⟩

def forward (c : Cursor) (n : Nat) : Cursor := ⟨c.rest.drop n, c.column + n, c.line⟩

def atMarker (c : Cursor) : Bool :=
  c.column == 0 && match c.rest with
    | '-' :: '-' :: '-' :: cs | '.' :: '.' :: '.' :: cs => gapNext cs
    | _ => false

def atDash (c : Cursor) : Bool :=
  match c.rest with
  | '-' :: cs => gapNext cs
  | _ => false

/-- The next token: past spaces, line breaks and comments.  A tab is skipped inside brackets and
after something on its line, but does not count as indentation. -/
def toToken (bracketed : Bool) (c : Cursor) : Cursor :=
  go c.rest c.column c.line bracketed false
where
  go : List Char → Nat → Nat → Bool → Bool → Cursor
    | [], column, line, _, _ => ⟨[], column, line⟩
    | c :: cs, column, line, tabs, inComment =>
        if c == '\n' then go cs 0 (line + 1) bracketed false
        else if inComment then go cs (column + 1) line tabs true
        else if c == ' ' || (c == '\t' && tabs) then go cs (column + 1) line tabs false
        else if c == '#' then go cs (column + 1) line tabs true
        else ⟨c :: cs, column, line⟩

def afterContent (c : Cursor) : Cursor :=
  toToken.go false c.rest c.column c.line true false

end Cursor

end Rulebook.Yaml
