import Rulebook.Yaml.Cursor

/-!
Scalars of a YAML text: plain, in single quotes and in double quotes.

A scalar may run over several lines; one line break between them is read as a
space, and of several the first is dropped.
-/

namespace Rulebook.Yaml

structure Scalar where
  text : String
  lastLine : Nat
  after : Cursor

def folded (n : Nat) : List Char :=
  if n == 1 then [' '] else List.replicate (n - 1) '\n'

/-- White space that waits for the character after it: gaps on one line, or line breaks, the
first of them perhaps escaped. -/
inductive Waiting where
  | gaps (reversed : List Char)
  | breaks (escaped : Bool) (n : Nat)

namespace Waiting

def nothing : Waiting := .gaps []

def flush : Waiting → List Char
  | .gaps cs => cs
  | .breaks false n => folded n
  | .breaks true n => List.replicate n '\n'

def gap (c : Char) : Waiting → Waiting
  | .gaps cs => .gaps (c :: cs)
  | held => held

def lineBreak : Waiting → Waiting
  | .gaps _ => .breaks false 1
  | .breaks escaped n => .breaks escaped (n + 1)

end Waiting

/-! ## Plain scalars -/

def isBracketMark (c : Char) : Bool :=
  [',', '[', ']', '{', '}'].contains c

def isIndicator (c : Char) : Bool :=
  isBracketMark c || ['#', '&', '*', '!', '|', '>', '\'', '"', '%', '@', '\x60'].contains c

def startsPlain (bracketed : Bool) : List Char → Bool
  | [] => false
  | c :: cs =>
      if isGap c || c == '\n' then false
      else if c == '-' then !gapNext cs
      else if c == '?' || c == ':' then !bracketed && !gapNext cs
      else !isIndicator c

def endsPlain (bracketed : Bool) : List Char → Bool
  | [] => true
  | ':' :: cs => gapNext cs
  | c :: _ => c == '\n' || (bracketed && isBracketMark c)

/-- Does a plain scalar end at this character, `waiting` being the white space before it?  After a
line break it ends at a marker or a comment too, and where the line is not indented enough. -/
def stopsPlain (bracketed : Bool) (indent : Nat) (waiting : Waiting) (c : Cursor) : Bool :=
  endsPlain bracketed c.rest || match waiting with
    | .gaps held => !held.isEmpty && c.rest.head? == some '#'
    | .breaks _ _ =>
        c.atMarker || c.rest.head? == some '#' || (!bracketed && c.column < indent)

/-- The rest of a plain scalar whose further lines are indented by at least `indent` columns.
Fails at a tab that stands in this indentation, and where brackets follow a colon without a gap. -/
def plainRest (bracketed : Bool) (indent : Nat) : List Char → (column line lastLine : Nat) →
    (seen : List Char) → Waiting → Option Scalar
  | [], column, line, lastLine, seen, _ =>
      some ⟨String.ofList seen.reverse, lastLine, ⟨[], column, line⟩⟩
  | c :: cs, column, line, lastLine, seen, waiting =>
      if c == '\n' then
        plainRest bracketed indent cs 0 (line + 1) lastLine seen waiting.lineBreak
      else if isGap c then
        match waiting with
        | .breaks _ _ =>
            if c == '\t' && !bracketed && column < indent then none
            else plainRest bracketed indent cs (column + 1) line lastLine seen waiting
        | .gaps _ =>
            plainRest bracketed indent cs (column + 1) line lastLine seen (waiting.gap c)
      else if stopsPlain bracketed indent waiting ⟨c :: cs, column, line⟩ then
        some ⟨String.ofList seen.reverse, lastLine, ⟨c :: cs, column, line⟩⟩
      else if bracketed && c == ':' && cs.head?.any fun d => isBracketMark d || d == '?' then none
      else
        plainRest bracketed indent cs (column + 1) line line (c :: (waiting.flush ++ seen)) .nothing

def plain? (bracketed : Bool) (indent : Nat) (c : Cursor) : Option Scalar :=
  if startsPlain bracketed c.rest then
    plainRest bracketed indent c.rest c.column c.line c.line [] .nothing
  else none

/-! ## Quoted scalars -/

def hexadecimal? (n : Nat) (cs : List Char) : Option Char := do
  let ds := cs.take n
  if ds.length != n then none
  let code ← ds.foldlM (fun code c => do
    let d ←
      if c.isDigit then some (c.toNat - '0'.toNat)
      else if 'a' ≤ c ∧ c ≤ 'f' then some (c.toNat - 'a'.toNat + 10)
      else if 'A' ≤ c ∧ c ≤ 'F' then some (c.toNat - 'A'.toNat + 10)
      else none
    return code * 16 + d) 0
  if (0xD800 ≤ code && code ≤ 0xDFFF) || code > 0x10FFFF then none
  else some (Char.ofNat code)

def escape? (letter : Char) (cs : List Char) : Option (Char × Nat) :=
  match letter with
  | '0' => some ('\x00', 0)
  | 'a' => some ('\x07', 0)
  | 'b' => some ('\x08', 0)
  | 't' | '\t' => some ('\t', 0)
  | 'n' => some ('\n', 0)
  | 'v' => some ('\x0B', 0)
  | 'f' => some ('\x0C', 0)
  | 'r' => some ('\r', 0)
  | 'e' => some ('\x1B', 0)
  | ' ' => some (' ', 0)
  | '"' => some ('"', 0)
  | '/' => some ('/', 0)
  | '\\' => some ('\\', 0)
  | 'N' => some ('\u0085', 0)
  | '_' => some ('\u00A0', 0)
  | 'L' => some ('\u2028', 0)
  | 'P' => some ('\u2029', 0)
  | 'x' => (hexadecimal? 2 cs).map (·, 2)
  | 'u' => (hexadecimal? 4 cs).map (·, 4)
  | 'U' => (hexadecimal? 8 cs).map (·, 8)
  | _ => none

/-- The rest of a scalar in double quotes (`double`) or single quotes, after `skip` characters that
an escape has already used. -/
def quotedRest (double : Bool) : List Char → (skip column line : Nat) → (seen : List Char) →
    Waiting → Option Scalar
  | [], _, _, _, _, _ => none
  | _ :: cs, skip + 1, column, line, seen, waiting =>
      quotedRest double cs skip (column + 1) line seen waiting
  | c :: cs, 0, column, line, seen, waiting =>
      if Cursor.atMarker ⟨c :: cs, column, line⟩ then none
      else if c == '\n' then quotedRest double cs 0 0 (line + 1) seen waiting.lineBreak
      else if isGap c then quotedRest double cs 0 (column + 1) line seen (waiting.gap c)
      else
        let seen := waiting.flush ++ seen
        if double && c == '\\' then
          match cs with
          | [] => none
          | '\n' :: cs => quotedRest double cs 0 0 (line + 1) seen (.breaks true 0)
          | letter :: cs =>
              match escape? letter cs with
              | none => none
              | some (stood, n) =>
                  quotedRest double cs n (column + 2) line (stood :: seen) .nothing
        else if !double && c == '\'' && cs.head? == some '\'' then
          quotedRest double cs 1 (column + 1) line ('\'' :: seen) .nothing
        else if c == (if double then '"' else '\'') then
          some ⟨String.ofList seen.reverse, line, ⟨cs, column + 1, line⟩⟩
        else quotedRest double cs 0 (column + 1) line (c :: seen) .nothing

def quoted? (c : Cursor) : Option Scalar :=
  match c.rest with
  | '"' :: cs => quotedRest true cs 0 (c.column + 1) c.line [] .nothing
  | '\'' :: cs => quotedRest false cs 0 (c.column + 1) c.line [] .nothing
  | _ => none

end Rulebook.Yaml
