import Rulebook.Document.Read
import Rulebook.Requirement.Written

/-!
Entries of requirements in documents.

An entry names its kind as `type` and its scope as `range`.  The scope, and
whatever has its usual value, may be left out; `present` is always written.
-/

namespace Rulebook

namespace Requirement.Entry

def ofNode? (n : Node) : Option Requirement.Entry := do
  let f ← n.fields? ["type", "name", "range", "survives", "present", "quiet"]
  return {
    kind := ← f.required "type" Reader.text
    name := ← f.default "name" "" Reader.text
    scope := ← f.optional "range" Reader.text
    survives := ← f.default "survives" false Reader.bool
    present := ← f.default "present" true Reader.bool
    quiet := ← f.default "quiet" false Reader.bool }

def node (e : Requirement.Entry) : Node := .record (
  [("type", .text e.kind), ("name", .text e.name)] ++
    (e.scope.map fun scope => ("range", .text scope)).toList ++
    onlyIf "survives" e.survives ++ [("present", .bool e.present)] ++ onlyIf "quiet" e.quiet)
where
  onlyIf (field : String) (value : Bool) : List (String × Node) :=
    if value then [(field, .bool true)] else []

end Requirement.Entry

namespace Requirement.Code

def ofNode? (n : Node) : Option Requirement.Code := do
  let f ← n.fields? ["kind", "range", "survives", "present", "quiet", "value"]
  return {
    kind := ← f.required "kind" Reader.int32
    scope := ← f.required "range" Reader.int32
    survives := ← f.required "survives" Reader.bool
    present := ← f.required "present" Reader.bool
    quiet := ← f.required "quiet" Reader.bool
    value := ← f.required "value" Reader.int32 }

def node (c : Requirement.Code) : Node := .record [
  ("kind", .integer c.kind), ("range", .integer c.scope), ("survives", .bool c.survives),
  ("present", .bool c.present), ("quiet", .bool c.quiet), ("value", .integer c.value)]

end Requirement.Code

end Rulebook
