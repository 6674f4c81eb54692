import Rulebook.Document.Read
import Rulebook.Yaml.Parse

/-!
The configuration of a rulebook: how strict the review of rules is.
-/

namespace Rulebook

inductive Policy where
  | disableRule
  | rejectRuleset
  deriving DecidableEq, Repr

instance : Vocabulary Policy where
  all := [.rejectRuleset, .disableRule]
  word
    | .rejectRuleset => "reject_ruleset"
    | .disableRule => "disable_rule"
  mem_all p := by cases p <;> decide

structure Config where
  /-- How many tiles the terrain requirements of one rule may name; no limit if negative. -/
  maxTiles : Int := -1
  policy : Policy := .disableRule
  logUnsupported : Bool := true
  deriving DecidableEq, Repr

namespace Config

def ofNode? (n : Node) : Option Config := do
  let f ← n.fields? ["max_tiles", "sanity_policy", "log_unsupported"]
  return {
    maxTiles := ← f.default "max_tiles" (-1) Reader.int32
    policy := ← f.default "sanity_policy" .disableRule Reader.member
    logUnsupported := ← f.default "log_unsupported" true Reader.bool }

def ofText? (text : String) : Option Config := (Yaml.parse? text).bind ofNode?

def node (c : Config) : Node := .record [
  ("max_tiles", .integer c.maxTiles),
  ("sanity_policy", .text (Vocabulary.identifier c.policy)),
  ("log_unsupported", .bool c.logUnsupported)]

end Config

end Rulebook
