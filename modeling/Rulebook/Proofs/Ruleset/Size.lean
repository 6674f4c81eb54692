import Rulebook.Proofs.Ruleset.Assembly

/-!
References reach all entries of an assembled ruleset.

Assembly refuses a table with more entries than references of 16 bits can tell
apart.  Lists of flags have no such limit, so theirs stays an assumption.
-/

namespace Rulebook

namespace Ruleset

theorem size_le_of_ofDraft {d : Draft} {rs : Ruleset} (h : ofDraft d = .ok rs)
    (kind : EntityKind) : (rs.table kind).size ≤ tableLimit :=
  (compiledFrom_of_ofDraft h).size_le kind

theorem addressable_of_ofDraft {d : Draft} {rs : Ruleset} (h : ofDraft d = .ok rs)
    (hflags : ∀ kind, (rs.flags kind).size ≤ 65536) : rs.Addressable where
  tables kind := (size_le_of_ofDraft h kind).trans (by decide)
  flags := hflags

end Ruleset

end Rulebook
