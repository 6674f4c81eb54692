import Rulebook.Main
import Rulebook.Ruleset.Document
import Rulebook.Evaluation.Judgement
import Rulebook.Help.Phrase
import Rulebook.Help.Sentence
import Rulebook.World.Document
import Rulebook.Proofs.Repair.Compliance
import Rulebook.Proofs.Evaluation.Met
import Rulebook.Proofs.Evaluation.Relation
import Rulebook.Proofs.Conflict.Refutation
import Rulebook.Proofs.Conflict.Soundness
import Rulebook.Proofs.Conflict.Symmetry
import Rulebook.Proofs.Conflict.Bounds
import Rulebook.Proofs.Conflict.Matrix
import Rulebook.Proofs.Map.Coordinates
import Rulebook.Proofs.Map.Distance
import Rulebook.Proofs.Map.Neighbours
import Rulebook.Proofs.Map.Radius
import Rulebook.Proofs.Map.Within
import Rulebook.Proofs.Map.Square
import Rulebook.Proofs.Written.Edits
import Rulebook.Proofs.Implication.Inference
import Rulebook.Proofs.Implication.Overreach
import Rulebook.Proofs.Implication.Soundness
import Rulebook.Proofs.Implication.Scene
import Rulebook.Proofs.Implication.Countermodel
import Rulebook.Proofs.Implication.Exactness
import Rulebook.Proofs.Repair.Delivery
import Rulebook.Proofs.Repair.Legality
import Rulebook.Proofs.Evaluation.Growth
import Rulebook.Proofs.Evaluation.Stability
import Rulebook.Proofs.Evaluation.Coverage
import Rulebook.Proofs.Review.Kept
import Rulebook.Proofs.Review.Findings
import Rulebook.Proofs.Text.Decimal
import Rulebook.Proofs.Text.Numbered
import Rulebook.Proofs.Written.Name
import Rulebook.Proofs.Written.Encoding
import Rulebook.Proofs.Ruleset.Assembly
import Rulebook.Proofs.Ruleset.Size
import Rulebook.Proofs.Sheet.Grouping
import Rulebook.Proofs.Sheet.Reread
import Rulebook.Proofs.Evaluation.Widening
import Rulebook.Proofs.Implication.Agreement
import Rulebook.Proofs.Evaluation.Worldwide
import Rulebook.Proofs.Evaluation.Technologies
import Rulebook.Proofs.Repair.Authorship
import Rulebook.Proofs.Repair.Worklist
import Rulebook.Proofs.Repair.FanOut
import Rulebook.Proofs.Repair.Report
import Rulebook.Proofs.Repair.Accounts
import Rulebook.Proofs.Review.Extension
import Rulebook.Proofs.Review.Heredity
import Rulebook.Proofs.Review.Sole
import Rulebook.Proofs.Repair.Problems
import Rulebook.Proofs.Repair.Suggestion
import Rulebook.Proofs.Repair.Names
import Rulebook.Proofs.Quiet.Repair
import Rulebook.Proofs.Ruleset.Integrity
import Rulebook.Proofs.Document.Table
import Rulebook.Proofs.Ruleset.Namesakes
import Rulebook.Map.Words
import Rulebook.Proofs.Map.Walk
import Rulebook.Proofs.Map.Words
import Rulebook.Proofs.Map.Numbering
import Rulebook.Proofs.Help.Sentence
