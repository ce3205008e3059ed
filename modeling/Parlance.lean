import Parlance.Engine
import Parlance.Plural.Memo
import Parlance.Proofs.Pattern.Runs
import Parlance.Proofs.Pattern.Attributes
import Parlance.Proofs.Pattern.Lexemes
import Parlance.Proofs.Pattern.Endings
import Parlance.Proofs.Pattern.Joining
import Parlance.Proofs.Pattern.Completeness
import Parlance.Proofs.Pattern.Soundness
import Parlance.Proofs.Pattern.Spelling
import Parlance.Proofs.Render.Equations
import Parlance.Proofs.Render.Strictness
import Parlance.Proofs.Format.Builtin
import Parlance.Proofs.Render.Builtin
import Parlance.Proofs.Render.Pruning
import Parlance.Proofs.Pattern.Constructs
import Parlance.Proofs.Pattern.Origins
import Parlance.Proofs.Pattern.OpeningSearch
import Parlance.Proofs.Pattern.Openings
import Parlance.Proofs.Render.Visits
import Parlance.Proofs.Render.Dependence
import Parlance.Proofs.Render.Failures
import Parlance.Proofs.Render.Shapes
import Parlance.Proofs.Pattern.Steps
import Parlance.Proofs.Pattern.Kinds
import Parlance.Proofs.Render.Extension
import Parlance.Proofs.Render.Decoration
import Parlance.Proofs.Pattern.PlainText
import Parlance.Proofs.Pattern.Continuations
import Parlance.Proofs.Pattern.Completions
import Parlance.Proofs.Pattern.Viability
import Parlance.Proofs.Pattern.Concatenation
import Parlance.Proofs.Pattern.NumberSigns
import Parlance.Proofs.Markup.Escaping
import Parlance.Proofs.Number.Rounding
import Parlance.Proofs.Number.Spelled
import Parlance.Proofs.Format.Selection
import Parlance.Proofs.Plural.Overrides
import Parlance.Proofs.Format.Choice
import Parlance.Proofs.Format.Numerals
import Parlance.Proofs.Number.Nearest
import Parlance.Proofs.Format.WholeNumbers
import Parlance.Proofs.Format.Suggestions
import Parlance.Proofs.Pattern.Guarded
import Parlance.Proofs.Pattern.Preceding
import Parlance.Proofs.Pattern.Rejections
import Parlance.Proofs.Render.Composition
import Parlance.Proofs.Render.Settling
import Parlance.Proofs.Plural.Memo
import Parlance.Proofs.Format.Dates
import Parlance.Proofs.Pattern.Descent
import Parlance.Proofs.Pattern.Leftovers
import Parlance.Proofs.Pattern.Progress
import Parlance.Proofs.Pattern.DescentRuns
import Parlance.Proofs.Pattern.Places
