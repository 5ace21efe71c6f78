import ApiSurvey.Main
import ApiSurvey.Proofs.Command.Stages
import ApiSurvey.Proofs.FieldPath.Concatenation
import ApiSurvey.Proofs.FieldPath.Literal
import ApiSurvey.Proofs.FieldPath.Rendering
import ApiSurvey.Proofs.FieldPath.Replace
import ApiSurvey.Proofs.Grouping.Candidates
import ApiSurvey.Proofs.Grouping.Capitals
import ApiSurvey.Proofs.Grouping.CaseFolding
import ApiSurvey.Proofs.Grouping.Collation
import ApiSurvey.Proofs.Grouping.Contributions
import ApiSurvey.Proofs.Grouping.Elements
import ApiSurvey.Proofs.Grouping.Groups
import ApiSurvey.Proofs.Grouping.Hints
import ApiSurvey.Proofs.Grouping.NormalForm
import ApiSurvey.Proofs.Grouping.Normalization
import ApiSurvey.Proofs.Grouping.OptionsRecord
import ApiSurvey.Proofs.Grouping.Page
import ApiSurvey.Proofs.Grouping.Reordering
import ApiSurvey.Proofs.Grouping.Tally
import ApiSurvey.Proofs.Grouping.WholeNumbers
import ApiSurvey.Proofs.Json.Compact
import ApiSurvey.Proofs.Json.DistinctKeys
import ApiSurvey.Proofs.Json.Inside
import ApiSurvey.Proofs.Json.Pointer
import ApiSurvey.Proofs.Json.Same
import ApiSurvey.Proofs.Json.Scanning
import ApiSurvey.Proofs.Number.Exactness
import ApiSurvey.Proofs.Number.Numeral
import ApiSurvey.Proofs.Schema.Addressing
import ApiSurvey.Proofs.Schema.Alias
import ApiSurvey.Proofs.Schema.Bound
import ApiSurvey.Proofs.Schema.Component
import ApiSurvey.Proofs.Schema.Cycles
import ApiSurvey.Proofs.Schema.Dangling
import ApiSurvey.Proofs.Schema.Deeper
import ApiSurvey.Proofs.Schema.Dependence
import ApiSurvey.Proofs.Schema.Expansion
import ApiSurvey.Proofs.Schema.Inheritance
import ApiSurvey.Proofs.Schema.Inline
import ApiSurvey.Proofs.Schema.Merge
import ApiSurvey.Proofs.Schema.Naming
import ApiSurvey.Proofs.Schema.Operations
import ApiSurvey.Proofs.Schema.Reach
import ApiSurvey.Proofs.Schema.Recorded
import ApiSurvey.Proofs.Schema.References
import ApiSurvey.Proofs.Schema.Relocation
import ApiSurvey.Proofs.Schema.RequestBody
import ApiSurvey.Proofs.Schema.Required
import ApiSurvey.Proofs.Schema.Serialization
import ApiSurvey.Proofs.Schema.Site
import ApiSurvey.Proofs.Schema.Sources
import ApiSurvey.Proofs.Schema.Substitution
import ApiSurvey.Proofs.Settings.FirstLine
import ApiSurvey.Proofs.Settings.InvalidValue
import ApiSurvey.Proofs.Settings.Location
import ApiSurvey.Proofs.Settings.Table
import ApiSurvey.Proofs.Text.Ascii
import ApiSurvey.Proofs.Text.CaseImage
import ApiSurvey.Proofs.Text.Folding
import ApiSurvey.Proofs.Text.Lowercase
import ApiSurvey.Proofs.Text.Trim
import ApiSurvey.Proofs.Toml.Binding
import ApiSurvey.Proofs.Toml.Layout
import ApiSurvey.Proofs.Toml.Reading
import ApiSurvey.Proofs.Toml.Source
