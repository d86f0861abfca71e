import ColumnTypes.Kotlin.Node
import ColumnTypes.Main
import ColumnTypes.Proofs.Identifier
import ColumnTypes.Proofs.Family
import ColumnTypes.Proofs.Resolution.Search
import ColumnTypes.Proofs.Resolution.Typing
import ColumnTypes.Proofs.StructName.Collisions
import ColumnTypes.Proofs.Resolution.EnumNames
import ColumnTypes.Proofs.StructName.Exported
import ColumnTypes.Proofs.Resolution.ExportedNames
import ColumnTypes.Proofs.Resolution.Rendering
import ColumnTypes.Proofs.Resolution.Layout
import ColumnTypes.Proofs.Validation
import ColumnTypes.Proofs.Catalog.Reading
import ColumnTypes.Proofs.Catalog.RoundTrip
import ColumnTypes.Proofs.Kotlin.RoundTrip
import ColumnTypes.Proofs.FileTree
import ColumnTypes.Document.Equality
import ColumnTypes.Proofs.Catalog.Listing
import ColumnTypes.Proofs.Catalog.Merging
import ColumnTypes.Command.Session
import ColumnTypes.Proofs.Command.Running
import ColumnTypes.Proofs.Text.CodePoints
import ColumnTypes.Proofs.Text.Case
import ColumnTypes.Proofs.Command.Loading
import ColumnTypes.Proofs.Command.Arguments
import ColumnTypes.Proofs.Document.Keys
import ColumnTypes.Proofs.Yaml.Assembly
import ColumnTypes.Proofs.Yaml.Reading
import ColumnTypes.Proofs.Catalog.SingleFile
import ColumnTypes.Proofs.Command.Ending
import ColumnTypes.Proofs.Command.Failing
import ColumnTypes.Proofs.Command.Agreement
import ColumnTypes.Proofs.Resolution.Walk
import ColumnTypes.Proofs.Command.Accepted
import ColumnTypes.Proofs.Command.Silence
import ColumnTypes.Proofs.Command.Resolving
import ColumnTypes.Proofs.Console.Markup
import ColumnTypes.Proofs.Command.Validating
import ColumnTypes.Proofs.Command.Effects
import ColumnTypes.Proofs.Command.Configuring
import ColumnTypes.Proofs.Command.History
import ColumnTypes.Proofs.Path
import ColumnTypes.Proofs.Location
import ColumnTypes.Proofs.Config.Anchoring
import ColumnTypes.Proofs.Config.Searching
import ColumnTypes.Proofs.Config.Anywhere
import ColumnTypes.Proofs.Config.Nearest
import ColumnTypes.Proofs.Resolution.Findings
import ColumnTypes.Proofs.Resolution.Dynamic
import ColumnTypes.Proofs.Resolution.Growth
import ColumnTypes.Proofs.Resolution.Qualification
import ColumnTypes.Proofs.Resolution.Influence
import ColumnTypes.Proofs.Resolution.Overrides
import ColumnTypes.Proofs.Resolution.JoinedNames
import ColumnTypes.Proofs.Validation.Faults
import ColumnTypes.Proofs.Validation.Acceptance
import ColumnTypes.Proofs.Catalog.Positions
import ColumnTypes.Proofs.Catalog.Directory
import ColumnTypes.Proofs.Catalog.FirstFailure
import ColumnTypes.Proofs.Command.Reporting
