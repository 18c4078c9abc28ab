import Schemata.Configuration
import Schemata.Main
import Schemata.Reader.Script
import Schemata.Proofs.Parse.Bounds
import Schemata.Proofs.Parse.Completeness
import Schemata.Proofs.Parse.Concatenation
import Schemata.Proofs.Parse.DefaultValue
import Schemata.Proofs.Parse.Explanation
import Schemata.Proofs.Parse.Faults
import Schemata.Proofs.Parse.Fragment
import Schemata.Proofs.Parse.Order
import Schemata.Proofs.Parse.Placement
import Schemata.Proofs.Parse.Termination
import Schemata.Proofs.Parse.TrailingLayout
import Schemata.Proofs.Parse.Translation
import Schemata.Proofs.Parse.TypeOrder
import Schemata.Proofs.Parse.ViablePrefix
import Schemata.Proofs.Reading.ColumnType
import Schemata.Proofs.Reading.History
import Schemata.Proofs.Reading.Quoted
import Schemata.Proofs.Reading.Skipping
import Schemata.Proofs.Report.LiteralReadBack
import Schemata.Proofs.Report.Lossless
import Schemata.Proofs.Report.Markdown
import Schemata.Proofs.Report.ReadBack
import Schemata.Proofs.Source.Caret
