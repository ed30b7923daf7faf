import SchemaChart.Json.Reader
import SchemaChart.Json.Display
import SchemaChart.Text.CellWidth
import SchemaChart.Text.Utf8
import SchemaChart.Codec
import SchemaChart.Schema.Basic
import SchemaChart.Validator.Reader
import SchemaChart.Schema.Declaration
import SchemaChart.Diagram.Flowchart
import SchemaChart.Files.Tree
import SchemaChart.Schema.Assembly
import SchemaChart.Diagram.Assembly
import SchemaChart.Settings.Basic
import SchemaChart.Listing
import SchemaChart.Command.Run
import SchemaChart.Sample
import SchemaChart.Main
import SchemaChart.Proofs.Identifiers
import SchemaChart.Proofs.Indentation
import SchemaChart.Proofs.Depths
import SchemaChart.Proofs.Edges
import SchemaChart.Proofs.Groups
import SchemaChart.Proofs.Words
import SchemaChart.Proofs.Reading
import SchemaChart.Proofs.Shown
import SchemaChart.Proofs.Composition
import SchemaChart.Proofs.Octets
import SchemaChart.Proofs.Denoted
import SchemaChart.Proofs.Written
import SchemaChart.Proofs.Declared
import SchemaChart.Proofs.Defects
import SchemaChart.Proofs.Diagnosis
import SchemaChart.Proofs.Refused
import SchemaChart.Proofs.Members
import SchemaChart.Proofs.Kept
import SchemaChart.Proofs.Moved
import SchemaChart.Proofs.Edited
import SchemaChart.Proofs.Stored
import SchemaChart.Proofs.Outcomes
import SchemaChart.Proofs.Listed
import SchemaChart.Proofs.Accumulated
import SchemaChart.Proofs.AsObjects
import SchemaChart.Proofs.Counted
import SchemaChart.Proofs.Integers
