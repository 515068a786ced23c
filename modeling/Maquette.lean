import Maquette.Calendar
import Maquette.Charset.Basic
import Maquette.Charset.ByteTable
import Maquette.Charset.Chinese
import Maquette.Charset.Designation
import Maquette.Charset.Domain
import Maquette.Charset.DomainTable
import Maquette.Charset.Escaped
import Maquette.Charset.Grid
import Maquette.Charset.Grid.Big5
import Maquette.Charset.Grid.Gb2312
import Maquette.Charset.Grid.Gbk
import Maquette.Charset.Grid.HongKong
import Maquette.Charset.Grid.JisX0208
import Maquette.Charset.Grid.JisX0212
import Maquette.Charset.Grid.JisX0213
import Maquette.Charset.Grid.KsX1001
import Maquette.Charset.Grid.ShiftJisWindows
import Maquette.Charset.Grid.UnifiedHangul
import Maquette.Charset.Japanese
import Maquette.Charset.Korean
import Maquette.Charset.Name
import Maquette.Charset.Punycode
import Maquette.Charset.Shifted
import Maquette.Charset.Step
import Maquette.Charset.Wide
import Maquette.Color
import Maquette.Command
import Maquette.Component
import Maquette.Conversion
import Maquette.Dart.Code
import Maquette.Dart.Literal
import Maquette.Deployment
import Maquette.Document
import Maquette.Emission
import Maquette.Environment.Basic
import Maquette.Environment.File
import Maquette.FileTree.Basic
import Maquette.FileTree.Disk
import Maquette.FileTree.Path
import Maquette.Geometry
import Maquette.Header
import Maquette.Json.Basic
import Maquette.Json.Display
import Maquette.Json.Printer
import Maquette.Json.Reader
import Maquette.Main
import Maquette.Number.Binary64
import Maquette.Number.Decimal
import Maquette.Number.Error
import Maquette.Number.Notation
import Maquette.Number.Reading
import Maquette.Number.Shortest
import Maquette.Package.Basic
import Maquette.Package.Config
import Maquette.Package.Defaults
import Maquette.Package.Delivery
import Maquette.Package.Name
import Maquette.Property
import Maquette.Screen
import Maquette.Service.Basic
import Maquette.Service.Field
import Maquette.Service.Form
import Maquette.Service.HeaderValue
import Maquette.Service.Request
import Maquette.Service.Target
import Maquette.Style
import Maquette.Template.Basic
import Maquette.Template.Standard
import Maquette.Template.Written
import Maquette.Text.Base64
import Maquette.Text.Blank
import Maquette.Text.CaseTable
import Maquette.Text.CharSet
import Maquette.Text.Digit
import Maquette.Text.Encoding
import Maquette.Text.Half
import Maquette.Text.Hex
import Maquette.Text.Line
import Maquette.Text.Lower
import Maquette.Text.Percent
import Maquette.Text.Printable
import Maquette.Text.Quoted
import Maquette.Text.Symbol
import Maquette.Widget.Basic
import Maquette.Widget.Code
import Maquette.Proofs.Number.Overflow
import Maquette.Proofs.Property.Readable
import Maquette.Proofs.Widget.Readable
import Maquette.Proofs.Document.Readable
import Maquette.Proofs.Dart.Scan
import Maquette.Proofs.Dart.Shift
import Maquette.Proofs.Dart.Legible
import Maquette.Proofs.Dart.Displayed
import Maquette.Proofs.Dart.Plain
import Maquette.Proofs.Emission.Widget
import Maquette.Proofs.Widget.Displayed
import Maquette.Proofs.Emission.Row
import Maquette.Proofs.Document.Parts
import Maquette.Proofs.Document.Legible
import Maquette.Proofs.Dart.Labels
import Maquette.Proofs.Document.Opening
import Maquette.Proofs.Document.Structure
import Maquette.Proofs.Widget.Retexted
import Maquette.Proofs.Document.Closed
import Maquette.Proofs.Document.Literals
import Maquette.Proofs.Number.Scale
import Maquette.Proofs.Number.Shortest
import Maquette.Proofs.Number.Digits
import Maquette.Proofs.Dart.Arithmetic
import Maquette.Proofs.Geometry.Value
import Maquette.Proofs.Json.Units
import Maquette.Proofs.Json.Kept
import Maquette.Proofs.Json.RoundTrip
import Maquette.Proofs.Json.Display
import Maquette.Proofs.Package.Config
import Maquette.Proofs.Dart.Source
import Maquette.Proofs.Package.Data
import Maquette.Proofs.Dart.Names
import Maquette.Proofs.Widget.Names
import Maquette.Proofs.Emission.Names
import Maquette.Proofs.Document.Scales
import Maquette.Proofs.Screen.Exported
import Maquette.Proofs.Package.Repackaged
import Maquette.Proofs.Json.Grammar
import Maquette.Proofs.Json.Written
import Maquette.Proofs.Package.Standard
import Maquette.Proofs.FileTree.Path
import Maquette.Proofs.FileTree.Directories
import Maquette.Proofs.FileTree.Disk
import Maquette.Proofs.FileTree.Files
import Maquette.Proofs.Package.Delivered
import Maquette.Proofs.Package.Redelivered
import Maquette.Proofs.Json.Fields
import Maquette.Proofs.Dart.Settings
import Maquette.Proofs.Dart.Unlabeled
import Maquette.Proofs.Widget.Settings
import Maquette.Proofs.Emission.Snippet
import Maquette.Proofs.Emission.TypeSizes
import Maquette.Proofs.Widget.Given
import Maquette.Proofs.Emission.Omitted
import Maquette.Proofs.Json.Shape
import Maquette.Proofs.Screen.Shape
import Maquette.Proofs.Document.Malformed
import Maquette.Proofs.Package.Home
import Maquette.Proofs.Geometry.Frame
import Maquette.Proofs.Emission.Steps
import Maquette.Proofs.Template.Markup
import Maquette.Proofs.Package.Markup
import Maquette.Proofs.Document.Refused
import Maquette.Proofs.Package.Manifest
import Maquette.Proofs.Package.Refused
import Maquette.Proofs.Template.Render
import Maquette.Proofs.Text.Pieces
import Maquette.Proofs.Geometry.Tiers
import Maquette.Proofs.Document.Exported
import Maquette.Proofs.Text.Trimmed
import Maquette.Proofs.Emission.Registered
import Maquette.Proofs.Json.Encodable
import Maquette.Proofs.Service.Body
import Maquette.Proofs.Service.Packaging
import Maquette.Proofs.Number.Value
import Maquette.Proofs.Number.Nearest
import Maquette.Proofs.Number.Decimal
import Maquette.Proofs.Number.Grammar
import Maquette.Proofs.Number.Leading
import Maquette.Proofs.Property.Leading
import Maquette.Proofs.Text.Hex
import Maquette.Proofs.Color.Name
import Maquette.Proofs.Color.Channels
import Maquette.Proofs.Property.Floor
import Maquette.Proofs.Emission.Floors
import Maquette.Proofs.Dart.Literal
import Maquette.Proofs.Dart.Numeral
import Maquette.Proofs.FileTree.Reach
import Maquette.Proofs.Service.Confined
