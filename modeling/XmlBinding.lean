import XmlBinding.Binary.Base64
import XmlBinding.Binary.Hex
import XmlBinding.Calendar
import XmlBinding.Codec.Decode
import XmlBinding.Codec.Encode
import XmlBinding.Codec.Fault
import XmlBinding.Codec.Module
import XmlBinding.Codec.Table
import XmlBinding.Codec.Text
import XmlBinding.Codec.Value
import XmlBinding.Codec.Xml
import XmlBinding.Config.Basic
import XmlBinding.Config.Directive
import XmlBinding.Config.File
import XmlBinding.Config.Mapping
import XmlBinding.Config.Names
import XmlBinding.Declaration.Basic
import XmlBinding.Declaration.Flatten
import XmlBinding.Declaration.Method
import XmlBinding.Declaration.Order
import XmlBinding.Declaration.TypeExpr
import XmlBinding.Entries
import XmlBinding.Fault
import XmlBinding.Filter
import XmlBinding.Generate.Code
import XmlBinding.Generate.Declare
import XmlBinding.Generate.Drafts
import XmlBinding.Generate.Step
import XmlBinding.Json.Basic
import XmlBinding.Json.Reader
import XmlBinding.Logging
import XmlBinding.Message
import XmlBinding.Name.Identifier
import XmlBinding.Name.QName
import XmlBinding.Name.Tag
import XmlBinding.Notice
import XmlBinding.Number.Decimal
import XmlBinding.Number.Double
import XmlBinding.Number.Integer
import XmlBinding.Number.Numeral
import XmlBinding.Pattern.Basic
import XmlBinding.Pattern.Error
import XmlBinding.Pattern.Match
import XmlBinding.Pattern.Reader
import XmlBinding.Pattern.Replacement
import XmlBinding.Pattern.Token
import XmlBinding.Proofs.Binary.Bytes
import XmlBinding.Proofs.Codec.Children
import XmlBinding.Proofs.Codec.Constants
import XmlBinding.Proofs.Codec.Delivery
import XmlBinding.Proofs.Codec.Flattened
import XmlBinding.Proofs.Codec.Members
import XmlBinding.Proofs.Codec.Parts
import XmlBinding.Proofs.Codec.RoundTrip
import XmlBinding.Proofs.Codec.Separable
import XmlBinding.Proofs.Codec.Text
import XmlBinding.Proofs.Codec.Written
import XmlBinding.Proofs.Config.Chain
import XmlBinding.Proofs.Config.Defaults
import XmlBinding.Proofs.Config.Ordinary
import XmlBinding.Proofs.Config.Silent
import XmlBinding.Proofs.Config.Snapshot
import XmlBinding.Proofs.Declaration.Flatten
import XmlBinding.Proofs.Declaration.Order
import XmlBinding.Proofs.Declaration.Search
import XmlBinding.Proofs.Entries
import XmlBinding.Proofs.Except
import XmlBinding.Proofs.Generate.Again
import XmlBinding.Proofs.Generate.Alone
import XmlBinding.Proofs.Generate.AttributeDefault
import XmlBinding.Proofs.Generate.Clashes
import XmlBinding.Proofs.Generate.Closed
import XmlBinding.Proofs.Generate.Declared
import XmlBinding.Proofs.Generate.Faults
import XmlBinding.Proofs.Generate.Fields
import XmlBinding.Proofs.Generate.Filtered
import XmlBinding.Proofs.Generate.Fixed
import XmlBinding.Proofs.Generate.Legal
import XmlBinding.Proofs.Generate.Origin
import XmlBinding.Proofs.Generate.Probed
import XmlBinding.Proofs.Generate.Process
import XmlBinding.Proofs.Generate.Run
import XmlBinding.Proofs.Generate.Silent
import XmlBinding.Proofs.Generate.Usable
import XmlBinding.Proofs.Name.Clark
import XmlBinding.Proofs.Name.Fresh
import XmlBinding.Proofs.Name.Identifier
import XmlBinding.Proofs.Name.Legal
import XmlBinding.Proofs.Name.Tag
import XmlBinding.Proofs.Name.Valid
import XmlBinding.Proofs.Number.Decimal
import XmlBinding.Proofs.Number.Numeral
import XmlBinding.Proofs.Pattern.Removal
import XmlBinding.Proofs.Pattern.Shift
import XmlBinding.Proofs.Render.Layout
import XmlBinding.Proofs.Render.Literal
import XmlBinding.Proofs.Render.Module
import XmlBinding.Proofs.Render.Remark
import XmlBinding.Proofs.Report
import XmlBinding.Proofs.Schema.Store
import XmlBinding.Proofs.SoapArray.Altered
import XmlBinding.Proofs.SoapArray.Outcome
import XmlBinding.Proofs.SoapArray.Recorded
import XmlBinding.Proofs.SoapArray.Resolve
import XmlBinding.Proofs.SoapArray.Walk
import XmlBinding.Proofs.SoapArray.Wildcard
import XmlBinding.Proofs.Text.Ascii
import XmlBinding.Proofs.Text.Cut
import XmlBinding.Proofs.Text.LetterCase
import XmlBinding.Proofs.Text.Lines
import XmlBinding.Proofs.Text.Normalization
import XmlBinding.Proofs.Text.SourceLines
import XmlBinding.Proofs.Text.Trim
import XmlBinding.Proofs.Text.Quoted
import XmlBinding.Render.Layout
import XmlBinding.Render.Module
import XmlBinding.Render.Page
import XmlBinding.Report
import XmlBinding.Schema.Basic
import XmlBinding.Schema.Builtin
import XmlBinding.Schema.Hierarchy
import XmlBinding.Schema.Shown
import XmlBinding.SoapArray
import XmlBinding.Text.Blank
import XmlBinding.Text.CharClass
import XmlBinding.Text.LetterCase
import XmlBinding.Text.Literal
import XmlBinding.Text.Normalization
import XmlBinding.Text.Property.Compatibility
import XmlBinding.Text.Property.Composition
import XmlBinding.Text.Property.Digit
import XmlBinding.Text.Property.Identifier
import XmlBinding.Text.Property.LetterCase
import XmlBinding.Text.Property.Printable
import XmlBinding.Text.Property.Word
import XmlBinding.Text.Quoted
import XmlBinding.Text.Utf8
import XmlBinding.Proofs.Pattern.Atoms
import XmlBinding.Proofs.Pattern.Groups
import XmlBinding.Proofs.Pattern.Nested
import XmlBinding.Proofs.Pattern.Joined
import XmlBinding.Proofs.Config.TypePatterns
import XmlBinding.Proofs.Render.Tidy
import XmlBinding.Proofs.Text.Utf8
import XmlBinding.Proofs.Config.File
import XmlBinding.Proofs.Config.Grammar
import XmlBinding.Proofs.Config.Layers
import XmlBinding.Proofs.Json.Reader
