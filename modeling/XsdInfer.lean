import XsdInfer.Check
import XsdInfer.Command.Arguments
import XsdInfer.Command.Files
import XsdInfer.Command.Run
import XsdInfer.Conversion
import XsdInfer.Element
import XsdInfer.Error
import XsdInfer.Format
import XsdInfer.Json.Number
import XsdInfer.Json.Valid
import XsdInfer.Json.Value
import XsdInfer.Layout
import XsdInfer.Limits
import XsdInfer.Main
import XsdInfer.Name.Basic
import XsdInfer.Name.Pool
import XsdInfer.Namespace
import XsdInfer.Primitive.Basic
import XsdInfer.Primitive.Lexical
import XsdInfer.Proofs.Check.Converted
import XsdInfer.Proofs.Check.Named
import XsdInfer.Proofs.Check.References
import XsdInfer.Proofs.Check.Sound
import XsdInfer.Proofs.Check.Tally
import XsdInfer.Proofs.Check.Vocabulary
import XsdInfer.Proofs.Check.Written
import XsdInfer.Proofs.Command.Arguments
import XsdInfer.Proofs.Command.Convert
import XsdInfer.Proofs.Command.Files
import XsdInfer.Proofs.Element.Lines
import XsdInfer.Proofs.Element.Places
import XsdInfer.Proofs.FirstSeen
import XsdInfer.Proofs.Format.Lines
import XsdInfer.Proofs.Format.Samples
import XsdInfer.Proofs.Inference.Contents
import XsdInfer.Proofs.Inference.Copies
import XsdInfer.Proofs.Inference.Described
import XsdInfer.Proofs.Inference.Evidence
import XsdInfer.Proofs.Inference.Growth
import XsdInfer.Proofs.Inference.Ledger
import XsdInfer.Proofs.Inference.Lookups
import XsdInfer.Proofs.Inference.Observations
import XsdInfer.Proofs.Inference.Occurrences
import XsdInfer.Proofs.Inference.Order
import XsdInfer.Proofs.Inference.Scopes
import XsdInfer.Proofs.Inference.Shape
import XsdInfer.Proofs.Inference.Structure
import XsdInfer.Proofs.Json.Lines
import XsdInfer.Proofs.Json.Unique
import XsdInfer.Proofs.Layout.Proper
import XsdInfer.Proofs.Layout.Rows
import XsdInfer.Proofs.Layout.Spelled
import XsdInfer.Proofs.Layout.Tags
import XsdInfer.Proofs.Layout.Text
import XsdInfer.Proofs.Limits
import XsdInfer.Proofs.Name.Assigned
import XsdInfer.Proofs.Name.Characters
import XsdInfer.Proofs.Name.Pool
import XsdInfer.Proofs.Name.Standard
import XsdInfer.Proofs.Name.TypeNames
import XsdInfer.Proofs.Primitive.Decided
import XsdInfer.Proofs.Primitive.Forms
import XsdInfer.Proofs.Primitive.Lines
import XsdInfer.Proofs.Sample.Accepted
import XsdInfer.Proofs.Sample.Attributes
import XsdInfer.Proofs.Sample.Events
import XsdInfer.Proofs.Sample.Filling
import XsdInfer.Proofs.Sample.Fronts
import XsdInfer.Proofs.Sample.Gathered
import XsdInfer.Proofs.Sample.Height
import XsdInfer.Proofs.Sample.Insets
import XsdInfer.Proofs.Sample.LineEnds
import XsdInfer.Proofs.Sample.Lines
import XsdInfer.Proofs.Sample.Markup
import XsdInfer.Proofs.Sample.Moves
import XsdInfer.Proofs.Sample.Nesting
import XsdInfer.Proofs.Sample.Opening
import XsdInfer.Proofs.Sample.Pieces
import XsdInfer.Proofs.Sample.Printing
import XsdInfer.Proofs.Sample.Reference
import XsdInfer.Proofs.Sample.Retracing
import XsdInfer.Proofs.Sample.RoundTrip
import XsdInfer.Proofs.Sample.Seams
import XsdInfer.Proofs.Sample.Settings
import XsdInfer.Proofs.Sample.Spelling
import XsdInfer.Proofs.Sample.TagNames
import XsdInfer.Proofs.Sample.Tags
import XsdInfer.Proofs.Sample.Unfolding
import XsdInfer.Proofs.Schema.Closed
import XsdInfer.Proofs.Schema.Distinct
import XsdInfer.Proofs.Schema.Exported
import XsdInfer.Proofs.Schema.LaidOut
import XsdInfer.Proofs.Schema.Listed
import XsdInfer.Proofs.Schema.Sequence
import XsdInfer.Proofs.Schema.Written
import XsdInfer.Proofs.Steps
import XsdInfer.Proofs.Strict.Declaration
import XsdInfer.Proofs.Strict.Elements
import XsdInfer.Proofs.Strict.Scanning
import XsdInfer.Proofs.Strict.Scopes
import XsdInfer.Proofs.Strict.Sequence
import XsdInfer.Proofs.Strict.Tag
import XsdInfer.Proofs.Strict.Value
import XsdInfer.Proofs.Text.Cut
import XsdInfer.Proofs.Text.Folding
import XsdInfer.Proofs.Text.Lines
import XsdInfer.Proofs.Text.Location
import XsdInfer.Proofs.Text.Trim
import XsdInfer.Sample.Document
import XsdInfer.Sample.Event
import XsdInfer.Sample.Opening
import XsdInfer.Sample.Problem
import XsdInfer.Sample.Reading
import XsdInfer.Sample.Reference
import XsdInfer.Sample.Tag
import XsdInfer.Schema.Basic
import XsdInfer.Schema.Inference
import XsdInfer.Schema.Json
import XsdInfer.Schema.Overview
import XsdInfer.Schema.Xsd
import XsdInfer.Strict.Character
import XsdInfer.Strict.Declaration
import XsdInfer.Strict.Fault
import XsdInfer.Strict.Node
import XsdInfer.Strict.Reading
import XsdInfer.Strict.Reference
import XsdInfer.Strict.Scan
import XsdInfer.Strict.Token
import XsdInfer.Table
import XsdInfer.Text.Alphabetic
import XsdInfer.Text.Blank
import XsdInfer.Text.CodePoints
import XsdInfer.Text.Cut
import XsdInfer.Text.Digit
import XsdInfer.Text.Escape
import XsdInfer.Text.Hidden
import XsdInfer.Text.Location
import XsdInfer.Text.Numeric
import XsdInfer.Text.Quoted
import XsdInfer.Text.Uppercase
import XsdInfer.Text.Word
