import ConsoleLinks.Target.Json
import ConsoleLinks.Config.Json
import ConsoleLinks.Config.Load
import ConsoleLinks.Config.Registration
import ConsoleLinks.Filter
import ConsoleLinks.Files.Tree
import ConsoleLinks.Command.Run
import ConsoleLinks.Main
import ConsoleLinks.Proofs.Text.Cut
import ConsoleLinks.Proofs.Text.Boundary
import ConsoleLinks.Proofs.Text.Pieces
import ConsoleLinks.Proofs.Text.Hex
import ConsoleLinks.Proofs.Text.Utf8
import ConsoleLinks.Proofs.Text.Pattern
import ConsoleLinks.Proofs.Text.Search
import ConsoleLinks.Proofs.Line.Java.Parts
import ConsoleLinks.Proofs.Line.Java.Names
import ConsoleLinks.Proofs.Line.Java.Header
import ConsoleLinks.Proofs.Line.Java.AtLine
import ConsoleLinks.Proofs.Line.Java.Patterns
import ConsoleLinks.Proofs.Line.CSharp.Parts
import ConsoleLinks.Proofs.Line.CSharp.Patterns
import ConsoleLinks.Proofs.Line.CSharp.Frames
import ConsoleLinks.Proofs.Line.CSharp.Diagnostics
import ConsoleLinks.Proofs.Line.Shapes
import ConsoleLinks.Proofs.Line.Ambiguity
import ConsoleLinks.Proofs.Line.Java.FrameLaw
import ConsoleLinks.Proofs.Line.CSharp.FrameLaw
import ConsoleLinks.Proofs.Line.CSharp.DiagnosticLaw
import ConsoleLinks.Proofs.Line.CSharp.HeaderLaw
import ConsoleLinks.Proofs.Dispatcher.Claims
import ConsoleLinks.Proofs.Dispatcher.Calls
import ConsoleLinks.Proofs.Dispatcher.Ownership
import ConsoleLinks.Proofs.Dispatcher.Lines
import ConsoleLinks.Proofs.Dispatcher.Order
import ConsoleLinks.Proofs.Dispatcher.Logged
import ConsoleLinks.Proofs.Linking
import ConsoleLinks.Proofs.Line.Padding
import ConsoleLinks.Proofs.Padding
import ConsoleLinks.Proofs.Filter.Lines
import ConsoleLinks.Proofs.Filter.Returns
import ConsoleLinks.Proofs.Anchor.Literal
import ConsoleLinks.Proofs.Anchor.Closing
import ConsoleLinks.Proofs.Anchor.Wrapping
import ConsoleLinks.Proofs.Anchor.Arguments
import ConsoleLinks.Proofs.Anchor.Payload
import ConsoleLinks.Proofs.Anchor.Injectivity
import ConsoleLinks.Proofs.Yaml.Characters
import ConsoleLinks.Proofs.Yaml.Scalar.Plain
import ConsoleLinks.Proofs.Yaml.Scalar.Block
import ConsoleLinks.Proofs.Yaml.Scalar.Quoted
import ConsoleLinks.Proofs.Yaml.Steps
import ConsoleLinks.Proofs.Yaml.Keys
import ConsoleLinks.Proofs.Yaml.Tokens
import ConsoleLinks.Proofs.Yaml.Nodes
import ConsoleLinks.Proofs.Yaml.RoundTrip
import ConsoleLinks.Proofs.Yaml.Blocks
import ConsoleLinks.Proofs.Yaml.Excerpt
import ConsoleLinks.Proofs.Config.Validation
import ConsoleLinks.Proofs.Config.Condensed
import ConsoleLinks.Proofs.Config.RoundTrip
import ConsoleLinks.Proofs.Config.Excerpt
import ConsoleLinks.Proofs.Log.Journal
import ConsoleLinks.Proofs.Command.Logged
import ConsoleLinks.Proofs.Filter.Loop
import ConsoleLinks.Proofs.Filter.Faults
import ConsoleLinks.Proofs.Json.Parts
import ConsoleLinks.Proofs.Json.Spelling
import ConsoleLinks.Proofs.Json.RoundTrip
import ConsoleLinks.Proofs.Target.Json
import ConsoleLinks.Proofs.Target.Members
import ConsoleLinks.Proofs.Target.Spelling
import ConsoleLinks.Proofs.Filter.Records
import ConsoleLinks.Proofs.Config.Defects
import ConsoleLinks.Proofs.Log.Threshold
import ConsoleLinks.Proofs.Log.OneLine
import ConsoleLinks.Proofs.Dispatcher.Story
