import ShellWord.Byte.Class
import ShellWord.Quote.Escape
import ShellWord.Quote.Single
import ShellWord.Quote.Dialect
import ShellWord.Quote.DialectName
import ShellWord.Text.CodePoint
import ShellWord.Text.Utf8
import ShellWord.Text.Blank
import ShellWord.Text.Lowercase
import ShellWord.Text.Printable
import ShellWord.Text.Literal
import ShellWord.Decimal.Binary64
import ShellWord.Toml.Value
import ShellWord.Toml.Literal
import ShellWord.Toml.Scalar
import ShellWord.Toml.Text
import ShellWord.Toml.Document
import ShellWord.Path.Basic
import ShellWord.Path.Home
import ShellWord.FileTree.Basic
import ShellWord.FileTree.Lookup
import ShellWord.FileTree.Resolve
import ShellWord.FileTree.Update
import ShellWord.FileTree.Changes
import ShellWord.Text.Newline
import ShellWord.Settings.Basic
import ShellWord.Settings.Table
import ShellWord.Settings.Layers
import ShellWord.Journal.Line
import ShellWord.Journal.Basic
import ShellWord.Journal.Keeper
import ShellWord.Command.Run
import ShellWord.ShellLine.Token
import ShellWord.ShellLine.Node
import ShellWord.ShellLine.Word
import ShellWord.ShellLine.Command
import ShellWord.ShellLine.Dump
import ShellWord.Source.Basic
import ShellWord.Source.Quoted
import ShellWord.Source.Sink
import ShellWord.Source.InPlace
import ShellWord.Command.Arguments
import ShellWord.Command.Words
import ShellWord.Text.Identifier
import ShellWord.StyleCheck.Token
import ShellWord.StyleCheck.Tree
import ShellWord.StyleCheck.Text
import ShellWord.StyleCheck.Expression
import ShellWord.StyleCheck.Pattern
import ShellWord.StyleCheck.Statement
import ShellWord.StyleCheck.Program
import ShellWord.StyleCheck.Finding
import ShellWord.StyleCheck.Gate
import ShellWord.Main
import ShellWord.Reading.Construct
import ShellWord.Reading.Word
import ShellWord.Reading.Json
import ShellWord.Reading.ByteLiteral
import ShellWord.Reading.LogEntry
import ShellWord.Text.CharacterName
import ShellWord.Proofs.Spelling
import ShellWord.Proofs.EscapeQuoted
import ShellWord.Proofs.Runs
import ShellWord.Proofs.SingleQuoted
import ShellWord.Proofs.RoundTrip
import ShellWord.Proofs.WordList
import ShellWord.Proofs.Lookup
import ShellWord.Proofs.NearestFile
import ShellWord.Proofs.Loading
import ShellWord.Proofs.RunStatus
import ShellWord.Proofs.Ascii
import ShellWord.Proofs.Appending
import ShellWord.Proofs.SameBytes
import ShellWord.Proofs.Sequence
import ShellWord.Proofs.Layering
import ShellWord.Proofs.Growth
import ShellWord.Proofs.RunLog
import ShellWord.Proofs.Output
import ShellWord.Proofs.Decoding
import ShellWord.Proofs.JsonText
import ShellWord.Proofs.LiteralBytes
import ShellWord.Proofs.LogLines
import ShellWord.Proofs.SameOutput
import ShellWord.Proofs.LogState
import ShellWord.Proofs.MaximalRuns
import ShellWord.Proofs.Agreement
import ShellWord.Proofs.Alphabet
import ShellWord.Proofs.Interchange
import ShellWord.Proofs.Length
import ShellWord.Proofs.Joining
import ShellWord.Proofs.Encoding
import ShellWord.Proofs.ArgumentList
import ShellWord.Proofs.DialectNames
import ShellWord.Proofs.LineTokens
import ShellWord.Proofs.LineWords
import ShellWord.Proofs.TableEntries
import ShellWord.Proofs.PhysicalPath
import ShellWord.Proofs.Resolving
import ShellWord.Proofs.ProjectSearch
import ShellWord.Proofs.Traversal
import ShellWord.Proofs.Findings
import ShellWord.Proofs.RelativeImports
import ShellWord.Proofs.FileList
import ShellWord.Proofs.GateRun
import ShellWord.Proofs.StreamMode
