import SourceLint.Analysis.Discovery
import SourceLint.Analysis.Remarks
import SourceLint.Analysis.Run
import SourceLint.Binary64
import SourceLint.Bytewise.Disk
import SourceLint.Bytewise.Run
import SourceLint.Bytewise.Text
import SourceLint.Command.Arguments
import SourceLint.Command.Run
import SourceLint.Config.Basic
import SourceLint.Config.Decode
import SourceLint.Config.Initial
import SourceLint.Distinct
import SourceLint.Extract.Include
import SourceLint.Extract.Mention
import SourceLint.Extract.Usage
import SourceLint.FileTree
import SourceLint.Glob.Disk
import SourceLint.Glob.Match
import SourceLint.Glob.Pattern
import SourceLint.Glob.Walk
import SourceLint.Knowledge.Basic
import SourceLint.Knowledge.Builtin
import SourceLint.Log
import SourceLint.Main
import SourceLint.Path.Basic
import SourceLint.Path.Relative
import SourceLint.Proofs.Analysis.Candidates
import SourceLint.Proofs.Analysis.ConfigText
import SourceLint.Proofs.Analysis.Discovery
import SourceLint.Proofs.Analysis.Exclusion
import SourceLint.Proofs.Analysis.Failure
import SourceLint.Proofs.Analysis.Load
import SourceLint.Proofs.Analysis.Order
import SourceLint.Proofs.Analysis.Relocation
import SourceLint.Proofs.Analysis.Run
import SourceLint.Proofs.Analysis.Selection
import SourceLint.Proofs.Analysis.Severity
import SourceLint.Proofs.Bytewise.Disk
import SourceLint.Proofs.Bytewise.Path
import SourceLint.Proofs.Bytewise.Run
import SourceLint.Proofs.Bytewise.Text
import SourceLint.Proofs.Command.Check
import SourceLint.Proofs.Command.Session
import SourceLint.Proofs.Config.Document
import SourceLint.Proofs.Config.Settings
import SourceLint.Proofs.Extract.Continuation
import SourceLint.Proofs.Extract.Include
import SourceLint.Proofs.Extract.Mention
import SourceLint.Proofs.Extract.Piece
import SourceLint.Proofs.Extract.QualifiedName
import SourceLint.Proofs.Extract.Usage
import SourceLint.Proofs.FileTree.Create
import SourceLint.Proofs.FileTree.Directories
import SourceLint.Proofs.FileTree.Disk
import SourceLint.Proofs.FileTree.Image
import SourceLint.Proofs.FileTree.Listing
import SourceLint.Proofs.FileTree.Names
import SourceLint.Proofs.FileTree.Outline
import SourceLint.Proofs.FileTree.Resolve
import SourceLint.Proofs.FileTree.Spelling
import SourceLint.Proofs.FirstOccurrence
import SourceLint.Proofs.Glob.Base
import SourceLint.Proofs.Glob.DirectoryPattern
import SourceLint.Proofs.Glob.Escape
import SourceLint.Proofs.Glob.FilePattern
import SourceLint.Proofs.Glob.Map
import SourceLint.Proofs.Glob.Walk
import SourceLint.Proofs.Knowledge.Lookup
import SourceLint.Proofs.Knowledge.Queries
import SourceLint.Proofs.Path.Order
import SourceLint.Proofs.Path.Rejoin
import SourceLint.Proofs.Path.Relative
import SourceLint.Proofs.Path.Steps
import SourceLint.Proofs.Path.Tidy
import SourceLint.Proofs.Rule.Check
import SourceLint.Proofs.Rule.CleanHeader
import SourceLint.Proofs.Rule.GroupName
import SourceLint.Proofs.Rule.Growth
import SourceLint.Proofs.Rule.GuardName
import SourceLint.Proofs.Rule.GuardSpelling
import SourceLint.Proofs.Rule.HeaderGuard
import SourceLint.Proofs.Rule.LineEnding
import SourceLint.Proofs.Rule.LineOrder
import SourceLint.Proofs.Rule.Message
import SourceLint.Proofs.Rule.Repair
import SourceLint.Proofs.Rule.RoundTrip
import SourceLint.Proofs.Rule.SystemIncludes
import SourceLint.Proofs.Rule.TestGroup
import SourceLint.Proofs.Sort
import SourceLint.Proofs.Text.LineBreak
import SourceLint.Proofs.Text.Lines
import SourceLint.Proofs.Text.Scan
import SourceLint.Proofs.Text.Uppercase
import SourceLint.Proofs.Traverse
import SourceLint.Proofs.Trim
import SourceLint.Report
import SourceLint.Rule.Basic
import SourceLint.Rule.Check
import SourceLint.Rule.HeaderGuard
import SourceLint.Rule.LineLength
import SourceLint.Rule.SystemIncludes
import SourceLint.Rule.TestGroup
import SourceLint.Severity
import SourceLint.Sort
import SourceLint.SourceFile
import SourceLint.Text.Blank
import SourceLint.Text.CodeSpan
import SourceLint.Text.Lines
import SourceLint.Text.Quoted
import SourceLint.Text.Scan
import SourceLint.Text.Unprintable
import SourceLint.Text.Uppercase
import SourceLint.Text.Word
import SourceLint.Toml.DateTime
import SourceLint.Toml.Document
import SourceLint.Toml.Number
import SourceLint.Toml.Quoted
import SourceLint.Toml.Reader
import SourceLint.Toml.Table
import SourceLint.Toml.Value
