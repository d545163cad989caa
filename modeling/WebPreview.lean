import WebPreview.Archive
import WebPreview.Assets
import WebPreview.Bytes.Units
import WebPreview.Bytes.Utf8
import WebPreview.CompileRequest
import WebPreview.Complexity
import WebPreview.Component
import WebPreview.Config
import WebPreview.Decimal.Layout
import WebPreview.Decimal.Read
import WebPreview.Decimal.Shortest
import WebPreview.Document
import WebPreview.DotEnv
import WebPreview.Environment
import WebPreview.Event
import WebPreview.FileSystem
import WebPreview.FileTree
import WebPreview.Framework
import WebPreview.Http.Response
import WebPreview.Json.Basic
import WebPreview.Json.Bytes
import WebPreview.Json.Printer
import WebPreview.Json.Reader
import WebPreview.Json.Shown
import WebPreview.Keyed
import WebPreview.Logging
import WebPreview.Main
import WebPreview.Markers
import WebPreview.Outcome
import WebPreview.Outcome.Codec
import WebPreview.Page.Element
import WebPreview.Page.Run
import WebPreview.Page.Session
import WebPreview.Pipeline.Run
import WebPreview.Pipeline.State
import WebPreview.PreviewError
import WebPreview.ProjectName
import WebPreview.Proofs.Archive.Entries
import WebPreview.Proofs.Build.Laws
import WebPreview.Proofs.Bytes.Utf8
import WebPreview.Proofs.Complexity.Growth
import WebPreview.Proofs.Component.Blocks
import WebPreview.Proofs.Component.Export
import WebPreview.Proofs.Component.Literal
import WebPreview.Proofs.Component.Script
import WebPreview.Proofs.Config.Vetting
import WebPreview.Proofs.Decimal.NoNumber
import WebPreview.Proofs.Document.Injection
import WebPreview.Proofs.Document.Slots
import WebPreview.Proofs.Except
import WebPreview.Proofs.FileSystem.Changes
import WebPreview.Proofs.Framework.Identifiers
import WebPreview.Proofs.JavaScript.Literal
import WebPreview.Proofs.Json.Literal
import WebPreview.Proofs.Json.Remnant
import WebPreview.Proofs.Json.Spelling
import WebPreview.Proofs.Page.Endings
import WebPreview.Proofs.Page.Files
import WebPreview.Proofs.Page.Integrity
import WebPreview.Proofs.Page.Preview
import WebPreview.Proofs.Page.Steps
import WebPreview.Proofs.Page.Visits
import WebPreview.Proofs.Pipeline.Consult
import WebPreview.Proofs.Pipeline.Extraction
import WebPreview.Proofs.Pipeline.Faults
import WebPreview.Proofs.Pipeline.Record
import WebPreview.Proofs.Pipeline.Steps
import WebPreview.Proofs.ProjectName.Tidiness
import WebPreview.Proofs.Schema.Canonical
import WebPreview.Proofs.Schema.Preference
import WebPreview.Proofs.Schema.RoundTrip
import WebPreview.Proofs.Schema.Validity
import WebPreview.Proofs.Schema.Variants
import WebPreview.Proofs.Selection.Precedence
import WebPreview.Proofs.Service.Answers
import WebPreview.Proofs.Service.Authority
import WebPreview.Proofs.Service.Faults
import WebPreview.Proofs.Service.Hop
import WebPreview.Proofs.Shell.Words
import WebPreview.Proofs.Text.Boundaries
import WebPreview.Proofs.Text.LineEnds
import WebPreview.Proofs.Text.LowerCase
import WebPreview.Proofs.Text.Marks
import WebPreview.Proofs.Text.Pieces
import WebPreview.Proofs.Toolchain.Account
import WebPreview.Proofs.Toolchain.Confinement
import WebPreview.Proofs.Toolchain.Entry
import WebPreview.Proofs.Toolchain.Isolation
import WebPreview.Proofs.Toolchain.Printed
import WebPreview.Proofs.Toolchain.Release
import WebPreview.Proofs.Toolchain.Splicing
import WebPreview.Proofs.Toolchain.Success
import WebPreview.Proofs.Validation.Places
import WebPreview.Proofs.Validation.Verdicts
import WebPreview.Remote
import WebPreview.Schema.Issue
import WebPreview.Seconds
import WebPreview.Selection
import WebPreview.Service
import WebPreview.Service.CommandLine
import WebPreview.Service.Launch
import WebPreview.Settings
import WebPreview.SourceFile
import WebPreview.SourceFile.Codec
import WebPreview.Starter
import WebPreview.Text.CaseTable
import WebPreview.Text.Casing
import WebPreview.Text.Classes
import WebPreview.Text.Find
import WebPreview.Text.Quoted
import WebPreview.Text.Word
import WebPreview.Toolchain.Build
import WebPreview.Toolchain.BuildResult
import WebPreview.Toolchain.Command
import WebPreview.Toolchain.Compile
import WebPreview.Toolchain.Engine
import WebPreview.Toolchain.Project
import WebPreview.Traced
import WebPreview.Validation
import WebPreview.Workspace
