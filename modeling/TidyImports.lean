import TidyImports.Text.LineBreak
import TidyImports.Text.Width
import TidyImports.Text.Utf8
import TidyImports.Number.Layout
import TidyImports.Number.Read
import TidyImports.Data.Value
import TidyImports.Data.Json.Reader
import TidyImports.Data.Json.Writer
import TidyImports.Data.Toml.Reader
import TidyImports.Edit.Checked
import TidyImports.Edit.Normalize
import TidyImports.Edit.Apply
import TidyImports.Mask
import TidyImports.Edit.Splice
import TidyImports.Session
import TidyImports.Linter.Launch
import TidyImports.Notebook
import TidyImports.Settings.Sources
import TidyImports.Format
import TidyImports.Diff.Unified
import TidyImports.Console.Codes
import TidyImports.Console.Grid
import TidyImports.Command.Run
import TidyImports.Main
import TidyImports.Proofs.Edit.Normalize
import TidyImports.Proofs.Edit.Erase
import TidyImports.Proofs.Edit.Canonical
import TidyImports.Proofs.Session
import TidyImports.Proofs.Mask
import TidyImports.Proofs.Converge.Rounds
import TidyImports.Proofs.Converge.Settled
import TidyImports.Proofs.Format.Edits
import TidyImports.Proofs.Format.Isolation
import TidyImports.Proofs.Notebook
import TidyImports.Proofs.Linter.Report
import TidyImports.Proofs.Command.Files
import TidyImports.Proofs.Edit.Repetition
import TidyImports.Proofs.Command.Turns
import TidyImports.Proofs.Command.DryRun
import TidyImports.Proofs.Command.Verdict
import TidyImports.Proofs.Names.Unit
import TidyImports.Proofs.Linter.Override
import TidyImports.Proofs.Linter.Issues
import TidyImports.Proofs.Settings.Refusal
import TidyImports.Proofs.Command.Notebooks
import TidyImports.Proofs.Disk.Source
import TidyImports.Proofs.Settings.Ignored
import TidyImports.Proofs.Format.Passes
import TidyImports.Proofs.Names.Masked
import TidyImports.Proofs.Names.Declared
import TidyImports.Proofs.Command.Preview
import TidyImports.Proofs.Diff.Readable
