import CompilerDriver.Main
import CompilerDriver.Phase.Editor
import CompilerDriver.Proofs.CommandLine.Deferral
import CompilerDriver.Proofs.CommandLine.Order
import CompilerDriver.Proofs.CommandLine.Stray
import CompilerDriver.Proofs.CommandLine.HelpText
import CompilerDriver.Proofs.CommandLine.Unknown
import CompilerDriver.Proofs.Report.Lines
import CompilerDriver.Proofs.CommandLine.Canonical
import CompilerDriver.Proofs.Report.Reload
import CompilerDriver.Proofs.CommandLine.Request
import CompilerDriver.Proofs.CommandLine.MissingFiles
import CompilerDriver.Proofs.CommandLine.ErrorText
import CompilerDriver.Proofs.CommandLine.Escapes
import CompilerDriver.Proofs.Path.FileName
import CompilerDriver.Proofs.CommandLine.ProgramName
import CompilerDriver.Proofs.CommandLine.Finality
import CompilerDriver.Proofs.CommandLine.Terminator
import CompilerDriver.Proofs.CommandLine.Repetition
import CompilerDriver.Proofs.CommandLine.UsageLine
import CompilerDriver.Proofs.Text.Every
import CompilerDriver.Proofs.Text.Delimited
import CompilerDriver.Proofs.Text.Quoted
import CompilerDriver.Proofs.Configuration.Layout
import CompilerDriver.Proofs.Configuration.Dump
import CompilerDriver.Proofs.Log.Lines
import CompilerDriver.Proofs.Log.Threshold
import CompilerDriver.Proofs.Report.Cut
import CompilerDriver.Proofs.Phase.Session
import CompilerDriver.Proofs.CommandLine.Invariant
import CompilerDriver.Proofs.Path.NormalForm
import CompilerDriver.Proofs.Configuration.Equality
import CompilerDriver.Proofs.Log.Directives
import CompilerDriver.Proofs.Log.Rules
import CompilerDriver.Proofs.Log.Arrangement
