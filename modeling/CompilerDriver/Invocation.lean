import CompilerDriver.CommandLine.Load
import CompilerDriver.Configuration.Report
import CompilerDriver.Log.Event

/-!
A whole run of the driver, from its arguments and its surroundings to what it prints and returns.
-/

namespace CompilerDriver

/-- How the driver is called. -/
structure Invocation where
  /-- The arguments, the name of the program first. -/
  arguments : List Bytes
  /-- The setting that chooses which log lines are shown. -/
  logSetting : Option String := none
  /-- Where standard output goes. -/
  output : Sink := .unlimited
  deriving DecidableEq, Repr

/-- What a run leaves behind. -/
structure Outcome where
  exitCode : Nat
  stdout : Bytes
  stderr : String
  deriving DecidableEq, Repr

namespace Invocation

/-- What is said when the report cannot be written. -/
def writeFailure (fault : WriteFault) : String :=
  "failed to write configuration: " ++ fault.message ++ "\n"

/-- The outcome for a configuration: log lines, and the report. -/
def succeed (invocation : Invocation) (config : Configuration) : Outcome :=
  let log := String.join (Log.lines (.ofSetting invocation.logSetting) config)
  match config.writeReport invocation.output with
  | (sink, none) => ⟨0, sink.held, log⟩
  | (sink, some fault) => ⟨1, sink.held, log ++ writeFailure fault⟩

/-- What is said when the message of a usage error cannot be written. -/
def printFailure (fault : WriteFault) : String :=
  "failed printing to stdout: " ++ fault.message ++ "\n"

/-- The outcome for a usage error: its message, and nothing is logged.  The program is given up when
the message cannot be written. -/
def refuse (invocation : Invocation) (fault : UsageError) : Outcome :=
  match invocation.output.write (Utf8.encode fault.message) with
  | (sink, none) => ⟨fault.exitCode, sink.held, ""⟩
  | (sink, some writeFault) => ⟨101, sink.held, printFailure writeFault⟩

/-- The outcome of a run. -/
def run (invocation : Invocation) : Outcome :=
  match load invocation.arguments with
  | .ok config => invocation.succeed config
  | .error fault => invocation.refuse fault

end Invocation

end CompilerDriver
