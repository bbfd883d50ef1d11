import CompilerDriver.Configuration
import CompilerDriver.Sink

/-!
The report of a configuration: one labelled item after the other, each on a line of its own.
-/

namespace CompilerDriver.Configuration

/-- The label and the value of each reported item. -/
def reportItems (config : Configuration) : List (String × String) :=
  [("shake tree", switchText config.shakeTree),
   ("stdlib", config.stdlibPath.text),
   ("arch", config.arch),
   ("emit_ir", switchText config.emitIr),
   ("source files", config.sourceFiles.text)]
    ++ config.phases.requests.map fun (slot, phase) => (slot.name, phase.name)

/-- The pieces of one item, in the order in which they are written. -/
def itemPieces : String × String → List String
  | (label, value) => [label, " flag: ", value, "\n"]

/-- The pieces of the report, in the order in which they are written. -/
def reportPieces (config : Configuration) : List String :=
  config.reportItems.flatMap itemPieces

/-- The whole report. -/
def report (config : Configuration) : String :=
  String.join config.reportPieces

/-- Writes the report to a sink, up to the first piece that does not fit. -/
def writeReport (config : Configuration) (sink : Sink) : Sink × Option WriteFault :=
  sink.writeAll (config.reportPieces.map Utf8.encode)

end CompilerDriver.Configuration
