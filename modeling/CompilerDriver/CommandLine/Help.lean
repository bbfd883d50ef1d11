import CompilerDriver.CommandLine.Flag
import CompilerDriver.Configuration

/-!
The help text: what the program is, how it is called, and a line for each flag.
-/

namespace CompilerDriver.Help

/-- The name of the program when its own name is not used. -/
def programName : String := "frontend"

/-- What `--version` prints. -/
def versionText : String := programName ++ " 0.1.0\n"

/-- The phases that a value may name. -/
def possibleValues : String :=
  "[possible values: " ++ Phase.knownNames ++ "]"

/-- What a slot requests. -/
def slotPurpose : PhaseSlot → String
  | .stop => "stop at the given stage"
  | .dumpAst => "stop at the given stage and dump ast"
  | .dumpAstHtml => "stop at the given stage and dump ast in html format"
  | .dumpTypes => "stop at the given stage and dump types"
  | .emitStats => "stop at the given stage and emit stats"

/-- What a flag does, with its default or its possible values. -/
def purpose : Flag → String
  | .switch .shakeTree => "remove unreachable functions"
  | .switch .emitIr => "stop at the given stage and emit ir"
  | .setting .stdlib =>
    "path to stdlib directory [default: " ++ Configuration.defaultStdlib ++ "]"
  | .setting .arch =>
    "architecture to generated IR for [default: " ++ Configuration.defaultArch ++ "]"
  | .setting .files => "an input source file"
  | .setting (.phase slot) => slotPurpose slot ++ " " ++ possibleValues
  | .help => "Print help"
  | .version => "Print version"

/-- The forms of a flag: its letter, or as much space, and its long form. -/
def forms (flag : Flag) : String :=
  match flag.letter? with
  | some c => String.ofList [' ', ' ', '-', c, ',', ' '] ++ flag.display
  | none => "      " ++ flag.display

/-- The column at which purposes begin. -/
def purposeColumn : Nat :=
  (Flag.all.map fun flag => (forms flag).length).foldl max 0 + 2

/-- The line of a flag. -/
def line (flag : Flag) : String :=
  let shown := forms flag
  shown ++ String.ofList (List.replicate (purposeColumn - shown.length) ' ') ++ purpose flag ++ "\n"

/-- The general form of a call, after the name of the program. -/
def callForm : String :=
  " [OPTIONS] --files <FILE>"

/-- The help text of a program of the given name. -/
def text (program : String) : String :=
  "compiler front-end driver\n\nUsage: " ++ program ++ callForm ++ "\n\nOptions:\n"
    ++ String.join (Flag.all.map line)

end CompilerDriver.Help
