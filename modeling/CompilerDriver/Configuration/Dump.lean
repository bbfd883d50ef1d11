import CompilerDriver.Configuration
import CompilerDriver.Text.Quoted

/-!
The dump of a configuration: every field by name, texts quoted, on one line or indented.
-/

namespace CompilerDriver

/-- How a dump is laid out. -/
inductive Layout where
  | oneLine
  /-- Each field on lines of its own, four spaces deeper than the record. -/
  | indented
  deriving DecidableEq, Repr

namespace Layout

/-- The lines of a text, four spaces deeper. -/
def deepen (text : String) : String :=
  "    " ++ String.ofList (text.toList.flatMap fun c =>
    if c = '\n' then "\n    ".toList else [c])

/-- A value in the parentheses of a constructor. -/
def wrap (layout : Layout) (name value : String) : String :=
  match layout with
  | .oneLine => name ++ "(" ++ value ++ ")"
  | .indented => name ++ "(\n" ++ deepen value ++ ",\n)"

/-- A record with its named fields. -/
def record (layout : Layout) (name : String) (fields : List (String × String)) : String :=
  let items := fields.map fun (field, value) => field ++ ": " ++ value
  match layout with
  | .oneLine => name ++ " \x7b " ++ ", ".intercalate items ++ " \x7d"
  | .indented =>
    name ++ " \x7b\n" ++ String.join (items.map fun item => deepen item ++ ",\n") ++ "\x7d"

end Layout

/-- The text of a request in a dump. -/
def dumpRequest (layout : Layout) : Option Phase → String
  | none => "None"
  | some phase => layout.wrap "Some" phase.label

/-- The text of a control in a dump. -/
def PhaseControl.dump (control : PhaseControl) (layout : Layout) : String :=
  layout.record "PhaseControl"
    (PhaseSlot.all.map fun slot => (slot.name, dumpRequest layout (control.get slot)))

/-- The text of a configuration in a dump. -/
def Configuration.dump (config : Configuration) (layout : Layout) : String :=
  layout.record "Configuration"
    [("shake_tree", switchText config.shakeTree),
     ("stdlib_path", Quoted.quote config.stdlibPath.text),
     ("arch", Quoted.quote config.arch),
     ("emit_ir", switchText config.emitIr),
     ("source_files", Quoted.quote config.sourceFiles.text),
     ("phases", config.phases.dump layout)]

end CompilerDriver
