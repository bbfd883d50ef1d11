import CompilerDriver.Phase.Control
import CompilerDriver.Text.Utf8

/-!
The flags of the command line: what each is called, what it takes and how it is shown.
-/

namespace CompilerDriver

/-- A flag that takes no value and turns something on. -/
inductive Switch where
  | shakeTree
  | emitIr
  deriving DecidableEq, Repr

/-- A flag that takes a value. -/
inductive Setting where
  | stdlib
  | arch
  | files
  | phase (slot : PhaseSlot)
  deriving DecidableEq, Repr

/-- A flag of the command line. -/
inductive Flag where
  | switch (which : Switch)
  | setting (which : Setting)
  | help
  | version
  deriving DecidableEq, Repr

/-- The name of a switch. -/
def Switch.name : Switch → String
  | .shakeTree => "shake_tree"
  | .emitIr => "emit_ir"

/-- The name of a setting. -/
def Setting.name : Setting → String
  | .stdlib => "stdlib"
  | .arch => "arch"
  | .files => "files"
  | .phase slot => slot.name

/-- The word that stands for the value of a setting. -/
def Setting.placeholder : Setting → String
  | .stdlib => "PATH"
  | .arch => "ARCH"
  | .files => "FILE"
  | .phase _ => "PHASE"

namespace Flag

/-- The flags that make up a configuration, in the order in which help lists them. -/
def configuring : List Flag :=
  [.switch .shakeTree, .setting .stdlib, .setting .arch, .switch .emitIr, .setting .files]
    ++ PhaseSlot.all.map fun slot => .setting (.phase slot)

/-- Every flag, in the order in which help lists them. -/
def all : List Flag :=
  configuring ++ [.help, .version]

/-- The long name of a flag, without its dashes. -/
def name : Flag → String
  | .switch which => which.name
  | .setting which => which.name
  | .help => "help"
  | .version => "version"

/-- The letter that may stand for a flag. -/
def letter? : Flag → Option Char
  | .setting .files => some 'F'
  | .help => some 'h'
  | .version => some 'V'
  | _ => none

/-- A flag as it is shown: its long name, and a placeholder for its value. -/
def display : Flag → String
  | .setting which => "--" ++ which.name ++ " <" ++ which.placeholder ++ ">"
  | flag => "--" ++ flag.name

/-- How each flag is shown, written out. -/
def form : Flag → String
  | .switch .shakeTree => "--shake_tree"
  | .switch .emitIr => "--emit_ir"
  | .setting .stdlib => "--stdlib <PATH>"
  | .setting .arch => "--arch <ARCH>"
  | .setting .files => "--files <FILE>"
  | .setting (.phase .stop) => "--stop <PHASE>"
  | .setting (.phase .dumpAst) => "--dump_ast <PHASE>"
  | .setting (.phase .dumpAstHtml) => "--dump_ast_html <PHASE>"
  | .setting (.phase .dumpTypes) => "--dump_types <PHASE>"
  | .setting (.phase .emitStats) => "--emit_stats <PHASE>"
  | .help => "--help"
  | .version => "--version"

/-- The flag whose long name these bytes are. -/
def ofName? (bytes : Bytes) : Option Flag :=
  all.find? fun flag => Utf8.encode flag.name == bytes

/-- The flag for which a letter stands, given as a byte. -/
def ofLetter? (byte : UInt8) : Option Flag :=
  all.find? fun flag => flag.letter?.map Char.toUInt8 == some byte

theorem mem_all (flag : Flag) : flag ∈ all := by
  match flag with
  | .switch .shakeTree | .switch .emitIr | .setting .stdlib | .setting .arch | .setting .files
  | .help | .version => decide
  | .setting (.phase slot) => cases slot <;> decide

theorem display_eq_form (flag : Flag) : flag.display = flag.form := by
  have shown : ∀ a ∈ all, a.display = a.form := by decide +kernel
  exact shown flag (mem_all flag)

@[simp] theorem ofName?_encode_name (flag : Flag) :
    ofName? (Utf8.encode flag.name) = some flag := by
  have found : ∀ a ∈ all, ofName? (Utf8.encode a.name) = some a := by decide +kernel
  exact found flag (mem_all flag)

/-- Looking up a name finds exactly the flag that bears it. -/
theorem ofName?_eq_some_iff {bytes : Bytes} {flag : Flag} :
    ofName? bytes = some flag ↔ bytes = Utf8.encode flag.name := by
  constructor
  · intro h
    have found := List.find?_some h
    exact (beq_iff_eq.1 found).symm
  · rintro rfl
    exact ofName?_encode_name flag

/-- A byte stands for a flag only when it is the flag's letter. -/
theorem letter?_of_ofLetter? {byte : UInt8} {flag : Flag} (hflag : ofLetter? byte = some flag) :
    flag.letter?.map Char.toUInt8 = some byte := by
  have hfound := List.find?_some hflag
  exact beq_iff_eq.1 hfound

end Flag

end CompilerDriver
