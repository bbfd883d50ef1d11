import CompilerDriver.CommandLine.Fault
import CompilerDriver.CommandLine.UsageError
import CompilerDriver.Text.Similarity

/-!
The texts of faults.  Words of the user's own stand in them with a style reset behind, so that an
escape sequence that the user left open cannot reach into the text after it.
-/

namespace CompilerDriver

/-- A word of the user's own as it stands in a text for a terminal. -/
def userWord (word : String) : String :=
  word ++ Terminal.reset

/-- The forms of some flags, with a separator between each two. -/
def displayAll (separator : String) (flags : List Flag) : String :=
  separator.intercalate (flags.map Flag.display)

/-- The usage line of a program. -/
def Usage.text (program : String) : Usage → String
  | .overview => "Usage: " ++ userWord program ++ Help.callForm
  | .given flags =>
    "Usage: " ++ userWord program ++ " "
      ++ displayAll " "
        (.setting .files :: flags.filter fun flag => flag ≠ .setting .files)
  | .choice lead =>
    "Usage: " ++ userWord program
      ++ (match lead with | some flag => " " ++ flag.display | none => "")
      ++ " <" ++ displayAll "|" Flag.configuring ++ ">"

namespace Fault

/-- Where every fault points to. -/
def tryHelp : String :=
  "\n\nFor more information, try '--help'.\n"

/-- The list of phases on a line of its own. -/
def phaseList : String :=
  "\n  " ++ Help.possibleValues

/-- The hint at a flag that may have been meant. -/
def flagTip : Option Flag → String
  | some flag => "\n\n  tip: a similar argument exists: '--" ++ flag.name ++ "'"
  | none => ""

/-- The hint at a phase that may have been meant. -/
def phaseTip (value : String) : String :=
  match Similarity.closest? Phase.name value Phase.all with
  | some phase => "\n\n  tip: a similar value exists: '" ++ phase.name ++ "'"
  | none => ""

/-- The text about a setting without a value. -/
def valueRequiredText (setting : Setting) : String :=
  "error: a value is required for '" ++ (Flag.setting setting).display
    ++ "' but none was supplied"
    ++ (match setting with | .phase _ => phaseList | _ => "") ++ tryHelp

/-- The text of a fault, for a program of the given name. -/
def text (program : String) : Fault → String
  | .missingFiles given =>
    "error: the following required arguments were not provided:\n  "
      ++ (Flag.setting .files).display ++ "\n\n" ++ (Usage.given given).text program ++ tryHelp
  | .unexpectedArgument shown similar usage =>
    "error: unexpected argument '" ++ userWord shown ++ "' found" ++ flagTip similar ++ "\n\n"
      ++ usage.text program ++ tryHelp
  | .unexpectedValue value flag usage =>
    "error: unexpected value '" ++ userWord value ++ "' for '" ++ flag.display
      ++ "' found; no more were expected\n\n" ++ usage.text program ++ tryHelp
  | .repeated flag =>
    "error: the argument '" ++ flag.display ++ "' cannot be used multiple times\n\n"
      ++ Usage.overview.text program ++ tryHelp
  | .invalidUtf8 =>
    "error: invalid UTF-8 was detected in one or more arguments\n\n"
      ++ Usage.overview.text program ++ tryHelp
  | .valueRequired setting => valueRequiredText setting
  | .invalidPhase slot value =>
    if value = "" then valueRequiredText (.phase slot)
    else
      "error: invalid value '" ++ userWord value ++ "' for '"
        ++ (Flag.setting (.phase slot)).display ++ "'" ++ phaseList ++ phaseTip value ++ tryHelp
  | .help => Help.text (userWord program)
  | .version => Help.versionText

/-- The category of a fault. -/
def category : Fault → Category
  | .missingFiles _ => .missingRequiredArgument
  | .unexpectedArgument .. => .unknownArgument
  | .unexpectedValue .. => .tooManyValues
  | .repeated _ => .argumentConflict
  | .invalidUtf8 => .invalidUtf8
  | .valueRequired _ | .invalidPhase .. => .invalidValue
  | .help => .displayHelp
  | .version => .displayVersion

/-- The kind of usage error that a fault becomes. -/
def kind (fault : Fault) : UsageErrorKind :=
  fault.category.kind

/-- The complaint about a fault, for a program of the given name. -/
def complaint (program : String) (fault : Fault) : Complaint :=
  ⟨fault.category, fault.text program⟩

/-- The usage error that a fault becomes, for a program of the given name. -/
def toUsageError (program : String) (fault : Fault) : UsageError :=
  .ofComplaint (fault.complaint program)

@[simp] theorem kind_toUsageError (program : String) (fault : Fault) :
    (fault.toUsageError program).kind = fault.kind := rfl

end Fault

end CompilerDriver
