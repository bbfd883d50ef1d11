import CompilerDriver.CommandLine.Help
import CompilerDriver.Text.Terminal

/-!
Usage errors: what the program says instead of running.  A complaint has one of many categories and
a text for a terminal; the usage error made from it has one of five kinds and a text that is ready
to print, with the help text below it unless help or the version was asked for.
-/

namespace CompilerDriver

/-- What a usage error is about. -/
inductive UsageErrorKind where
  | missingRequired
  | unknownFlag
  /-- A missing, bad or needless value, or a repeated flag. -/
  | malformed
  | helpRequested
  | versionRequested
  deriving DecidableEq, Repr

/-- What a complaint about a command line is about, as finely as any parser tells them apart. -/
inductive Category where
  | invalidValue
  | unknownArgument
  | invalidSubcommand
  | noEquals
  | valueValidation
  | tooManyValues
  | tooFewValues
  | wrongNumberOfValues
  | argumentConflict
  | missingRequiredArgument
  | missingSubcommand
  | invalidUtf8
  | displayHelp
  | displayHelpOnMissingArgumentOrSubcommand
  | displayVersion
  | io
  | format
  deriving DecidableEq, Repr

/-- The kind of the usage error for a category. -/
def Category.kind : Category → UsageErrorKind
  | .missingRequiredArgument => .missingRequired
  | .unknownArgument => .unknownFlag
  | .displayHelp => .helpRequested
  | .displayVersion => .versionRequested
  | _ => .malformed

/-- Whether the user asked for what is printed. -/
def UsageErrorKind.isRequest : UsageErrorKind → Bool
  | .helpRequested | .versionRequested => true
  | _ => false

/-- A complaint about a command line; its text may hold terminal escape sequences. -/
structure Complaint where
  category : Category
  text : String
  deriving DecidableEq, Repr

/-- The complaint that says no more than a message. -/
def Complaint.plain (category : Category) (message : String) : Complaint :=
  ⟨category, "error: " ++ message⟩

/-- A usage error, ready to print. -/
structure UsageError where
  kind : UsageErrorKind
  message : String
  deriving DecidableEq, Repr

namespace UsageError

/-- What the program returns: a request was served, all else has failed. -/
def exitCode (fault : UsageError) : Nat :=
  if fault.kind.isRequest then 0 else 1

/-- The usage error that a complaint becomes. -/
def ofComplaint (complaint : Complaint) : UsageError :=
  let kind := complaint.category.kind
  let text := Terminal.strip complaint.text
  { kind := kind
    message := if kind.isRequest then text else text ++ "\n" ++ Help.text Help.programName }

end UsageError

end CompilerDriver
