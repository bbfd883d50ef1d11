import CompilerDriver.Configuration.Dump
import CompilerDriver.Log.Filter

/-!
What the driver logs about a configuration that was loaded.
-/

namespace CompilerDriver.Log

/-- Something worth a log line. -/
inductive Event where
  | loaded (config : Configuration)
  | unknownArch (arch : String)
  | earlyHalt (phase : Phase)
  deriving DecidableEq, Repr

namespace Event

/-- The target under which all events are logged. -/
def target : List Char :=
  "frontend".toList

/-- The level of an event. -/
def level : Event → Level
  | .loaded _ => .debug
  | .unknownArch _ => .warn
  | .earlyHalt _ => .info

/-- The names of the fields of an event, of which its message is one. -/
def fields : Event → List (List Char)
  | .loaded _ => ["message".toList, "config".toList]
  | .unknownArch _ => ["message".toList, "arch".toList]
  | .earlyHalt _ => ["message".toList, "phase".toList]

/-- What a log line says about an event. -/
def text : Event → String
  | .loaded config => "loaded configuration config=" ++ config.dump .oneLine
  | .unknownArch arch =>
    "unrecognized architecture, expected one of " ++ Target.knownNames ++ " arch="
      ++ Quoted.quote arch
  | .earlyHalt phase => "pipeline would halt early phase=" ++ phase.name

/-- The log line of an event. -/
def line (event : Event) : String :=
  event.level.heading ++ " " ++ event.text ++ "\n"

/-- The events of a configuration, in the order in which they happen. -/
def ofConfiguration (config : Configuration) : List Event :=
  [.loaded config]
    ++ (if config.target?.isNone then [.unknownArch config.arch] else [])
    ++ (config.phases.firstHalt?.map .earlyHalt).toList

end Event

/-- The log lines of a configuration that pass a filter. -/
def lines (filter : Filter) (config : Configuration) : List String :=
  ((Event.ofConfiguration config).filter fun event =>
    filter.admits Event.target event.fields event.level).map Event.line

end CompilerDriver.Log
