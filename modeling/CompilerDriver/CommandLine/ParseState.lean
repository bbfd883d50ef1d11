import CompilerDriver.CommandLine.Draft
import CompilerDriver.CommandLine.Word
import CompilerDriver.Text.Similarity

/-!
Reading a command line from left to right.  A setting whose value is a separate argument stays
pending: its value is checked only when the next flag, or the end, settles it.  So a fault of a
later argument can come before the fault of an earlier value, and a setting that waits for its
value does not count as given yet.
-/

namespace CompilerDriver

/-- A setting that was named, and its value once that was read. -/
structure Pending where
  setting : Setting
  value : Option Bytes
  deriving DecidableEq, Repr

/-- What is known after some arguments. -/
structure ParseState where
  /-- The flags that were given and settled, in order of first occurrence. -/
  given : List Flag := []
  /-- Whether any flag was ever settled. -/
  anyGiven : Bool := false
  draft : Draft := {}
  pending : Option Pending := none
  /-- Whether `--` was read, after which nothing is a flag. -/
  terminated : Bool := false
  deriving DecidableEq, Repr

namespace ParseState

/-- Takes a complete occurrence.  A repeated flag leaves the list of given flags; a flag whose value
is bad stays in it. -/
def record (state : ParseState) (occurrence : Occurrence) : ParseState × Option Fault :=
  if occurrence.flag ∈ state.given then
    ({ state with given := state.given.erase occurrence.flag }, some (.repeated occurrence.flag))
  else
    let listed := { state with given := state.given ++ [occurrence.flag], anyGiven := true }
    match state.draft.store occurrence with
    | .ok draft => ({ listed with draft := draft }, none)
    | .error fault => (listed, some fault)

/-- Takes the pending setting, if there is one. -/
def settle (state : ParseState) : ParseState × Option Fault :=
  match state.pending with
  | none => (state, none)
  | some ⟨setting, none⟩ => ({ state with pending := none }, some (.valueRequired setting))
  | some ⟨setting, some value⟩ =>
    { state with pending := none }.record (.setting setting value)

/-- The state, unless there is a fault. -/
def orFault : ParseState × Option Fault → Except Fault ParseState
  | (state, none) => .ok state
  | (_, some fault) => .error fault

/-- The state in which nothing is pending, unless settling fails. -/
def settled (state : ParseState) : Except Fault ParseState :=
  orFault state.settle

/-- Takes an occurrence that is complete at once, after what is pending. -/
def take (state : ParseState) (occurrence : Occurrence) : Except Fault ParseState := do
  let state ← state.settled
  orFault (state.record occurrence)

/-- Ends with an informational flag, unless settling fails. -/
def inform (state : ParseState) (fault : Fault) : Except Fault ParseState := do
  let _ ← state.settled
  .error fault

/-- Makes a setting wait for its value, after what is pending. -/
def await (state : ParseState) (setting : Setting) : Except Fault ParseState := do
  let state ← state.settled
  return { state with pending := some ⟨setting, none⟩ }

/-- An argument that is neither a flag nor a value. -/
def stray (shown : String) : Fault :=
  .unexpectedArgument shown none .overview

/-- The usage line for an unknown flag: what was given, and what may have been meant. -/
def unknownUsage (given : List Flag) (similar : Option Flag) : Usage :=
  let flags :=
    match similar with
    | some flag => if flag ∈ given then given else given ++ [flag]
    | none => given
  if flags = [] then .overview else .given flags

/-- A long name that no flag has.  What is pending is settled for the usage line alone. -/
def unknownLong (state : ParseState) (name : Bytes) : Fault :=
  let text := Utf8.lossy name
  let similar := Similarity.closest? Flag.name text Flag.all
  .unexpectedArgument ("--" ++ text) similar (unknownUsage state.settle.1.given similar)

/-- The usage line for a value that a flag does not take. -/
def valueUsage (state : ParseState) (flag : Flag) : Usage :=
  if state.anyGiven then
    .choice (if flag = .help ∨ flag = .version then some flag else none)
  else .given [flag]

/-- Reads a long flag. -/
def readLong (state : ParseState) (name : Bytes) (attached : Option Bytes) :
    Except Fault ParseState :=
  match Flag.ofName? name, attached with
  | none, _ => .error (state.unknownLong name)
  | some (.setting setting), some value => state.take (.setting setting value)
  | some (.setting setting), none => state.await setting
  | some flag, some value =>
    .error (.unexpectedValue (Utf8.lossy value) flag (state.valueUsage flag))
  | some (.switch switch), none => state.take (.switch switch)
  | some .help, none => state.inform .help
  | some .version, none => state.inform .version

/-- What is shown of a group of letters that begins with an unknown one. -/
def shownLetter (group : Bytes) : String :=
  match Utf8.front? group with
  | some c => String.ofList ['-', c]
  | none => "-" ++ Utf8.lossy group

/-- The value that follows a letter directly; one equals sign in front is not part of it. -/
def letterValue : Bytes → Bytes
  | [] => []
  | first :: rest => if first = Word.equals then rest else first :: rest

/-- Reads a group of letters.  The first one decides: it ends the reading, or takes the rest as its
value, or is unknown. -/
def readShort (state : ParseState) (first : UInt8) (rest : Bytes) : Except Fault ParseState :=
  match Flag.ofLetter? first with
  | some (.setting setting) =>
    if rest = [] then state.await setting else state.take (.setting setting (letterValue rest))
  | some (.switch switch) => state.take (.switch switch)
  | some .help => state.inform .help
  | some .version => state.inform .version
  | none => .error (stray (shownLetter (first :: rest)))

/-- Reads an argument that is no flag: the value that is waited for, or a stray one. -/
def readPlain (state : ParseState) (bytes : Bytes) : Except Fault ParseState :=
  match state.pending with
  | some ⟨setting, none⟩ => .ok { state with pending := some ⟨setting, some bytes⟩ }
  | _ => .error (stray (Utf8.lossy bytes))

/-- Reads one argument. -/
def step (state : ParseState) (argument : Bytes) : Except Fault ParseState :=
  if state.terminated then .error (stray (Utf8.lossy argument))
  else
    match Word.ofBytes argument with
    | .terminator => .ok { state with terminated := true }
    | .long name attached => state.readLong name attached
    | .short first rest => state.readShort first rest
    | .plain bytes => state.readPlain bytes

/-- Reads arguments from left to right, up to the first fault. -/
def run (state : ParseState) (arguments : List Bytes) : Except Fault ParseState :=
  arguments.foldlM step state

/-- The configuration at the end of the command line. -/
def finish (state : ParseState) : Except Fault Configuration := do
  let state ← state.settled
  match state.draft.configuration? with
  | some config => .ok config
  | none => .error (.missingFiles state.given)

theorem run_append (state : ParseState) (left right : List Bytes) :
    state.run (left ++ right) = state.run left >>= fun next => next.run right :=
  List.foldlM_append

end ParseState

end CompilerDriver
