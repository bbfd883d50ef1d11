import CompilerDriver.Phase

/-!
Requests to halt the pipeline at a phase, and possibly to dump something there.  A control has one
slot for each kind of request; its requests, its first halt and its emptiness are views of the
slots.
-/

namespace CompilerDriver

/-- A kind of request. -/
inductive PhaseSlot where
  | stop
  | dumpAst
  | dumpAstHtml
  | dumpTypes
  | emitStats
  deriving DecidableEq, Repr

namespace PhaseSlot

/-- Every slot, in the order in which requests are listed. -/
def all : List PhaseSlot :=
  [.stop, .dumpAst, .dumpAstHtml, .dumpTypes, .emitStats]

/-- The name of a slot, which is also the name of its flag. -/
def name : PhaseSlot → String
  | .stop => "stop"
  | .dumpAst => "dump_ast"
  | .dumpAstHtml => "dump_ast_html"
  | .dumpTypes => "dump_types"
  | .emitStats => "emit_stats"

/-- The slot of exactly this name. -/
def ofName? (text : String) : Option PhaseSlot :=
  all.find? (·.name == text)

theorem mem_all (slot : PhaseSlot) : slot ∈ all := by
  cases slot <;> decide

@[simp] theorem ofName?_name (slot : PhaseSlot) : ofName? slot.name = some slot := by
  cases slot <;> decide

end PhaseSlot

/-- The requested phase of each slot. -/
structure PhaseControl where
  stop : Option Phase := none
  dumpAst : Option Phase := none
  dumpAstHtml : Option Phase := none
  dumpTypes : Option Phase := none
  emitStats : Option Phase := none
  deriving DecidableEq, Repr

namespace PhaseControl

/-- The control without requests. -/
def empty : PhaseControl := {}

/-- The phase that a slot requests. -/
def get (control : PhaseControl) : PhaseSlot → Option Phase
  | .stop => control.stop
  | .dumpAst => control.dumpAst
  | .dumpAstHtml => control.dumpAstHtml
  | .dumpTypes => control.dumpTypes
  | .emitStats => control.emitStats

/-- The control with one slot replaced. -/
def set (control : PhaseControl) (slot : PhaseSlot) (phase : Option Phase) : PhaseControl :=
  match slot with
  | .stop => { control with stop := phase }
  | .dumpAst => { control with dumpAst := phase }
  | .dumpAstHtml => { control with dumpAstHtml := phase }
  | .dumpTypes => { control with dumpTypes := phase }
  | .emitStats => { control with emitStats := phase }

/-- The requests that are set, in slot order. -/
def requests (control : PhaseControl) : List (PhaseSlot × Phase) :=
  PhaseSlot.all.filterMap fun slot => (control.get slot).map (slot, ·)

/-- The earliest phase at which a request halts the pipeline. -/
def firstHalt? (control : PhaseControl) : Option Phase :=
  Phase.earliest? (control.requests.map (·.2))

/-- Whether no slot is set. -/
def isEmpty (control : PhaseControl) : Bool :=
  control.requests.isEmpty

@[simp] theorem get_empty (slot : PhaseSlot) : empty.get slot = none := by
  cases slot <;> rfl

@[simp] theorem get_set_self (control : PhaseControl) (slot : PhaseSlot) (phase : Option Phase) :
    (control.set slot phase).get slot = phase := by
  cases slot <;> rfl

theorem get_set_of_ne (control : PhaseControl) {slot other : PhaseSlot} (phase : Option Phase)
    (h : other ≠ slot) : (control.set slot phase).get other = control.get other := by
  cases slot <;> cases other <;> simp_all [get, set]

/-- A control is what its slots hold. -/
theorem ext_get {left right : PhaseControl} (h : ∀ slot, left.get slot = right.get slot) :
    left = right := by
  have stop := h .stop
  have dumpAst := h .dumpAst
  have dumpAstHtml := h .dumpAstHtml
  have dumpTypes := h .dumpTypes
  have emitStats := h .emitStats
  simp only [get] at stop dumpAst dumpAstHtml dumpTypes emitStats
  cases left
  cases right
  simp_all

theorem mem_requests_iff {control : PhaseControl} {slot : PhaseSlot} {phase : Phase} :
    (slot, phase) ∈ control.requests ↔ control.get slot = some phase := by
  simp [requests, PhaseSlot.mem_all]

end PhaseControl

end CompilerDriver
