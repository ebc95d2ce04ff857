import OperandStack.Call
import OperandStack.Config.Source
import OperandStack.Stack.Allocation
import OperandStack.Stack.Drain
import OperandStack.Stack.Text

/-! # Sessions

A session works on one current stack, with further stacks kept in named slots. It is opened in one
of several ways and then answers commands: calls to the current stack, longer manoeuvres made of
them, texts, and moves between the stack and the slots. Every step leaves a report.
-/

universe u

namespace OperandStack

/-- Stacks kept by name, the latest first. A name that was never used stands for the empty
stack. -/
structure Slots (α : Type u) where
  kept : List (String × Stack α)

namespace Slots

variable {α : Type u}

/-- No stacks kept. -/
def empty : Slots α := ⟨[]⟩

/-- The stack kept under a name. -/
def get (slots : Slots α) (name : String) : Stack α := (slots.kept.lookup name).getD Stack.empty

/-- Keeps a stack under a name, in place of the one kept there before. -/
def set (slots : Slots α) (name : String) (stack : Stack α) : Slots α :=
  ⟨(name, stack) :: slots.kept.filter fun slot => slot.1 != name⟩

@[simp] theorem get_empty (name : String) : (empty : Slots α).get name = Stack.empty := rfl

@[simp] theorem get_set_self (slots : Slots α) (name : String) (stack : Stack α) :
    (slots.set name stack).get name = stack := by
  simp [get, set]

theorem get_set_of_ne (slots : Slots α) {name other : String} (different : other ≠ name)
    (stack : Stack α) : (slots.set name stack).get other = slots.get other := by
  have missed : (other == name) = false := beq_eq_false_iff_ne.mpr different
  obtain ⟨kept⟩ := slots
  simp only [get, set, List.lookup_cons, missed]
  congr 1
  induction kept with
  | nil => rfl
  | cons slot rest ih =>
    obtain ⟨held, old⟩ := slot
    by_cases same : held = name
    · subst same
      simp only [bne_self_eq_false, Bool.false_eq_true, not_false_eq_true, List.filter_cons_of_neg,
        List.lookup_cons, missed, ih]
    · simp only [bne_iff_ne, ne_eq, same, not_false_eq_true, List.filter_cons_of_pos,
        List.lookup_cons, ih]

end Slots

/-- How the first stack of a session is made. -/
inductive Opening (α : Type u) where
  | new
  | default
  | ofArray (items : Array α)
  | collect (values : List α)
  | withCapacity (capacity : Nat)
  | withConfig (source : Config.Source)

/-- Why a session could not be opened. -/
inductive OpeningError where
  | source (problem : SourceError)
  | allocation (problem : AllocationError)

/-- One step of a session. -/
inductive Command (α : Type u) where
  | call (call : Call α)
  /-- Pop in bulk and push what came back. -/
  | repush (count : Nat)
  /-- Pop until a pop fails. -/
  | drain
  | plainText
  | inlineText
  | blockText
  /-- Ask whether there is room for the values present. -/
  | capacity
  | save (slot : String)
  | load (slot : String)
  | exchange (slot : String)
  | compare (slot : String)
  | extendFrom (slot : String)
  | collectFrom (slot : String)

/-- What a step found out. -/
inductive Finding (α : Type u) where
  | nothing
  /-- The answer of a call that can be refused. -/
  | fallible (result : Except StackError (Reply α))
  /-- The answer of a call that cannot. -/
  | certain (reply : Reply α)
  | drained (popped : List α) (failure : StackError)
  | text (text : String)
  | compared (equal : Bool)
  /-- There is room for as many values as were asked for. -/
  | roomAsRequested
  /-- There is room for the values present. -/
  | roomForAll

/-- The failure that ends a session told to stop at failures. -/
def Finding.failure? {α : Type u} : Finding α → Option StackError
  | fallible (.error failure) => some failure
  | _ => none

/-- The finding of a call: refusals belong to calls that can be refused. -/
def Finding.ofResult {α : Type u} (call : Call α) (result : Except StackError (Reply α)) :
    Finding α :=
  match call.fallible, result with
  | false, .ok reply => .certain reply
  | _, result => .fallible result

/-- The current stack and the slots. -/
structure Session (α : Type u) where
  stack : Stack α
  slots : Slots α

/-- The session after a step, what the step found out, and the events emitted during it. -/
structure Progress (α : Type u) where
  session : Session α
  finding : Finding α
  events : List TraceEvent

namespace Session

variable {α : Type u}

/-- A session with nothing kept. -/
def start (stack : Stack α) : Session α := ⟨stack, Slots.empty⟩

/-- A session on a stack made with room for values. -/
def roomy (made : Except AllocationError (Stack α)) :
    Except OpeningError (Session α × Finding α) :=
  match made with
  | .ok stack => .ok (start stack, .roomAsRequested)
  | .error problem => .error (.allocation problem)

/-- Opens a session. -/
def ofOpening [SlotWidth α] : Opening α → Except OpeningError (Session α × Finding α)
  | .new => .ok (start Stack.empty, .nothing)
  | .default => .ok (start default, .nothing)
  | .ofArray items => .ok (start (Stack.ofArray items), .nothing)
  | .collect values => .ok (start (Stack.ofList values), .nothing)
  | .withCapacity capacity => roomy (Stack.withCapacity capacity)
  | .withConfig source =>
    match source.read with
    | .ok config => roomy (Stack.withConfig config)
    | .error problem => .error (.source problem)

/-- A step that changes nothing and finds something out. -/
def observe (session : Session α) (finding : Finding α) : Progress α := ⟨session, finding, []⟩

/-- A step that makes a call on the current stack. -/
def ask (session : Session α) (call : Call α) : Progress α :=
  let ⟨stack, slots⟩ := session
  let response := call.run stack
  ⟨⟨response.stack, slots⟩, .ofResult call response.result, response.events⟩

/-- Carries out a step. -/
def step [DecidableEq α] [Plain α] [Inspect α] (session : Session α) : Command α → Progress α
  | .call call => session.ask call
  | .repush count =>
    let out := session.stack.repush count
    ⟨{ session with stack := out.stack }, .fallible (out.result.map .values), []⟩
  | .drain =>
    let out := session.stack.drain
    ⟨{ session with stack := out.stack }, .drained out.popped out.failure, []⟩
  | .plainText => session.observe (.text (Plain.text session.stack))
  | .inlineText => session.observe (.text (Inspect.inline session.stack))
  | .blockText => session.observe (.text (Inspect.pretty session.stack))
  | .capacity => session.observe .roomForAll
  | .save slot => ⟨{ session with slots := session.slots.set slot session.stack }, .nothing, []⟩
  | .load slot => ⟨{ session with stack := session.slots.get slot }, .nothing, []⟩
  | .exchange slot =>
    ⟨⟨session.slots.get slot, session.slots.set slot session.stack⟩, .nothing, []⟩
  | .compare slot => session.observe (.compared (session.stack = session.slots.get slot))
  | .extendFrom slot => session.ask (.extendFrom (session.slots.get slot))
  | .collectFrom slot => session.ask (.collectFrom (session.slots.get slot))

end Session

/-- What the reports of a session hold, and whether it ends at the first failure. -/
structure ReportOptions where
  items : Bool := true
  events : Bool := false
  stopAtFailure : Bool := false

/-- What is written down after a step. -/
structure Report (α : Type u) where
  finding : Finding α
  size : Nat
  items : Option (List α)
  events : Option (List TraceEvent)

namespace Session

variable {α : Type u}

/-- Writes a step down. -/
def report (options : ReportOptions) (progress : Progress α) : Report α where
  finding := progress.finding
  size := progress.session.stack.size
  items := if options.items then some progress.session.stack.toList else none
  events := if options.events then some progress.events else none

/-- The reports on a step just made and on the commands after it. -/
def reports [DecidableEq α] [Plain α] [Inspect α] (options : ReportOptions)
    (progress : Progress α) : List (Command α) → List (Report α)
  | [] => [report options progress]
  | command :: rest =>
    report options progress ::
      if options.stopAtFailure && progress.finding.failure?.isSome then []
      else reports options (progress.session.step command) rest

/-- Opens a session and carries out commands; the first report is on the opening. -/
def run [DecidableEq α] [Plain α] [Inspect α] [SlotWidth α] (options : ReportOptions)
    (opening : Opening α) (commands : List (Command α)) :
    Except OpeningError (List (Report α)) :=
  (ofOpening opening).map fun opened => reports options (opened.1.observe opened.2) commands

end Session

end OperandStack
