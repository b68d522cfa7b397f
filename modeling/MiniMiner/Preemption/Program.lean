import Mathlib.Logic.Function.Basic

/-! Programs of one thread, cut into the statements that run without
interruption. Nothing here fixes a state, a set of program points or a source
of interruptions; a program only says what each statement does to the state
and how the rest of the code depends on the state it was run in. -/

set_option autoImplicit false

namespace MiniMiner.Preemption

/-- Code that ends with a value. A statement carries its program point, its
effect on the state and the remaining code, which may read the state as it was
just before the effect. -/
inductive Program (Point State Value : Type) : Type where
  | done (value : Value) : Program Point State Value
  | statement (point : Point) (effect : State → State)
      (next : State → Program Point State Value) : Program Point State Value

namespace Program

variable {Point State Value Result Item : Type}

def bind : Program Point State Value → (Value → Program Point State Result) →
    Program Point State Result
  | .done value, continuation => continuation value
  | .statement point effect next, continuation =>
      .statement point effect fun state => (next state).bind continuation

instance : Monad (Program Point State) where
  pure := .done
  bind := .bind

/-- A statement that only writes. -/
def assign (point : Point) (effect : State → State) : Program Point State Unit :=
  .statement point effect fun _ => .done ()

/-- A statement that only reads. -/
def fetch (point : Point) (read : State → Value) : Program Point State Value :=
  .statement point id fun state => .done (read state)

/-- Code that is skipped unless a condition on values read earlier holds. -/
def onlyIf (condition : Prop) [Decidable condition] (program : Program Point State Unit) :
    Program Point State Unit :=
  if condition then program else pure ()

/-- A counted loop: the body once for each item, in order. -/
def each (items : List Item) (body : Item → Program Point State Unit) :
    Program Point State Unit :=
  match items with
  | [] => pure ()
  | item :: rest => do
      body item
      each rest body

/-- The state left by a run that nothing interrupts. -/
def alone : Program Point State Value → State → Value × State
  | .done value, state => (value, state)
  | .statement _ effect next, state => (next state).alone (effect state)

/-- The number of statements executed by a run that nothing interrupts. -/
def length : Program Point State Value → State → Nat
  | .done _, _ => 0
  | .statement _ effect next, state => (next state).length (effect state) + 1

/-- Every statement of the program is of the given kind, whatever state it is
run in. -/
def Within (kind : Point → State → State → Prop) : Program Point State Value → Prop
  | .done _ => True
  | .statement point effect next =>
      (∀ state, kind point state (effect state)) ∧ ∀ state, (next state).Within kind

@[simp] theorem bind_done (value : Value)
    (continuation : Value → Program Point State Result) :
    (Program.done value >>= continuation) = continuation value := rfl

@[simp] theorem bind_statement (point : Point) (effect : State → State)
    (next : State → Program Point State Value)
    (continuation : Value → Program Point State Result) :
    (Program.statement point effect next >>= continuation) =
      .statement point effect fun state => next state >>= continuation := rfl

theorem each_cons (item : Item) (rest : List Item)
    (body : Item → Program Point State Unit) :
    each (item :: rest) body = (body item >>= fun _ => each rest body) := rfl

theorem Within.bind {kind : Point → State → State → Prop}
    {program : Program Point State Value}
    {continuation : Value → Program Point State Result}
    (first : program.Within kind) (second : ∀ value, (continuation value).Within kind) :
    (program >>= continuation).Within kind := by
  induction program with
  | done value => exact second value
  | statement point effect next ih =>
      exact ⟨first.1, fun state => ih state (first.2 state)⟩

theorem Within.all {kind : Point → State → State → Prop}
    (within : ∀ point before after, kind point before after)
    (program : Program Point State Value) : program.Within kind := by
  induction program with
  | done value => trivial
  | statement point effect next ih => exact ⟨fun state => within _ _ _, ih⟩

theorem Within.imp {kind weaker : Point → State → State → Prop}
    {program : Program Point State Value} (within : program.Within kind)
    (implied : ∀ point before after, kind point before after → weaker point before after) :
    program.Within weaker := by
  induction program with
  | done value => trivial
  | statement point effect next ih =>
      exact ⟨fun state => implied _ _ _ (within.1 state), fun state => ih state (within.2 state)⟩

theorem Within.assign {kind : Point → State → State → Prop} {point : Point}
    {effect : State → State} (within : ∀ state, kind point state (effect state)) :
    (assign point effect).Within kind :=
  ⟨within, fun _ => trivial⟩

theorem Within.fetch {kind : Point → State → State → Prop} {point : Point}
    {read : State → Value} (within : ∀ state, kind point state state) :
    (fetch point read).Within kind :=
  ⟨within, fun _ => trivial⟩

theorem Within.ite {kind : Point → State → State → Prop} {condition : Prop} [Decidable condition]
    {first second : Program Point State Value} (taken : condition → first.Within kind)
    (skipped : ¬ condition → second.Within kind) :
    (if condition then first else second).Within kind := by
  split
  · exact taken ‹_›
  · exact skipped ‹_›

theorem Within.onlyIf {kind : Point → State → State → Prop} {condition : Prop}
    [Decidable condition] {program : Program Point State Unit}
    (within : program.Within kind) : (onlyIf condition program).Within kind :=
  .ite (fun _ => within) fun _ => trivial

theorem Within.each {kind : Point → State → State → Prop} {items : List Item}
    {body : Item → Program Point State Unit}
    (within : ∀ item ∈ items, (body item).Within kind) : (each items body).Within kind := by
  induction items with
  | nil => trivial
  | cons item rest ih =>
      refine Within.bind (within item List.mem_cons_self) fun _ => ih ?_
      intro other member
      exact within other (List.mem_cons_of_mem _ member)

@[simp] theorem alone_done (value : Value) (state : State) :
    (Program.done value : Program Point State Value).alone state = (value, state) := rfl

@[simp] theorem alone_pure (value : Value) (state : State) :
    (pure value : Program Point State Value).alone state = (value, state) := rfl

@[simp] theorem alone_assign (point : Point) (effect : State → State) (state : State) :
    (assign point effect).alone state = ((), effect state) := rfl

@[simp] theorem alone_fetch (point : Point) (read : State → Value) (state : State) :
    (fetch point read).alone state = (read state, state) := rfl

@[simp] theorem alone_bind (program : Program Point State Value)
    (continuation : Value → Program Point State Result) (state : State) :
    (program >>= continuation).alone state =
      (continuation (program.alone state).1).alone (program.alone state).2 := by
  induction program generalizing state with
  | done value => rfl
  | statement point effect next ih =>
      rw [bind_statement]
      exact ih state (effect state)

/-- What no statement changes is the same after a run that nothing interrupts. -/
theorem Within.alone_eq {Field : Type} {field : State → Field}
    {program : Program Point State Value}
    (within : program.Within fun _ before after => field after = field before) (state : State) :
    field (program.alone state).2 = field state := by
  induction program generalizing state with
  | done value => rfl
  | statement point effect next ih =>
      exact (ih state (within.2 state) (effect state)).trans (within.1 state)

end Program

end MiniMiner.Preemption
