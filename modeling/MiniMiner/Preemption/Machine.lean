import Mathlib.Data.List.Induction
import MiniMiner.Preemption.Program

/-! A main thread preempted by interrupt handlers. The main thread runs one
call at a time; between any two of its statements every unmasked handler may
run as one atomic step. Which calls are made, and when, is left to a list of
choices, so a statement about all lists of choices covers every interleaving. -/

set_option autoImplicit false

namespace MiniMiner.Preemption

/-- A handler answers `none` while its interrupt is masked. -/
structure Machine (Point State Interrupt Call : Type) where
  handler : Interrupt → State → Option State
  body : Call → Program Point State Unit

inductive Label (Point Interrupt Call : Type) : Type where
  | main (point : Point) : Label Point Interrupt Call
  | interrupt (source : Interrupt) : Label Point Interrupt Call
  | call (entry : Call) : Label Point Interrupt Call

structure Transition (Point State Interrupt Call : Type) where
  label : Label Point Interrupt Call
  source : State
  target : State

/-- The steps taken so far, the latest first. -/
abbrev History (Point State Interrupt Call : Type) :=
  List (Transition Point State Interrupt Call)

structure Config (Point State Interrupt Call : Type) where
  code : Program Point State Unit
  state : State
  history : History Point State Interrupt Call

inductive Choice (Interrupt Call : Type) : Type where
  | main : Choice Interrupt Call
  | interrupt (source : Interrupt) : Choice Interrupt Call
  | call (entry : Call) : Choice Interrupt Call

section

variable {Point State Interrupt Call : Type}

/-- No call is being executed. -/
def Config.idle (config : Config Point State Interrupt Call) : Bool :=
  match config.code with
  | .done _ => true
  | .statement _ _ _ => false

/-- Nothing has happened yet in the given state. -/
def Config.start (state : State) : Config Point State Interrupt Call :=
  { code := .done (), state := state, history := [] }

/-- A choice that is not enabled leaves the configuration as it is. -/
def Machine.advance (machine : Machine Point State Interrupt Call)
    (config : Config Point State Interrupt Call) :
    Choice Interrupt Call → Config Point State Interrupt Call
  | .main =>
      match config.code with
      | .done _ => config
      | .statement point effect next =>
          { code := next config.state
            state := effect config.state
            history := ⟨.main point, config.state, effect config.state⟩ :: config.history }
  | .interrupt source =>
      match machine.handler source config.state with
      | none => config
      | some state =>
          { config with
            state := state
            history := ⟨.interrupt source, config.state, state⟩ :: config.history }
  | .call entry =>
      match config.code with
      | .done _ =>
          { config with
            code := machine.body entry
            history := ⟨.call entry, config.state, config.state⟩ :: config.history }
      | .statement _ _ _ => config

def Machine.run (machine : Machine Point State Interrupt Call)
    (choices : List (Choice Interrupt Call))
    (config : Config Point State Interrupt Call) : Config Point State Interrupt Call :=
  choices.foldl machine.advance config

/-- Every step of the history was taken in a state, and after a history, that
the condition admits for the step's label. -/
def Meets (condition : Label Point Interrupt Call → State →
    History Point State Interrupt Call → Prop) :
    History Point State Interrupt Call → Prop
  | [] => True
  | transition :: earlier =>
      condition transition.label transition.source earlier ∧ Meets condition earlier

@[simp] theorem Machine.run_nil (machine : Machine Point State Interrupt Call)
    (config : Config Point State Interrupt Call) : machine.run [] config = config := rfl

theorem Machine.run_append (machine : Machine Point State Interrupt Call)
    (first second : List (Choice Interrupt Call))
    (config : Config Point State Interrupt Call) :
    machine.run (first ++ second) config = machine.run second (machine.run first config) :=
  List.foldl_append

theorem Config.idle_iff {config : Config Point State Interrupt Call} :
    config.idle = true ↔ config.code = .done () := by
  unfold Config.idle
  split <;> simp_all

/-- The steps that change a configuration, each recorded in the history. -/
inductive Machine.Step (machine : Machine Point State Interrupt Call) :
    Config Point State Interrupt Call → Config Point State Interrupt Call → Prop where
  | main {point : Point} {effect : State → State} {next : State → Program Point State Unit}
      {state : State} {history : History Point State Interrupt Call} :
      Step machine ⟨.statement point effect next, state, history⟩
        ⟨next state, effect state, ⟨.main point, state, effect state⟩ :: history⟩
  | interrupt {source : Interrupt} {code : Program Point State Unit} {before after : State}
      {history : History Point State Interrupt Call} :
      machine.handler source before = some after →
      Step machine ⟨code, before, history⟩
        ⟨code, after, ⟨.interrupt source, before, after⟩ :: history⟩
  | call {entry : Call} {state : State} {history : History Point State Interrupt Call} :
      Step machine ⟨.done (), state, history⟩
        ⟨machine.body entry, state, ⟨.call entry, state, state⟩ :: history⟩

theorem Machine.advance_step (machine : Machine Point State Interrupt Call)
    (config : Config Point State Interrupt Call) (choice : Choice Interrupt Call) :
    machine.advance config choice = config ∨
      machine.Step config (machine.advance config choice) := by
  rcases config with ⟨code, state, history⟩
  cases choice with
  | main =>
      cases code with
      | done value => exact .inl rfl
      | statement point effect next => exact .inr .main
  | interrupt source =>
      cases handled : machine.handler source state with
      | none => exact .inl (by simp only [Machine.advance, handled])
      | some after =>
          refine .inr ?_
          simp only [Machine.advance, handled]
          exact .interrupt handled
  | call entry =>
      cases code with
      | done value => exact .inr .call
      | statement point effect next => exact .inl rfl

/-- What one step preserves, every run preserves. -/
theorem Machine.run_induction (machine : Machine Point State Interrupt Call)
    (invariant : Config Point State Interrupt Call → Prop)
    (preserved : ∀ config next, machine.Step config next → invariant config → invariant next)
    (choices : List (Choice Interrupt Call)) {config : Config Point State Interrupt Call}
    (initial : invariant config) : invariant (machine.run choices config) := by
  induction choices generalizing config with
  | nil => exact initial
  | cons choice rest ih =>
      have advanced : invariant (machine.advance config choice) := by
        rcases machine.advance_step config choice with same | step
        · rw [same]
          exact initial
        · exact preserved _ _ step initial
      exact ih advanced

theorem Machine.Step.history_suffix {machine : Machine Point State Interrupt Call}
    {config next : Config Point State Interrupt Call} (step : machine.Step config next) :
    config.history <:+ next.history := by
  cases step <;> exact List.suffix_cons _ _

theorem Machine.history_suffix_run (machine : Machine Point State Interrupt Call)
    (choices : List (Choice Interrupt Call)) (config : Config Point State Interrupt Call) :
    config.history <:+ (machine.run choices config).history := by
  apply machine.run_induction fun later => config.history <:+ later.history
  · intro later next step earlier
    exact earlier.trans step.history_suffix
  · exact List.suffix_refl _

instance Meets.decidable
    {condition : Label Point Interrupt Call → State →
      History Point State Interrupt Call → Prop}
    [∀ label state history, Decidable (condition label state history)] :
    (history : History Point State Interrupt Call) → Decidable (Meets condition history)
  | [] => .isTrue True.intro
  | transition :: earlier =>
      have := @Meets.decidable condition _ earlier
      inferInstanceAs (Decidable
        (condition transition.label transition.source earlier ∧ Meets condition earlier))

theorem Meets.trivial (history : History Point State Interrupt Call) :
    Meets (fun _ _ _ => True) history := by
  induction history with
  | nil => exact True.intro
  | cons transition earlier ih => exact ⟨True.intro, ih⟩

theorem Meets.imp
    {condition weaker : Label Point Interrupt Call → State →
      History Point State Interrupt Call → Prop}
    {history : History Point State Interrupt Call} (meets : Meets condition history)
    (implied : ∀ label state earlier, condition label state earlier →
      weaker label state earlier) : Meets weaker history := by
  induction history with
  | nil => exact True.intro
  | cons transition earlier ih => exact ⟨implied _ _ _ meets.1, ih meets.2⟩

theorem Meets.of_suffix
    {condition : Label Point Interrupt Call → State →
      History Point State Interrupt Call → Prop}
    {earlier history : History Point State Interrupt Call}
    (suffix : earlier <:+ history) (meets : Meets condition history) :
    Meets condition earlier := by
  obtain ⟨later, rfl⟩ := suffix
  induction later with
  | nil => exact meets
  | cons transition later ih => exact ih meets.2

/-- A condition that follows from another one together with what the steps before
have met. -/
theorem Meets.with_past
    {condition past weaker : Label Point Interrupt Call → State →
      History Point State Interrupt Call → Prop}
    {history : History Point State Interrupt Call} (meets : Meets condition history)
    (before : Meets past history)
    (implied : ∀ label state earlier, condition label state earlier → Meets past earlier →
      weaker label state earlier) : Meets weaker history := by
  induction history with
  | nil => exact True.intro
  | cons transition earlier ih =>
      exact ⟨implied _ _ _ meets.1 before.2, ih meets.2 before.2⟩

/-- A fact about every state of every run that meets a condition can be added to
the condition. -/
theorem Machine.meets_and (machine : Machine Point State Interrupt Call) {start : State}
    {condition : Label Point Interrupt Call → State →
      History Point State Interrupt Call → Prop}
    {fact : State → History Point State Interrupt Call → Prop}
    (holds : ∀ choices, Meets condition (machine.run choices (.start start)).history →
      fact (machine.run choices (.start start)).state (machine.run choices (.start start)).history)
    (choices : List (Choice Interrupt Call))
    (meets : Meets condition (machine.run choices (.start start)).history) :
    Meets (fun label state history => condition label state history ∧ fact state history)
      (machine.run choices (.start start)).history := by
  induction choices using List.reverseRecOn with
  | nil => trivial
  | append_singleton choices choice ih =>
      have before := holds choices
      rw [machine.run_append] at meets ⊢
      simp only [Machine.run, List.foldl_cons, List.foldl_nil] at meets ⊢
      rw [← Machine.run] at meets ⊢
      rcases machine.advance_step (machine.run choices (.start start)) choice with same | step
      · rw [same] at meets ⊢
        exact ih meets
      · have earlier := meets.of_suffix step.history_suffix
        have known := before earlier
        generalize machine.run choices (.start start) = config at *
        generalize machine.advance config choice = next at *
        cases step <;> exact ⟨⟨meets.1, known⟩, ih earlier⟩

/-- Without interruption a call runs to its end and leaves the state of `alone`. -/
theorem Machine.run_alone (machine : Machine Point State Interrupt Call)
    (code : Program Point State Unit) (state : State)
    (history : History Point State Interrupt Call) :
    ∃ later, machine.run (List.replicate (code.length state) .main) ⟨code, state, history⟩ =
      ⟨.done (), (code.alone state).2, later ++ history⟩ := by
  induction code generalizing state history with
  | done value => exact ⟨[], rfl⟩
  | statement point effect next ih =>
      obtain ⟨later, finished⟩ := ih state (effect state)
        (⟨.main point, state, effect state⟩ :: history)
      refine ⟨later ++ [⟨.main point, state, effect state⟩], ?_⟩
      rw [List.append_assoc]
      exact finished

theorem Machine.run_finishes (machine : Machine Point State Interrupt Call)
    (config : Config Point State Interrupt Call) :
    ∃ steps, (machine.run (List.replicate steps .main) config).idle = true := by
  obtain ⟨later, finished⟩ := machine.run_alone config.code config.state config.history
  exact ⟨config.code.length config.state, congrArg Config.idle finished⟩

end

end MiniMiner.Preemption
