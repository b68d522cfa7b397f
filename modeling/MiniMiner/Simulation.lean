import Mathlib.Data.List.Basic

/-! Systems that are driven by a schedule of actions and seen through events, and
their simulation by a specification that knows only the events. -/

set_option autoImplicit false

namespace MiniMiner

/-- An action that is not possible has no result; one that is may show an event. -/
structure System (State Action Event : Type) where
  step : State → Action → Option (State × Option Event)

/-- What a specification does not accept has no result. -/
structure Specification (State Event : Type) where
  accept : State → Event → Option State

section

variable {State Action Event Abstract Other Label : Type}

/-- The state and the events after a schedule. Impossible actions are skipped. -/
def System.run (system : System State Action Event) :
    List Action → State → State × List Event
  | [], state => (state, [])
  | action :: schedule, state =>
      match system.step state action with
      | none => system.run schedule state
      | some (next, event) =>
          let rest := system.run schedule next
          (rest.1, event.toList ++ rest.2)

/-- An amount for each step, added up along a schedule. -/
def System.total (system : System State Action Event) (amount : State → Action → Nat) :
    List Action → State → Nat
  | [], _ => 0
  | action :: schedule, state =>
      match system.step state action with
      | none => system.total amount schedule state
      | some (next, _) => amount state action + system.total amount schedule next

def Specification.replay (specification : Specification Abstract Event) :
    Abstract → List Event → Option Abstract
  | state, [] => some state
  | state, event :: events =>
      (specification.accept state event).bind fun next => specification.replay next events

/-- A state reached with at most one event is related to what the specification
reaches with it. -/
def Specification.Follows (specification : Specification Abstract Event)
    (related : State → Abstract → Prop) (next : State) (abstract : Abstract) :
    Option Event → Prop
  | none => related next abstract
  | some event =>
      ∃ following, specification.accept abstract event = some following ∧ related next following

/-- Every step of the system is followed by the specification. -/
def System.Simulated (system : System State Action Event)
    (specification : Specification Abstract Event) (related : State → Abstract → Prop) : Prop :=
  ∀ {state abstract action next event}, related state abstract →
    system.step state action = some (next, event) →
      specification.Follows related next abstract event

/-- The actions of another system that a schedule amounts to, each by the state it meets. -/
def System.relabelled (system : System State Action Event)
    (relabel : State → Action → Option Label) : List Action → State → List Label
  | [], _ => []
  | action :: schedule, state =>
      match system.step state action with
      | none => system.relabelled relabel schedule state
      | some (next, _) => (relabel state action).toList ++ system.relabelled relabel schedule next

/-- One step with this event, or nothing at all. -/
def System.Shows (system : System State Action Event) (state next : State)
    (event : Option Event) : Option Action → Prop
  | none => next = state ∧ event = none
  | some action => system.step state action = some (next, event)

/-- Every step is one step of the other system, with the same event, or not seen there. -/
def System.Projects (system : System State Action Event) (other : System Other Label Event)
    (view : State → Other) (relabel : State → Action → Option Label) : Prop :=
  ∀ {state action next event}, system.step state action = some (next, event) →
    other.Shows (view state) (view next) event (relabel state action)

/-- A map of one specification into another. -/
structure Specification.Maps (source : Specification Abstract Event)
    (target : Specification Other Event) (view : Abstract → Other) : Prop where
  accepted : ∀ {state next event}, source.accept state event = some next →
    target.accept (view state) event = some (view next)

theorem System.Simulated.run {system : System State Action Event}
    {specification : Specification Abstract Event} {related : State → Abstract → Prop}
    (simulated : system.Simulated specification related) (schedule : List Action) {state : State}
    {abstract : Abstract} (start : related state abstract) :
    ∃ following, specification.replay abstract (system.run schedule state).2 = some following ∧
      related (system.run schedule state).1 following := by
  induction schedule generalizing state abstract with
  | nil => exact ⟨abstract, rfl, start⟩
  | cons action schedule ih =>
      cases stepped : system.step state action with
      | none =>
          simp only [System.run, stepped]
          exact ih start
      | some result =>
          obtain ⟨next, event⟩ := result
          simp only [System.run, stepped]
          cases event with
          | none => exact ih (simulated start stepped)
          | some event =>
              obtain ⟨middle, accepted, reached⟩ := simulated start stepped
              obtain ⟨following, replayed, last⟩ := ih reached
              refine ⟨following, ?_, last⟩
              simp only [Option.toList_some, List.singleton_append, Specification.replay, accepted,
                Option.bind_some, replayed]

theorem System.Projects.run {system : System State Action Event}
    {other : System Other Label Event} {view : State → Other}
    {relabel : State → Action → Option Label} (projects : system.Projects other view relabel)
    (schedule : List Action) (state : State) :
    other.run (system.relabelled relabel schedule state) (view state) =
      (view (system.run schedule state).1, (system.run schedule state).2) := by
  induction schedule generalizing state with
  | nil => rfl
  | cons action schedule ih =>
      cases stepped : system.step state action with
      | none =>
          simp only [System.relabelled, System.run, stepped]
          exact ih state
      | some result =>
          obtain ⟨next, event⟩ := result
          have projected := projects stepped
          simp only [System.relabelled, System.run, stepped]
          cases labelled : relabel state action with
          | none =>
              rw [labelled] at projected
              obtain ⟨same, rfl⟩ := projected
              rw [Option.toList_none, List.nil_append, ← same, ih next]
              rfl
          | some label =>
              rw [labelled] at projected
              have moved : other.step (view state) label = some (view next, event) := projected
              simp only [Option.toList_some, List.singleton_append, System.run, moved, ih next]

theorem System.run_append (system : System State Action Event) (first second : List Action)
    (state : State) :
    system.run (first ++ second) state =
      ((system.run second (system.run first state).1).1,
        (system.run first state).2 ++ (system.run second (system.run first state).1).2) := by
  induction first generalizing state with
  | nil => rfl
  | cons action first ih =>
      cases stepped : system.step state action with
      | none => simp only [List.cons_append, System.run, stepped, ih]
      | some result =>
          simp only [List.cons_append, System.run, stepped, ih,
            List.append_assoc]

theorem Specification.replay_concat {specification : Specification Abstract Event}
    {events : List Event} {event : Event} {state next : Abstract}
    (replayed : specification.replay state (events ++ [event]) = some next) :
    ∃ middle, specification.replay state events = some middle ∧
      specification.accept middle event = some next := by
  induction events generalizing state with
  | nil =>
      simp only [List.nil_append, Specification.replay, Option.bind_eq_some_iff] at replayed
      obtain ⟨last, accepted, same⟩ := replayed
      cases same
      exact ⟨state, rfl, accepted⟩
  | cons first events ih =>
      simp only [List.cons_append, Specification.replay, Option.bind_eq_some_iff] at replayed
      obtain ⟨second, accepted, rest⟩ := replayed
      obtain ⟨middle, before, last⟩ := ih rest
      refine ⟨middle, ?_, last⟩
      simp only [Specification.replay, accepted, Option.bind_some, before]

/-- A rank that every step of a schedule lowers by its cost, but for what the step may gain. -/
theorem System.rank_run (system : System State Action Event) (rank : State → Nat)
    (cost gain : State → Action → Nat) {schedule : List Action}
    (lowers : ∀ action ∈ schedule, ∀ state next event,
      system.step state action = some (next, event) →
        rank next + cost state action ≤ rank state + gain state action)
    (state : State) :
    rank (system.run schedule state).1 + system.total cost schedule state ≤
      rank state + system.total gain schedule state := by
  induction schedule generalizing state with
  | nil => exact Nat.le_refl _
  | cons action schedule ih =>
      have later := ih fun other member =>
        lowers other (List.mem_cons_of_mem _ member)
      cases stepped : system.step state action with
      | none =>
          simp only [System.run, System.total, stepped]
          exact later state
      | some result =>
          obtain ⟨next, event⟩ := result
          have first := lowers action List.mem_cons_self state next event stepped
          have rest := later next
          simp only [System.run, System.total, stepped]
          omega

/-- What holds of the events so far and the state reached with them is kept by every
replay if one event keeps it. -/
theorem Specification.replay_invariant {specification : Specification Abstract Event}
    {invariant : List Event → Abstract → Prop}
    (kept : ∀ {earlier state event next}, invariant earlier state →
      specification.accept state event = some next → invariant (earlier ++ [event]) next)
    {events earlier : List Event} {state next : Abstract} (start : invariant earlier state)
    (replayed : specification.replay state events = some next) :
    invariant (earlier ++ events) next := by
  induction events generalizing earlier state with
  | nil =>
      cases replayed
      rw [List.append_nil]
      exact start
  | cons event events ih =>
      simp only [Specification.replay, Option.bind_eq_some_iff] at replayed
      obtain ⟨middle, accepted, rest⟩ := replayed
      have later := ih (kept start accepted) rest
      rwa [List.append_assoc] at later

theorem Specification.Maps.replay {source : Specification Abstract Event}
    {target : Specification Other Event} {view : Abstract → Other} (maps : source.Maps target view)
    {events : List Event} {state next : Abstract}
    (replayed : source.replay state events = some next) :
    target.replay (view state) events = some (view next) := by
  induction events generalizing state with
  | nil =>
      cases replayed
      rfl
  | cons event events ih =>
      simp only [Specification.replay, Option.bind_eq_some_iff] at replayed ⊢
      obtain ⟨middle, accepted, rest⟩ := replayed
      exact ⟨view middle, maps.accepted accepted, ih rest⟩

end

end MiniMiner
