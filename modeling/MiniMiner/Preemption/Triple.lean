import Mathlib.Data.List.Basic
import MiniMiner.Preemption.Machine

/-! Pre- and postconditions for preempted code. An assertion speaks about the
state and the history; it is steady when no admitted interrupt can falsify it.
The postcondition of a program holds after every interleaving of its statements
with interrupts, and a second assertion is maintained at every step on the way. -/

set_option autoImplicit false

namespace MiniMiner.Preemption

/-- The setting of a proof: a machine, the condition under which its steps are
considered, and what has to hold in every state of a run. -/
structure Setting (Point State Interrupt Call : Type) where
  machine : Machine Point State Interrupt Call
  allowed : Label Point Interrupt Call → State → History Point State Interrupt Call → Prop
  always : State → History Point State Interrupt Call → Prop

section

variable {Point State Interrupt Call Value Result Item : Type}

inductive Setting.Interrupted (setting : Setting Point State Interrupt Call)
    (first : State) (earlier : History Point State Interrupt Call) :
    State → History Point State Interrupt Call → Prop where
  | refl : Interrupted setting first earlier first earlier
  | step {before after : State} {history : History Point State Interrupt Call}
      {source : Interrupt} :
      Interrupted setting first earlier before history →
      setting.machine.handler source before = some after →
      setting.allowed (.interrupt source) before history →
      Interrupted setting first earlier after (⟨.interrupt source, before, after⟩ :: history)

theorem Setting.Interrupted.trans {setting : Setting Point State Interrupt Call}
    {first middle last : State} {earlier between later : History Point State Interrupt Call}
    (head : setting.Interrupted first earlier middle between)
    (tail : setting.Interrupted middle between last later) :
    setting.Interrupted first earlier last later := by
  induction tail with
  | refl => exact head
  | step _ handled admitted ih => exact .step ih handled admitted

/-- Whatever admitted interrupts occur, the code maintains `setting.always` and
ends, if it is run to its end, in the postcondition. -/
def Setting.Ensures (setting : Setting Point State Interrupt Call)
    (post : Value → State → History Point State Interrupt Call → Prop) :
    Program Point State Value → State → History Point State Interrupt Call → Prop
  | .done value, state, history => ∀ after later,
      setting.Interrupted state history after later →
        setting.always after later ∧ post value after later
  | .statement point effect next, state, history => ∀ after later,
      setting.Interrupted state history after later →
        setting.always after later ∧ (setting.allowed (.main point) after later →
          setting.Ensures post (next after) (effect after)
            (⟨.main point, after, effect after⟩ :: later))

theorem Setting.Ensures.interrupted {setting : Setting Point State Interrupt Call}
    {post : Value → State → History Point State Interrupt Call → Prop}
    {program : Program Point State Value} {state after : State}
    {history later : History Point State Interrupt Call}
    (ensures : setting.Ensures post program state history)
    (interrupted : setting.Interrupted state history after later) :
    setting.Ensures post program after later := by
  cases program with
  | done value =>
      intro final final_history more
      exact ensures final final_history (interrupted.trans more)
  | statement point effect next =>
      intro final final_history more
      exact ensures final final_history (interrupted.trans more)

theorem Setting.Ensures.always {setting : Setting Point State Interrupt Call}
    {post : Value → State → History Point State Interrupt Call → Prop}
    {program : Program Point State Value} {state : State}
    {history : History Point State Interrupt Call}
    (ensures : setting.Ensures post program state history) :
    setting.always state history := by
  cases program with
  | done value => exact (ensures state history .refl).1
  | statement point effect next => exact (ensures state history .refl).1

theorem Setting.Ensures.weaken {setting : Setting Point State Interrupt Call}
    {post weaker : Value → State → History Point State Interrupt Call → Prop}
    {program : Program Point State Value} {state : State}
    {history : History Point State Interrupt Call}
    (ensures : setting.Ensures post program state history)
    (implied : ∀ value after later, post value after later → weaker value after later) :
    setting.Ensures weaker program state history := by
  induction program generalizing state history with
  | done value =>
      intro after later interrupted
      obtain ⟨kept, reached⟩ := ensures after later interrupted
      exact ⟨kept, implied value after later reached⟩
  | statement point effect next ih =>
      intro after later interrupted
      obtain ⟨kept, continued⟩ := ensures after later interrupted
      exact ⟨kept, fun admitted => ih after (continued admitted)⟩

theorem Setting.Ensures.bind {setting : Setting Point State Interrupt Call}
    {middle : Value → State → History Point State Interrupt Call → Prop}
    {post : Result → State → History Point State Interrupt Call → Prop}
    {program : Program Point State Value}
    {continuation : Value → Program Point State Result} {state : State}
    {history : History Point State Interrupt Call}
    (first : setting.Ensures middle program state history)
    (second : ∀ value after later, middle value after later →
      setting.Ensures post (continuation value) after later) :
    setting.Ensures post (program >>= continuation) state history := by
  induction program generalizing state history with
  | done value => exact second value state history (first state history .refl).2
  | statement point effect next ih =>
      intro after later interrupted
      obtain ⟨kept, continued⟩ := first after later interrupted
      exact ⟨kept, fun admitted => ih after (continued admitted)⟩

/-- No admitted interrupt falsifies the assertion, and it gives what has to
hold in every state. -/
structure Setting.Steady (setting : Setting Point State Interrupt Call)
    (assertion : State → History Point State Interrupt Call → Prop) : Prop where
  stable : ∀ source before after history,
    setting.machine.handler source before = some after →
    setting.allowed (.interrupt source) before history →
    assertion before history → assertion after (⟨.interrupt source, before, after⟩ :: history)
  always : ∀ state history, assertion state history → setting.always state history

theorem Setting.Steady.interrupted {setting : Setting Point State Interrupt Call}
    {assertion : State → History Point State Interrupt Call → Prop}
    (steady : setting.Steady assertion) {state after : State}
    {history later : History Point State Interrupt Call}
    (interrupted : setting.Interrupted state history after later)
    (holds : assertion state history) : assertion after later := by
  induction interrupted with
  | refl => exact holds
  | step _ handled admitted ih => exact steady.stable _ _ _ _ handled admitted ih

theorem Setting.Steady.and {setting : Setting Point State Interrupt Call}
    {first second : State → History Point State Interrupt Call → Prop}
    (steady : setting.Steady first)
    (stable : ∀ source before after history,
      setting.machine.handler source before = some after →
      setting.allowed (.interrupt source) before history →
      second before history → second after (⟨.interrupt source, before, after⟩ :: history)) :
    setting.Steady fun state history => first state history ∧ second state history where
  stable := fun source before after history handled admitted both =>
    ⟨steady.stable source before after history handled admitted both.1,
      stable source before after history handled admitted both.2⟩
  always := fun state history both => steady.always state history both.1

def Setting.Triple (setting : Setting Point State Interrupt Call)
    (pre : State → History Point State Interrupt Call → Prop)
    (program : Program Point State Value)
    (post : Value → State → History Point State Interrupt Call → Prop) : Prop :=
  ∀ state history, pre state history → setting.Ensures post program state history

def Setting.Keeps (setting : Setting Point State Interrupt Call)
    (assertion : State → History Point State Interrupt Call → Prop)
    (point : Point) (before after : State) : Prop :=
  ∀ history, setting.allowed (.main point) before history → assertion before history →
    assertion after (⟨.main point, before, after⟩ :: history)

theorem Setting.Keeps.and {setting : Setting Point State Interrupt Call}
    {first second : State → History Point State Interrupt Call → Prop}
    {point : Point} {before after : State} (keeps : setting.Keeps first point before after)
    (other : setting.Keeps second point before after) :
    setting.Keeps (fun state history => first state history ∧ second state history)
      point before after :=
  fun history admitted both => ⟨keeps history admitted both.1, other history admitted both.2⟩

namespace Setting.Triple

variable {setting : Setting Point State Interrupt Call}
  {pre stronger : State → History Point State Interrupt Call → Prop}

theorem seq {middle : Value → State → History Point State Interrupt Call → Prop}
    {post : Result → State → History Point State Interrupt Call → Prop}
    {program : Program Point State Value}
    {continuation : Value → Program Point State Result}
    (first : setting.Triple pre program middle)
    (second : ∀ value, setting.Triple (middle value) (continuation value) post) :
    setting.Triple pre (program >>= continuation) post := by
  intro state history holds
  exact (first state history holds).bind fun value after later reached =>
    second value after later reached

theorem conseq {post weaker : Value → State → History Point State Interrupt Call → Prop}
    {program : Program Point State Value}
    (triple : setting.Triple pre program post)
    (before : ∀ state history, stronger state history → pre state history)
    (after : ∀ value state history, post value state history → weaker value state history) :
    setting.Triple stronger program weaker := by
  intro state history holds
  exact (triple state history (before state history holds)).weaken after

theorem done {post : Value → State → History Point State Interrupt Call → Prop} {value : Value}
    (steady : setting.Steady (post value)) :
    setting.Triple (post value) (.done value) post := by
  intro state history holds after later interrupted
  have reached := steady.interrupted interrupted holds
  exact ⟨steady.always after later reached, reached⟩

theorem statement {post : Value → State → History Point State Interrupt Call → Prop}
    {point : Point} {effect : State → State} {result : State → Value}
    (steady : setting.Steady pre) (steadyPost : ∀ value, setting.Steady (post value))
    (step : ∀ state history, pre state history → setting.allowed (.main point) state history →
      post (result state) (effect state) (⟨.main point, state, effect state⟩ :: history)) :
    setting.Triple pre (.statement point effect fun state => .done (result state)) post := by
  intro state history holds after later interrupted
  have reached := steady.interrupted interrupted holds
  refine ⟨steady.always after later reached, fun admitted => ?_⟩
  exact Triple.done (steadyPost _) _ _ (step after later reached admitted)

theorem assign {post : State → History Point State Interrupt Call → Prop}
    {point : Point} {effect : State → State}
    (steady : setting.Steady pre) (steadyPost : setting.Steady post)
    (step : ∀ state history, pre state history → setting.allowed (.main point) state history →
      post (effect state) (⟨.main point, state, effect state⟩ :: history)) :
    setting.Triple pre (Program.assign point effect) fun _ => post :=
  statement steady (fun _ => steadyPost) step

theorem fetch {post : Value → State → History Point State Interrupt Call → Prop}
    {point : Point} {read : State → Value}
    (steady : setting.Steady pre) (steadyPost : ∀ value, setting.Steady (post value))
    (step : ∀ state history, pre state history → setting.allowed (.main point) state history →
      post (read state) state (⟨.main point, state, state⟩ :: history)) :
    setting.Triple pre (Program.fetch point read) post :=
  statement steady steadyPost step

/-- A value is read, the precondition tells a fact about it, and the code goes on
with the precondition unchanged. -/
theorem read {post : Result → State → History Point State Interrupt Call → Prop}
    {point : Point} {read : State → Value} {continuation : Value → Program Point State Result}
    (fact : Value → Prop) (steady : setting.Steady pre)
    (kept : ∀ state, setting.Keeps pre point state state)
    (known : ∀ state history, pre state history → fact (read state))
    (rest : ∀ value, fact value → setting.Triple pre (continuation value) post) :
    setting.Triple pre (Program.fetch point read >>= continuation) post := by
  intro state history holds after later interrupted
  have reached := steady.interrupted interrupted holds
  refine ⟨steady.always after later reached, fun admitted => ?_⟩
  exact rest _ (known after later reached) _ _ (kept after later admitted reached)

theorem ite {post : Value → State → History Point State Interrupt Call → Prop} {condition : Prop}
    [Decidable condition] {first second : Program Point State Value}
    (taken : condition → setting.Triple pre first post)
    (skipped : ¬ condition → setting.Triple pre second post) :
    setting.Triple pre (if condition then first else second) post := by
  split
  · exact taken ‹_›
  · exact skipped ‹_›

theorem onlyIf {post : State → History Point State Interrupt Call → Prop}
    {condition : Prop} [Decidable condition] {program : Program Point State Unit}
    (steady : setting.Steady post)
    (taken : condition → setting.Triple pre program fun _ => post)
    (skipped : ¬ condition → ∀ state history, pre state history → post state history) :
    setting.Triple pre (Program.onlyIf condition program) fun _ => post :=
  .ite taken fun fails => (Triple.done steady).conseq (skipped fails) fun _ _ _ holds => holds

/-- A counted loop, with an assertion indexed by the items still to come. -/
theorem each (invariant : List Item → State → History Point State Interrupt Call → Prop)
    {body : Item → Program Point State Unit} (steady : setting.Steady (invariant []))
    (items : List Item)
    (step : ∀ item rest, item :: rest <:+ items →
      setting.Triple (invariant (item :: rest)) (body item) fun _ => invariant rest) :
    setting.Triple (invariant items) (Program.each items body) fun _ => invariant [] := by
  induction items with
  | nil => exact done steady
  | cons item rest ih =>
      rw [Program.each_cons]
      refine seq (step item rest (List.suffix_refl _)) fun _ => ih ?_
      intro other remaining suffix
      exact step other remaining (suffix.trans (List.suffix_cons _ _))

private theorem eq_of_suffix_range {size item : Nat} {rest : List Nat}
    (suffix : item :: rest <:+ List.range size) : item + rest.length + 1 = size := by
  obtain ⟨earlier, split⟩ := suffix
  have total := congrArg List.length split
  rw [List.length_append, List.length_cons, List.length_range] at total
  have here : (List.range size)[earlier.length]? = some item := by
    rw [← split, List.getElem?_append_right (Nat.le_refl _), Nat.sub_self]
    rfl
  obtain ⟨_, same⟩ := List.getElem?_eq_some_iff.mp here
  rw [List.getElem_range] at same
  omega

private theorem val_of_suffix_finRange {size : Nat} {item : Fin size} {rest : List (Fin size)}
    (suffix : item :: rest <:+ List.finRange size) : item.val + rest.length + 1 = size := by
  have mapped := suffix.map Fin.val
  rw [List.map_coe_finRange_eq_range, List.map_cons] at mapped
  rw [← List.length_map Fin.val]
  exact eq_of_suffix_range mapped

/-- A loop over an index, with an assertion indexed by the number of passes made. -/
theorem eachRange {size : Nat}
    (invariant : Nat → State → History Point State Interrupt Call → Prop)
    {body : Nat → Program Point State Unit} (steady : setting.Steady (invariant size))
    (step : ∀ index < size,
      setting.Triple (invariant index) (body index) fun _ => invariant (index + 1)) :
    setting.Triple (invariant 0) (Program.each (List.range size) body)
      fun _ => invariant size := by
  have loop : setting.Triple (invariant (size - (List.range size).length))
      (Program.each (List.range size) body) fun _ => invariant size := by
    refine each (fun remaining => invariant (size - remaining.length)) steady _ ?_
    intro index rest suffix
    have position := eq_of_suffix_range suffix
    have before : size - (index :: rest).length = index := by
      rw [List.length_cons]
      omega
    have after : size - rest.length = index + 1 := by omega
    rw [before, after]
    exact step index (by omega)
  rwa [List.length_range, Nat.sub_self] at loop

theorem eachIndex {size : Nat}
    (invariant : Nat → State → History Point State Interrupt Call → Prop)
    {body : Fin size → Program Point State Unit} (steady : setting.Steady (invariant size))
    (step : ∀ index : Fin size,
      setting.Triple (invariant index) (body index) fun _ => invariant (index + 1)) :
    setting.Triple (invariant 0) (Program.each (List.finRange size) body)
      fun _ => invariant size := by
  have loop : setting.Triple (invariant (size - (List.finRange size).length))
      (Program.each (List.finRange size) body) fun _ => invariant size := by
    refine each (fun remaining => invariant (size - remaining.length)) steady _ ?_
    intro index rest suffix
    have position := val_of_suffix_finRange suffix
    have before : size - (index :: rest).length = index := by
      rw [List.length_cons]
      omega
    have after : size - rest.length = index.val + 1 := by omega
    rw [before, after]
    exact step index
  rwa [List.length_finRange, Nat.sub_self] at loop

/-- An assertion that no statement of the program can falsify. -/
theorem kept {program : Program Point State Value} (steady : setting.Steady pre)
    (within : program.Within (setting.Keeps pre)) :
    setting.Triple pre program fun _ => pre := by
  induction program with
  | done value =>
      intro state history holds after later interrupted
      have reached := steady.interrupted interrupted holds
      exact ⟨steady.always after later reached, reached⟩
  | statement point effect next ih =>
      intro state history holds after later interrupted
      have reached := steady.interrupted interrupted holds
      refine ⟨steady.always after later reached, fun admitted => ?_⟩
      exact ih after (within.2 after) _ _ (within.1 after later admitted reached)

end Setting.Triple

/-- Assertions that hold between calls: initially, and again after every call
begun in a state where they hold. -/
theorem Setting.run_ensures (setting : Setting Point State Interrupt Call)
    {between : State → History Point State Interrupt Call → Prop} {state : State}
    (steady : setting.Steady between) (initial : between state [])
    (calls : ∀ entry before history, between before history →
      setting.allowed (.call entry) before history →
      setting.Ensures (fun _ => between) (setting.machine.body entry) before
        (⟨.call entry, before, before⟩ :: history))
    (choices : List (Choice Interrupt Call))
    (meets : Meets setting.allowed (setting.machine.run choices (.start state)).history) :
    setting.Ensures (fun _ => between) (setting.machine.run choices (.start state)).code
      (setting.machine.run choices (.start state)).state
      (setting.machine.run choices (.start state)).history := by
  revert meets
  apply setting.machine.run_induction fun config => Meets setting.allowed config.history →
    setting.Ensures (fun _ => between) config.code config.state config.history
  · intro config next step ensured meets
    cases step with
    | main => exact (ensured meets.2 _ _ .refl).2 meets.1
    | interrupt handled =>
        exact (ensured meets.2).interrupted (.step .refl handled meets.1)
    | call => exact calls _ _ _ (ensured meets.2 _ _ .refl).2 meets.1
  · intro _ after later interrupted
    have reached := steady.interrupted interrupted initial
    exact ⟨steady.always after later reached, reached⟩

/-- Code that is run to its end among interrupts, with no further call. -/
theorem Setting.Ensures.finished {setting : Setting Point State Interrupt Call}
    {post : Unit → State → History Point State Interrupt Call → Prop}
    {choices : List (Choice Interrupt Call)} {config : Config Point State Interrupt Call}
    (ensured : setting.Ensures post config.code config.state config.history)
    (alone : ∀ entry, .call entry ∉ choices)
    (meets : Meets setting.allowed (setting.machine.run choices config).history)
    (idle : (setting.machine.run choices config).idle = true) :
    post () (setting.machine.run choices config).state
      (setting.machine.run choices config).history := by
  induction choices generalizing config with
  | nil =>
      rw [Machine.run_nil, Config.idle_iff] at idle
      rw [idle] at ensured
      exact (ensured _ _ .refl).2
  | cons choice rest ih =>
      refine ih ?_ (fun entry member => alone entry (List.mem_cons_of_mem _ member)) meets idle
      have later : Meets setting.allowed (setting.machine.advance config choice).history :=
        meets.of_suffix (setting.machine.history_suffix_run rest _)
      obtain ⟨code, state, history⟩ := config
      cases choice with
      | main =>
          cases code with
          | done value => exact ensured
          | statement point effect next => exact (ensured _ _ .refl).2 later.1
      | interrupt source =>
          simp only [Machine.advance] at later ⊢
          cases handled : setting.machine.handler source state with
          | none => exact ensured
          | some after =>
              rw [handled] at later
              exact ensured.interrupted (.step .refl handled later.1)
      | call entry => exact absurd List.mem_cons_self (alone entry)

/-- An interrupt does not move the code, and keeps what is steady. -/
theorem Setting.Steady.advance_interrupt {setting : Setting Point State Interrupt Call}
    {assertion : State → History Point State Interrupt Call → Prop}
    (steady : setting.Steady assertion) {source : Interrupt}
    {config : Config Point State Interrupt Call}
    (meets : Meets setting.allowed (setting.machine.advance config (.interrupt source)).history)
    (holds : assertion config.state config.history) :
    (setting.machine.advance config (.interrupt source)).code = config.code ∧
      assertion (setting.machine.advance config (.interrupt source)).state
        (setting.machine.advance config (.interrupt source)).history := by
  cases handled : setting.machine.handler source config.state with
  | none =>
      simp only [Machine.advance, handled]
      exact ⟨trivial, holds⟩
  | some after =>
      simp only [Machine.advance, handled] at meets ⊢
      exact ⟨trivial, steady.stable source _ _ _ handled meets.1 holds⟩

theorem Setting.Steady.run_interrupts {setting : Setting Point State Interrupt Call}
    {assertion : State → History Point State Interrupt Call → Prop}
    (steady : setting.Steady assertion) {sources : List Interrupt}
    {config : Config Point State Interrupt Call}
    (meets : Meets setting.allowed
      (setting.machine.run (sources.map .interrupt) config).history)
    (holds : assertion config.state config.history) :
    (setting.machine.run (sources.map .interrupt) config).code = config.code ∧
      assertion (setting.machine.run (sources.map .interrupt) config).state
        (setting.machine.run (sources.map .interrupt) config).history := by
  induction sources generalizing config with
  | nil => exact ⟨rfl, holds⟩
  | cons source rest ih =>
      have later : Meets setting.allowed
          (setting.machine.advance config (.interrupt source)).history :=
        meets.of_suffix (setting.machine.history_suffix_run _ _)
      obtain ⟨sameCode, reached⟩ := steady.advance_interrupt later holds
      obtain ⟨unmoved, final⟩ := ih meets reached
      exact ⟨unmoved.trans sameCode, final⟩

/-- What is maintained at every step holds in every state of a run. -/
theorem Setting.run_always (setting : Setting Point State Interrupt Call)
    {between : State → History Point State Interrupt Call → Prop} {state : State}
    (steady : setting.Steady between) (initial : between state [])
    (calls : ∀ entry before history, between before history →
      setting.allowed (.call entry) before history →
      setting.Ensures (fun _ => between) (setting.machine.body entry) before
        (⟨.call entry, before, before⟩ :: history))
    (choices : List (Choice Interrupt Call))
    (meets : Meets setting.allowed (setting.machine.run choices (.start state)).history) :
    setting.always (setting.machine.run choices (.start state)).state
      (setting.machine.run choices (.start state)).history :=
  (setting.run_ensures steady initial calls choices meets).always

/-- A condition on the steps that is seen to imply the setting's own one, step by
step, when the assertions proved under the latter are used. -/
theorem Setting.run_meets (setting : Setting Point State Interrupt Call)
    {between : State → History Point State Interrupt Call → Prop} {state : State}
    {condition : Label Point Interrupt Call → State →
      History Point State Interrupt Call → Prop}
    (steady : setting.Steady between) (initial : between state [])
    (calls : ∀ entry before history, between before history →
      setting.allowed (.call entry) before history →
      setting.Ensures (fun _ => between) (setting.machine.body entry) before
        (⟨.call entry, before, before⟩ :: history))
    (main : ∀ point before history, setting.always before history →
      condition (.main point) before history → setting.allowed (.main point) before history)
    (interrupt : ∀ source before history, setting.always before history →
      condition (.interrupt source) before history →
      setting.allowed (.interrupt source) before history)
    (call : ∀ entry before history, between before history →
      condition (.call entry) before history → setting.allowed (.call entry) before history)
    (choices : List (Choice Interrupt Call))
    (meets : Meets condition (setting.machine.run choices (.start state)).history) :
    Meets setting.allowed (setting.machine.run choices (.start state)).history := by
  suffices both : Meets setting.allowed (setting.machine.run choices (.start state)).history ∧
      setting.Ensures (fun _ => between) (setting.machine.run choices (.start state)).code
        (setting.machine.run choices (.start state)).state
        (setting.machine.run choices (.start state)).history from both.1
  revert meets
  apply setting.machine.run_induction fun config => Meets condition config.history →
    Meets setting.allowed config.history ∧
      setting.Ensures (fun _ => between) config.code config.state config.history
  · intro config next step earlier meets
    obtain ⟨allowed, ensured⟩ := earlier (meets.of_suffix step.history_suffix)
    cases step with
    | main =>
        have admitted := main _ _ _ ensured.always meets.1
        exact ⟨⟨admitted, allowed⟩, (ensured _ _ .refl).2 admitted⟩
    | interrupt handled =>
        have admitted := interrupt _ _ _ ensured.always meets.1
        exact ⟨⟨admitted, allowed⟩, ensured.interrupted (.step .refl handled admitted)⟩
    | call =>
        have reached := (ensured _ _ .refl).2
        have admitted := call _ _ _ reached meets.1
        exact ⟨⟨admitted, allowed⟩, calls _ _ _ reached admitted⟩
  · intro _
    refine ⟨trivial, fun after later interrupted => ?_⟩
    have reached := steady.interrupted interrupted initial
    exact ⟨steady.always after later reached, reached⟩

theorem Setting.run_between (setting : Setting Point State Interrupt Call)
    {between : State → History Point State Interrupt Call → Prop} {state : State}
    (steady : setting.Steady between) (initial : between state [])
    (calls : ∀ entry before history, between before history →
      setting.allowed (.call entry) before history →
      setting.Ensures (fun _ => between) (setting.machine.body entry) before
        (⟨.call entry, before, before⟩ :: history))
    (choices : List (Choice Interrupt Call))
    (meets : Meets setting.allowed (setting.machine.run choices (.start state)).history)
    (idle : (setting.machine.run choices (.start state)).idle = true) :
    between (setting.machine.run choices (.start state)).state
      (setting.machine.run choices (.start state)).history := by
  have ensured := setting.run_ensures steady initial calls choices meets
  rw [Config.idle_iff] at idle
  rw [idle] at ensured
  exact (ensured _ _ .refl).2

end

end MiniMiner.Preemption
