import MiniMiner.Preemption.Triple
import MiniMiner.RingBuffer

/-! The pass of a main loop that empties a ring into an endpoint: the bytes are counted first,
and then sent and removed one by one until the count is used up or a byte is refused. -/

set_option autoImplicit false

namespace MiniMiner

open LittleEndian Preemption Preemption.Program

/-- What such a pass is made of. -/
structure Transmitter (Point State : Type) (size : Nat) where
  flushCount : Point
  flushTimer : Point
  flushRestart : Point
  sendByte : Point
  removeSent : Point
  ring : State → RingBuffer size
  endpoint : State → List Byte
  -- the timer that starts a pass over an empty ring
  due : State → Bool
  expire : State → State
  restart : State → State
  send : State → State
  remove : State → State
  ring_expire : ∀ state, ring (expire state) = ring state
  ring_restart : ∀ state, ring (restart state) = ring state
  ring_send : ∀ state, ring (send state) = ring state
  ring_remove : ∀ state, ring (remove state) = (ring state).remove
  endpoint_expire : ∀ state, endpoint (expire state) = endpoint state
  endpoint_restart : ∀ state, endpoint (restart state) = endpoint state
  endpoint_send : ∀ state, endpoint (send state) = endpoint state ++ [(ring state).peek]
  endpoint_remove : ∀ state, endpoint (remove state) = endpoint state

namespace Transmitter

variable {Point State Interrupt Call : Type} {size : Nat}
  (transmitter : Transmitter Point State size)

def sendLoop : (bufferCount : Nat) → (results : List Bool) → Program Point State Unit
  | 0, _ => pure ()
  | bufferCount + 1, results =>
      if results.headD false then do
        assign transmitter.sendByte transmitter.send
        assign transmitter.removeSent transmitter.remove
        sendLoop bufferCount results.tail
      else assign transmitter.sendByte id

def flush (results : List Bool) : Program Point State Unit := do
  let bufferCount ← fetch transmitter.flushCount fun state => (transmitter.ring state).getCount
  let expired ← .statement transmitter.flushTimer transmitter.expire
    fun state => .done (transmitter.due state)
  onlyIf (expired = true ∨ bufferCount > 0) do
    assign transmitter.flushRestart transmitter.restart
    transmitter.sendLoop bufferCount.toNat results

/-- A kind of statement to which all statements of the pass belong. -/
structure Covered (kind : Point → State → State → Prop) : Prop where
  flushCount : ∀ state, kind transmitter.flushCount state state
  flushTimer : ∀ state, kind transmitter.flushTimer state (transmitter.expire state)
  flushRestart : ∀ state, kind transmitter.flushRestart state (transmitter.restart state)
  sent : ∀ state, kind transmitter.sendByte state (transmitter.send state)
  refused : ∀ state, kind transmitter.sendByte state state
  removeSent : ∀ state, kind transmitter.removeSent state (transmitter.remove state)

section Within

variable {transmitter} {kind : Point → State → State → Prop} (covered : transmitter.Covered kind)
include covered

theorem sendLoop_within (bufferCount : Nat) (results : List Bool) :
    (transmitter.sendLoop bufferCount results).Within kind := by
  induction bufferCount generalizing results with
  | zero => trivial
  | succ bufferCount ih =>
      unfold sendLoop
      split
      · exact .bind (.assign covered.sent) fun _ =>
          .bind (.assign covered.removeSent) fun _ => ih results.tail
      · exact .assign covered.refused

theorem flush_within (results : List Bool) : (transmitter.flush results).Within kind := by
  refine .bind (.fetch covered.flushCount) fun bufferCount => ?_
  refine .bind ⟨covered.flushTimer, fun _ => trivial⟩ fun expired => ?_
  exact .onlyIf (.bind (.assign covered.flushRestart) fun _ =>
    sendLoop_within covered bufferCount.toNat results)

end Within

/-- What a pass needs to keep an assertion: a second one between a byte being sent and its
removal, both of which find a byte in the ring. -/
structure Preserves (setting : Setting Point State Interrupt Call)
    (whole half : State → History Point State Interrupt Call → Prop) : Prop where
  steadyWhole : setting.Steady whole
  steadyHalf : setting.Steady half
  undisturbed : ∀ source before after, setting.machine.handler source before = some after →
    transmitter.ring after = transmitter.ring before
  flushCount : ∀ state, setting.Keeps whole transmitter.flushCount state state
  flushTimer : ∀ state,
    setting.Keeps whole transmitter.flushTimer state (transmitter.expire state)
  flushRestart : ∀ state,
    setting.Keeps whole transmitter.flushRestart state (transmitter.restart state)
  refused : ∀ state, setting.Keeps whole transmitter.sendByte state state
  sent : ∀ state history, (transmitter.ring state).count ≠ 0 → whole state history →
    setting.allowed (.main transmitter.sendByte) state history →
    half (transmitter.send state)
      (⟨.main transmitter.sendByte, state, transmitter.send state⟩ :: history)
  removed : ∀ state history, (transmitter.ring state).count ≠ 0 → half state history →
    setting.allowed (.main transmitter.removeSent) state history →
    whole (transmitter.remove state)
      (⟨.main transmitter.removeSent, state, transmitter.remove state⟩ :: history)

section Triple

variable {transmitter} {setting : Setting Point State Interrupt Call}
  {whole half : State → History Point State Interrupt Call → Prop}
  (preserves : transmitter.Preserves setting whole half)
include preserves

/-- An assertion, and so many bytes in the ring. -/
theorem Preserves.steady_filled
    {assertion : State → History Point State Interrupt Call → Prop}
    (steady : setting.Steady assertion) (count : Nat) :
    setting.Steady fun state history =>
      assertion state history ∧ count ≤ (transmitter.ring state).count.toNat := by
  refine steady.and fun source before after _ handled _ filled => ?_
  rw [preserves.undisturbed source before after handled]
  exact filled

theorem Preserves.sendLoop (bufferCount : Nat) (results : List Bool) :
    setting.Triple
      (fun state history =>
        whole state history ∧ bufferCount ≤ (transmitter.ring state).count.toNat)
      (transmitter.sendLoop bufferCount results) fun _ => whole := by
  induction bufferCount generalizing results with
  | zero =>
      exact (Setting.Triple.done preserves.steadyWhole).conseq (fun _ _ sendable => sendable.1)
        fun _ _ _ holds => holds
  | succ bufferCount ih =>
      have nonempty {state : State}
          (filled : bufferCount + 1 ≤ (transmitter.ring state).count.toNat) :
          (transmitter.ring state).count ≠ 0 := by
        intro zero
        rw [zero] at filled
        exact Nat.not_succ_le_zero _ filled
      have sent : setting.Triple
          (fun state history =>
            whole state history ∧ bufferCount + 1 ≤ (transmitter.ring state).count.toNat)
          (assign transmitter.sendByte transmitter.send)
          fun _ state history =>
            half state history ∧ bufferCount + 1 ≤ (transmitter.ring state).count.toNat := by
        refine .assign (preserves.steady_filled preserves.steadyWhole _)
          (preserves.steady_filled preserves.steadyHalf _) ?_
        rintro state history ⟨holds, filled⟩ admitted
        rw [transmitter.ring_send]
        exact ⟨preserves.sent state history (nonempty filled) holds admitted, filled⟩
      have removed : setting.Triple
          (fun state history =>
            half state history ∧ bufferCount + 1 ≤ (transmitter.ring state).count.toNat)
          (assign transmitter.removeSent transmitter.remove)
          fun _ state history =>
            whole state history ∧ bufferCount ≤ (transmitter.ring state).count.toNat := by
        refine .assign (preserves.steady_filled preserves.steadyHalf _)
          (preserves.steady_filled preserves.steadyWhole _) ?_
        rintro state history ⟨holds, filled⟩ admitted
        have counted := (transmitter.ring state).count_remove (nonempty filled)
        rw [transmitter.ring_remove]
        exact ⟨preserves.removed state history (nonempty filled) holds admitted, by omega⟩
      unfold Transmitter.sendLoop
      split
      · exact sent.seq fun _ => removed.seq fun _ => ih results.tail
      · exact .assign (preserves.steady_filled preserves.steadyWhole _) preserves.steadyWhole
          fun state history sendable admitted =>
            preserves.refused state history admitted sendable.1

theorem Preserves.flush (results : List Bool) :
    setting.Triple whole (transmitter.flush results) fun _ => whole := by
  have counted : setting.Triple whole
      (fetch transmitter.flushCount fun state => (transmitter.ring state).getCount)
      fun bufferCount state history =>
        whole state history ∧ bufferCount.toNat ≤ (transmitter.ring state).count.toNat :=
    .fetch preserves.steadyWhole (fun _ => preserves.steady_filled preserves.steadyWhole _)
      fun state history holds admitted =>
        ⟨preserves.flushCount state history admitted holds, Nat.le_refl _⟩
  refine counted.seq fun bufferCount => ?_
  have steady := preserves.steady_filled preserves.steadyWhole bufferCount.toNat
  have timer : (Program.statement transmitter.flushTimer transmitter.expire
      fun state => .done (transmitter.due state)).Within (setting.Keeps fun state history =>
        whole state history ∧ bufferCount.toNat ≤ (transmitter.ring state).count.toNat) := by
    refine ⟨fun state => (preserves.flushTimer state).and fun _ _ filled => ?_, fun _ => trivial⟩
    rw [transmitter.ring_expire]
    exact filled
  refine .seq (.kept steady timer) fun expired => ?_
  refine .onlyIf preserves.steadyWhole (fun _ => ?_) fun _ _ _ sendable => sendable.1
  refine .seq (.kept steady (.assign fun state => ?_)) fun _ =>
    preserves.sendLoop bufferCount.toNat results
  refine (preserves.flushRestart state).and fun _ _ filled => ?_
  rw [transmitter.ring_restart]
  exact filled

end Triple

def points : List Point :=
  [transmitter.flushCount, transmitter.flushTimer, transmitter.flushRestart, transmitter.sendByte,
    transmitter.removeSent]

/-- A record of what has been written into the ring, which the pass and the interrupts leave as
it is, with what else is known of the past. -/
structure Records (setting : Setting Point State Interrupt Call)
    (written : History Point State Interrupt Call → List Byte)
    (facts : History Point State Interrupt Call → Prop) : Prop where
  undisturbed : ∀ source before after, setting.machine.handler source before = some after →
    transmitter.ring after = transmitter.ring before ∧
      transmitter.endpoint after = transmitter.endpoint before
  interrupt : ∀ source before after history,
    written (⟨.interrupt source, before, after⟩ :: history) = written history ∧
      (facts history → facts (⟨.interrupt source, before, after⟩ :: history))
  main : ∀ point ∈ transmitter.points, ∀ before after history,
    written (⟨.main point, before, after⟩ :: history) = written history ∧
      (facts history → facts (⟨.main point, before, after⟩ :: history))
  always : ∀ state history, transmitter.endpoint state <+: written history → facts history →
    setting.always state history

/-- What has been written is with the endpoint or in the ring. -/
structure Streams (written : History Point State Interrupt Call → List Byte)
    (facts : History Point State Interrupt Call → Prop) (ring : State → RingBuffer size)
    (state : State) (history : History Point State Interrupt Call) : Prop where
  stream : transmitter.endpoint state ++ (ring state).contents = written history
  facts : facts history

section Streams

variable {transmitter} {setting : Setting Point State Interrupt Call}
  {written : History Point State Interrupt Call → List Byte}
  {facts : History Point State Interrupt Call → Prop}
  (records : transmitter.Records setting written facts)
include records

theorem Records.steady {ring : State → RingBuffer size}
    (undisturbed : ∀ before after : State, transmitter.ring after = transmitter.ring before →
      ring after = ring before) :
    setting.Steady (transmitter.Streams written facts ring) where
  stable := by
    intro source before after history handled _ streams
    obtain ⟨same, endpoint⟩ := records.undisturbed source before after handled
    obtain ⟨unwritten, kept⟩ := records.interrupt source before after history
    refine ⟨?_, kept streams.facts⟩
    rw [unwritten, endpoint, undisturbed before after same]
    exact streams.stream
  always := fun state history streams =>
    records.always state history ⟨_, streams.stream⟩ streams.facts

theorem Records.keeps {point : Point} {before after : State} (own : point ∈ transmitter.points)
    (ring : transmitter.ring after = transmitter.ring before)
    (endpoint : transmitter.endpoint after = transmitter.endpoint before) :
    setting.Keeps (transmitter.Streams written facts transmitter.ring) point before after := by
  intro history _ streams
  obtain ⟨unwritten, kept⟩ := records.main point own before after history
  refine ⟨?_, kept streams.facts⟩
  rw [unwritten, endpoint, ring]
  exact streams.stream

/-- The byte that is sent goes from the ring to the endpoint. -/
theorem Records.preserves :
    transmitter.Preserves setting (transmitter.Streams written facts transmitter.ring)
      (transmitter.Streams written facts fun state => (transmitter.ring state).remove) where
  steadyWhole := records.steady fun _ _ same => same
  steadyHalf := records.steady fun _ _ same => congrArg RingBuffer.remove same
  undisturbed := fun source before after handled =>
    (records.undisturbed source before after handled).1
  flushCount := fun state => records.keeps (by simp [points]) rfl rfl
  flushTimer := fun state => records.keeps (by simp [points]) (transmitter.ring_expire state)
    (transmitter.endpoint_expire state)
  flushRestart := fun state => records.keeps (by simp [points]) (transmitter.ring_restart state)
    (transmitter.endpoint_restart state)
  refused := fun state => records.keeps (by simp [points]) rfl rfl
  sent := by
    intro state history nonempty streams _
    obtain ⟨unwritten, kept⟩ := records.main transmitter.sendByte (by simp [points]) state
      (transmitter.send state) history
    refine ⟨?_, kept streams.facts⟩
    have stream := streams.stream
    rw [(transmitter.ring state).contents_eq_peek_cons nonempty] at stream
    rw [unwritten, ← stream, transmitter.endpoint_send, transmitter.ring_send, List.append_assoc,
      List.singleton_append]
  removed := by
    intro state history _ streams _
    obtain ⟨unwritten, kept⟩ := records.main transmitter.removeSent (by simp [points]) state
      (transmitter.remove state) history
    refine ⟨?_, kept streams.facts⟩
    rw [unwritten, ← streams.stream, transmitter.endpoint_remove, transmitter.ring_remove]

end Streams

end Transmitter

end MiniMiner
