import MiniMiner.RingBuffer
import MiniMiner.Simulation

/-! The ring shared by two threads, statement by statement. One thread inserts as
often as `RingBuffer_GetFreeCount` has allowed, the other removes as often as
`RingBuffer_GetCount` has allowed; their statements interleave in any order, only
the updates of the counter are made with interrupts disabled. Seen from outside
every insertion and removal happens at its update of the counter, as one operation
of the ring. -/

set_option autoImplicit false

namespace MiniMiner

open LittleEndian

/-- The statements of `RingBuffer_Insert` and `RingBuffer_Remove`, which differ in the
first and the last one. -/
inductive Stage where
  | idle | access | advance | wrap | count
  deriving DecidableEq

/-- A call under way, with its parameter or local variable `Data`. -/
structure Operation where
  stage : Stage
  byte : Byte
  deriving DecidableEq

/-- The pointers are kept as distances from `Start`, and can reach `End`. -/
structure RingAccess (size : Nat) where
  data : Vector Byte size
  inPos : Nat
  outPos : Nat
  count : BitVec 16
  inserting : Operation
  removing : Operation
  -- what is left of the free count, and of the count, that a thread has read
  room : BitVec 16
  available : BitVec 16
  deriving DecidableEq

inductive RingAction where
  | getFreeCount
  | insert (byte : Byte)
  | producer
  | getCount
  | remove
  | consumer
  deriving DecidableEq

inductive RingEvent where
  | inserted (byte : Byte)
  | removed (byte : Byte)
  -- an access outside of the storage array
  | fault
  deriving DecidableEq

namespace RingAccess

variable {size : Nat}

def produce (ring : RingAccess size) : Option (RingAccess size × Option RingEvent) :=
  let next := fun stage => ({ ring.inserting with stage := stage } : Operation)
  match ring.inserting.stage with
  | .idle => none
  | .access =>
      if inside : ring.inPos < size then
        some ({ ring with
          data := ring.data.set ring.inPos ring.inserting.byte, inserting := next .advance }, none)
      else some (ring, some .fault)
  | .advance => some ({ ring with inPos := ring.inPos + 1, inserting := next .wrap }, none)
  | .wrap =>
      some ({ ring with
        inPos := if ring.inPos = size then 0 else ring.inPos, inserting := next .count }, none)
  | .count =>
      some ({ ring with count := ring.count + 1, inserting := next .idle },
        some (.inserted ring.inserting.byte))

def consume (ring : RingAccess size) : Option (RingAccess size × Option RingEvent) :=
  let next := fun stage => ({ ring.removing with stage := stage } : Operation)
  match ring.removing.stage with
  | .idle => none
  | .access =>
      if inside : ring.outPos < size then
        some ({ ring with removing := ⟨.advance, ring.data[ring.outPos]⟩ }, none)
      else some (ring, some .fault)
  | .advance => some ({ ring with outPos := ring.outPos + 1, removing := next .wrap }, none)
  | .wrap =>
      some ({ ring with
        outPos := if ring.outPos = size then 0 else ring.outPos, removing := next .count }, none)
  | .count =>
      some ({ ring with count := ring.count - 1, removing := next .idle },
        some (.removed ring.removing.byte))

def step (ring : RingAccess size) : RingAction → Option (RingAccess size × Option RingEvent)
  | .getFreeCount =>
      if ring.inserting.stage = .idle then
        some ({ ring with room := BitVec.ofNat 16 size - ring.count }, none)
      else none
  | .insert byte =>
      if ring.inserting.stage = .idle ∧ ring.room ≠ 0 then
        some ({ ring with room := ring.room - 1, inserting := ⟨.access, byte⟩ }, none)
      else none
  | .producer => ring.produce
  | .getCount =>
      if ring.removing.stage = .idle then some ({ ring with available := ring.count }, none)
      else none
  | .remove =>
      if ring.removing.stage = .idle ∧ ring.available ≠ 0 then
        some ({ ring with
          available := ring.available - 1
          removing := { ring.removing with stage := .access } }, none)
      else none
  | .consumer => ring.consume

def system (size : Nat) : System (RingAccess size) RingAction RingEvent := ⟨step⟩

/-- `RingBuffer_InitBuffer`, before either thread has called anything. -/
def initBuffer (data : Vector Byte size) : RingAccess size where
  data := data
  inPos := 0
  outPos := 0
  count := 0
  inserting := ⟨.idle, 0⟩
  removing := ⟨.idle, 0⟩
  room := 0
  available := 0

end RingAccess

/-- The operations of the ring, each as a whole. -/
def RingBuffer.specification (size : Nat) : Specification (RingBuffer size) RingEvent where
  accept ring
    | .inserted byte => if ring.count.toNat < size then some (ring.insert byte) else none
    | .removed byte => if ring.count ≠ 0 ∧ ring.peek = byte then some ring.remove else none
    | .fault => none

/-- A queue that holds at most `size` bytes. -/
def queueSpecification (size : Nat) : Specification (List Byte) RingEvent where
  accept queue
    | .inserted byte => if queue.length < size then some (queue ++ [byte]) else none
    | .removed byte =>
        match queue with
        | [] => none
        | first :: rest => if first = byte then some rest else none
    | .fault => none

theorem RingBuffer.specification_maps (size : Nat) :
    (RingBuffer.specification size).Maps (queueSpecification size) RingBuffer.contents where
  accepted {ring next event} accepted := by
    cases event with
    | inserted byte =>
        simp only [RingBuffer.specification, Option.ite_none_right_eq_some] at accepted
        obtain ⟨room, accepted⟩ := accepted
        cases accepted
        simp [queueSpecification, room, ring.contents_insert byte room]
    | removed byte =>
        simp only [RingBuffer.specification, Option.ite_none_right_eq_some] at accepted
        obtain ⟨⟨nonempty, first⟩, accepted⟩ := accepted
        cases accepted
        simp [queueSpecification, ring.contents_eq_peek_cons nonempty, first]
    | fault => cases accepted

def Stage.accessed : Stage → Bool
  | .idle | .access => false
  | .advance | .wrap | .count => true

def Stage.pending : Stage → Nat
  | .idle => 0
  | .access | .advance | .wrap | .count => 1

theorem Stage.pending_eq_one {stage : Stage} (busy : stage ≠ .idle) : stage.pending = 1 := by
  cases stage with
  | idle => exact absurd rfl busy
  | access | advance | wrap | count => rfl

namespace RingAccess

variable {size : Nat}

/-- Where a call has left its pointer. -/
def position (start : Fin size) : Stage → Nat
  | .idle | .access | .advance => start.val
  | .wrap => start.val + 1
  | .count => (RingBuffer.next start).val

/-- The storage array while an insertion is under way. -/
def storage (ring : RingBuffer size) (inserting : Operation) : Vector Byte size :=
  match inserting.stage with
  | .idle | .access => ring.data
  | .advance | .wrap | .count => (ring.insert inserting.byte).data

/-- The calls under way have done their parts of the next operations of a ring, and
what the threads may still do is within it. -/
structure Tracks (access : RingAccess size) (ring : RingBuffer size) : Prop where
  count : access.count = ring.count
  data : access.data = storage ring access.inserting
  inPos : access.inPos = position ring.inPos access.inserting.stage
  outPos : access.outPos = position ring.outPos access.removing.stage
  loaded : access.removing.stage.accessed = true → access.removing.byte = ring.peek
  room : access.room.toNat + access.inserting.stage.pending + ring.count.toNat ≤ size
  available : access.available.toNat + access.removing.stage.pending ≤ ring.count.toNat

theorem tracks_initBuffer (data : Vector Byte size) (fits : size ∣ 2 ^ 15) (nonempty : 0 < size) :
    (initBuffer data).Tracks (.initBuffer data fits nonempty) where
  count := rfl
  data := rfl
  inPos := rfl
  outPos := rfl
  loaded := by simp [initBuffer, Stage.accessed]
  room := by simp [initBuffer, RingBuffer.initBuffer, Stage.pending]
  available := by simp [initBuffer, RingBuffer.initBuffer, Stage.pending]

section

variable {access : RingAccess size} {ring : RingBuffer size} (tracks : access.Tracks ring)
include tracks

theorem Tracks.apart (inserting : access.inserting.stage ≠ .idle)
    (removing : access.removing.stage ≠ .idle) : ring.inPos ≠ ring.outPos := by
  -- equal positions mean an empty or a full ring, and then one of the calls is not allowed
  intro same
  have room := tracks.room
  have available := tracks.available
  have linked := ring.linked
  have inside := ring.outPos.isLt
  rw [Stage.pending_eq_one inserting] at room
  rw [Stage.pending_eq_one removing] at available
  rw [same, Nat.add_mod_eq_ite, Nat.mod_eq_of_lt inside, Nat.mod_eq_of_lt (by omega)] at linked
  split at linked <;> omega

theorem Tracks.peek_insert (inserting : access.inserting.stage ≠ .idle)
    (removing : access.removing.stage ≠ .idle) (byte : Byte) :
    (ring.insert byte).peek = ring.peek := by
  have apart := tracks.apart inserting removing
  have apartVal : ring.inPos.val ≠ ring.outPos.val := fun same => apart (Fin.ext same)
  simp [RingBuffer.peek, RingBuffer.insert, Vector.getElem_set_ne, apartVal]

theorem Tracks.load (removing : access.removing.stage ≠ .idle) :
    (storage ring access.inserting).get ring.outPos = ring.peek := by
  unfold storage
  cases stage : access.inserting.stage with
  | idle | access => rfl
  | advance | wrap | count =>
      have busy : access.inserting.stage ≠ .idle := by simp [stage]
      exact tracks.peek_insert busy removing access.inserting.byte

end

theorem wrapped (start : Fin size) :
    (if start.val + 1 = size then 0 else start.val + 1) = (RingBuffer.next start).val := by
  unfold RingBuffer.next
  have inside := start.isLt
  split
  · rw [dif_neg (by omega)]
  · rw [dif_pos (by omega)]

theorem Tracks.produce {access : RingAccess size} {ring : RingBuffer size}
    (tracks : access.Tracks ring) {next : RingAccess size} {event : Option RingEvent}
    (stepped : access.produce = some (next, event)) :
    (RingBuffer.specification size).Follows Tracks next ring event := by
  have inPos := tracks.inPos
  have data := tracks.data
  have room := tracks.room
  unfold RingAccess.produce at stepped
  cases stage : access.inserting.stage with
  | idle => simp [stage] at stepped
  | access =>
      rw [stage] at inPos
      have inside : access.inPos < size := inPos ▸ ring.inPos.isLt
      simp only [stage, inside, dite_true, Option.some.injEq, Prod.mk.injEq] at stepped
      obtain ⟨rfl, rfl⟩ := stepped
      refine ⟨tracks.count, ?_, inPos, tracks.outPos, tracks.loaded, ?_, tracks.available⟩
      · simp only [data, storage, stage, inPos, position, RingBuffer.insert]
      · simpa only [stage, Stage.pending] using room
  | advance =>
      simp only [stage, Option.some.injEq, Prod.mk.injEq] at stepped
      obtain ⟨rfl, rfl⟩ := stepped
      refine ⟨tracks.count, ?_, ?_, tracks.outPos, tracks.loaded, ?_, tracks.available⟩
      · simp only [data, storage, stage]
      · simp only [inPos, stage, position]
      · simpa only [stage, Stage.pending] using room
  | wrap =>
      simp only [stage, Option.some.injEq, Prod.mk.injEq] at stepped
      obtain ⟨rfl, rfl⟩ := stepped
      refine ⟨tracks.count, ?_, ?_, tracks.outPos, tracks.loaded, ?_, tracks.available⟩
      · simp only [data, storage, stage]
      · simp only [inPos, stage, position, wrapped]
      · simpa only [stage, Stage.pending] using room
  | count =>
      simp only [stage, Option.some.injEq, Prod.mk.injEq] at stepped
      obtain ⟨rfl, rfl⟩ := stepped
      have busy : access.inserting.stage ≠ .idle := by simp [stage]
      rw [stage, Stage.pending] at room
      have free : ring.count.toNat < size := by omega
      have counted := ring.count_insert access.inserting.byte free
      refine ⟨ring.insert access.inserting.byte, if_pos free, ?_⟩
      refine ⟨congrArg (· + 1) tracks.count, ?_, ?_, tracks.outPos, ?_, ?_, ?_⟩
      · simp only [data, storage, stage, RingBuffer.insert]
      · simp only [inPos, stage, position, RingBuffer.insert]
      · -- a removal that has read its byte has not read the one just stored
        intro accessed
        have reading : access.removing.stage ≠ .idle := by
          intro idle
          simp [idle, Stage.accessed] at accessed
        rw [tracks.peek_insert busy reading]
        exact tracks.loaded accessed
      · simp only [counted, Stage.pending]
        omega
      · have available := tracks.available
        simp only [counted]
        omega

theorem Tracks.consume {access : RingAccess size} {ring : RingBuffer size}
    (tracks : access.Tracks ring) {next : RingAccess size} {event : Option RingEvent}
    (stepped : access.consume = some (next, event)) :
    (RingBuffer.specification size).Follows Tracks next ring event := by
  have outPos := tracks.outPos
  have available := tracks.available
  unfold RingAccess.consume at stepped
  cases stage : access.removing.stage with
  | idle => simp [stage] at stepped
  | access =>
      rw [stage] at outPos
      have inside : access.outPos < size := outPos ▸ ring.outPos.isLt
      simp only [stage, inside, dite_true, Option.some.injEq, Prod.mk.injEq] at stepped
      obtain ⟨rfl, rfl⟩ := stepped
      refine ⟨tracks.count, tracks.data, tracks.inPos, outPos, fun _ => ?_, tracks.room, ?_⟩
      · have load := tracks.load (by simp [stage])
        simp only [tracks.data, outPos, position]
        exact load
      · simpa only [stage, Stage.pending] using available
  | advance =>
      have loaded := tracks.loaded (by rw [stage]; rfl)
      simp only [stage, Option.some.injEq, Prod.mk.injEq] at stepped
      obtain ⟨rfl, rfl⟩ := stepped
      refine ⟨tracks.count, tracks.data, tracks.inPos, ?_, fun _ => loaded, tracks.room, ?_⟩
      · simp only [outPos, stage, position]
      · simpa only [stage, Stage.pending] using available
  | wrap =>
      have loaded := tracks.loaded (by rw [stage]; rfl)
      simp only [stage, Option.some.injEq, Prod.mk.injEq] at stepped
      obtain ⟨rfl, rfl⟩ := stepped
      refine ⟨tracks.count, tracks.data, tracks.inPos, ?_, fun _ => loaded, tracks.room, ?_⟩
      · simp only [outPos, stage, position, wrapped]
      · simpa only [stage, Stage.pending] using available
  | count =>
      have loaded := tracks.loaded (by rw [stage]; rfl)
      simp only [stage, Option.some.injEq, Prod.mk.injEq] at stepped
      obtain ⟨rfl, rfl⟩ := stepped
      rw [stage, Stage.pending] at available
      have nonempty : ring.count ≠ 0 := by
        intro zero
        rw [zero] at available
        simp at available
      have counted := ring.count_remove nonempty
      have room := tracks.room
      refine ⟨ring.remove, if_pos ⟨nonempty, loaded.symm⟩, ?_⟩
      refine ⟨congrArg (· - 1) tracks.count, tracks.data, tracks.inPos, ?_, ?_, ?_, ?_⟩
      · simp only [outPos, stage, position, RingBuffer.remove]
      · intro accessed
        cases accessed
      · simp only
        omega
      · simp only [Stage.pending]
        omega

theorem simulated (size : Nat) :
    (system size).Simulated (RingBuffer.specification size) Tracks := by
  intro access ring action next event tracks stepped
  have room := tracks.room
  have available := tracks.available
  cases action with
  | getFreeCount =>
      simp only [system, step, Option.ite_none_right_eq_some, Option.some.injEq,
        Prod.mk.injEq] at stepped
      obtain ⟨idle, rfl, rfl⟩ := stepped
      refine ⟨tracks.count, tracks.data, tracks.inPos, tracks.outPos, tracks.loaded, ?_, available⟩
      simp only [idle, Stage.pending, tracks.count, BitVec.toNat_sub, BitVec.toNat_ofNat]
      have small := ring.size_lt
      omega
  | insert byte =>
      simp only [system, step, Option.ite_none_right_eq_some, Option.some.injEq,
        Prod.mk.injEq] at stepped
      obtain ⟨⟨idle, allowed⟩, rfl, rfl⟩ := stepped
      have positive := toNat_sub_one allowed
      rw [idle, Stage.pending] at room
      refine ⟨tracks.count, ?_, ?_, tracks.outPos, tracks.loaded, ?_, available⟩
      · rw [tracks.data]
        simp only [storage, idle]
      · rw [tracks.inPos, idle]
        rfl
      · simp only [Stage.pending]
        omega
  | producer => exact tracks.produce stepped
  | getCount =>
      simp only [system, step, Option.ite_none_right_eq_some, Option.some.injEq,
        Prod.mk.injEq] at stepped
      obtain ⟨idle, rfl, rfl⟩ := stepped
      refine ⟨tracks.count, tracks.data, tracks.inPos, tracks.outPos, tracks.loaded, room, ?_⟩
      simp only [idle, Stage.pending, tracks.count]
      omega
  | remove =>
      simp only [system, step, Option.ite_none_right_eq_some, Option.some.injEq,
        Prod.mk.injEq] at stepped
      obtain ⟨⟨idle, allowed⟩, rfl, rfl⟩ := stepped
      have positive := toNat_sub_one allowed
      rw [idle, Stage.pending] at available
      refine ⟨tracks.count, tracks.data, tracks.inPos, ?_, ?_, room, ?_⟩
      · rw [tracks.outPos, idle]
        rfl
      · intro accessed
        cases accessed
      · simp only [Stage.pending]
        omega
  | consumer => exact tracks.consume stepped

end RingAccess

/-- Two threads that share a ring, each within the count it has read: whatever the
order of their statements, every access lies in the storage array, and the insertions
and removals, in the order of their updates of the counter, are those of the
indivisible operations and of a queue of at most `size` bytes. -/
theorem ringAccess_linearizable {size : Nat} (data : Vector Byte size) (fits : size ∣ 2 ^ 15)
    (nonempty : 0 < size) (schedule : List RingAction) :
    ∃ ring : RingBuffer size,
      (RingBuffer.specification size).replay (.initBuffer data fits nonempty)
        ((RingAccess.system size).run schedule (.initBuffer data)).2 = some ring ∧
      (queueSpecification size).replay []
        ((RingAccess.system size).run schedule (.initBuffer data)).2 = some ring.contents ∧
      ((RingAccess.system size).run schedule (.initBuffer data)).1.Tracks ring := by
  obtain ⟨ring, replayed, tracks⟩ := System.Simulated.run (RingAccess.simulated size) schedule
    (RingAccess.tracks_initBuffer data fits nonempty)
  exact ⟨ring, replayed, (RingBuffer.specification_maps size).replay replayed, tracks⟩

/-- In a ring of two bytes the second insertion is under way while the first byte is
removed, and the third one wraps. -/
def overlapping : List RingAction :=
  [.getFreeCount, .insert 1, .producer, .producer, .producer, .producer, .insert 2, .producer,
    .getCount, .remove, .consumer, .producer, .consumer, .producer, .consumer, .consumer,
    .producer, .getFreeCount, .insert 3, .producer, .producer, .producer, .producer]

theorem ringAccess_linearizable_wrapped :
    ∃ ring : RingBuffer 2, (queueSpecification 2).replay []
      [.inserted 1, .removed 1, .inserted 2, .inserted 3] = some ring.contents := by
  have events : ((RingAccess.system 2).run overlapping (.initBuffer #v[0, 0])).2 =
      [.inserted 1, .removed 1, .inserted 2, .inserted 3] := by
    decide +kernel
  obtain ⟨ring, _, replayed, _⟩ := ringAccess_linearizable #v[0, 0] (by decide) (by decide)
    overlapping
  rw [events] at replayed
  exact ⟨ring, replayed⟩

namespace RingAccess

variable {size : Nat}

/-- An interrupt handler runs `RingBuffer_Insert` from its first statement to its last. -/
def interrupt (ring : RingAccess size) (byte : Byte) : RingAccess size × List RingEvent :=
  (system size).run (.replicate 4 .producer) { ring with inserting := ⟨.access, byte⟩ }

/-- A removal that shows its byte when it reads it. -/
def consumeEarly (ring : RingAccess size) : Option (RingAccess size × Option RingEvent) :=
  ring.consume.map fun result =>
    (result.1,
      if ring.removing.stage = .access then
        result.2.or (some (.removed result.1.removing.byte))
      else none)

/-- Nobody looks at the counter before an insertion or a removal. -/
def interruptedStep (ring : RingAccess size) :
    RingAction → Option (RingAccess size × Option RingEvent)
  | .insert byte => some ((ring.interrupt byte).1, (ring.interrupt byte).2.head?)
  | .remove =>
      if ring.removing.stage = .idle then
        some ({ ring with removing := { ring.removing with stage := .access } }, none)
      else none
  | .consumer => ring.consumeEarly
  | .getFreeCount | .producer | .getCount => none

def interrupted (size : Nat) : System (RingAccess size) RingAction RingEvent := ⟨interruptedStep⟩

end RingAccess

/-- The operations of the ring without a look at its counter. -/
def RingBuffer.unchecked (size : Nat) : Specification (RingBuffer size) RingEvent where
  accept ring
    | .inserted byte => some (ring.insert byte)
    | .removed byte => if ring.peek = byte then some ring.remove else none
    | .fault => none

namespace RingAccess

variable {size : Nat}

/-- The part of a removal that is still to be done after the byte has been read. -/
def Remaining (ring : RingBuffer size) (outPos : Nat) (count : BitVec 16) : Stage → Prop
  | .idle | .access => outPos = ring.outPos ∧ count = ring.count
  | .advance =>
      ∃ start, RingBuffer.next start = ring.outPos ∧ outPos = start.val ∧ count = ring.count + 1
  | .wrap =>
      ∃ start, RingBuffer.next start = ring.outPos ∧ outPos = start.val + 1 ∧
        count = ring.count + 1
  | .count => outPos = ring.outPos ∧ count = ring.count + 1

structure Runs (access : RingAccess size) (ring : RingBuffer size) : Prop where
  data : access.data = ring.data
  inPos : access.inPos = ring.inPos
  remaining : Remaining ring access.outPos access.count access.removing.stage

theorem Runs.interrupt {access : RingAccess size} {ring : RingBuffer size}
    (runs : access.Runs ring) (byte : Byte) :
    access.interrupt byte =
      ({ access with
        data := (ring.insert byte).data, inPos := (ring.insert byte).inPos
        count := access.count + 1, inserting := ⟨.idle, byte⟩ }, [.inserted byte]) := by
  simp [RingAccess.interrupt, system, List.replicate, System.run, step, produce, runs.data,
    runs.inPos, wrapped, RingBuffer.insert]

theorem Remaining.insert {ring : RingBuffer size} {outPos : Nat} {count : BitVec 16} {stage : Stage}
    (remaining : Remaining ring outPos count stage) (byte : Byte) :
    Remaining (ring.insert byte) outPos (count + 1) stage := by
  cases stage with
  | idle | access | count =>
      obtain ⟨same, rfl⟩ := remaining
      exact ⟨same, rfl⟩
  | advance | wrap =>
      obtain ⟨start, next, same, rfl⟩ := remaining
      exact ⟨start, next, same, rfl⟩

theorem Runs.consumeEarly {access : RingAccess size} {ring : RingBuffer size}
    (runs : access.Runs ring) {next : RingAccess size} {event : Option RingEvent}
    (stepped : access.consumeEarly = some (next, event)) :
    (RingBuffer.unchecked size).Follows Runs next ring event := by
  have remaining := runs.remaining
  unfold RingAccess.consumeEarly RingAccess.consume at stepped
  cases stage : access.removing.stage with
  | idle => simp [stage] at stepped
  | access =>
      rw [stage] at remaining
      obtain ⟨outPos, count⟩ := remaining
      have inside : access.outPos < size := outPos ▸ ring.outPos.isLt
      have read : access.data[access.outPos] = ring.peek := by
        simp only [runs.data, outPos]
        rfl
      simp only [stage, inside, dite_true, Option.map_some, if_true, Option.none_or,
        Option.some.injEq, Prod.mk.injEq] at stepped
      obtain ⟨rfl, rfl⟩ := stepped
      refine ⟨ring.remove, if_pos read.symm, runs.data, runs.inPos, ?_⟩
      exact ⟨ring.outPos, rfl, outPos, count.trans (BitVec.sub_add_cancel _ _).symm⟩
  | advance =>
      rw [stage] at remaining
      obtain ⟨start, advanced, outPos, count⟩ := remaining
      simp only [stage, Option.map_some, reduceCtorEq, if_false, Option.some.injEq,
        Prod.mk.injEq] at stepped
      obtain ⟨rfl, rfl⟩ := stepped
      exact ⟨runs.data, runs.inPos, start, advanced, congrArg (· + 1) outPos, count⟩
  | wrap =>
      rw [stage] at remaining
      obtain ⟨start, advanced, outPos, count⟩ := remaining
      simp only [stage, Option.map_some, reduceCtorEq, if_false, Option.some.injEq,
        Prod.mk.injEq] at stepped
      obtain ⟨rfl, rfl⟩ := stepped
      refine ⟨runs.data, runs.inPos, ?_, count⟩
      simp only [outPos, wrapped, advanced]
  | count =>
      rw [stage] at remaining
      obtain ⟨outPos, count⟩ := remaining
      simp only [stage, Option.map_some, reduceCtorEq, if_false, Option.some.injEq,
        Prod.mk.injEq] at stepped
      obtain ⟨rfl, rfl⟩ := stepped
      refine ⟨runs.data, runs.inPos, outPos, ?_⟩
      rw [count]
      exact BitVec.add_sub_cancel _ _

theorem interrupted_simulated (size : Nat) :
    (interrupted size).Simulated (RingBuffer.unchecked size) Runs := by
  intro access ring action next event runs stepped
  cases action with
  | insert byte =>
      simp only [interrupted, interruptedStep, runs.interrupt, List.head?_cons,
        Option.some.injEq, Prod.mk.injEq] at stepped
      obtain ⟨rfl, rfl⟩ := stepped
      exact ⟨ring.insert byte, rfl, rfl, rfl, runs.remaining.insert byte⟩
  | remove =>
      simp only [interrupted, interruptedStep, Option.ite_none_right_eq_some, Option.some.injEq,
        Prod.mk.injEq] at stepped
      obtain ⟨idle, rfl, rfl⟩ := stepped
      have remaining := runs.remaining
      rw [idle] at remaining
      exact ⟨runs.data, runs.inPos, remaining⟩
  | consumer => exact runs.consumeEarly stepped
  | getFreeCount | producer | getCount => cases stepped

end RingAccess

/-- A thread that removes while an interrupt inserts between any two of its statements,
also into a full ring and also out of an empty one: every removal is the indivisible
one, made when it reads its byte, and between removals the ring is the one that these
operations leave. -/
theorem ringRemove_interruptible {size : Nat} (data : Vector Byte size) (fits : size ∣ 2 ^ 15)
    (nonempty : 0 < size) (schedule : List RingAction) :
    ∃ ring : RingBuffer size,
      (RingBuffer.unchecked size).replay (.initBuffer data fits nonempty)
        ((RingAccess.interrupted size).run schedule (.initBuffer data)).2 = some ring ∧
      let access := ((RingAccess.interrupted size).run schedule (.initBuffer data)).1
      access.removing.stage = .idle →
        access.data = ring.data ∧ access.inPos = ring.inPos ∧ access.outPos = ring.outPos ∧
          access.count = ring.count := by
  have start : (RingAccess.initBuffer data).Runs (.initBuffer data fits nonempty) :=
    ⟨rfl, rfl, rfl, rfl⟩
  obtain ⟨ring, replayed, runs⟩ :=
    System.Simulated.run (RingAccess.interrupted_simulated size) schedule start
  refine ⟨ring, replayed, fun idle => ?_⟩
  have remaining := runs.remaining
  rw [idle] at remaining
  exact ⟨runs.data, runs.inPos, remaining⟩

/-- A ring of two bytes is overrun while its first byte is being removed. -/
theorem ringRemove_interruptible_overrun :
    let schedule : List RingAction :=
      [.insert 1, .insert 2, .remove, .consumer, .insert 3, .consumer, .insert 4, .consumer,
        .consumer]
    ∃ ring : RingBuffer 2,
      (RingBuffer.unchecked 2).replay (.initBuffer #v[0, 0] (by decide) (by decide))
        [.inserted 1, .inserted 2, .removed 1, .inserted 3, .inserted 4] = some ring ∧
      ((RingAccess.interrupted 2).run schedule (.initBuffer #v[0, 0])).1.count = ring.count := by
  intro schedule
  have run : ((RingAccess.interrupted 2).run schedule (.initBuffer #v[0, 0])).2 =
      [.inserted 1, .inserted 2, .removed 1, .inserted 3, .inserted 4] ∧
      ((RingAccess.interrupted 2).run schedule (.initBuffer #v[0, 0])).1.removing.stage =
        .idle := by
    decide +kernel
  obtain ⟨ring, replayed, left⟩ :=
    ringRemove_interruptible #v[0, 0] (by decide) (by decide) schedule
  rw [run.1] at replayed
  exact ⟨ring, replayed, (left run.2).2.2.2⟩

end MiniMiner
