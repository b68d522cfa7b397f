import MiniMiner.Lufa.CdcReceive

/-! Every run of the receiving calls, whatever the host, the bus and the control requests do
between two of their statements, is a run of the feed. -/

set_option autoImplicit false

namespace MiniMiner.Lufa

open LittleEndian

/-- The endpoint is selected, and a packet is in its bank. -/
def Receiver.Holding (receiver : Receiver) : Prop :=
  receiver.active = true ∧ receiver.outReceived = true

/-- What is known before the next statement, as long as the bank has not been cleared. -/
def Receiver.Known (receiver : Receiver) : ReceiveCode → Prop
  | .idle | .countState | .countBaud | .countSelect | .countAgain | .byteState | .byteBaud
  | .byteSelect | .byteReturn _ => True
  | .countReceived | .byteReceived => receiver.active = true
  | .countBytes | .byteBytes | .byteAgain _ => receiver.Holding
  | .countClear | .byteClear _ => receiver.Holding ∧ receiver.bank = []
  | .byteRead => receiver.Holding ∧ receiver.bank ≠ []

/-- The byte that the next statement finds in the variable `ReceivedByte`. -/
def ReceiveCode.taken : ReceiveCode → Option Byte
  | .byteAgain byte | .byteClear byte | .byteReturn byte => byte
  | _ => none

structure Follows (receiver : Receiver) (feed : Feed) : Prop where
  pending : feed.pending = receiver.bank
  taken : feed.taken = receiver.code.taken
  short : receiver.bank.length ≤ endpointSize
  free : receiver.outReceived = false → receiver.bank = []
  enabled : feed.cleared = false → receiver.enabled = true
  known : feed.cleared = false → receiver.Known receiver.code

theorem Follows.lost {receiver next : Receiver} {feed : Feed} (follows : Follows receiver feed)
    (bank : next.bank = []) (code : next.code = receiver.code) :
    Feed.specification.Follows Follows next feed (some .lost) := by
  refine ⟨_, rfl, bank.symm, ?_, ?_, fun _ => bank, ?_, ?_⟩
  · rw [code]
    exact follows.taken
  · rw [bank]
    exact Nat.zero_le _
  · exact fun kept => by cases kept
  · exact fun kept => by cases kept

theorem Follows.goto {receiver next : Receiver} {feed : Feed} {event : Option ReceiveEvent}
    {code : ReceiveCode} (follows : Follows receiver feed)
    (stepped : receiver.goto code = some (next, event)) (taken : code.taken = receiver.code.taken)
    (known : feed.cleared = false → receiver.Known code) :
    Feed.specification.Follows Follows next feed event := by
  cases stepped
  refine ⟨follows.pending, follows.taken.trans taken.symm, follows.short, follows.free,
    follows.enabled, fun kept => ?_⟩
  have known := known kept
  cases code <;> exact known

theorem Follows.clearOUT {receiver next : Receiver} {feed : Feed} {event : Option ReceiveEvent}
    {code : ReceiveCode} (follows : Follows receiver feed)
    (stepped : receiver.clearOUT code = some (next, event))
    (taken : code.taken = receiver.code.taken) (anywhere : ∀ receiver : Receiver, receiver.Known code)
    (empty : feed.cleared = false → receiver.bank = []) :
    Feed.specification.Follows Follows next feed event := by
  unfold Receiver.clearOUT at stepped
  split at stepped
  · by_cases bank : receiver.bank = []
    · rw [if_pos bank] at stepped
      cases stepped
      exact ⟨follows.pending.trans bank, follows.taken.trans taken.symm, Nat.zero_le _,
        fun _ => rfl, follows.enabled, fun _ => anywhere _⟩
    · -- bytes are dropped: the bank has been cleared and filled since it was looked at
      rw [if_neg bank] at stepped
      cases stepped
      have cleared : feed.cleared = true := by
        cases kept : feed.cleared with
        | true => rfl
        | false => exact absurd (empty kept) bank
      exact ⟨_, if_pos cleared, rfl, follows.taken.trans taken.symm, Nat.zero_le _, fun _ => rfl,
        follows.enabled, fun _ => anywhere _⟩
  · exact follows.goto stepped taken fun _ => anywhere _

theorem Follows.read8 {receiver next : Receiver} {feed : Feed} {registers : OutRegisters}
    {event : Option ReceiveEvent} (follows : Follows receiver feed)
    (stepped : receiver.read8 registers = some (next, event)) (untaken : feed.taken = none)
    (known : feed.cleared = false → receiver.Holding ∧ receiver.bank ≠ []) :
    Feed.specification.Follows Follows next feed event := by
  have pending := follows.pending
  have free := follows.free
  have short := follows.short
  unfold Receiver.read8 at stepped
  split at stepped
  · next byte rest active bank =>
    rw [bank] at pending free short
    cases stepped
    refine ⟨{ feed with pending := rest, taken := some byte }, ?_, rfl, rfl, ?_, ?_,
      follows.enabled, fun kept => (known kept).1⟩
    · simp only [Feed.specification, Feed.accept, pending, untaken, and_self, if_true]
    · rw [List.length_cons] at short
      exact Nat.le_of_succ_le short
    · intro idle
      cases free idle
  · next other =>
    cases stepped
    have cleared : feed.cleared = true := by
      cases kept : feed.cleared with
      | true => rfl
      | false =>
          obtain ⟨⟨active, _⟩, filled⟩ := known kept
          cases bank : receiver.bank with
          | nil => exact absurd bank filled
          | cons byte rest => exact (other byte rest active bank).elim
    refine ⟨_, if_pos ⟨untaken, cleared⟩, pending, rfl, short, free, follows.enabled, ?_⟩
    intro kept
    rw [cleared] at kept
    cases kept

theorem Follows.bytes {receiver : Receiver} {feed : Feed} (follows : Follows receiver feed)
    (registers : OutRegisters) (holding : receiver.Holding) :
    receiver.bytesInEndpoint registers = 0 ↔ receiver.bank = [] := by
  have short : receiver.bank.length ≤ 16 := follows.short
  rw [Receiver.bytesInEndpoint, holding.1, holding.2, Bool.and_self, if_pos rfl,
    ← List.length_eq_zero_iff, ← BitVec.toNat_inj, BitVec.toNat_ofNat]
  change receiver.bank.length % 256 = 0 ↔ _
  omega

theorem Follows.mainStep {receiver next : Receiver} {feed : Feed} {registers : OutRegisters}
    {event : Option ReceiveEvent} (follows : Follows receiver feed)
    (stepped : receiver.mainStep registers = some (next, event)) :
    Feed.specification.Follows Follows next feed event := by
  have known := follows.known
  have taken := follows.taken
  unfold Receiver.mainStep at stepped
  cases code : receiver.code with
  | idle => simp [code] at stepped
  | countState | countBaud | byteState | byteBaud =>
      rw [code] at stepped
      refine follows.goto stepped ?_ fun _ => ?_
      · rw [code]
        split <;> rfl
      · split <;> trivial
  | countSelect | byteSelect =>
      rw [code] at stepped taken
      cases stepped
      refine ⟨follows.pending, taken, follows.short, follows.free, follows.enabled, fun kept => ?_⟩
      simp [Receiver.Known, Receiver.active, follows.enabled kept]
  | countReceived | byteReceived =>
      rw [code] at stepped known
      refine follows.goto stepped ?_ fun kept => ?_
      · rw [code]
        split <;> rfl
      · have active : receiver.active = true := known kept
        split
        · next received =>
          rw [Receiver.isOUTReceived, if_pos active] at received
          exact ⟨active, received⟩
        · trivial
  | countBytes =>
      rw [code] at stepped known
      refine follows.goto stepped ?_ fun kept => ?_
      · rw [code]
        split <;> rfl
      · have holding : receiver.Holding := known kept
        split
        · next zero => exact ⟨holding, (follows.bytes registers holding).mp zero⟩
        · trivial
  | byteBytes =>
      rw [code] at stepped known
      refine follows.goto stepped ?_ fun kept => ?_
      · rw [code]
        split <;> rfl
      · have holding : receiver.Holding := known kept
        split
        · exact holding
        · next filled =>
          exact ⟨holding, fun bank => filled ((follows.bytes registers holding).mpr bank)⟩
  | countClear =>
      rw [code] at stepped known
      exact follows.clearOUT stepped (by rw [code]; rfl) (fun _ => trivial)
        fun kept => (known kept).2
  | countAgain =>
      rw [code] at stepped
      refine follows.goto stepped ?_ fun _ => ?_
      · rw [code]
        split <;> rfl
      · split <;> trivial
  | byteRead =>
      rw [code] at stepped known taken
      exact follows.read8 stepped taken known
  | byteAgain byte =>
      rw [code] at stepped known
      refine follows.goto stepped ?_ fun kept => ?_
      · rw [code]
        split <;> rfl
      · have holding : receiver.Holding := known kept
        split
        · next zero => exact ⟨holding, (follows.bytes registers holding).mp zero⟩
        · trivial
  | byteClear byte =>
      rw [code] at stepped known
      exact follows.clearOUT stepped (by rw [code]; rfl) (fun _ => trivial)
        fun kept => (known kept).2
  | byteReturn byte =>
      rw [code] at stepped taken
      cases byte with
      | none =>
          cases stepped
          exact ⟨feed, if_pos taken, follows.pending, taken, follows.short, follows.free,
            follows.enabled, fun _ => trivial⟩
      | some byte =>
          cases stepped
          exact ⟨_, if_pos taken, follows.pending, rfl, follows.short, follows.free,
            follows.enabled, fun _ => trivial⟩

theorem Receiver.Known.packet {receiver : Receiver} {code : ReceiveCode} {bytes : List Byte}
    (known : receiver.Known code) (free : receiver.outReceived = false) :
    ({ receiver with outReceived := true, bank := bytes } : Receiver).Known code := by
  -- the bank was free, so the call under way has not seen a packet in it
  have none_held : ¬ receiver.Holding := by
    intro holding
    rw [holding.2] at free
    cases free
  cases code with
  | idle | countState | countBaud | countSelect | countAgain | byteState | byteBaud | byteSelect
  | byteReturn => trivial
  | countReceived | byteReceived => exact known
  | countBytes | byteBytes | byteAgain => exact absurd known none_held
  | countClear | byteClear | byteRead => exact absurd known.1 none_held

theorem receiving_simulated : receiving.Simulated Feed.specification Follows := by
  intro receiver feed action next event follows stepped
  cases action with
  | poll =>
      simp only [receiving, Receiver.step] at stepped
      split at stepped
      · next idle => exact follows.goto stepped (by rw [idle]; rfl) fun _ => trivial
      · cases stepped
  | send =>
      simp only [receiving, Receiver.step] at stepped
      split at stepped
      · next idle =>
        cases stepped
        refine ⟨follows.pending, follows.taken, follows.short, follows.free, follows.enabled, ?_⟩
        rw [idle]
        exact fun _ => trivial
      · cases stepped
  | main registers => exact follows.mainStep stepped
  | outToken bytes =>
      simp only [receiving, Receiver.step] at stepped
      split at stepped
      · next room =>
        obtain ⟨enabled, free, short⟩ := room
        cases stepped
        have empty := follows.pending.trans (follows.free free)
        refine ⟨_, if_pos ⟨empty, short⟩, rfl, follows.taken, short, ?_, follows.enabled, ?_⟩
        · exact fun busy => by cases busy
        · exact fun kept => (follows.known kept).packet free
      · cases stepped
  | reset nested enabled =>
      cases stepped
      exact follows.lost rfl rfl
  | configure state success =>
      cases stepped
      exact follows.lost rfl rfl
  | setLineEncoding baudRateBPS =>
      cases stepped
      exact ⟨follows.pending, follows.taken, follows.short, follows.free, follows.enabled,
        follows.known⟩
  | clearHalt =>
      cases stepped
      exact follows.lost rfl rfl
  | deviceState state =>
      cases stepped
      exact ⟨follows.pending, follows.taken, follows.short, follows.free, follows.enabled,
        follows.known⟩

/-- The state that a successful configuration leaves, between two passes of the main loop. -/
def Receiver.attached (receiver : Receiver) : Receiver :=
  { receiver.cleared with enabled := true, code := .idle }

theorem follows_attached (receiver : Receiver) : Follows receiver.attached .empty where
  pending := rfl
  taken := rfl
  short := Nat.zero_le _
  free := fun _ => rfl
  enabled := fun _ => rfl
  known := fun _ => trivial

/-- The packets that the host has sent. -/
def sentPackets (events : List ReceiveEvent) : List (List Byte) :=
  events.filterMap fun
    | .packet bytes => some bytes
    | _ => none

/-- The bytes that the application has been given. -/
def receivedBytes (events : List ReceiveEvent) : List Byte :=
  events.filterMap fun
    | .received byte => some byte
    | _ => none

/-- A byte is read that is not there, or a packet is freed with a byte left in it. -/
def ReceiveEvent.fault : ReceiveEvent → Bool
  | .stray _ | .dropped => true
  | _ => false

structure Feed.Accounted (events : List ReceiveEvent) (feed : Feed) : Prop where
  complete : feed.cleared = false →
    (sentPackets events).flatten = receivedBytes events ++ feed.taken.toList ++ feed.pending
  faultless : feed.cleared = false → ∀ event ∈ events, event.fault = false
  cleared : feed.cleared = true → .lost ∈ events

theorem Feed.Accounted.event {events : List ReceiveEvent} {feed next : Feed}
    {event : ReceiveEvent} (accounted : Feed.Accounted events feed)
    (accepted : feed.accept event = some next) : Feed.Accounted (events ++ [event]) next := by
  have earlier : feed.cleared = true → .lost ∈ events ++ [event] :=
    fun lost => List.mem_append_left _ (accounted.cleared lost)
  have complete := accounted.complete
  have faultless (sound : event.fault = false) (kept : feed.cleared = false) :
      ∀ other ∈ events ++ [event], other.fault = false := by
    intro other member
    rcases List.mem_append.mp member with old | new
    · exact accounted.faultless kept other old
    · exact List.mem_singleton.mp new ▸ sound
  cases event with
  | packet bytes =>
      simp only [Feed.accept, Option.ite_none_right_eq_some, Option.some.injEq] at accepted
      obtain ⟨⟨empty, _⟩, rfl⟩ := accepted
      refine ⟨fun kept => ?_, faultless rfl, earlier⟩
      have sent := congrArg (· ++ bytes) (complete kept)
      rw [empty, List.append_nil] at sent
      simpa [sentPackets, receivedBytes] using sent
  | read byte =>
      cases pending : feed.pending with
      | nil => simp [Feed.accept, pending] at accepted
      | cons first rest =>
          simp only [Feed.accept, pending, Option.ite_none_right_eq_some, Option.some.injEq]
            at accepted
          obtain ⟨⟨rfl, untaken⟩, rfl⟩ := accepted
          refine ⟨fun kept => ?_, faultless rfl, earlier⟩
          have sent := complete kept
          rw [untaken, pending] at sent
          simpa [sentPackets, receivedBytes] using sent
  | stray byte =>
      simp only [Feed.accept, Option.ite_none_right_eq_some, Option.some.injEq] at accepted
      obtain ⟨⟨_, cleared⟩, rfl⟩ := accepted
      exact ⟨fun kept => Bool.noConfusion (cleared.symm.trans kept),
        fun kept => Bool.noConfusion (cleared.symm.trans kept), earlier⟩
  | dropped =>
      simp only [Feed.accept, Option.ite_none_right_eq_some, Option.some.injEq] at accepted
      obtain ⟨cleared, rfl⟩ := accepted
      exact ⟨fun kept => Bool.noConfusion (cleared.symm.trans kept),
        fun kept => Bool.noConfusion (cleared.symm.trans kept), earlier⟩
  | received byte =>
      simp only [Feed.accept, Option.ite_none_right_eq_some, Option.some.injEq] at accepted
      obtain ⟨taken, rfl⟩ := accepted
      refine ⟨fun kept => ?_, faultless rfl, earlier⟩
      have sent := complete kept
      rw [taken] at sent
      simpa [sentPackets, receivedBytes] using sent
  | ended =>
      simp only [Feed.accept, Option.ite_none_right_eq_some, Option.some.injEq] at accepted
      obtain ⟨_, rfl⟩ := accepted
      refine ⟨fun kept => ?_, faultless rfl, earlier⟩
      simpa [sentPackets, receivedBytes] using complete kept
  | lost =>
      cases accepted
      exact ⟨fun kept => (by cases kept), fun kept => (by cases kept),
        fun _ => List.mem_append_right _ (List.mem_singleton_self _)⟩

/-- As long as the bank is never cleared, every byte of a packet is with the application, on
its way there or in the bank. -/
theorem received_of_kept (receiver : Receiver) (schedule : List ReceiveAction)
    (kept : .lost ∉ (receiving.run schedule receiver.attached).2) :
    (∀ event ∈ (receiving.run schedule receiver.attached).2, event.fault = false) ∧
      (sentPackets (receiving.run schedule receiver.attached).2).flatten =
        receivedBytes (receiving.run schedule receiver.attached).2 ++
          (receiving.run schedule receiver.attached).1.code.taken.toList ++
          (receiving.run schedule receiver.attached).1.bank := by
  obtain ⟨feed, replayed, follows⟩ :=
    System.Simulated.run receiving_simulated schedule (follows_attached receiver)
  have start : Feed.Accounted [] .empty :=
    ⟨fun _ => rfl, fun _ _ none => absurd none List.not_mem_nil, fun cleared => by cases cleared⟩
  have accounted : Feed.Accounted (receiving.run schedule receiver.attached).2 feed :=
    Specification.replay_invariant Feed.Accounted.event start replayed
  have uncleared : feed.cleared = false := by
    cases cleared : feed.cleared with
    | true => exact absurd (accounted.cleared cleared) kept
    | false => rfl
  refine ⟨accounted.faultless uncleared, ?_⟩
  rw [accounted.complete uncleared, follows.taken, follows.pending]

/-- From a configured endpoint on, every run of the receiving loop is one of the feed. As
long as the bank is never cleared, no byte is read that is not there, no packet is freed with
a byte left in it, and the bytes of the host's packets reach the application once each and in
order. -/
theorem cdcReceive_in_order (receiver : Receiver) (schedule : List ReceiveAction) :
    let run := receiving.run schedule receiver.attached
    (∃ feed, Feed.specification.replay .empty run.2 = some feed ∧ Follows run.1 feed) ∧
      (.lost ∉ run.2 →
        (∀ event ∈ run.2, event.fault = false) ∧
        (sentPackets run.2).flatten =
          receivedBytes run.2 ++ run.1.code.taken.toList ++ run.1.bank) :=
  ⟨System.Simulated.run receiving_simulated schedule (follows_attached receiver),
    received_of_kept receiver schedule⟩

/-- The second packet arrives while the first is being read: one call takes both. -/
example :
    let statements : Nat → List ReceiveAction := fun count => .replicate count (.main ⟨false, 0, 0⟩)
    let start : Receiver := ⟨.configured, 9600, .control, true, false, [], .idle⟩
    (receiving.run ([.outToken [1, 2], .poll] ++ statements 22 ++ [.outToken [3]] ++ statements 20)
      start).2 =
      [.packet [1, 2], .read 1, .received 1, .read 2, .packet [3], .received 2, .read 3,
        .received 3, .ended] := by
  decide +kernel

end MiniMiner.Lufa
