import MiniMiner.Lufa.CdcSend

/-! `Endpoint_Write_Control_PStream_LE` (`Template_Endpoint_Control_W.c`), which answers a
request with the data of a descriptor: at most `wLength` bytes, in packets of the size of
the control endpoint, up to and including the first short one. -/

set_option autoImplicit false

namespace MiniMiner.Lufa

open LittleEndian

/-- `FIXED_CONTROL_ENDPOINT_SIZE`. -/
def controlEndpointSize : Nat := 8

/-- What one pass of a loop finds in the registers and in `USB_DeviceState`. -/
structure Poll where
  deviceState : DeviceState
  setupReceived : Bool
  outReceived : Bool
  inReady : Bool
  deriving DecidableEq

/-- `ENDPOINT_RWCSTREAM_`, or a loop that goes on. -/
inductive StreamCode where
  | noError | deviceDisconnected | busSuspended | hostAborted | waiting
  deriving DecidableEq

/-- The second loop, which waits for the status stage. -/
def awaitStatus : List Poll → StreamCode
  | [] => .waiting
  | poll :: polls =>
      if poll.outReceived then .noError
      else if poll.deviceState = .unattached then .deviceDisconnected
      else if poll.deviceState = .suspended then .busSuspended
      else awaitStatus polls

/-- The first loop, with the bytes still to be written: the packets queued and the result
of the call. -/
def writePackets : List Poll → (data : List Byte) → (lastPacketFull : Bool) →
    List (List Byte) × StreamCode
  | polls, [], false => ([], awaitStatus polls)
  | [], _, _ => ([], .waiting)
  | poll :: polls, data, lastPacketFull =>
      if poll.deviceState = .unattached then ([], .deviceDisconnected)
      else if poll.deviceState = .suspended then ([], .busSuspended)
      else if poll.setupReceived then ([], .hostAborted)
      else if poll.outReceived then ([], awaitStatus polls)
      else if poll.inReady then
        let packet := data.take controlEndpointSize
        let rest := writePackets polls (data.drop controlEndpointSize)
          (packet.length = controlEndpointSize)
        (packet :: rest.1, rest.2)
      else writePackets polls data lastPacketFull

def writeControlStream (polls : List Poll) (data : List Byte) (wLength : BitVec 16) :
    List (List Byte) × StreamCode :=
  if wLength.toNat < data.length then writePackets polls (data.take wLength.toNat) false
  else if data = [] then
    let rest := writePackets polls [] false
    ([] :: rest.1, rest.2)
  else writePackets polls data false

/-- A transfer cut into packets of a fixed size, the last of them short. -/
inductive Packetized (size : Nat) : List Byte → List (List Byte) → Prop where
  | last {data : List Byte} (short : data.length < size) : Packetized size data [data]
  | full {packet data : List Byte} {packets : List (List Byte)} (whole : packet.length = size)
      (rest : Packetized size data packets) : Packetized size (packet ++ data) (packet :: packets)

theorem Packetized.flatten {size : Nat} {data : List Byte} {packets : List (List Byte)}
    (packetized : Packetized size data packets) : packets.flatten = data := by
  induction packetized with
  | last short => simp
  | full whole rest ih => rw [List.flatten_cons, ih]

theorem exists_packetized {size : Nat} (positive : 0 < size) (data : List Byte) :
    ∃ packets, Packetized size data packets := by
  by_cases short : data.length < size
  · exact ⟨[data], .last short⟩
  · obtain ⟨packets, rest⟩ := exists_packetized positive (data.drop size)
    have whole : (data.take size).length = size := by
      rw [List.length_take]
      omega
    have packetized := Packetized.full whole rest
    rw [List.take_append_drop] at packetized
    exact ⟨_, packetized⟩
termination_by data.length
decreasing_by
  rw [List.length_drop]
  omega

/-- Neither the host nor the bus ends the transfer. -/
def Poll.Quiet (poll : Poll) : Prop :=
  poll.deviceState ≠ .unattached ∧ poll.deviceState ≠ .suspended ∧ poll.setupReceived = false ∧
    poll.outReceived = false

instance (poll : Poll) : Decidable poll.Quiet :=
  inferInstanceAs (Decidable (_ ∧ _ ∧ _ ∧ _))

theorem writePackets_cons (poll : Poll) (polls : List Poll) {data : List Byte} {full : Bool}
    (more : data ≠ [] ∨ full = true) :
    (∃ code, ¬ poll.Quiet ∧ writePackets (poll :: polls) data full = ([], code)) ∨
      (poll.inReady = true ∧ writePackets (poll :: polls) data full =
        (data.take controlEndpointSize ::
          (writePackets polls (data.drop controlEndpointSize)
            ((data.take controlEndpointSize).length = controlEndpointSize)).1,
          (writePackets polls (data.drop controlEndpointSize)
            ((data.take controlEndpointSize).length = controlEndpointSize)).2)) ∨
      (poll.inReady = false ∧
        writePackets (poll :: polls) data full = writePackets polls data full) := by
  -- the two loop conditions in which something is left have the same body
  have unfolded : writePackets (poll :: polls) data full =
      if poll.deviceState = .unattached then ([], .deviceDisconnected)
      else if poll.deviceState = .suspended then ([], .busSuspended)
      else if poll.setupReceived then ([], .hostAborted)
      else if poll.outReceived then ([], awaitStatus polls)
      else if poll.inReady then
        (data.take controlEndpointSize ::
          (writePackets polls (data.drop controlEndpointSize)
            ((data.take controlEndpointSize).length = controlEndpointSize)).1,
          (writePackets polls (data.drop controlEndpointSize)
            ((data.take controlEndpointSize).length = controlEndpointSize)).2)
      else writePackets polls data full := by
    cases data with
    | nil =>
        cases full with
        | true => rfl
        | false => simp at more
    | cons byte data => cases full <;> rfl
  rw [unfolded]
  split
  · next unattached => exact .inl ⟨_, fun quiet => quiet.1 unattached, rfl⟩
  split
  · next suspended => exact .inl ⟨_, fun quiet => quiet.2.1 suspended, rfl⟩
  split
  · next setup => exact .inl ⟨_, fun quiet => by simp [quiet.2.2.1] at setup, rfl⟩
  split
  · next out => exact .inl ⟨_, fun quiet => by simp [quiet.2.2.2] at out, rfl⟩
  split
  · next ready => exact .inr (.inl ⟨ready, rfl⟩)
  · next busy => exact .inr (.inr ⟨by simpa using busy, rfl⟩)

theorem writePackets_done (polls : List Poll) : (writePackets polls [] false).1 = [] := by
  cases polls <;> rfl

/-- What is left after a packet, and whether the loop goes on. -/
theorem Packetized.next {size : Nat} {data : List Byte} {packets : List (List Byte)}
    (packetized : Packetized size data packets) :
    ∃ rest, packets = data.take size :: rest ∧
      ((rest = [] ∧ data.drop size = [] ∧ (data.take size).length ≠ size) ∨
        (Packetized size (data.drop size) rest ∧ (data.take size).length = size)) := by
  cases packetized with
  | last short =>
      refine ⟨[], ?_, .inl ⟨rfl, List.drop_of_length_le short.le, ?_⟩⟩
      · rw [List.take_of_length_le short.le]
      · rw [List.take_of_length_le short.le]
        exact short.ne
  | @full packet data packets whole rest =>
      refine ⟨packets, ?_, .inr ⟨?_, ?_⟩⟩
      · rw [List.take_left' whole]
      · rw [List.drop_left' whole]
        exact rest
      · rw [List.take_left' whole, whole]

theorem writePackets_initial {data : List Byte} {packets : List (List Byte)} {full : Bool}
    (packetized : Packetized controlEndpointSize data packets) (more : data ≠ [] ∨ full = true)
    (polls : List Poll) :
    (writePackets polls data full).1 <+: packets ∧
      ((∀ poll ∈ polls, poll.Quiet) → packets.length ≤ polls.countP Poll.inReady →
        (writePackets polls data full).1 = packets) := by
  induction polls generalizing data packets full with
  | nil =>
      obtain ⟨rest, rfl, _⟩ := packetized.next
      have nothing : (writePackets [] data full).1 = [] := by
        cases data <;> cases full <;> rfl
      refine ⟨nothing ▸ List.nil_prefix, fun _ enough => ?_⟩
      simp at enough
  | cons poll polls ih =>
      rcases writePackets_cons poll polls more with
        ⟨code, loud, stopped⟩ | ⟨ready, queued⟩ | ⟨busy, waited⟩
      · rw [stopped]
        refine ⟨List.nil_prefix, fun quiet => ?_⟩
        exact absurd (quiet poll List.mem_cons_self) loud
      · obtain ⟨rest, rfl, ⟨rfl, dropped, short⟩ | ⟨later, whole⟩⟩ := packetized.next
        · -- a short packet ends the loop
          have ended : (writePackets (poll :: polls) data full).1 =
              [data.take controlEndpointSize] := by
            rw [queued, dropped, decide_eq_false short, writePackets_done]
          rw [ended]
          exact ⟨List.prefix_refl _, fun _ _ => rfl⟩
        · -- a full one is followed by another, which may be empty
          rw [queued, decide_eq_true whole]
          obtain ⟨initial, complete⟩ := ih later (.inr rfl)
          refine ⟨List.cons_prefix_cons.mpr ⟨rfl, initial⟩, fun quiet enough => ?_⟩
          rw [List.countP_cons_of_pos ready, List.length_cons] at enough
          have rest := complete (fun poll member => quiet poll (List.mem_cons_of_mem _ member))
            (by omega)
          exact congrArg _ rest
      · rw [waited]
        obtain ⟨initial, complete⟩ := ih packetized more
        refine ⟨initial, fun quiet enough => ?_⟩
        rw [List.countP_cons_of_neg (by simp [busy])] at enough
        exact complete (fun poll member => quiet poll (List.mem_cons_of_mem _ member)) enough

/-- Whatever the loops find, the packets queued are the first ones of the answer cut to
`wLength` and into packets, of which only the last is short; and if the host keeps
collecting they are all of it. A request for no bytes of a descriptor gets no packet. -/
theorem controlStream_packets (polls : List Poll) (data : List Byte) (wLength : BitVec 16) :
    ∃ packets,
      (if wLength = 0 ∧ data ≠ [] then packets = []
        else Packetized controlEndpointSize (data.take wLength.toNat) packets) ∧
      packets.flatten = data.take wLength.toNat ∧
      (writeControlStream polls data wLength).1 <+: packets ∧
      ((∀ poll ∈ polls, poll.Quiet) → packets.length ≤ polls.countP Poll.inReady →
        (writeControlStream polls data wLength).1 = packets) := by
  have positive : 0 < controlEndpointSize := by decide
  unfold writeControlStream
  by_cases empty : data = []
  · subst empty
    refine ⟨[[]], ?_, by simp, ?_⟩
    · simp only [ne_eq, not_true_eq_false, and_false, if_false, List.take_nil]
      exact .last positive
    · simp only [List.length_nil, Nat.not_lt_zero, if_false, if_true, writePackets_done]
      exact ⟨List.prefix_refl _, fun _ _ => trivial⟩
  by_cases zero : wLength = 0
  · subst zero
    refine ⟨[], by simp [empty], by simp, ?_⟩
    have positiveLength := List.length_pos_iff.mpr empty
    have cut : (0 : BitVec 16).toNat < data.length := positiveLength
    have none : (writePackets polls (data.take (0 : BitVec 16).toNat) false).1 = [] :=
      writePackets_done polls
    rw [if_pos cut, none]
    exact ⟨List.nil_prefix, fun _ _ => rfl⟩
  · have wanted : wLength.toNat ≠ 0 := fun none => zero (BitVec.eq_of_toNat_eq none)
    obtain ⟨packets, packetized⟩ := exists_packetized positive (data.take wLength.toNat)
    have more : data.take wLength.toNat ≠ [] ∨ false = true := by
      left
      intro none
      rw [List.take_eq_nil_iff] at none
      exact none.elim wanted empty
    have asked : ¬ (wLength = 0 ∧ data ≠ []) := fun none => zero none.1
    refine ⟨packets, by rw [if_neg asked]; exact packetized, packetized.flatten, ?_⟩
    rw [if_neg empty]
    split
    · exact writePackets_initial packetized more polls
    · next fits =>
      rw [List.take_of_length_le (by omega)] at packetized more
      exact writePackets_initial packetized more polls

end MiniMiner.Lufa
