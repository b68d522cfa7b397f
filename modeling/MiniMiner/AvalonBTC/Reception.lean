import MiniMiner.AvalonBTC.CommandStream
import MiniMiner.Preemption.Triple

/-! Reception of the host's commands. As long as the received bytes fit into the
ring, the firmware is the reader of `Framing` on the drained chunks: the ring
holds the pending bytes, and each call executes at most one command. -/

set_option autoImplicit false

namespace MiniMiner.AvalonBTC

open LittleEndian Preemption Preemption.Program

theorem executed_silent {point : Point} (silent : point.silent = true) (before after : Device)
    (history : Past) : executed (⟨.main point, before, after⟩ :: history) = executed history := by
  cases point <;> first | rfl | cases silent

theorem removesReceived_silent {point : Point} (silent : point.silent = true) :
    point.removesReceived = false := by
  cases point <;> first | rfl | cases silent

theorem removesOnlyFilled_cons {transition : Transition Point Device Interrupt Call}
    {history : Past} (filled : RemovesOnlyFilled history)
    (step : ∀ point, transition.label = .main point → point.removesReceived = true →
      transition.source.buffer.count ≠ 0) : RemovesOnlyFilled (transition :: history) :=
  List.forall_mem_cons.mpr ⟨step, filled⟩

theorem removesOnlyFilled_silent {point : Point} (silent : point.silent = true)
    (before after : Device) {history : Past} (filled : RemovesOnlyFilled history) :
    RemovesOnlyFilled (⟨.main point, before, after⟩ :: history) := by
  refine removesOnlyFilled_cons filled ?_
  rintro _ ⟨⟩ removes
  rw [removesReceived_silent silent] at removes
  cases removes

def reception : Setting Point Device Interrupt Call where
  machine := firmware
  allowed := withinRing
  always := fun device history =>
    device.buffer.count.toNat ≤ 128 ∧ RemovesOnlyFilled history

/-- The chunks received, the commands executed and the bytes held in the ring. -/
structure Holding (received : List (List Byte)) (taken : List Token) (held : List Byte)
    (device : Device) (history : Past) : Prop where
  ring : device.buffer.contents = held
  calls : chunks history = received
  commands : executed history = taken
  filled : RemovesOnlyFilled history

section

variable {received : List (List Byte)} {taken : List Token} {held : List Byte}

theorem Holding.length_held {device : Device} {history : Past}
    (holding : Holding received taken held device history) :
    device.buffer.count.toNat = held.length := by
  rw [← holding.ring, RingBuffer.length_contents]

theorem Holding.silent {point : Point} {before after : Device} {history : Past}
    (holding : Holding received taken held before history) (silent : point.silent = true)
    (same : after.buffer = before.buffer) :
    Holding received taken held after (⟨.main point, before, after⟩ :: history) where
  ring := by rw [same, holding.ring]
  calls := holding.calls
  commands := by rw [executed_silent silent, holding.commands]
  filled := removesOnlyFilled_silent silent _ _ holding.filled

theorem Holding.interrupted {source : Interrupt} {before after : Device} {history : Past}
    (handled : handler source before = some after)
    (holding : Holding received taken held before history) :
    Holding received taken held after (⟨.interrupt source, before, after⟩ :: history) where
  ring := by
    rw [← holding.ring]
    rcases handler_eq_some handled with ⟨_, rfl⟩ | ⟨_, _, _, _, rfl⟩ <;> rfl
  calls := holding.calls
  commands := holding.commands
  filled := removesOnlyFilled_cons holding.filled (by rintro _ ⟨⟩)

theorem steady_holding (fits : held.length ≤ 128) :
    reception.Steady (Holding received taken held) where
  stable := fun _ _ _ _ handled _ holding => holding.interrupted handled
  always := fun _ _ holding => ⟨holding.length_held ▸ fits, holding.filled⟩

theorem keeps_holding {point : Point} {before after : Device} (silent : point.silent = true)
    (same : after.buffer = before.buffer) :
    reception.Keeps (Holding received taken held) point before after :=
  fun _ _ holding => holding.silent silent same

theorem coversCaller_holding (caller : Caller) :
    CoversCaller (reception.Keeps (Holding received taken held)) caller :=
  coversCaller_of_calm (fun _ _ _ calm => keeps_holding calm.silent calm.buffer) caller

theorem Holding.first_held {byte : Byte} {rest : List Byte} {device : Device} {history : Past}
    (holding : Holding received taken (byte :: rest) device history) :
    device.buffer.count ≠ 0 ∧ device.buffer.peek = byte ∧
      device.buffer.remove.contents = rest := by
  have nonempty : device.buffer.count ≠ 0 := by
    intro zero
    have empty := RingBuffer.contents_eq_nil_iff.mpr zero
    rw [holding.ring] at empty
    cases empty
  have split := device.buffer.contents_eq_peek_cons nonempty
  rw [holding.ring] at split
  injection split with first others
  exact ⟨nonempty, first.symm, others.symm⟩

theorem executed_removeCommand {command : Command} (notW : command ≠ .W)
    (before after : Device) (history : Past) :
    executed (⟨.main (.removeCommand command), before, after⟩ :: history) =
      executed history ++ [.single command.toByte] := by
  cases command <;> first | rfl | exact absurd rfl notW

theorem removeCommand_triple {command : Command} {rest : List Byte} (notW : command ≠ .W)
    (fits : rest.length < 128) :
    reception.Triple (Holding received taken (command.toByte :: rest)) (removeCommand command)
      fun _ => Holding received (taken ++ [.single command.toByte]) rest := by
  refine .assign (steady_holding (Nat.succ_le_of_lt fits)) (steady_holding (by omega)) ?_
  intro device history holding _
  obtain ⟨nonempty, _, others⟩ := holding.first_held
  exact {
    ring := others
    calls := holding.calls
    commands := by rw [executed_removeCommand notW, holding.commands]
    filled := removesOnlyFilled_cons holding.filled fun _ _ _ => nonempty }

/-- Every command but `'W'` is done with the ring once its byte is removed. -/
theorem single_triple {command : Command} {rest : List Byte} {remaining : Firmware Unit}
    (notW : command ≠ .W) (fits : rest.length < 128)
    (quiet : remaining.Within (reception.Keeps
      (Holding received (taken ++ [.single command.toByte]) rest))) :
    reception.Triple (Holding received taken (command.toByte :: rest))
      (removeCommand command >>= fun _ => remaining)
      fun _ => Holding received (taken ++ [.single command.toByte]) rest :=
  (removeCommand_triple notW fits).seq fun _ => .kept (steady_holding (by omega)) quiet

theorem dispatch_single_triple {command : Command} {rest : List Byte} (count : BitVec 16)
    (notW : command ≠ .W) (fits : rest.length < 128) :
    reception.Triple (Holding received taken (command.toByte :: rest)) (dispatch count command)
      fun _ => Holding received (taken ++ [.single command.toByte]) rest := by
  have covers := @coversCaller_holding received (taken ++ [.single command.toByte]) rest
  cases command with
  | L => exact single_triple notW fits (.assign fun _ => keeps_holding rfl rfl)
  | R => exact single_triple notW fits (commandR_rest_within (covers _))
  | I => exact single_triple notW fits (sendCmdReply_within (covers _).reply _ _ _)
  | A => exact single_triple notW fits (commandA_rest_within (covers _))
  | S => exact single_triple notW fits (sendState_within (covers _).reply _)
  | W => exact absurd rfl notW
  | other byte => exact removeCommand_triple notW fits

/-- Within a `'W'`, the bytes already taken for its payload. -/
def Taking (received : List (List Byte)) (taken : List Token) (held bytes : List Byte)
    (device : Device) (history : Past) : Prop :=
  Holding received taken held device history ∧ payload history = bytes

theorem steady_taking {bytes : List Byte} (fits : held.length ≤ 128) :
    reception.Steady (Taking received taken held bytes) where
  stable := fun _ _ _ _ handled _ taking => ⟨taking.1.interrupted handled, taking.2⟩
  always := fun _ _ taking => (steady_holding fits).always _ _ taking.1

theorem removeW_triple {rest : List Byte} (fits : rest.length < 128) :
    reception.Triple (Holding received taken (Command.W.toByte :: rest)) (removeCommand .W)
      fun _ => Taking received taken rest [] := by
  refine .assign (steady_holding (Nat.succ_le_of_lt fits)) (steady_taking (by omega)) ?_
  intro device history holding _
  obtain ⟨nonempty, _, others⟩ := holding.first_held
  exact ⟨{
    ring := others
    calls := holding.calls
    commands := holding.commands
    filled := removesOnlyFilled_cons holding.filled fun _ _ _ => nonempty }, rfl⟩

/-- One of the two fill loops: each pass takes the next byte from the ring. -/
theorem fill_triple {Item : Type} {point : Item → Point} {effect : Item → Device → Device}
    {rest : List Byte}
    (removes : ∀ item device, (effect item device).buffer = device.buffer.remove)
    (noted : ∀ item before after history,
      payload (⟨.main (point item), before, after⟩ :: history) =
        payload history ++ [before.buffer.peek])
    (silent : ∀ item before after history,
      executed (⟨.main (point item), before, after⟩ :: history) = executed history)
    (items : List Item) {bytes : List Byte} (earlier : List Byte)
    (size : bytes.length = items.length)
    (fits : (bytes ++ rest).length ≤ 128) :
    reception.Triple (Taking received taken (bytes ++ rest) earlier)
      (each items fun item => assign (point item) (effect item))
      fun _ => Taking received taken rest (earlier ++ bytes) := by
  induction items generalizing bytes earlier with
  | nil =>
      obtain rfl := List.length_eq_zero_iff.mp size
      rw [List.append_nil]
      exact .done (steady_taking fits)
  | cons item items ih =>
      obtain ⟨byte, bytes, rfl⟩ := List.exists_cons_of_length_eq_add_one size
      have shorter : (bytes ++ rest).length ≤ 128 := Nat.le_of_succ_le fits
      have first : reception.Triple (Taking received taken (byte :: bytes ++ rest) earlier)
          (assign (point item) (effect item))
          fun _ => Taking received taken (bytes ++ rest) (earlier ++ [byte]) := by
        refine .assign (steady_taking fits) (steady_taking shorter) ?_
        rintro device history ⟨holding, taking⟩ _
        obtain ⟨nonempty, peeked, others⟩ := holding.first_held
        refine ⟨{
          ring := (congrArg RingBuffer.contents (removes item device)).trans others
          calls := holding.calls
          commands := by rw [silent, holding.commands]
          filled := removesOnlyFilled_cons holding.filled fun _ _ _ => nonempty }, ?_⟩
        rw [noted, taking, peeked]
      have others := ih (earlier ++ [byte]) (Nat.succ.inj size) shorter
      rw [List.append_assoc] at others
      exact first.seq fun _ => others

theorem fillWork_triple {midstate data rest : List Byte} (midstateSize : midstate.length = 32)
    (dataSize : data.length = 12) (fits : (midstate ++ (data ++ rest)).length ≤ 128) :
    reception.Triple (Taking received taken (midstate ++ (data ++ rest)) []) fillWork
      fun _ => Taking received taken rest (midstate ++ data) := by
  have shorter : (data ++ rest).length ≤ 128 := by
    rw [List.length_append] at fits
    omega
  refine .seq (fill_triple ?_ ?_ ?_ _ [] ?_ fits) fun _ =>
    fill_triple ?_ ?_ ?_ _ midstate ?_ shorter
  case refine_4 => rw [List.length_finRange, midstateSize]
  case refine_8 => rw [List.length_finRange, dataSize]
  all_goals intros; rfl

theorem precalc_triple {bytes : List Byte} {effect : Device → Device}
    (same : ∀ device, (effect device).buffer = device.buffer) (fits : held.length ≤ 128) :
    reception.Triple (Taking received taken held bytes) (assign .precalc effect)
      fun _ => Holding received (taken ++ [.work bytes]) held := by
  refine .assign (steady_taking fits) (steady_holding fits) ?_
  rintro device history ⟨holding, taking⟩ _
  exact {
    ring := by rw [same, holding.ring]
    calls := holding.calls
    commands := by simp only [executed, holding.commands, taking]
    filled := removesOnlyFilled_cons holding.filled (by rintro _ ⟨⟩ ⟨⟩) }

theorem commandW_triple {bytes rest : List Byte} (size : bytes.length = 44)
    (fits : (bytes ++ rest).length < 128) :
    reception.Triple (Holding received taken (Command.W.toByte :: (bytes ++ rest))) commandW
      fun _ => Holding received (taken ++ [.work bytes]) rest := by
  obtain ⟨midstate, data, rfl, midstateSize, dataSize⟩ :
      ∃ midstate data, bytes = midstate ++ data ∧ midstate.length = 32 ∧ data.length = 12 :=
    ⟨bytes.take 32, bytes.drop 32, (List.take_append_drop 32 bytes).symm,
      by simp [size], by simp [size]⟩
  rw [List.append_assoc] at fits ⊢
  have shorter : rest.length ≤ 128 := by
    simp only [List.length_append] at fits
    omega
  refine (removeW_triple fits).seq fun _ =>
    (fillWork_triple midstateSize dataSize (by omega)).seq fun _ =>
    .seq (precalc_triple ?_ shorter) fun _ =>
    .kept (steady_holding shorter) (startWork_within (coversCaller_holding _)
      (fun _ => keeps_holding rfl rfl) (fun _ _ => keeps_holding rfl rfl)
      fun _ _ => keeps_holding rfl rfl)
  intro device
  rfl

/-- `serialProcess` reads the count and the first byte held, then dispatches. -/
theorem serialProcess_triple_of_dispatch {post : Device → Past → Prop}
    (fits : held.length ≤ 128) (steady : reception.Steady post)
    (empty : held = [] → ∀ device history, Holding received taken held device history →
      post device history)
    (busy : ∀ byte rest, held = byte :: rest → ∀ count : BitVec 16, count.toNat = held.length →
      reception.Triple (Holding received taken held) (dispatch count (Command.ofByte byte))
        fun _ => post) :
    reception.Triple (Holding received taken held) serialProcess fun _ => post := by
  refine .read (fun count => count.toNat = held.length) (steady_holding fits)
    (fun _ => keeps_holding rfl rfl) (fun _ _ holding => holding.length_held)
    fun count counted => ?_
  refine .onlyIf steady (fun nonempty => ?_) fun zero => ?_
  · cases held with
    | nil => exact absurd (BitVec.eq_of_toNat_eq counted) nonempty
    | cons byte rest =>
        refine .read (fun cmd => cmd = byte) (steady_holding fits)
          (fun _ => keeps_holding rfl rfl) (fun _ _ holding => holding.first_held.2.1)
          fun cmd first => ?_
        rw [first]
        exact busy byte rest rfl count counted
  · apply empty
    rw [not_not.mp zero] at counted
    exact List.length_eq_zero_iff.mp counted.symm

theorem serialProcess_none_triple (missing : nextToken held = none) (fits : held.length ≤ 128) :
    reception.Triple (Holding received taken held) serialProcess
      fun _ => Holding received taken held := by
  refine serialProcess_triple_of_dispatch fits (steady_holding fits)
    (fun _ _ _ holding => holding) ?_
  rintro byte rest rfl count counted
  rcases nextToken_eq_none_iff.mp missing with ⟨⟨⟩⟩ | ⟨first, short⟩
  obtain rfl : byte = Command.W.toByte := Option.some.inj first
  -- a `'W'` whose payload has not arrived stays in the ring
  refine .onlyIf (steady_holding fits) (fun enough => ?_) fun _ _ _ holding => holding
  have more : 44 < count.toNat := enough
  omega

theorem serialProcess_some_triple {token : Token} {rest : List Byte}
    (found : nextToken held = some (token, rest)) (fits : held.length ≤ 128) :
    reception.Triple (Holding received taken held) serialProcess
      fun _ => Holding received (taken ++ [token]) rest := by
  have shorter : rest.length < held.length := commands.length_lt_of_next found
  have bounded : rest.length < 128 := by omega
  refine serialProcess_triple_of_dispatch fits (steady_holding (Nat.le_of_lt bounded)) ?_ ?_
  · rintro rfl
    cases found
  · intro byte others split count counted
    rcases nextToken_eq_some found with ⟨_, notW, rfl, rfl⟩ | ⟨bytes, size, rfl, rfl⟩
    · obtain ⟨rfl, rfl⟩ := List.cons.inj split
      have dispatched := @dispatch_single_triple received taken _ _ count
        (Command.ofByte_ne_W notW) bounded
      rwa [Command.toByte_ofByte] at dispatched
    · obtain ⟨rfl, rfl⟩ := List.cons.inj split
      have enough : count > 44 := by
        change 44 < count.toNat
        simp only [List.length_cons, List.length_append] at counted
        omega
      rw [List.length_cons] at fits
      refine .onlyIf (steady_holding (Nat.le_of_lt bounded))
        (fun _ => commandW_triple size fits) ?_
      intro short
      exact absurd enough short

/-- The loop of `appUsbDataReceived` over the bytes of the endpoint. -/
theorem receive_triple (bytes : List Byte) (fits : (held ++ bytes).length ≤ 128) :
    reception.Triple (Holding received taken held)
      (each bytes fun byte =>
        assign .receive fun device => { device with buffer := device.buffer.insert byte })
      fun _ => Holding received taken (held ++ bytes) := by
  induction bytes generalizing held with
  | nil =>
      rw [List.append_nil] at fits ⊢
      exact .done (steady_holding fits)
  | cons byte bytes ih =>
      rw [List.append_cons] at fits ⊢
      have room : held.length < 128 := by
        simp only [List.length_append, List.length_singleton] at fits
        omega
      have stored : (held ++ [byte]).length ≤ 128 := by
        rw [List.length_append]
        exact room
      refine .seq ?_ fun _ => ih fits
      refine .assign (steady_holding (Nat.le_of_lt room)) (steady_holding stored) ?_
      intro device history holding _
      exact {
        ring := by
          rw [← holding.ring]
          exact device.buffer.contents_insert byte (by rw [holding.length_held]; exact room)
        calls := holding.calls
        commands := holding.commands
        filled := removesOnlyFilled_silent rfl _ _ holding.filled }

end

/-- Between two calls the firmware has done what the reader does with the same
chunks. -/
def Received (device : Device) (history : Past) : Prop :=
  (commands.read (chunks history)).pending.length ≤ 128 ∧
    Holding (chunks history) (commands.read (chunks history)).executed
      (commands.read (chunks history)).pending device history

theorem steady_received : reception.Steady Received where
  stable := fun _ _ _ _ handled _ holds => ⟨holds.1, holds.2.interrupted handled⟩
  always := fun _ _ holds => (steady_holding holds.1).always _ _ holds.2

theorem Received.of_holding {received : List (List Byte)} {device : Device} {history : Past}
    (fits : (commands.read received).pending.length ≤ 128)
    (holding : Holding received (commands.read received).executed
      (commands.read received).pending device history) : Received device history := by
  obtain rfl := holding.calls
  exact ⟨fits, holding⟩

theorem appUsbDataReceived_triple {received : List (List Byte)} (bytes : List Byte)
    (fits : ((commands.read received).pending ++ bytes).length ≤ 128) :
    reception.Triple
      (Holding (received ++ [bytes]) (commands.read received).executed
        (commands.read received).pending)
      (appUsbDataReceived bytes) fun _ => Received := by
  have processed : reception.Triple
      (Holding (received ++ [bytes]) (commands.read received).executed
        ((commands.read received).pending ++ bytes)) serialProcess
      fun _ => Holding (received ++ [bytes]) (commands.read (received ++ [bytes])).executed
        (commands.read (received ++ [bytes])).pending := by
    rw [commands.read_append]
    unfold Framing.receive
    split
    · next missing => exact serialProcess_none_triple missing fits
    · next token rest found => exact serialProcess_some_triple found fits
  have shorter : (commands.read (received ++ [bytes])).pending.length ≤ 128 := by
    rw [commands.read_append]
    exact Nat.le_trans (commands.length_pending_receive_le _ _) fits
  exact (receive_triple bytes fits).seq fun _ =>
    processed.conseq (fun _ _ holding => holding) fun _ _ _ => Received.of_holding shorter

theorem keeps_received {point : Point} {before after : Device} (silent : point.silent = true)
    (same : after.buffer = before.buffer) : reception.Keeps Received point before after :=
  fun _ _ holds => ⟨holds.1, holds.2.silent silent same⟩

theorem received_calls (entry : Call) (device : Device) (history : Past)
    (holds : Received device history) (admitted : withinRing (.call entry) device history) :
    reception.Ensures (fun _ => Received) (body entry) device
      (⟨.call entry, device, device⟩ :: history) := by
  obtain ⟨fits, holding⟩ := holds
  have filled : RemovesOnlyFilled (⟨.call entry, device, device⟩ :: history) :=
    removesOnlyFilled_cons holding.filled (by rintro _ ⟨⟩)
  cases entry with
  | usbData received =>
      have room : device.buffer.count.toNat + received.length ≤ 128 := admitted
      rw [holding.length_held, ← List.length_append] at room
      exact appUsbDataReceived_triple received room _ _ { holding with calls := rfl, filled }
  | flush results =>
      have flushed := flushReplies_within (coversFlush_of_calm
        fun _ _ _ calm => keeps_received calm.silent calm.buffer) results
      exact Setting.Triple.kept steady_received flushed _ _ ⟨fits, { holding with filled }⟩
  | service =>
      have served := appService_within (coversService_of_calm
        fun _ _ _ calm => keeps_received calm.silent calm.buffer)
      exact Setting.Triple.kept steady_received served _ _ ⟨fits, { holding with filled }⟩

theorem received_start {start : Device} (empty : start.buffer.count = 0) :
    Received start [] := by
  refine ⟨Nat.zero_le _, RingBuffer.contents_eq_nil_iff.mpr empty, rfl, rfl, ?_⟩
  intro transition member
  cases member

theorem reception_always {start : Device} (empty : start.buffer.count = 0) (choices : Choices)
    (fits : Meets withinRing (firmware.run choices (.start start)).history) :
    (firmware.run choices (.start start)).state.buffer.count.toNat ≤ 128 ∧
      RemovesOnlyFilled (firmware.run choices (.start start)).history :=
  reception.run_always steady_received (received_start empty) received_calls choices fits

theorem received_of_idle {start : Device} (empty : start.buffer.count = 0) (choices : Choices)
    (fits : Meets withinRing (firmware.run choices (.start start)).history)
    (idle : (firmware.run choices (.start start)).idle = true) :
    Received (firmware.run choices (.start start)).state
      (firmware.run choices (.start start)).history :=
  reception.run_between steady_received (received_start empty) received_calls choices fits idle

/-- Chunks that fit into what a reader of one command a chunk has left. -/
private def fitting : Step → Device → Past → Prop
  | .call (.usbData received), _, history => commands.Fits 128 (chunks history ++ [received])
  | _, _, _ => True

private theorem meets_fitting {history : Past} (fits : commands.Fits 128 (chunks history)) :
    Meets fitting history := by
  induction history with
  | nil => trivial
  | cons transition earlier ih =>
      obtain ⟨label, source, target⟩ := transition
      match label with
      | .call (.usbData received) => exact ⟨fits, ih (Framing.Fits.of_append fits)⟩
      | .call (.flush results) => exact ⟨trivial, ih fits⟩
      | .call .service => exact ⟨trivial, ih fits⟩
      | .main point => exact ⟨trivial, ih fits⟩
      | .interrupt interrupt => exact ⟨trivial, ih fits⟩

/-- Whether the ring is overrun depends on the chunks alone. -/
theorem meets_withinRing_of_fits {start : Device} (empty : start.buffer.count = 0)
    (choices : Choices)
    (fits : commands.Fits 128 (chunks (firmware.run choices (.start start)).history)) :
    Meets withinRing (firmware.run choices (.start start)).history := by
  refine reception.run_meets steady_received (received_start empty) received_calls
    (fun _ _ _ _ _ => trivial) (fun _ _ _ _ _ => trivial) ?_ choices (meets_fitting fits)
  intro entry device history holds condition
  cases entry with
  | usbData received =>
      have room := Framing.Fits.last condition
      rw [List.length_append, ← holds.2.length_held] at room
      exact room
  | flush results => trivial
  | service => trivial

end MiniMiner.AvalonBTC
