import MiniMiner.AvalonBTC.Line
import MiniMiner.AvalonBTC.Reception
import MiniMiner.Bfgminer.Driver

/-! From the host's work to the wires: the driver's message, however it is cut
into packets and wherever it lies in the ring, makes the firmware send the words
that the ASIC expects. -/

set_option autoImplicit false

namespace MiniMiner.AvalonBTC

open LittleEndian Preemption

section

variable {packets received : List (List Byte)} {bytes : List Byte}
  (size : bytes.length = 44) (message : packets.flatten = Command.W.toByte :: bytes)
include size message

theorem nextToken_unfinished (nonempty : ∀ packet ∈ packets, packet ≠ [])
    (initial : received <+: packets) (unfinished : received ≠ packets) :
    nextToken received.flatten = none := by
  obtain ⟨rest, rfl⟩ := initial
  rw [nextToken_eq_none_iff]
  rw [List.flatten_append] at message
  cases rest with
  | nil => exact absurd (List.append_nil received).symm unfinished
  | cons packet rest =>
      have positive := List.length_pos_iff.mpr (nonempty packet (by simp))
      have total := congrArg List.length message
      rw [List.length_append, List.flatten_cons, List.length_append, List.length_cons, size]
        at total
      cases first : received.flatten with
      | nil => exact .inl rfl
      | cons byte others =>
          rw [first, List.cons_append] at message
          injection message with isW
          rw [first, List.length_cons] at total
          refine .inr ⟨by rw [isW]; rfl, ?_⟩
          rw [List.length_cons]
          omega

/-- The message is executed with its last packet and not before. -/
theorem read_message (nonempty : ∀ packet ∈ packets, packet ≠ [])
    (initial : received <+: packets) :
    (commands.read received).executed = if received = packets then [.work bytes] else [] := by
  split
  · next complete =>
    subst complete
    rcases List.eq_nil_or_concat received with rfl | ⟨earlier, last, rfl⟩
    · cases message
    · rw [List.concat_eq_append] at *
      have before : earlier <+: earlier ++ [last] := List.prefix_append _ _
      have missing := nextToken_unfinished size message nonempty before (by simp)
      rw [List.flatten_append, List.flatten_singleton] at message
      have found : commands.next (earlier.flatten ++ last) = some (.work bytes, []) := by
        have whole := nextToken_work size []
        rw [List.append_nil] at whole
        rw [message]
        exact whole
      rw [commands.read_append, Framing.read_of_next_eq_none missing, Framing.receive]
      simp only [found, List.nil_append]
  · next unfinished =>
    have missing := nextToken_unfinished size message nonempty initial unfinished
    rw [Framing.read_of_next_eq_none missing]

end

/-- A task filled from the two parts of a message holds their words. -/
theorem WorkUnit.Holds.words {task : WorkUnit} {work : Bfgminer.Work}
    (holds : task.Holds (work.midstate.toList ++ work.data.toList)) :
    task.midstate.toList = littleEndianWords work.midstate.toList ∧
      task.data.toList = littleEndianWords work.data.toList := by
  obtain ⟨midstate, data⟩ := List.append_inj holds.stored (by simp)
  rw [← midstate, ← data, littleEndianWords_storedBytes, littleEndianWords_storedBytes]
  exact ⟨rfl, rfl⟩

theorem length_lineWords (task : WorkUnit) : task.lineWords.length = 20 := by
  simp [WorkUnit.lineWords]

/-- Port values that decode to the twenty words of a task: the clock configuration and
the data, the midstate and the precalculated words that go with them. -/
def CarriesTask (code : List Byte) (midstate : Vector Word 8) (data : Vector Word 3) : Prop :=
  ∃ bits, dataWires.decode code = some bits ∧ bits.length = 20 * 32 ∧
    ∀ old, wordsOf 32 20 bits =
      WorkUnit.lineWords ⟨midstate, data, asicPrecalc midstate data old⟩

theorem decode_lineCode (task : WorkUnit) (portb : Byte) :
    dataWires.decode (lineCode (portb &&& ~~~dataWires.both) task) =
      some (lineBits task.lineWords) :=
  TwoWire.decode_encode (dataWires.and_not_both_quiet portb) _

theorem wordsOf_lineBits (task : WorkUnit) :
    wordsOf 32 20 (lineBits task.lineWords) = task.lineWords := by
  rw [← length_lineWords task, lineBits, wordsOf_flatMap_bitsOf]

theorem WorkUnit.Holds.carriesTask {task : WorkUnit} {payload : List Byte}
    (holds : task.Holds payload) (portb : Byte) :
    CarriesTask (lineCode (portb &&& ~~~dataWires.both) task) task.midstate task.data := by
  refine ⟨_, decode_lineCode task portb, by simp [lineBits, WorkUnit.lineWords], fun old => ?_⟩
  rw [wordsOf_lineBits, ← holds.precalc old]

/-- For every work of the host, every cut of its message into packets, every
position of the empty receive ring and every value of the data port, whatever
interrupts and other calls come between: nothing is sent before the last packet;
then exactly one `'W'` is executed, the port values written are pulses over
unchanged other bits, and they decode to the twenty words of the task. -/
theorem work_sent_on_line (start : Device) (empty : start.buffer.count = 0)
    (work : Bfgminer.Work) (packets : List (List Byte))
    (nonempty : ∀ packet ∈ packets, packet ≠ []) (message : packets.flatten = work.sendbuf)
    (choices : Choices)
    (initial : chunks (firmware.run choices (.start start)).history <+: packets)
    (idle : (firmware.run choices (.start start)).idle = true) :
    (chunks (firmware.run choices (.start start)).history ≠ packets →
      executed (firmware.run choices (.start start)).history = [] ∧
      lineWrites (firmware.run choices (.start start)).history = []) ∧
    (chunks (firmware.run choices (.start start)).history = packets →
      executed (firmware.run choices (.start start)).history =
        [.work (work.midstate.toList ++ work.data.toList)] ∧
      (∀ value ∈ lineWrites (firmware.run choices (.start start)).history,
        value &&& ~~~(dataN ||| dataP) = start.portb &&& ~~~(dataN ||| dataP)) ∧
      ∃ (M : Vector Word 8) (D : Vector Word 3) (bits : List Bool),
        M.toList = littleEndianWords work.midstate.toList ∧
        D.toList = littleEndianWords work.data.toList ∧
        dataWires.decode (lineWrites (firmware.run choices (.start start)).history) =
          some bits ∧
        bits.length = 20 * 32 ∧
        ∀ old, wordsOf 32 20 bits =
          clockConfig.toList ++ D.toList ++ (asicPrecalc M D old).toList.tail ++ M.toList ++
            [(asicPrecalc M D old).get 0, 0]) := by
  have size : (work.midstate.toList ++ work.data.toList).length = 44 := by simp
  have short : (chunks (firmware.run choices (.start start)).history).flatten.length ≤ 128 := by
    obtain ⟨rest, split⟩ := initial
    have total := congrArg List.length message
    rw [← split, List.flatten_append, List.length_append, Bfgminer.Work.sendbuf,
      List.length_cons, size] at total
    omega
  have fits := meets_withinRing_of_fits empty choices (Framing.fits_of_length_le short)
  obtain ⟨_, holding⟩ := received_of_idle empty choices fits idle
  have commands := holding.commands
  rw [read_message size message nonempty initial] at commands
  obtain ⟨tasks, payloads, held, lined⟩ := onLine_of_idle start choices idle
  have loads := lined.loads
  rw [works, commands] at loads
  refine ⟨fun unfinished => ?_, fun complete => ?_⟩
  · rw [if_neg unfinished] at commands loads
    subst loads
    cases held
    exact ⟨commands, lined.writes⟩
  · rw [if_pos complete] at commands loads
    subst loads
    obtain ⟨task, _, holds, rest, rfl⟩ := List.forall₂_cons_right_iff.mp held
    cases rest
    have writes : lineWrites (firmware.run choices (.start start)).history =
        lineCode (start.portb &&& ~~~dataWires.both) task := by
      rw [lined.writes, List.flatMap_singleton]
    obtain ⟨bits, decoded, length, words⟩ := holds.carriesTask start.portb
    refine ⟨commands, fun value member => ?_, task.midstate, task.data, bits, holds.words.1,
      holds.words.2, by rw [writes, decoded], length, words⟩
    rw [writes] at member
    exact TwoWire.mem_encode_and_not_both (dataWires.and_not_both_quiet start.portb) member

/-- A work in three packets, received at the end of the storage array, with
another value of the data port and an interrupt on the way. -/
def wrappedStart : Device :=
  { boot with
    buffer := { data := boot.buffer.data, inPos := 120, outPos := 120, count := 0
                linked := by decide, fits := receiveRing_fits }
    portb := 0xA5 }

def sampleWork : Bfgminer.Work where
  midstate := .replicate 32 0x57
  data := .replicate 12 0x53

def samplePackets : List (List Byte) :=
  [.replicate 16 0x57, .replicate 16 0x57, 0x57 :: .replicate 12 0x53]

def sampleChoices : Choices :=
  [.call (.usbData (.replicate 16 0x57))] ++ .replicate 20 .main ++ [.interrupt .tick] ++
    [.call (.usbData (.replicate 16 0x57))] ++ .replicate 20 .main ++
    [.call (.usbData (0x57 :: .replicate 12 0x53))] ++ .replicate 1400 .main

set_option maxRecDepth 10000 in
theorem work_sent_on_line_wrapped :
    executed (firmware.run sampleChoices (.start wrappedStart)).history =
      [.work (sampleWork.midstate.toList ++ sampleWork.data.toList)] := by
  have run : (firmware.run sampleChoices (.start wrappedStart)).idle = true ∧
      chunks (firmware.run sampleChoices (.start wrappedStart)).history = samplePackets := by
    decide +kernel
  obtain ⟨idle, complete⟩ := run
  have initial : chunks (firmware.run sampleChoices (.start wrappedStart)).history <+:
      samplePackets := complete ▸ List.prefix_refl _
  have sent := work_sent_on_line wrappedStart (by decide +kernel) sampleWork samplePackets
    (by decide +kernel) (by decide +kernel) sampleChoices initial idle
  exact (sent.2 complete).1

end MiniMiner.AvalonBTC
