import MiniMiner.AvalonBTC.Reception
import MiniMiner.AvalonBTC.Worktask

/-! What the host can rely on when it sends commands: which commands have been
executed after a run, when none is left waiting, and when the receive ring is
not overrun. -/

set_option autoImplicit false

namespace MiniMiner.AvalonBTC

open LittleEndian Preemption

theorem boot_empty : boot.buffer.count = 0 := rfl

/-- Parsing does not depend on how the stream is cut into chunks: the commands
executed are the first ones of the whole stream, at most one for each call, the
ring holds the rest of the stream, the task holds the payload of the latest
`'W'`, and no byte is removed from an empty ring. -/
theorem executed_eq_take_tokens (choices : Choices)
    (fits : Meets withinRing (after choices).history) :
    RemovesOnlyFilled (after choices).history ∧
      Stored (after choices).state (after choices).history ∧
      ((after choices).idle = true →
        ∃ count ≤ (chunks (after choices).history).length,
          executed (after choices).history =
            (commands.tokens (chunks (after choices).history).flatten).take count ∧
          (chunks (after choices).history).flatten =
            (executed (after choices).history).flatMap Token.bytes ++
              (after choices).state.buffer.contents) := by
  refine ⟨(reception_always boot_empty choices fits).2, stored_run boot choices, fun idle => ?_⟩
  obtain ⟨_, holding⟩ := received_of_idle boot_empty choices fits idle
  have takes := commands.takes_read (chunks (after choices).history)
  rw [after, holding.commands, holding.ring]
  refine ⟨_, commands.length_executed_read_le _, ?_, takes.stream_eq⟩
  rw [← after, takes.tokens_eq, List.take_left]

/-- A `'W'` whose payload arrives in three packets, behind a status request. -/
def splitWork : Choices :=
  [.call (.usbData [0x53, 0x57, 0x41])] ++ .replicate 30 .main ++
    [.call (.usbData (.replicate 16 0x52))] ++ .replicate 30 .main ++
    [.call (.usbData (.replicate 27 0x57))] ++ .replicate 1500 .main

set_option maxRecDepth 10000 in
theorem executed_eq_take_tokens_splitWork :
    (after splitWork).idle = true ∧
      ∃ count ≤ 3, executed (after splitWork).history =
        (commands.tokens (chunks (after splitWork).history).flatten).take count := by
  have idle : (after splitWork).idle = true := by decide +kernel
  have three : (chunks (after splitWork).history).length = 3 := by decide +kernel
  obtain ⟨_, _, result⟩ := executed_eq_take_tokens splitWork (by decide +kernel)
  obtain ⟨count, bound, tokens, _⟩ := result idle
  exact ⟨idle, count, three ▸ bound, tokens⟩

theorem length_le_of_nextToken_eq_none {stream : List Byte} (missing : nextToken stream = none) :
    stream.length ≤ 44 := by
  rcases nextToken_eq_none_iff.mp missing with rfl | ⟨_, short⟩
  · exact Nat.zero_le _
  · exact short

theorem Token.length_bytes_le {stream rest : List Byte} {token : Token}
    (found : nextToken stream = some (token, rest)) : token.bytes.length ≤ 45 := by
  rcases nextToken_eq_some found with ⟨_, _, rfl, _⟩ | ⟨payload, size, rfl, _⟩
  · exact Nat.le_add_left 1 44
  · exact Nat.le_of_eq (congrArg (· + 1) size)

/-- A host that completes at most one command with each chunk never overruns the ring. -/
theorem fits_of_oneAtATime {received : List (List Byte)}
    (single : commands.OneAtATime received) : commands.Fits 128 received := by
  intro position inside
  have drained := (single.take (position + 1)).next_pending
  rw [List.take_add_one, List.getElem?_eq_getElem inside, Option.toList_some,
    commands.read_append] at drained
  rw [List.getD_eq_getElem _ _ inside]
  unfold Framing.receive at drained
  split at drained
  · have short := length_le_of_nextToken_eq_none drained
    exact Nat.le_trans short (by decide)
  · next token rest found =>
    have short := length_le_of_nextToken_eq_none drained
    have size := Token.length_bytes_le found
    rw [commands.next_eq found, List.length_append]
    exact Nat.le_trans (Nat.add_le_add size short) (by decide)

/-- As long as each chunk completes at most one command, nothing that could be
executed is left waiting when a call returns. -/
theorem no_command_waiting (choices : Choices)
    (single : commands.OneAtATime (chunks (after choices).history))
    (idle : (after choices).idle = true) :
    ((after choices).state.buffer.contents = [] ∨
      ((after choices).state.buffer.contents.head? = some Command.W.toByte ∧
        (after choices).state.buffer.contents.length ≤ 44)) ∧
    executed (after choices).history =
      commands.tokens (chunks (after choices).history).flatten := by
  have fits := meets_withinRing_of_fits boot_empty choices (fits_of_oneAtATime single)
  obtain ⟨_, holding⟩ := received_of_idle boot_empty choices fits idle
  have drained := single.next_pending
  have takes := commands.takes_read (chunks (after choices).history)
  rw [after, holding.ring, holding.commands]
  refine ⟨nextToken_eq_none_iff.mp drained, ?_⟩
  rw [← after, takes.tokens_eq, commands.tokens_of_none drained, List.append_nil]

/-- Two status requests in one packet: the second one waits in the ring. -/
theorem command_waiting_after_two_requests :
    ¬ ∀ choices : Choices, (after choices).idle = true →
      (after choices).state.buffer.contents = [] ∨
        ((after choices).state.buffer.contents.head? = some Command.W.toByte ∧
          (after choices).state.buffer.contents.length ≤ 44) := by
  intro drained
  have waiting := drained ([.call (.usbData [0x53, 0x53])] ++ .replicate 20 .main)
    (by decide +kernel)
  revert waiting
  decide +kernel

set_option maxRecDepth 10000 in
theorem no_command_waiting_two_packets :
    executed (after ([.call (.usbData [0x53])] ++ .replicate 20 .main ++
        [.call (.usbData [0x53, 0x57])] ++ .replicate 20 .main)).history =
      [.single 0x53, .single 0x53] := by
  have drained := no_command_waiting ([.call (.usbData [0x53])] ++ .replicate 20 .main ++
    [.call (.usbData [0x53, 0x57])] ++ .replicate 20 .main) (by decide +kernel) (by decide +kernel)
  rw [drained.2]
  decide +kernel

/-- If every packet fits into the space left by a reader that executes one
command for each packet, the ring is never overrun, and between calls it holds
exactly the bytes of the commands that have not been executed. -/
theorem receive_ring_not_overrun (choices : Choices)
    (fits : commands.Fits 128 (chunks (after choices).history)) :
    (after choices).state.buffer.count.toNat ≤ 128 ∧
      ((after choices).idle = true →
        (chunks (after choices).history).flatten =
          (executed (after choices).history).flatMap Token.bytes ++
            (after choices).state.buffer.contents) := by
  have within := meets_withinRing_of_fits boot_empty choices fits
  refine ⟨(reception_always boot_empty choices within).1, fun idle => ?_⟩
  obtain ⟨_, holding⟩ := received_of_idle boot_empty choices within idle
  rw [after, holding.commands, holding.ring]
  exact (commands.takes_read _).stream_eq

/-- Nine full packets of bytes that each are a command of their own. -/
def nineFullPackets : Choices :=
  (List.replicate 9 (.call (.usbData (.replicate 16 0)) :: .replicate 19 .main)).flatten

theorem receive_ring_overrun :
    ¬ ∀ choices : Choices,
      (∀ packet ∈ chunks (after choices).history, packet.length ≤ 16) →
      (after choices).state.buffer.count.toNat ≤ 128 := by
  intro bounded
  have within := bounded nineFullPackets (by decide +kernel)
  revert within
  decide +kernel

theorem receive_ring_not_overrun_two_packets :
    (after ([.call (.usbData (.replicate 16 0x53))] ++ .replicate 40 .main ++
      [.call (.usbData (.replicate 16 0x53))] ++ .replicate 40 .main)).state.buffer.count.toNat ≤
        128 :=
  (receive_ring_not_overrun _ (by decide +kernel)).1

/-- How far the firmware is behind: each packet lets it execute one command at most, so that
the commands waiting in the ring are those that the packets have completed beyond one each. What
two commands in a packet leave behind is only made up for by a packet that completes none. -/
theorem commands_waiting (choices : Choices)
    (fits : commands.Fits 128 (chunks (after choices).history))
    (idle : (after choices).idle = true) :
    (executed (after choices).history).length ≤ (chunks (after choices).history).length ∧
      (commands.tokens (after choices).state.buffer.contents).length =
        Framing.backlog (commands.arrivals [] (chunks (after choices).history)) ∧
      (executed (after choices).history).length +
          Framing.backlog (commands.arrivals [] (chunks (after choices).history)) =
        (commands.tokens (chunks (after choices).history).flatten).length := by
  have within := meets_withinRing_of_fits boot_empty choices fits
  obtain ⟨_, holding⟩ := received_of_idle boot_empty choices within idle
  have takes := commands.takes_read (chunks (after choices).history)
  have waiting := commands.length_tokens_pending (chunks (after choices).history)
  rw [← waiting, takes.tokens_eq, List.length_append]
  refine ⟨?_, ?_, ?_⟩
  · rw [after, holding.commands]
    exact commands.length_executed_read_le _
  · exact congrArg (fun bytes => (commands.tokens bytes).length) holding.ring
  · exact congrArg (fun tokens => tokens.length + _) holding.commands

/-- Two status requests in the first packet, and one in each of the next two: the answers
stay one behind. -/
def threePackets : Choices :=
  [.call (.usbData [0x53, 0x53])] ++ .replicate 15 .main ++
    [.call (.usbData [0x53])] ++ .replicate 15 .main ++
    [.call (.usbData [0x53])] ++ .replicate 15 .main

theorem commands_waiting_threePackets :
    (commands.tokens (after threePackets).state.buffer.contents).length = 1 := by
  rw [(commands_waiting threePackets (by decide +kernel) (by decide +kernel)).2.1]
  decide +kernel

end MiniMiner.AvalonBTC
