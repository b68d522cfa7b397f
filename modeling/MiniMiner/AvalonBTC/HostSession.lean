import MiniMiner.AvalonBTC.Answers
import MiniMiner.AvalonBTC.Reception
import MiniMiner.Lufa.CdcReceiveProperties
import MiniMiner.Lufa.CdcSendProperties

/-! The firmware as the host sees it, through the two data endpoints of the class driver:
the packets it sends, and the packets it collects. -/

set_option autoImplicit false

namespace MiniMiner.AvalonBTC

open LittleEndian Preemption Lufa

/-- The first byte of a reply tells how many bytes follow it. -/
def replySize (header : List Byte) : Nat :=
  if header.head? = some Command.I.toByte then 13 else 6

def replyFrames : Framing Byte (List Byte) := .headed 1 Nat.one_pos replySize

theorem answered_of_mem_answersDue {history : Past} {command : Command}
    (due : command ∈ answersDue history) : command.answered = true := by
  obtain ⟨token, _, named⟩ := List.mem_filterMap.mp due
  cases token with
  | work payload =>
      cases named
      rfl
  | single byte =>
      simp only [Token.answer?] at named
      split at named
      · next answered =>
        cases named
        exact answered
      · cases named

theorem length_frame {reply : Reply}
    (answered : ∀ command, reply.caller.command? = some command → command.answered = true) :
    reply.frame.length = 1 + replySize (reply.frame.take 1) := by
  unfold Reply.frame
  cases caller : reply.caller with
  | command command =>
      cases command with
      | L => cases answered .L (by rw [caller]; rfl)
      | other byte => cases answered (.other byte) (by rw [caller]; rfl)
      | _ => rfl
  | _ => rfl

/-- A run of the firmware and a run of each half of the class driver that belong together:
the firmware gets the bytes that `CDC_Device_ReceiveByte` returns, and takes a byte off its
ring when `CDC_Device_SendByte` has reported it as sent. -/
structure Session where
  choices : Choices
  receiver : Receiver
  outward : List ReceiveAction
  sender : Sender
  inward : List SendAction
  handed : receivedBytes (receiving.run outward receiver.attached).2 =
    (chunks (after choices).history).flatten
  taken : sentBytes (sending.run inward sender.attached).2 = (after choices).state.endpoint

namespace Session

variable (session : Session)

def history : Past := (after session.choices).history

/-- What the host has sent. -/
def requests : List Byte :=
  (sentPackets (receiving.run session.outward session.receiver.attached).2).flatten

/-- What the host has collected. -/
def answers : List Byte :=
  (collected (sending.run session.inward session.sender.attached).2).flatten

/-- No reset, new configuration or cleared halt in between. -/
def Unbroken : Prop :=
  .lost ∉ (receiving.run session.outward session.receiver.attached).2 ∧
    .lost ∉ (sending.run session.inward session.sender.attached).2

/-- The firmware and the sending half are between two calls. -/
def Resting : Prop :=
  (after session.choices).idle = true ∧
    (sending.run session.inward session.sender.attached).1.code = .idle

/-- Nothing is on its way to the host. -/
def Drained : Prop :=
  (sending.run session.inward session.sender.attached).1.bank = [] ∧
    (after session.choices).state.usartToUsbBuffer.contents = []

end Session

theorem executed_of_requests (session : Session) (unbroken : session.Unbroken)
    (fits : commands.Fits 128 (chunks session.history))
    (idle : (after session.choices).idle = true) :
    executed session.history <+: commands.tokens session.requests := by
  have empty : boot.buffer.count = 0 := rfl
  have within := meets_withinRing_of_fits empty session.choices fits
  obtain ⟨_, holding⟩ := received_of_idle empty session.choices within idle
  have takes := commands.takes_read (chunks session.history)
  have sent : session.requests = (chunks session.history).flatten ++ _ :=
    (received_of_kept session.receiver session.outward unbroken.1).2.trans
      ((List.append_assoc _ _ _).trans (congrArg (· ++ _) session.handed))
  have ran : executed session.history = (commands.read (chunks session.history)).executed :=
    holding.commands
  rw [ran, sent, (takes.append _).tokens_eq]
  exact List.prefix_append _ _

/-- The replies, in the order in which they are written, are what the host collects with what
is still on its way. -/
theorem answers_of_replies (session : Session) (unbroken : session.Unbroken)
    (resting : session.Resting) (room : Meets withinTransmitRing session.history) :
    session.answers ++ ((sending.run session.inward session.sender.attached).1.bank ++
        (after session.choices).state.usartToUsbBuffer.contents) =
      (replies session.history).flatMap Reply.frame := by
  have replied : Replied (after session.choices).state session.history :=
    replying.run_between boundary_replied.steady replied_boot boundary_replied.calls
      session.choices (meets_replying session.choices room) resting.1
  have collected : session.answers ++ _ = _ :=
    collected_of_kept session.sender session.inward unbroken.2 resting.2
  rw [← List.append_assoc, collected, session.taken, replied.stream]
  exact List.flatMap_congr replied.complete

theorem tokens_of_replies (choices : Choices) (idle : (after choices).idle = true) :
    replyFrames.tokens ((replies (after choices).history).flatMap Reply.frame) =
      (replies (after choices).history).map Reply.frame := by
  have given : answersDue (after choices).history = answersGiven (after choices).history ++ [] :=
    owing_of_idle idle
  rw [List.append_nil] at given
  have found : ∀ frame ∈ (replies (after choices).history).map Reply.frame, ∀ rest,
      replyFrames.next (frame ++ rest) = some (frame, rest) := by
    intro frame member rest
    obtain ⟨reply, among, rfl⟩ := List.mem_map.mp member
    refine Framing.next_headed Nat.one_pos (length_frame fun command named => ?_) rest
    have due : command ∈ answersDue (after choices).history := by
      rw [given]
      exact List.mem_filterMap.mpr ⟨reply, among, named⟩
    exact answered_of_mem_answersDue due
  rw [List.flatMap_def]
  exact Framing.tokens_flatten rfl found

/-- What a session comes to for the host, as long as neither ring is overrun and the link is
not broken: the firmware has executed the first of the commands in its packets; the packets
that it collects cut into frames by their first bytes, which are the replies in order; and the
replies other than those of `appService` answer the executed commands one by one. Once
everything has been collected no reply is missing. -/
theorem host_session (session : Session) (unbroken : session.Unbroken)
    (resting : session.Resting) (fits : commands.Fits 128 (chunks session.history))
    (room : Meets withinTransmitRing session.history) :
    executed session.history <+: commands.tokens session.requests ∧
      replyFrames.tokens session.answers <+: (replies session.history).map Reply.frame ∧
      (replies session.history).filterMap (fun reply => reply.caller.command?) =
        (executed session.history).filterMap Token.answer? ∧
      (session.Drained →
        replyFrames.tokens session.answers = (replies session.history).map Reply.frame) := by
  have stream := answers_of_replies session unbroken resting room
  have frames : replyFrames.tokens ((replies session.history).flatMap Reply.frame) =
      (replies session.history).map Reply.frame := tokens_of_replies session.choices resting.1
  have owing : answersDue session.history = answersGiven session.history ++ [] :=
    owing_of_idle resting.1
  refine ⟨executed_of_requests session unbroken fits resting.1, ?_, ?_, fun drained => ?_⟩
  · rw [← frames, ← stream]
    exact replyFrames.tokens_initial _ _
  · rw [List.append_nil] at owing
    exact owing.symm
  · rw [drained.1, drained.2, List.append_nil, List.append_nil] at stream
    rw [stream, frames]

/-- A status request in one packet with an identity request, which waits for another one. -/
def statusSession : Session where
  choices := [.call (.usbData [0x53, 0x49])] ++ .replicate 13 .main ++
    [.call (.flush (.replicate 7 true))] ++ .replicate 18 .main
  receiver := ⟨.configured, 9600, .control, true, false, [], .idle⟩
  outward := [.outToken [0x53, 0x49], .poll] ++ .replicate 40 (.main ⟨false, 0, 0⟩)
  sender := openSender
  inward :=
    [0x53, 0x52, 0, 0, 0, 0, 0].flatMap (fun byte =>
      .call (.sendByte byte) :: .replicate 6 (.main ⟨false, false, false, 0⟩)) ++
    [.call .flush] ++ .replicate 7 (.main ⟨false, false, false, 0⟩) ++ [.inToken]
  handed := by decide +kernel
  taken := by decide +kernel

theorem host_session_status :
    executed statusSession.history = [.single 0x53] ∧
      replyFrames.tokens statusSession.answers =
        (replies statusSession.history).map Reply.frame := by
  obtain ⟨_, _, _, complete⟩ := host_session statusSession
    ⟨by decide +kernel, by decide +kernel⟩ ⟨by decide +kernel, by decide +kernel⟩
    (by decide +kernel) (by decide +kernel)
  exact ⟨by decide +kernel, complete ⟨by decide +kernel, by decide +kernel⟩⟩

end MiniMiner.AvalonBTC
