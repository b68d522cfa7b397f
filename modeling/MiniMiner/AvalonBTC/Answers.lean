import MiniMiner.AvalonBTC.Replies

/-! Which replies belong to which commands. `serialProcess` answers `'R'`, `'I'`, `'A'`,
`'S'` and `'W'`, and nothing else; the replies of `appService` come in between. -/

set_option autoImplicit false

namespace MiniMiner.AvalonBTC

open LittleEndian Preemption Preemption.Program

def Command.answered : Command → Bool
  | .L => false
  | .other _ => false
  | _ => true

/-- The command that the answer to an executed token names. -/
def Token.answer? : Token → Option Command
  | .work _ => some .W
  | .single byte => if (Command.ofByte byte).answered then some (Command.ofByte byte) else none

def Caller.command? : Caller → Option Command
  | .command name => some name
  | _ => none

/-- The answers that the commands executed so far ask for. -/
def answersDue (history : Past) : List Command := (executed history).filterMap Token.answer?

/-- The commands that have been answered, in the order of the answers. -/
def answersGiven (history : Past) : List Command :=
  (replies history).filterMap fun reply => reply.caller.command?

def Owing (pending : List Command) (_ : Device) (history : Past) : Prop :=
  answersDue history = answersGiven history ++ pending

def answering : Setting Point Device Interrupt Call where
  machine := firmware
  allowed := fun _ _ _ => True
  always := fun device history => ∃ pending, Owing pending device history ∧ pending.length ≤ 1

theorem answersDue_append (history : Past) (tokens : List Token)
    {transition : Transition Point Device Interrupt Call}
    (taken : executed (transition :: history) = executed history ++ tokens) :
    answersDue (transition :: history) =
      answersDue history ++ tokens.filterMap Token.answer? := by
  rw [answersDue, taken, List.filterMap_append]
  rfl

theorem callers_extendLast (byte : Byte) (replies : List Reply) :
    (extendLast byte replies).map Reply.caller = replies.map Reply.caller := by
  induction replies with
  | nil => rfl
  | cons reply rest ih =>
      cases rest with
      | nil => rfl
      | cons next rest => rw [extendLast, List.map_cons, ih, ← List.map_cons]

theorem answersGiven_eq (history : Past) :
    answersGiven history = ((replies history).map Reply.caller).filterMap Caller.command? := by
  rw [List.filterMap_map]
  rfl

theorem steady_owing {pending : List Command} (few : pending.length ≤ 1) :
    answering.Steady (Owing pending) where
  stable := fun _ _ _ _ _ _ owing => owing
  always := fun _ _ owing => ⟨pending, owing, few⟩

theorem steady_owing_nil : answering.Steady (Owing []) := steady_owing (Nat.zero_le 1)

theorem steady_owing_one (command : Command) : answering.Steady (Owing [command]) :=
  steady_owing (Nat.le_refl 1)

/-- Statements that neither execute a command nor begin a reply. -/
def Point.unheard : Point → Bool
  | .write _ 0 => false
  | .removeCommand _ => false
  | .precalc => false
  | _ => true

theorem keeps_owing {pending : List Command} {point : Point} (unheard : point.unheard = true)
    (before after : Device) : answering.Keeps (Owing pending) point before after := by
  intro history _ owing
  cases point with
  | removeCommand command => cases unheard
  | precalc => cases unheard
  | write caller index =>
      cases index with
      | zero => cases unheard
      | succ index =>
          unfold Owing at owing ⊢
          rw [answersGiven_eq] at owing ⊢
          simp only [replies, callers_extendLast]
          exact owing
  | _ => exact owing

/-- Taking a command from the ring makes its answer due. -/
theorem removeCommand_owing_triple {command : Command} (notW : command ≠ .W)
    (known : Command.ofByte command.toByte = command) :
    answering.Triple (Owing []) (removeCommand command) fun _ =>
      Owing (if command.answered then [command] else []) := by
  have few : (if command.answered then [command] else []).length ≤ 1 := by
    cases command.answered <;> simp
  refine .assign steady_owing_nil (steady_owing few) fun device history owing _ => ?_
  have taken : ∀ after : Device, executed
      (⟨.main (.removeCommand command), device, after⟩ :: history) =
      executed history ++ [.single command.toByte] := by
    intro after
    cases command <;> first | rfl | exact absurd rfl notW
  have due : [Token.single command.toByte].filterMap Token.answer? =
      if command.answered then [command] else [] := by
    simp only [List.filterMap_cons, List.filterMap_nil, Token.answer?, known]
    cases command.answered <;> rfl
  unfold Owing at owing ⊢
  rw [answersDue_append history _ (taken _), due, owing, List.append_nil]
  rfl

theorem sendCmdReply_owing_triple (caller : Caller) (cmd : Byte) (data : Device → List Byte)
    (size : Nat) :
    answering.Triple (Owing caller.command?.toList) (sendCmdReply caller cmd data size)
      fun _ => Owing [] := by
  have none := steady_owing_nil
  have few : caller.command?.toList.length ≤ 1 := Option.length_toList_le
  have first : answering.Triple (Owing caller.command?.toList)
      (usbWrite caller 0 (fun _ => [cmd]) 1) fun _ => Owing [] := by
    refine .seq (.assign (steady_owing few) none fun device history owing _ => ?_)
      fun _ => .done none
    unfold Owing at owing ⊢
    rw [List.append_nil, answersGiven, replies, List.filterMap_append]
    exact owing.trans (congrArg (answersGiven history ++ ·) (by cases caller <;> rfl))
  refine first.seq fun _ => .kept none (.each fun index _ => .assign fun device => ?_)
  rw [Nat.add_comm]
  exact keeps_owing rfl _ _

theorem coversAsic_owing (pending : List Command) (caller : Caller) :
    CoversAsic (answering.Keeps (Owing pending)) caller where
  clearReportCount := fun _ _ => keeps_owing rfl _ _
  clearReportValid := fun _ _ => keeps_owing rfl _ _
  resetLow := fun _ => keeps_owing rfl _ _
  resetHigh := fun _ => keeps_owing rfl _ _
  disableSpi := fun _ => keeps_owing rfl _ _
  enableSpi := fun _ => keeps_owing rfl _ _

theorem single_owing_triple (count : BitVec 16) {command : Command} (notW : command ≠ .W)
    (known : Command.ofByte command.toByte = command) :
    answering.Triple (Owing []) (dispatch count command) fun _ => Owing [] := by
  have removed := removeCommand_owing_triple notW known
  have steady := steady_owing_one command
  have asic := coversAsic_owing [command] (.command command)
  cases command with
  | L =>
      refine removed.seq fun _ => .kept steady_owing_nil ?_
      exact .assign fun _ => keeps_owing rfl _ _
  | R =>
      refine removed.seq fun _ => .seq (.kept steady (asicReset_within asic)) fun _ => ?_
      refine .seq (.kept steady (asicResetSpi_within asic)) fun _ => ?_
      refine .seq (.kept steady (.assign fun _ => keeps_owing rfl _ _)) fun _ => ?_
      exact sendCmdReply_owing_triple (.command .R) _ _ _
  | I => exact removed.seq fun _ => sendCmdReply_owing_triple (.command .I) _ _ _
  | A =>
      refine removed.seq fun _ =>
        .seq (.kept steady (.assign fun _ => keeps_owing rfl _ _)) fun _ => ?_
      refine .seq (.kept steady (asicStop_within asic)) fun _ => ?_
      exact sendCmdReply_owing_triple (.command .A) _ _ _
  | S => exact removed.seq fun _ => sendCmdReply_owing_triple (.command .S) _ _ _
  | W => exact absurd rfl notW
  | other byte => exact removed

theorem commandW_owing_triple :
    answering.Triple (Owing []) commandW fun _ => Owing [] := by
  have none := steady_owing_nil
  have one := steady_owing_one .W
  have asic := coversAsic_owing [.W] (.command .W)
  have filled : fillWork.Within (answering.Keeps (Owing [])) :=
    fillWork_within ⟨fun _ _ _ _ => keeps_owing rfl _ _, fun _ _ _ _ => keeps_owing rfl _ _⟩
  refine .seq (.assign none none fun _ _ owing _ => owing) fun _ =>
    .seq (.kept none filled) fun _ => .seq (.assign none one fun device history owing _ => ?_)
      fun _ => ?_
  · -- The token is complete here, so this is where the answer becomes due.
    unfold Owing at owing ⊢
    rw [answersDue_append history [.work (payload history)] rfl, owing,
      List.append_nil]
    rfl
  refine .seq (.kept one (.assign fun _ => keeps_owing rfl _ _)) fun _ => ?_
  refine .seq (.kept one (.assign fun _ => keeps_owing rfl _ _)) fun _ => ?_
  refine .seq (.kept one (.assign fun _ => keeps_owing rfl _ _)) fun _ => ?_
  refine .seq (.kept one (asicReset_within asic)) fun _ => ?_
  refine .seq (.kept one (asicResetSpi_within asic)) fun _ => ?_
  refine .seq (.kept one (.fetch fun _ => keeps_owing rfl _ _)) fun work => ?_
  refine .seq (.kept one (pushWork_within (fun _ _ => keeps_owing rfl _ _) work)) fun _ => ?_
  refine .seq (.kept one (.assign fun _ => keeps_owing rfl _ _)) fun _ => ?_
  exact sendCmdReply_owing_triple (.command .W) _ _ _

theorem dispatch_owing_triple (count : BitVec 16) (byte : Byte) :
    answering.Triple (Owing []) (dispatch count (Command.ofByte byte)) fun _ => Owing [] := by
  have known : Command.ofByte (Command.ofByte byte).toByte = Command.ofByte byte :=
    congrArg Command.ofByte (Command.toByte_ofByte byte)
  generalize Command.ofByte byte = command at known
  by_cases isW : command = .W
  · subst isW
    exact .onlyIf steady_owing_nil (fun _ => commandW_owing_triple)
      fun _ _ _ owing => owing
  · exact single_owing_triple count isW known

theorem usbData_owing_triple (received : List Byte) :
    answering.Triple (Owing []) (appUsbDataReceived received) fun _ => Owing [] := by
  have none := steady_owing_nil
  refine .seq (.kept none (.each fun _ _ => .assign fun _ => keeps_owing rfl _ _)) fun _ => ?_
  refine .seq (.kept none (.fetch fun _ => keeps_owing rfl _ _)) fun count => ?_
  refine .onlyIf none (fun _ => ?_) fun _ _ _ owing => owing
  exact .seq (.kept none (.fetch fun _ => keeps_owing rfl _ _)) fun byte =>
    dispatch_owing_triple count byte

theorem service_owing_triple : answering.Triple (Owing []) appService fun _ => Owing [] := by
  have none := steady_owing_nil
  have assigned {point : Point} {effect : Device → Device} (unheard : point.unheard = true) :
      answering.Triple (Owing []) (assign point effect) fun _ => Owing [] :=
    .kept none (.assign fun _ => keeps_owing unheard _ _)
  have reported : answering.Triple (Owing []) serviceReport fun _ => Owing [] := by
    have asic := coversAsic_owing [] .report
    refine .seq (.kept none (.bind (clearReport_within asic _) fun _ =>
      .fetch fun _ => keeps_owing rfl _ _)) fun nonce => ?_
    refine .seq (assigned rfl) fun _ => .seq (.kept none (asicStop_within asic)) fun _ => ?_
    refine .seq (.kept none (asicResetSpi_within asic)) fun _ => .seq (assigned rfl) fun _ => ?_
    refine .seq (assigned rfl) fun _ => .seq (assigned rfl) fun _ => ?_
    exact .seq (assigned rfl) fun _ => sendCmdReply_owing_triple .report _ _ _
  have expired : answering.Triple (Owing []) serviceExpiry fun _ => Owing [] := by
    have asic := coversAsic_owing [] .expiry
    refine .seq (.kept none (asicStop_within asic)) fun _ => ?_
    refine .seq (.kept none (asicResetSpi_within asic)) fun _ => .seq (assigned rfl) fun _ => ?_
    refine .seq (assigned rfl) fun _ => .seq (assigned rfl) fun _ => ?_
    exact sendCmdReply_owing_triple .expiry _ _ _
  refine .seq (.kept none (.fetch fun _ => keeps_owing rfl _ _)) fun valid => ?_
  refine .seq (.onlyIf none (fun _ => reported) fun _ _ _ owing => owing) fun _ => ?_
  refine .seq (.kept none ⟨fun _ => keeps_owing rfl _ _, fun _ => trivial⟩) fun due => ?_
  exact .onlyIf none (fun _ => expired) fun _ _ _ owing => owing

theorem calls_owing (entry : Call) (device : Device) (history : Past)
    (owing : Owing [] device history) :
    answering.Ensures (fun _ => Owing []) (body entry) device
      (⟨.call entry, device, device⟩ :: history) := by
  cases entry with
  | usbData received => exact usbData_owing_triple received _ _ owing
  | flush results =>
      have flushed : (flushReplies results).Within (answering.Keeps (Owing [])) :=
        flushReplies_within
          { flushCount := fun _ => keeps_owing rfl _ _
            flushTimer := fun _ _ => keeps_owing rfl _ _
            flushRestart := fun _ _ => keeps_owing rfl _ _
            sendByte := fun _ _ => keeps_owing rfl _ _
            removeSent := fun _ _ => keeps_owing rfl _ _ } results
      exact Setting.Triple.kept steady_owing_nil flushed _ _ owing
  | service => exact service_owing_triple _ _ owing

theorem meets_answering (history : Past) : Meets answering.allowed history := by
  induction history with
  | nil => trivial
  | cons transition earlier ih => exact ⟨trivial, ih⟩

theorem owing_of_idle {choices : Choices} (idle : (after choices).idle = true) :
    Owing [] (after choices).state (after choices).history :=
  answering.run_between steady_owing_nil (by rfl)
    (fun entry device history owing _ => calls_owing entry device history owing) choices
    (meets_answering _) idle

/-- In every run the commands are answered in the order in which they are executed, each
once and none without having been executed; at most one answer is outstanding, and none
between calls. -/
theorem commands_answered_in_order (choices : Choices) :
    answersGiven (after choices).history <+: answersDue (after choices).history ∧
      (answersDue (after choices).history).length ≤
        (answersGiven (after choices).history).length + 1 ∧
      ((after choices).idle = true →
        answersGiven (after choices).history = answersDue (after choices).history) := by
  obtain ⟨pending, owing, few⟩ : answering.always (after choices).state (after choices).history :=
    answering.run_always steady_owing_nil (by rfl)
      (fun entry device history owing _ => calls_owing entry device history owing) choices
      (meets_answering _)
  unfold Owing at owing
  refine ⟨⟨pending, owing.symm⟩, ?_, fun idle => ?_⟩
  · rw [owing, List.length_append]
    omega
  · have settled := owing_of_idle idle
    unfold Owing at settled
    rw [settled, List.append_nil]

end MiniMiner.AvalonBTC
