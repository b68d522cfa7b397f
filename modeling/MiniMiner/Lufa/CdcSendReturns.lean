import MiniMiner.Lufa.CdcSend

/-! The sending calls come to an end. A wait takes four statements a pass, and only a pass
that finds the frame number of the one before costs nothing of its time. -/

set_option autoImplicit false

namespace MiniMiner.Lufa

open LittleEndian

/-- The statements that are left if every pass of the wait finds a new frame. -/
def SendCode.rank : SendCode → Nat
  | .idle => 0
  | .returning _ _ => 1
  | .write _ | .clearAgain => 2
  | .waitFrame _ waiting => 4 * waiting.timeoutMSRem.toNat + 3
  | .waitStalled _ waiting => 4 * waiting.timeoutMSRem.toNat + 4
  | .waitState _ waiting => 4 * waiting.timeoutMSRem.toNat + 5
  | .waitReady _ waiting => 4 * waiting.timeoutMSRem.toNat + 6
  | .waitBegin _ => 4 * streamTimeout.toNat + 7
  | .clear _ | .clearBank _ => 4 * streamTimeout.toNat + 8
  | .allowed _ | .full => 4 * streamTimeout.toNat + 9
  | .bytes => 4 * streamTimeout.toNat + 10
  | .select _ => 4 * streamTimeout.toNat + 11
  | .baudTest _ => 4 * streamTimeout.toNat + 12
  | .stateTest _ => 4 * streamTimeout.toNat + 13
  | .taskBaud => 4 * streamTimeout.toNat + 14
  | .taskState => 4 * streamTimeout.toNat + 15

def SendAction.begins : SendAction → Bool
  | .call _ | .usbTask => true
  | _ => false

def SendAction.isStatement : SendAction → Bool
  | .main _ => true
  | _ => false

def SendAction.statements (action : SendAction) : Nat := if action.isStatement then 1 else 0

/-- The four statements of a pass that finds the frame number of the one before. -/
def Sender.inVain (sender : Sender) : SendCode → Nat
  | .waitFrame _ waiting => if sender.frameNumber = waiting.previousFrameNumber then 4 else 0
  | _ => 0

/-- The call that a statement belongs to. -/
def SendCode.call? : SendCode → Option SendCall
  | .idle | .taskState | .taskBaud => none
  | .stateTest call | .baudTest call | .select call | .waitBegin call | .waitReady call _
  | .waitState call _ | .waitStalled call _ | .waitFrame call _ | .returning call _ => some call
  | .allowed byte | .clear byte | .write byte => some (.sendByte byte)
  | .bytes | .full | .clearBank _ | .clearAgain => some .flush

variable {sender next : Sender} {event : Option SendEvent}

theorem code_goto {code : SendCode} (stepped : sender.goto code = some (next, event)) :
    next.code = code := by
  cases stepped
  rfl

theorem code_clearIN {code : SendCode} (stepped : sender.clearIN code = some (next, event)) :
    next.code = code := by
  unfold Sender.clearIN at stepped
  split at stepped
  · cases stepped
    rfl
  · exact code_goto stepped

theorem code_write8 {byte : Byte} {code : SendCode}
    (stepped : sender.write8 byte code = some (next, event)) : next.code = code := by
  unfold Sender.write8 at stepped
  split at stepped
  · split at stepped <;> cases stepped <;> rfl
  · cases stepped
    rfl

/-- The statements that can follow one another. -/
inductive Leads (sender : Sender) : SendCode → SendCode → Prop where
  | taskBaud : Leads sender .taskState .taskBaud
  | taskFlush : Leads sender .taskBaud (.stateTest .flush)
  | notConfigured : Leads sender .taskState .idle
  | notOpened : Leads sender .taskBaud .idle
  | baudTest {call : SendCall} : Leads sender (.stateTest call) (.baudTest call)
  | select {call : SendCall} : Leads sender (.baudTest call) (.select call)
  | unconfigured {call : SendCall} :
      Leads sender (.stateTest call) (.returning call .deviceDisconnected)
  | unopened {call : SendCall} :
      Leads sender (.baudTest call) (.returning call .deviceDisconnected)
  | allowed {byte : Byte} : Leads sender (.select (.sendByte byte)) (.allowed byte)
  | bytes : Leads sender (.select .flush) .bytes
  | room {byte : Byte} : Leads sender (.allowed byte) (.write byte)
  | noRoom {byte : Byte} : Leads sender (.allowed byte) (.clear byte)
  | cleared {byte : Byte} : Leads sender (.clear byte) (.waitBegin (.sendByte byte))
  | written {byte : Byte} : Leads sender (.write byte) (.returning (.sendByte byte) .noError)
  | empty : Leads sender .bytes (.returning .flush .noError)
  | filled : Leads sender .bytes .full
  | clearBank {bankFull : Bool} : Leads sender .full (.clearBank bankFull)
  | fullBank : Leads sender (.clearBank true) (.waitBegin .flush)
  | shortBank : Leads sender (.clearBank false) (.returning .flush .noError)
  | clearedAgain : Leads sender .clearAgain (.returning .flush .noError)
  | waitReady {call : SendCall} :
      Leads sender (.waitBegin call) (.waitReady call ⟨streamTimeout, sender.frameNumber⟩)
  | readyByte {byte : Byte} {waiting : Waiting} :
      Leads sender (.waitReady (.sendByte byte) waiting) (.write byte)
  | readyFlush {waiting : Waiting} : Leads sender (.waitReady .flush waiting) .clearAgain
  | waitState {call : SendCall} {waiting : Waiting} :
      Leads sender (.waitReady call waiting) (.waitState call waiting)
  | disconnected {call : SendCall} {waiting : Waiting} {code : ErrorCode} :
      Leads sender (.waitState call waiting) (.returning call code)
  | waitStalled {call : SendCall} {waiting : Waiting} :
      Leads sender (.waitState call waiting) (.waitStalled call waiting)
  | stalled {call : SendCall} {waiting : Waiting} :
      Leads sender (.waitStalled call waiting) (.returning call .endpointStalled)
  | waitFrame {call : SendCall} {waiting : Waiting} :
      Leads sender (.waitStalled call waiting) (.waitFrame call waiting)
  | timeout {call : SendCall} {waiting : Waiting} :
      Leads sender (.waitFrame call waiting) (.returning call .timeout)
  | newFrame {call : SendCall} {waiting : Waiting} :
      waiting.timeoutMSRem ≠ 0 →
      Leads sender (.waitFrame call waiting)
        (.waitReady call ⟨waiting.timeoutMSRem - 1, sender.frameNumber⟩)
  | sameFrame {call : SendCall} {waiting : Waiting} :
      sender.frameNumber = waiting.previousFrameNumber →
      Leads sender (.waitFrame call waiting) (.waitReady call waiting)
  | returned {call : SendCall} {code : ErrorCode} : Leads sender (.returning call code) .idle

theorem leads_mainStep {registers : Registers}
    (stepped : sender.mainStep registers = some (next, event)) :
    Leads sender sender.code next.code := by
  unfold Sender.mainStep at stepped
  cases code : sender.code with
  | idle => simp [code] at stepped
  | taskState =>
      rw [code] at stepped
      rw [code_goto stepped]
      split
      · exact .taskBaud
      · exact .notConfigured
  | taskBaud =>
      rw [code] at stepped
      rw [code_goto stepped]
      split
      · exact .taskFlush
      · exact .notOpened
  | stateTest call =>
      rw [code] at stepped
      rw [code_goto stepped]
      split
      · exact .baudTest
      · exact .unconfigured
  | baudTest call =>
      rw [code] at stepped
      rw [code_goto stepped]
      split
      · exact .select
      · exact .unopened
  | select call =>
      rw [code] at stepped
      cases stepped
      cases call with
      | sendByte byte => exact .allowed
      | flush => exact .bytes
  | allowed byte =>
      rw [code] at stepped
      rw [code_goto stepped]
      split
      · exact .room
      · exact .noRoom
  | clear byte =>
      rw [code] at stepped
      rw [code_clearIN stepped]
      exact .cleared
  | write byte =>
      rw [code] at stepped
      rw [code_write8 stepped]
      exact .written
  | bytes =>
      rw [code] at stepped
      rw [code_goto stepped]
      split
      · exact .empty
      · exact .filled
  | full =>
      rw [code] at stepped
      rw [code_goto stepped]
      exact .clearBank
  | clearBank bankFull =>
      rw [code] at stepped
      rw [code_clearIN stepped]
      cases bankFull with
      | true => exact .fullBank
      | false => exact .shortBank
  | clearAgain =>
      rw [code] at stepped
      rw [code_clearIN stepped]
      exact .clearedAgain
  | waitBegin call =>
      rw [code] at stepped
      rw [code_goto stepped]
      exact .waitReady
  | waitReady call waiting =>
      rw [code] at stepped
      rw [code_goto stepped]
      split
      · cases call with
        | sendByte byte => exact .readyByte
        | flush => exact .readyFlush
      · exact .waitState
  | waitState call waiting =>
      rw [code] at stepped
      rw [code_goto stepped]
      split
      · exact .disconnected
      split
      · exact .disconnected
      · exact .waitStalled
  | waitStalled call waiting =>
      rw [code] at stepped
      rw [code_goto stepped]
      split
      · exact .stalled
      · exact .waitFrame
  | waitFrame call waiting =>
      rw [code] at stepped
      simp only at stepped
      split at stepped
      · split at stepped
        · rw [code_goto stepped]
          exact .timeout
        · next positive =>
          cases stepped
          exact .newFrame positive
      · next same =>
        rw [code_goto stepped]
        exact .sameFrame (not_not.mp same)
  | returning call code =>
      rw [code] at stepped
      cases stepped
      exact .returned

theorem Leads.rank {before after : SendCode} (leads : Leads sender before after) :
    after.rank + 1 ≤ before.rank + sender.inVain before := by
  cases leads with
  | newFrame positive =>
      have left := toNat_sub_one positive
      simp only [SendCode.rank]
      omega
  | sameFrame same =>
      simp only [SendCode.rank, Sender.inVain, if_pos same]
      omega
  | _ =>
      simp only [SendCode.rank]
      omega

theorem Leads.call {before after : SendCode} {call : SendCall} (leads : Leads sender before after)
    (underway : before.call? = some call) :
    after.call? = some call ∨ ∃ code, before = .returning call code := by
  cases leads with
  | returned =>
      cases underway
      exact .inr ⟨_, rfl⟩
  | taskBaud | taskFlush | notConfigured | notOpened => cases underway
  | _ => exact .inl underway

theorem code_step {action : SendAction} (other : action.isStatement = false)
    (alone : action.begins = false) (stepped : sender.step action = some (next, event)) :
    next.code = sender.code := by
  cases action with
  | call | usbTask => cases alone
  | main => cases other
  | receive =>
      simp only [Sender.step, Option.ite_none_right_eq_some, Option.some.injEq,
        Prod.mk.injEq] at stepped
      obtain ⟨_, rfl, _⟩ := stepped
      rfl
  | inToken =>
      simp only [Sender.step, Option.ite_none_right_eq_some, Option.some.injEq,
        Prod.mk.injEq] at stepped
      obtain ⟨_, rfl, _⟩ := stepped
      rfl
  | startOfFrame | reset | configure | setLineEncoding | setHalt | clearHalt | deviceState =>
      cases stepped
      rfl

/-- What a statement gains by being in vain. -/
def Sender.gain (sender : Sender) (action : SendAction) : Nat :=
  if action.isStatement then sender.inVain sender.code else 0

theorem rank_step {action : SendAction} (alone : action.begins = false)
    (stepped : sender.step action = some (next, event)) :
    next.code.rank + action.statements ≤ sender.code.rank + sender.gain action := by
  cases statement : action.isStatement with
  | true =>
      cases action with
      | main registers => exact (leads_mainStep stepped).rank
      | _ => cases statement
  | false =>
      rw [code_step statement alone stepped, SendAction.statements, Sender.gain, statement]
      exact Nat.le_refl _

theorem goto_ne_none (code : SendCode) : sender.goto code ≠ none := Option.some_ne_none _

theorem clearIN_ne_none (code : SendCode) : sender.clearIN code ≠ none := by
  unfold Sender.clearIN
  split
  · exact Option.some_ne_none _
  · exact goto_ne_none code

theorem write8_ne_none (byte : Byte) (code : SendCode) : sender.write8 byte code ≠ none := by
  unfold Sender.write8
  split
  · split <;> exact Option.some_ne_none _
  · exact Option.some_ne_none _

theorem idle_of_mainStep {registers : Registers} (blocked : sender.mainStep registers = none) :
    sender.code = .idle := by
  unfold Sender.mainStep at blocked
  cases code : sender.code with
  | idle => rfl
  | clear | clearBank | clearAgain =>
      rw [code] at blocked
      exact absurd blocked (clearIN_ne_none _)
  | write =>
      rw [code] at blocked
      exact absurd blocked (write8_ne_none _ _)
  | select | returning =>
      rw [code] at blocked
      cases blocked
  | waitFrame =>
      rw [code] at blocked
      simp only at blocked
      split at blocked
      · split at blocked
        · exact absurd blocked (goto_ne_none _)
        · cases blocked
      · exact absurd blocked (goto_ne_none _)
  | _ =>
      rw [code] at blocked
      exact absurd blocked (goto_ne_none _)

theorem event_of_returning {registers : Registers} {call : SendCall} {code : ErrorCode}
    (returning : sender.code = .returning call code)
    (stepped : sender.mainStep registers = some (next, event)) :
    event = some (.returned call code) := by
  rw [Sender.mainStep, returning] at stepped
  cases stepped
  rfl

theorem rank_pos {code : SendCode} {call : SendCall} (underway : code.call? = some call) :
    0 < code.rank := by
  cases code with
  | idle | taskState | taskBaud => cases underway
  | _ => simp [SendCode.rank]

theorem returned_or_underway {call : SendCall} {more : List SendAction}
    (alone : ∀ action ∈ more, action.begins = false)
    (underway : sender.code.call? = some call) :
    (∃ code, .returned call code ∈ (sending.run more sender).2) ∨
      (sending.run more sender).1.code.call? = some call ∧
        sending.total (fun _ => SendAction.statements) more sender =
          more.countP SendAction.isStatement := by
  induction more generalizing sender with
  | nil => exact .inr ⟨underway, rfl⟩
  | cons action more ih =>
      have ends := alone action List.mem_cons_self
      have later := fun other member => alone other (List.mem_cons_of_mem _ member)
      cases stepped : sending.step sender action with
      | none =>
          -- only an action from outside can be impossible while the call is under way
          have other : action.isStatement = false := by
            cases action with
            | main registers =>
                rw [idle_of_mainStep stepped] at underway
                cases underway
            | _ => rfl
          simp only [System.run, System.total, stepped, List.countP_cons, other]
          exact ih later underway
      | some result =>
          obtain ⟨next, event⟩ := result
          simp only [System.run, System.total, stepped, List.countP_cons, List.mem_append]
          cases statement : action.isStatement with
          | false =>
              have same := code_step statement ends stepped
              rcases ih later (same ▸ underway) with ⟨code, returned⟩ | ⟨still, counted⟩
              · exact .inl ⟨code, .inr returned⟩
              · exact .inr ⟨still, by rw [counted, SendAction.statements, statement]; omega⟩
          | true =>
              cases action with
              | main registers =>
                  rcases (leads_mainStep stepped).call underway with kept | ⟨code, returning⟩
                  · rcases ih later kept with ⟨code, returned⟩ | ⟨still, counted⟩
                    · exact .inl ⟨code, .inr returned⟩
                    · exact .inr ⟨still, by rw [counted, SendAction.statements, statement]; omega⟩
                  · rw [event_of_returning returning stepped]
                    exact .inl ⟨code, .inl (List.mem_singleton_self _)⟩
              | _ => cases statement

/-- The statements spent in passes that find no new frame. -/
def waitedInVain (schedule : List SendAction) (sender : Sender) : Nat :=
  sending.total Sender.gain schedule sender

/-- A call of `CDC_Device_SendByte` or `CDC_Device_Flush` returns, whatever the host, the bus
and the control requests do: after 413 statements at most, not counting those of the passes of
`Endpoint_WaitUntilReady` between which the frame number has not changed. -/
theorem sendCall_returns (sender : Sender) (idle : sender.code = .idle) (call : SendCall)
    (more : List SendAction) (alone : ∀ action ∈ more, action.begins = false)
    (long : 413 + waitedInVain (.call call :: more) sender ≤
      more.countP SendAction.isStatement) :
    ∃ code, .returned call code ∈ (sending.run (.call call :: more) sender).2 := by
  have begun : sending.step sender (.call call) =
      some ({ sender with code := .stateTest call }, none) := if_pos idle
  have ranked := sending.rank_run (fun sender => sender.code.rank)
    (fun _ => SendAction.statements) Sender.gain
    (fun action member _ _ _ stepped => rank_step (alone action member) stepped)
    { sender with code := .stateTest call }
  have underway : ({ sender with code := .stateTest call } : Sender).code.call? = some call := rfl
  have start : (SendCode.stateTest call).rank = 413 := rfl
  have opening : sender.gain (.call call) = 0 := rfl
  simp only [waitedInVain, System.run, System.total, begun, opening] at long ⊢
  rcases returned_or_underway alone underway with returned | ⟨still, counted⟩
  · exact returned
  · -- every statement counted so far has lowered the rank, and the call has some left
    have left := rank_pos still
    rw [counted, start] at ranked
    omega

/-- A full bank that nobody collects: the call gives up after a hundred frames. -/
def fullBank : Sender :=
  ⟨.configured, 9600, .control, 0, true, false, false, List.replicate 16 0, .idle⟩

def framesWithoutHost : List SendAction :=
  (List.range 110).flatMap fun frame =>
    .startOfFrame (BitVec.ofNat 16 frame) :: .replicate 4 (.main ⟨false, false, false, 0⟩)

theorem sendCall_returns_timeout :
    waitedInVain (.call (.sendByte 0x2a) :: framesWithoutHost) fullBank = 0 ∧
      ∃ code, .returned (.sendByte 0x2a) code ∈
        (sending.run (.call (.sendByte 0x2a) :: framesWithoutHost) fullBank).2 := by
  have unspent : waitedInVain (.call (.sendByte 0x2a) :: framesWithoutHost) fullBank = 0 := by
    decide +kernel
  refine ⟨unspent, ?_⟩
  refine sendCall_returns fullBank rfl (.sendByte 0x2a) framesWithoutHost (by decide +kernel) ?_
  rw [unspent]
  decide +kernel

end MiniMiner.Lufa
