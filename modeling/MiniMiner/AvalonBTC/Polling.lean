import MiniMiner.AvalonBTC.Footprint

/-! Commands that only ask or that the firmware does not know. They and the pass over the
transmit ring leave the mining alone: whatever it depends on changes by interrupts only. -/

set_option autoImplicit false

namespace MiniMiner.AvalonBTC

open LittleEndian Preemption Preemption.Program

def Command.polls : Command → Bool
  | .R => false
  | .A => false
  | .W => false
  | _ => true

def polls : Step → Bool
  | .call .service => false
  | .main (.removeCommand command) => command.polls
  | _ => true

/-- Neither `appService` nor a command that touches the work. -/
def pollsOnly (label : Step) (_ : Device) (_ : Past) : Prop := polls label = true

instance (label : Step) (device : Device) (history : Past) :
    Decidable (pollsOnly label device history) :=
  inferInstanceAs (Decidable (polls label = true))

/-- The device without what serves the connection to the host alone: the rings, the
endpoint, the timer of `main` and the LED. -/
def Device.mining (device : Device) : Device :=
  { device with
    usartToUsbBuffer := powerOn.usartToUsbBuffer
    buffer := powerOn.buffer
    flushTimer := powerOn.flushTimer
    endpoint := []
    portd := device.portd &&& ~~~bv 0 }

/-- The interrupts of a history, without the statements between them. -/
def interrupted (start : Device) : Past → Device
  | [] => start
  | transition :: earlier =>
      match transition.label with
      | .interrupt source =>
          (handler source (interrupted start earlier)).getD (interrupted start earlier)
      | _ => interrupted start earlier

theorem handler_mining (source : Interrupt) (device : Device) :
    handler source device.mining = (handler source device).map Device.mining := by
  cases source with
  | tick => rfl
  | spi spdr polled =>
      simp only [handler]
      by_cases disabled : device.spcr &&& spie = 0
      · rw [if_pos disabled]
        exact if_pos disabled
      · rw [if_neg disabled]
        exact if_neg disabled

def Unseen (start device : Device) (history : Past) : Prop :=
  device.mining = interrupted start history

def polling (start : Device) : Setting Point Device Interrupt Call where
  machine := firmware
  allowed := pollsOnly
  always := Unseen start

section

variable {start : Device}

theorem steady_unseen : (polling start).Steady (Unseen start) where
  stable := by
    intro source before after history handled _ unseen
    have same : handler source (interrupted start history) = some after.mining := by
      rw [← unseen, handler_mining, show handler source before = some after from handled]
      rfl
    simp only [Unseen, interrupted, same, Option.getD_some]
  always := fun _ _ unseen => unseen

theorem keeps_unseen {point : Point} {before after : Device}
    (same : after.mining = before.mining) :
    (polling start).Keeps (Unseen start) point before after :=
  fun _ _ unseen => same.trans unseen

theorem coversReply_unseen (caller : Caller) :
    CoversReply ((polling start).Keeps (Unseen start)) caller :=
  fun _ _ _ => keeps_unseen rfl

theorem mining_toggleLed (device : Device) :
    ({ device with portd := device.portd ^^^ bv 0 } : Device).mining = device.mining := by
  have masked : (device.portd ^^^ bv 0) &&& ~~~bv 0 = device.portd &&& ~~~bv 0 := by
    ext position inside
    simp only [BitVec.getElem_and, BitVec.getElem_xor, BitVec.getElem_not]
    cases (bv 0)[position] <;> simp
  simp only [Device.mining, masked]

theorem removeCommand_refused {command : Command} (works : command.polls = false)
    {Value : Type} (rest : Unit → Firmware Value)
    (post : Value → Device → Past → Prop) :
    (polling start).Triple (Unseen start) (removeCommand command >>= rest) post := by
  -- taking the command would be a step that the setting does not allow
  have never : (polling start).Steady fun _ _ => False := ⟨fun _ _ _ _ _ _ => id, fun _ _ => nofun⟩
  have refused : (polling start).Triple (Unseen start) (removeCommand command)
      fun _ _ _ => False := by
    refine .assign steady_unseen never fun device history _ admitted => ?_
    exact absurd admitted (by simp [polling, pollsOnly, polls, works])
  exact refused.seq fun _ _ _ => nofun

theorem single_unseen_triple (count : BitVec 16) {command : Command} (notW : command ≠ .W) :
    (polling start).Triple (Unseen start) (dispatch count command) fun _ => Unseen start := by
  have removed : ∀ other, (removeCommand other).Within ((polling start).Keeps (Unseen start)) :=
    fun _ => .assign fun _ => keeps_unseen rfl
  cases command with
  | L =>
      refine .kept steady_unseen (.bind (removed .L) fun _ => .assign fun device => ?_)
      exact keeps_unseen (mining_toggleLed device)
  | R => exact removeCommand_refused rfl _ _
  | I =>
      exact .kept steady_unseen (.bind (removed .I) fun _ =>
        sendCmdReply_within (coversReply_unseen _) _ _ _)
  | A => exact removeCommand_refused rfl _ _
  | S =>
      exact .kept steady_unseen (.bind (removed .S) fun _ =>
        sendState_within (coversReply_unseen _) _)
  | W => exact absurd rfl notW
  | other byte => exact .kept steady_unseen (removed (.other byte))

theorem boundary_unseen : Boundary (polling start) (Unseen start) where
  steady := steady_unseen
  call := fun _ _ _ _ unseen => unseen
  receive := fun _ _ => keeps_unseen rfl
  getCount := fun _ => keeps_unseen rfl
  peekCommand := fun _ => keeps_unseen rfl
  single := fun count _ notW => single_unseen_triple count notW
  work := removeCommand_refused rfl _ _
  flush := fun results => .kept steady_unseen (flushReplies_within
    ⟨fun _ => keeps_unseen rfl, fun _ _ => keeps_unseen rfl, fun _ _ => keeps_unseen rfl,
      fun _ _ => keeps_unseen rfl, fun _ _ => keeps_unseen rfl⟩ results)
  service := fun _ _ admitted _ => by cases admitted

end

/-- From any state between two calls, and in every state of a run in which the host only
polls: the ASIC lines, the task, the work timer, the report and the state record are what the
interrupts alone would have made of them. -/
theorem polling_leaves_mining_alone (device : Device) (choices : Choices)
    (polled : Meets pollsOnly (firmware.run choices (.start device)).history) :
    (firmware.run choices (.start device)).state.mining =
      interrupted device.mining (firmware.run choices (.start device)).history :=
  (polling device.mining).run_always boundary_unseen.steady (by rfl)
    boundary_unseen.calls choices polled

/-- A status request, an LED command and a report in between. -/
def pollAndReport : Choices :=
  [.call (.usbData [0x53, 0x4C])] ++ .replicate 5 .main ++
    [.interrupt (.spi 1 fun _ => some 2), .interrupt .tick] ++ .replicate 10 .main ++
    [.call (.usbData [0x4C])] ++ .replicate 8 .main

theorem polling_leaves_mining_alone_report :
    (firmware.run pollAndReport (.start boot)).state.reportValid = 1 ∧
      (firmware.run pollAndReport (.start boot)).state.mining =
        interrupted boot.mining (firmware.run pollAndReport (.start boot)).history :=
  ⟨by decide +kernel, polling_leaves_mining_alone boot pollAndReport (by decide +kernel)⟩

end MiniMiner.AvalonBTC
