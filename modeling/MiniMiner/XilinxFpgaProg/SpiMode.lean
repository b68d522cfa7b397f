import MiniMiner.XilinxFpgaProg.Footprint

/-! The SPI and the frames that switch it on and off. `SPI_SendByte` waits for the end of the
transfer, which never comes while the SPI is off. -/

set_option autoImplicit false

namespace MiniMiner.XilinxFpgaProg

open LittleEndian Preemption Preemption.Program

/-- `SPE` is set in `SPCR`. -/
def Device.spiEnabled (device : Device) : Bool := device.spcr &&& bit 6 ≠ 0

/-- The mode after a command, from the one before. -/
def modeAfter (cmd : Byte) (selected : Bool) : Bool :=
  if cmd = serialUseSpi then true else if cmd = serialUseUsart then false else selected

/-- Whether the last frame to choose a mode has chosen the SPI; the start-up code does. -/
def spiSelected : Past → Bool
  | [] => true
  | transition :: earlier =>
      match transition.label with
      | .main .removeCmd => modeAfter transition.source.serial.buffer.peek (spiSelected earlier)
      | _ => spiSelected earlier

def isTransfer : Step → Bool
  | .main (.payload .spi) => true
  | _ => false

/-- A byte for the SPI finds it in the state that the frames have chosen. -/
def transferMatches (label : Step) (device : Device) (history : Past) : Prop :=
  isTransfer label = true → device.spiEnabled = spiSelected history

def switching : Setting Point Device Interrupt Call where
  machine := firmware
  allowed := fun _ _ _ => True
  always := fun _ history => Meets transferMatches history

/-- The command has been taken and not yet executed. -/
structure Switching (cmd : Byte) (device : Device) (history : Past) : Prop where
  selected : spiSelected history = modeAfter cmd device.spiEnabled
  transfers : Meets transferMatches history

structure Switched (device : Device) (history : Past) : Prop where
  selected : spiSelected history = device.spiEnabled
  transfers : Meets transferMatches history

theorem spcr_handled {source : Interrupt} {before after : Device}
    (handled : handler source before = some after) : after.spcr = before.spcr := by
  cases source with
  | tick =>
      cases handled
      rfl
  | usart byte configured =>
      cases configured with
      | false =>
          cases handled
          rfl
      | true =>
          cases handled
          rfl

theorem steady_switching (cmd : Byte) : switching.Steady (Switching cmd) where
  stable := by
    intro source before after history handled _ standing
    refine ⟨?_, nofun, standing.transfers⟩
    rw [Device.spiEnabled, spcr_handled handled]
    exact standing.selected
  always := fun _ _ standing => standing.transfers

theorem steady_switched : switching.Steady Switched where
  stable := by
    intro source before after history handled _ standing
    refine ⟨?_, nofun, standing.transfers⟩
    rw [Device.spiEnabled, spcr_handled handled]
    exact standing.selected
  always := fun _ _ standing => standing.transfers

/-- Statements other than the one that takes a command leave the choice as it is. -/
theorem spiSelected_main {point : Point} (other : point ≠ .removeCmd) (before after : Device)
    (history : Past) :
    spiSelected (⟨.main point, before, after⟩ :: history) = spiSelected history := by
  cases point with
  | removeCmd => exact absurd rfl other
  | _ => rfl

theorem keeps_switched {point : Point} {before after : Device} (other : point ≠ .removeCmd)
    (same : after.spcr = before.spcr) : switching.Keeps Switched point before after := by
  intro history _ standing
  refine ⟨?_, fun _ => standing.selected.symm, standing.transfers⟩
  rw [spiSelected_main other, Device.spiEnabled, same]
  exact standing.selected

theorem coversExecution_switched : CoversExecution (switching.Keeps Switched) where
  removeSelect := fun _ _ => keeps_switched nofun rfl
  payload := fun _ _ _ _ _ => keeps_switched nofun rfl
  ports := fun _ _ _ => keeps_switched nofun rfl

theorem removeCmd_triple :
    switching.Triple Switched (removeByte .removeCmd) fun cmd => Switching cmd := by
  refine .statement steady_switched steady_switching fun device history standing _ => ?_
  refine ⟨?_, nofun, standing.transfers⟩
  exact congrArg (modeAfter device.serial.buffer.peek) standing.selected

theorem removeSize_triple (cmd : Byte) :
    switching.Triple (Switching cmd) (removeByte .removeSize) fun _ => Switching cmd := by
  refine .statement (steady_switching cmd) (fun _ => steady_switching cmd) ?_
  exact fun device history standing _ => ⟨standing.selected, nofun, standing.transfers⟩

theorem setMode_triple {cmd : Byte} {effect : Device → Device}
    (sets : ∀ device, modeAfter cmd device.spiEnabled = (effect device).spiEnabled) :
    switching.Triple (Switching cmd) (setPorts effect >>= fun _ => pure true)
      fun _ => Switched := by
  have set : switching.Triple (Switching cmd) (setPorts effect) fun _ => Switched := by
    refine .assign (steady_switching cmd) steady_switched fun device history standing _ => ?_
    exact ⟨standing.selected.trans (sets device), nofun, standing.transfers⟩
  exact set.seq fun _ => .kept steady_switched trivial

theorem mode_useSpi (device : Device) :
    modeAfter serialUseSpi device.spiEnabled = (useSpi device).spiEnabled := by
  have set : (bit 6 ||| (bit 6 ||| bit 0 ||| bit 4)) &&& bit 6 ≠ 0 := by decide
  rw [modeAfter, if_pos rfl]
  exact (decide_eq_true set).symm

theorem mode_useUsart (device : Device) :
    modeAfter serialUseUsart device.spiEnabled = (useUsart device).spiEnabled := by
  have clear : ¬ 0 &&& bit 6 ≠ 0 := by decide
  rw [modeAfter, if_neg (by decide), if_pos rfl]
  exact (decide_eq_false clear).symm

theorem execute_switching (pins : Pins) (cmd size : Byte) :
    switching.Triple (Switching cmd) (execute pins cmd size) fun _ => Switched := by
  by_cases spi : cmd = serialUseSpi
  · subst spi
    exact setMode_triple mode_useSpi
  by_cases usart : cmd = serialUseUsart
  · subst usart
    exact setMode_triple mode_useUsart
  have executed : (execute pins cmd size).Within (switching.Keeps Switched) := by
    refine execute_within coversExecution_switched pins size ?_
    rintro (chosen | chosen)
    · exact absurd chosen spi
    · exact absurd chosen usart
  -- any other command means the mode there was
  refine (Setting.Triple.kept steady_switched executed).conseq ?_ fun _ _ _ standing => standing
  intro device history standing
  refine ⟨?_, standing.transfers⟩
  rw [standing.selected, modeAfter, if_neg spi, if_neg usart]

theorem receiveByte_switched (received : Received) :
    switching.Triple Switched (receiveByte received) fun _ => Switched := by
  have added : switching.Triple Switched
      (.statement (.addByte received.byte)
        (fun device => { device with serial := (serialAddByte received.byte device.serial).2 })
        fun device => .done (serialAddByte received.byte device.serial).1)
      fun _ => Switched :=
    .kept steady_switched ⟨fun _ => keeps_switched nofun rfl, fun _ => trivial⟩
  refine added.seq fun complete => ?_
  refine .onlyIf steady_switched (fun _ => ?_) fun _ _ _ standing => standing
  have processed : switching.Triple Switched (serialProcess received.pins) fun _ => Switched :=
    removeCmd_triple.seq fun cmd => (removeSize_triple cmd).seq fun size =>
      execute_switching received.pins cmd size
  refine processed.seq fun accepted => .kept steady_switched ?_
  exact .bind (.assign fun _ => keeps_switched nofun rfl) fun _ =>
    .assign fun _ => keeps_switched nofun rfl

theorem appService_switched : switching.Triple Switched appService fun _ => Switched := by
  refine .kept steady_switched (appService_within (fun point device timer timing => ?_) ?_)
  · refine keeps_switched ?_ rfl
    rintro rfl
    cases timing
  · exact ⟨fun _ => keeps_switched nofun rfl, fun _ _ => keeps_switched nofun rfl,
      fun _ _ => keeps_switched nofun rfl, fun _ _ => keeps_switched nofun rfl,
      fun _ _ => keeps_switched nofun rfl⟩

theorem flushReplies_switched (results : List Bool) :
    switching.Triple Switched (flushReplies results) fun _ => Switched :=
  .kept steady_switched (flushReplies_within
    ⟨fun _ => keeps_switched nofun rfl, fun _ _ => keeps_switched nofun rfl,
      fun _ _ => keeps_switched nofun rfl, fun _ _ => keeps_switched nofun rfl,
      fun _ _ => keeps_switched nofun rfl⟩ results)

theorem calls_switched (entry : Call) (device : Device) (history : Past)
    (standing : Switched device history) :
    switching.Ensures (fun _ => Switched) (body entry) device
      (⟨.call entry, device, device⟩ :: history) := by
  have called : Switched device (⟨.call entry, device, device⟩ :: history) :=
    ⟨standing.selected, nofun, standing.transfers⟩
  cases entry with
  | usbData more =>
      refine Setting.Triple.each (fun _ => Switched) steady_switched more ?_ _ _ called
      exact fun received _ _ => receiveByte_switched received
  | flush results => exact flushReplies_switched results _ _ called
  | service => exact appService_switched _ _ called

/-- In every run, a byte for the SPI finds it on exactly if no frame has switched to the USART
since the start or the last frame that has switched to the SPI. A host that sends no data for
the SPI in USART mode never makes the device wait for a transfer that does not happen. -/
theorem spi_enabled_iff_selected (choices : Choices) :
    Meets transferMatches (after choices).history ∧
      ((after choices).idle = true →
        (after choices).state.spiEnabled = spiSelected (after choices).history) := by
  have booted : Switched boot [] := ⟨by rfl, trivial⟩
  have met : Meets switching.allowed (after choices).history := .trivial _
  constructor
  · exact switching.run_always steady_switched booted
      (fun entry device history standing _ => calls_switched entry device history standing)
      choices met
  · intro idle
    have standing : Switched (after choices).state (after choices).history :=
      switching.run_between steady_switched booted
        (fun entry device history standing _ => calls_switched entry device history standing)
        choices met idle
    exact standing.selected.symm

/-- Data for the SPI in USART mode finds it off. -/
example :
    let run := after ([.call (.usbData ([0x06, 0x00, 0x03, 0x01, 0x55].map fun byte =>
      ⟨byte, ⟨fun _ => true, true⟩⟩))] ++ List.replicate 40 .main)
    run.idle = true ∧ run.state.spi = [0x55] ∧ run.state.spiEnabled = false := by
  decide +kernel

end MiniMiner.XilinxFpgaProg
