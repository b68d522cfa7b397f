import MiniMiner.AvalonBTC.Footprint

/-! The enable bit of the report interrupt. The handler clears `SPIE` and raises
the report flag; only the report branch of `appService` sets `SPIE` again, and it
is entered only while the flag is up. The other routines clear the flag without
looking at `SPIE`. -/

set_option autoImplicit false

namespace MiniMiner.AvalonBTC

open LittleEndian Preemption Preemption.Program

/-- The statements that clear the report flag outside the report branch. -/
def clearsReport : Step → Bool
  | .main (.clearReportValid _ caller) => caller ≠ .report
  | _ => false

def clearsWhileEnabled (label : Step) (device : Device) (_ : Past) : Prop :=
  clearsReport label = true → device.spcr &&& spie ≠ 0

instance (label : Step) (device : Device) (history : Past) :
    Decidable (clearsWhileEnabled label device history) :=
  inferInstanceAs (Decidable (clearsReport label = true → device.spcr &&& spie ≠ 0))

def listening : Setting Point Device Interrupt Call where
  machine := firmware
  allowed := clearsWhileEnabled
  always := fun _ _ => True

/-- A disabled interrupt has left a report for `appService`. -/
def Listening (device : Device) (_ : Past) : Prop :=
  device.spcr &&& spie = 0 → device.reportValid = 1

theorem steady_listening : listening.Steady Listening where
  stable := by
    intro source before after history handled _ listens
    rcases handler_eq_some handled with ⟨_, rfl⟩ | ⟨_, _, _, _, rfl⟩
    · exact listens
    · exact fun _ => rfl
  always := fun _ _ _ => trivial

theorem keeps_listening {point : Point} {before after : Device}
    (sameControl : after.spcr = before.spcr) (sameFlag : after.reportValid = before.reportValid) :
    listening.Keeps Listening point before after := by
  intro history _ listens disabled
  rw [sameFlag]
  rw [sameControl] at disabled
  exact listens disabled

theorem coversCaller_listening {caller : Caller} (other : caller ≠ .report) :
    CoversCaller (listening.Keeps Listening) caller where
  reply := fun _ _ _ => keeps_listening rfl rfl
  asic :=
    { clearReportCount := fun _ _ => keeps_listening rfl rfl
      clearReportValid := fun _ _ _ enabled _ disabled =>
        absurd disabled (enabled (decide_eq_true other))
      resetLow := fun _ => keeps_listening rfl rfl
      resetHigh := fun _ => keeps_listening rfl rfl
      disableSpi := fun _ => keeps_listening rfl rfl
      enableSpi := fun _ => keeps_listening rfl rfl }
  state :=
    { setState := fun _ _ => keeps_listening rfl rfl
      setNonceValid := fun _ _ => keeps_listening rfl rfl
      setNonce := fun _ _ => keeps_listening rfl rfl }

theorem steady_anything : listening.Steady fun _ _ => True where
  stable := fun _ _ _ _ _ _ _ => trivial
  always := fun _ _ _ => trivial

/-- Up to the statement that enables the interrupt, the report branch needs
nothing; after it, an interrupt that is disabled has been taken again. -/
theorem serviceReport_listening_triple :
    listening.Triple (fun _ _ => True) serviceReport fun _ => Listening := by
  have anything {Value : Type} (program : Firmware Value) :
      listening.Triple (fun _ _ => True) program fun _ _ _ => True :=
    .kept steady_anything (.all (fun _ _ _ _ _ _ => trivial) program)
  have enabled : listening.Triple (fun _ _ => True)
      (assign .enableInterrupt fun device => { device with spcr := device.spcr ||| spie })
      fun _ => Listening :=
    .assign steady_anything steady_listening fun device _ _ _ disabled =>
      absurd disabled (set_and_ne_zero device.spcr (by decide))
  exact (anything _).seq fun _ => (anything _).seq fun _ => (anything _).seq fun _ =>
    (anything _).seq fun _ => (anything _).seq fun _ => enabled.seq fun _ =>
    .kept steady_listening (.bind (.assign fun _ => keeps_listening rfl rfl) fun _ =>
      .bind (.assign fun _ => keeps_listening rfl rfl) fun _ =>
      sendState_within (fun _ _ _ => keeps_listening rfl rfl) _)

theorem appService_listening_triple :
    listening.Triple Listening appService fun _ => Listening := by
  refine .read (fun _ => True) steady_listening (fun _ => keeps_listening rfl rfl)
    (fun _ _ _ => trivial) fun valid _ => ?_
  have reported : listening.Triple Listening (onlyIf (valid ≠ 0) serviceReport)
      fun _ => Listening :=
    .onlyIf steady_listening
      (fun _ => serviceReport_listening_triple.conseq (fun _ _ _ => trivial)
        fun _ _ _ listens => listens)
      fun _ _ _ listens => listens
  refine reported.seq fun _ => .kept steady_listening ?_
  exact .bind ⟨fun _ => keeps_listening rfl rfl, fun _ => trivial⟩ fun _ =>
    .onlyIf (serviceExpiry_within (coversCaller_listening nofun))

theorem coversWork_listening : CoversWork (listening.Keeps Listening) where
  caller := coversCaller_listening nofun
  fill := ⟨fun _ _ _ _ => keeps_listening rfl rfl, fun _ _ _ _ => keeps_listening rfl rfl⟩
  remove := fun _ _ => keeps_listening rfl rfl
  precalc := fun _ _ => keeps_listening rfl rfl
  loadWork := fun _ => keeps_listening rfl rfl
  dataPort := fun _ _ => keeps_listening rfl rfl
  timerSet := fun _ _ => keeps_listening rfl rfl

theorem boundary_listening : Boundary listening Listening where
  steady := steady_listening
  call := fun _ _ _ _ listens => listens
  receive := fun _ _ => keeps_listening rfl rfl
  getCount := fun _ => keeps_listening rfl rfl
  peekCommand := fun _ => keeps_listening rfl rfl
  single := fun count _ notW => .kept steady_listening
    (dispatch_within (fun _ _ => coversCaller_listening nofun) (fun _ _ _ => keeps_listening rfl rfl)
      (fun _ _ => keeps_listening rfl rfl) count notW)
  work := .kept steady_listening (commandW_within coversWork_listening)
  flush := fun results => .kept steady_listening (flushReplies_within
    ⟨fun _ => keeps_listening rfl rfl, fun _ _ => keeps_listening rfl rfl,
      fun _ _ => keeps_listening rfl rfl, fun _ _ => keeps_listening rfl rfl,
      fun _ _ => keeps_listening rfl rfl⟩ results)
  service := fun _ _ _ listens => appService_listening_triple _ _ listens

def SameControl (_ : Point) (before after : Device) : Prop := after.spcr = before.spcr

theorem coversCaller_sameControl (caller : Caller) : CoversCaller SameControl caller where
  reply := fun _ _ _ => rfl
  asic :=
    { clearReportCount := fun _ _ => rfl
      clearReportValid := fun _ _ => rfl
      resetLow := fun _ => rfl
      resetHigh := fun _ => rfl
      disableSpi := fun _ => rfl
      enableSpi := fun _ => rfl }
  state :=
    { setState := fun _ _ => rfl
      setNonceValid := fun _ _ => rfl
      setNonce := fun _ _ => rfl }

theorem serviceReport_enables (device : Device) :
    (serviceReport.alone device).2.spcr &&& spie ≠ 0 := by
  have covers := coversCaller_sameControl .report
  have rest (nonce : Word) : (do
      setNonce .report (nonceOfReport nonce)
      setNonceValid .report 1
      sendState .report Command.S.toByte).Within SameControl :=
    .bind (.assign fun device => covers.state.setNonce device _) fun _ =>
      .bind (.assign fun device => covers.state.setNonceValid device _) fun _ =>
      sendState_within covers.reply _
  have replied (nonce : Word) (earlier : Device) := (rest nonce).alone_eq earlier
  have enabled (nonce : Word) (earlier : Device) : ((do
      assign .enableInterrupt fun device => { device with spcr := device.spcr ||| spie }
      setNonce .report (nonceOfReport nonce)
      setNonceValid .report 1
      sendState .report Command.S.toByte : Firmware Unit).alone earlier).2.spcr &&& spie ≠ 0 := by
    rw [alone_bind, replied]
    exact set_and_ne_zero earlier.spcr (by decide)
  unfold serviceReport
  simp only [alone_bind] at enabled ⊢
  exact enabled _ _

/-- A call of `appService` that finds a report enables the interrupt. -/
theorem appService_enables {device : Device} (pending : device.reportValid = 1) :
    (appService.alone device).2.spcr &&& spie ≠ 0 := by
  have timed : (do
      let expired ← workTimerExpired
      onlyIf (expired = true) serviceExpiry).Within SameControl :=
    .bind ⟨fun _ => rfl, fun _ => trivial⟩ fun _ =>
      .onlyIf (serviceExpiry_within (coversCaller_sameControl _))
  have kept := timed.alone_eq (serviceReport.alone device).2
  have served : appService.alone device = (do
      let expired ← workTimerExpired
      onlyIf (expired = true) serviceExpiry).alone (serviceReport.alone device).2 := by
    simp only [appService, asicReportValid, alone_bind, alone_fetch, pending]
    rfl
  rw [served, kept]
  exact serviceReport_enables device

/-- If every statement outside the report branch that clears the report flag
finds the interrupt enabled, then between calls a disabled interrupt always has
a report pending, and the next `appService` enables it again. -/
theorem disabled_implies_pending (choices : Choices)
    (enabled : Meets clearsWhileEnabled (after choices).history)
    (idle : (after choices).idle = true) (disabled : (after choices).state.spcr &&& spie = 0) :
    (after choices).state.reportValid = 1 ∧
      (appService.alone (after choices).state).2.spcr &&& spie ≠ 0 := by
  have listens := listening.run_between boundary_listening.steady (fun off => by cases off)
    boundary_listening.calls choices enabled idle
  exact ⟨listens disabled, appService_enables (listens disabled)⟩

/-- The reset command while the interrupt is enabled, and a report after it. -/
def resetThenReport : Choices :=
  [.call (.usbData [0x52])] ++ .replicate 30 .main ++ [.interrupt (.spi 0 fun _ => none)]

theorem disabled_implies_pending_resetThenReport :
    (after resetThenReport).history.countP (fun step => clearsReport step.label) = 2 ∧
      (after resetThenReport).state.spcr &&& spie = 0 ∧
      (after resetThenReport).state.reportValid = 1 ∧
      (appService.alone (after resetThenReport).state).2.spcr &&& spie ≠ 0 := by
  have run : (after resetThenReport).history.countP (fun step => clearsReport step.label) = 2 ∧
      (after resetThenReport).state.spcr &&& spie = 0 := by
    decide +kernel
  exact ⟨run.1, run.2, disabled_implies_pending resetThenReport (by decide +kernel)
    (by decide +kernel) run.2⟩

/-- A report arrives, and a reset command comes before the next `appService`. -/
theorem deaf_after_reset_command :
    ¬ ∀ choices : Choices, (after choices).idle = true →
      (after choices).state.spcr &&& spie = 0 → (after choices).state.reportValid = 1 := by
  intro listens
  have pending := listens ([.interrupt (.spi 0 fun _ => some 0), .call (.usbData [0x52])] ++
    .replicate 30 .main) (by decide +kernel) (by decide +kernel)
  revert pending
  decide +kernel

/-- The interrupt is disabled and nothing is pending. -/
def Deaf (device : Device) (_ : Past) : Prop :=
  device.spcr &&& spie = 0 ∧ device.reportValid = 0

def deafness : Setting Point Device Interrupt Call where
  machine := firmware
  allowed := fun _ _ _ => True
  always := Deaf

theorem steady_deaf : deafness.Steady Deaf where
  stable := by
    intro source before after history handled _ deaf
    rcases handler_eq_some handled with ⟨_, rfl⟩ | ⟨_, _, _, enabled, _⟩
    · exact deaf
    · exact absurd deaf.1 enabled
  always := fun _ _ deaf => deaf

theorem keeps_deaf {point : Point} {before after : Device}
    (sameControl : after.spcr = before.spcr)
    (sameFlag : before.reportValid = 0 → after.reportValid = 0) :
    deafness.Keeps Deaf point before after := by
  intro history _ deaf
  exact ⟨by rw [sameControl, deaf.1], sameFlag deaf.2⟩

theorem coversCaller_deaf (caller : Caller) : CoversCaller (deafness.Keeps Deaf) caller where
  reply := fun _ _ _ => keeps_deaf rfl id
  asic :=
    { clearReportCount := fun _ _ => keeps_deaf rfl id
      clearReportValid := fun _ _ => keeps_deaf rfl fun _ => rfl
      resetLow := fun _ => keeps_deaf rfl id
      resetHigh := fun _ => keeps_deaf rfl id
      disableSpi := fun _ => keeps_deaf rfl id
      enableSpi := fun _ => keeps_deaf rfl id }
  state :=
    { setState := fun _ _ => keeps_deaf rfl id
      setNonceValid := fun _ _ => keeps_deaf rfl id
      setNonce := fun _ _ => keeps_deaf rfl id }

theorem appService_deaf_triple : deafness.Triple Deaf appService fun _ => Deaf := by
  refine .read (fun valid => valid = 0) steady_deaf (fun _ => keeps_deaf rfl id)
    (fun device _ deaf => ?_) fun valid zero => ?_
  · rw [deaf.2]
    rfl
  · -- the report branch is not taken, and nothing else enables the interrupt
    refine .seq (.onlyIf steady_deaf (fun taken => absurd zero taken) fun _ _ _ deaf => deaf)
      fun _ => .kept steady_deaf ?_
    exact .bind ⟨fun _ => keeps_deaf rfl id, fun _ => trivial⟩ fun _ =>
      .onlyIf (serviceExpiry_within (coversCaller_deaf _))

theorem coversWork_deaf : CoversWork (deafness.Keeps Deaf) where
  caller := coversCaller_deaf _
  fill := ⟨fun _ _ _ _ => keeps_deaf rfl id, fun _ _ _ _ => keeps_deaf rfl id⟩
  remove := fun _ _ => keeps_deaf rfl id
  precalc := fun _ _ => keeps_deaf rfl id
  loadWork := fun _ => keeps_deaf rfl id
  dataPort := fun _ _ => keeps_deaf rfl id
  timerSet := fun _ _ => keeps_deaf rfl id

theorem boundary_deaf : Boundary deafness Deaf where
  steady := steady_deaf
  call := fun _ _ _ _ deaf => deaf
  receive := fun _ _ => keeps_deaf rfl id
  getCount := fun _ => keeps_deaf rfl id
  peekCommand := fun _ => keeps_deaf rfl id
  single := fun count _ notW => .kept steady_deaf
    (dispatch_within (fun _ _ => coversCaller_deaf _) (fun _ _ _ => keeps_deaf rfl id)
      (fun _ _ => keeps_deaf rfl id) count notW)
  work := .kept steady_deaf (commandW_within coversWork_deaf)
  flush := fun results => .kept steady_deaf (flushReplies_within
    ⟨fun _ => keeps_deaf rfl id, fun _ _ => keeps_deaf rfl id, fun _ _ => keeps_deaf rfl id,
      fun _ _ => keeps_deaf rfl id, fun _ _ => keeps_deaf rfl id⟩ results)
  service := fun _ _ _ deaf => appService_deaf_triple _ _ deaf

/-- A device that has become deaf between two calls never hears a report again,
whatever the host sends. -/
theorem deaf_forever {start : Device} (disabled : start.spcr &&& spie = 0)
    (nothing : start.reportValid = 0) (choices : Choices) :
    (firmware.run choices (.start start)).state.spcr &&& spie = 0 ∧
      (firmware.run choices (.start start)).state.reportValid = 0 :=
  deafness.run_always boundary_deaf.steady ⟨disabled, nothing⟩ boundary_deaf.calls choices
    (Meets.trivial _)

end MiniMiner.AvalonBTC
