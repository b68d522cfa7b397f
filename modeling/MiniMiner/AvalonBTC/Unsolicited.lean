import MiniMiner.AvalonBTC.Provenance
import MiniMiner.AvalonBTC.WorkingState

/-! The status replies that `appService` sends on its own account, and the work
they belong to. Neither branch of `appService` looks at `app->state`, and neither
`'A'` nor `'R'` stops the work timer; the replies belong to a work in progress as
long as no report comes and no old timer expires outside of one. -/

set_option autoImplicit false

namespace MiniMiner.AvalonBTC

open LittleEndian Preemption Preemption.Program

/-- The status byte at the latest call, whether an accepted `'W'` has neither been
answered nor aborted, and whether the report flag has been cleared for the last
time before the status byte is reset. -/
structure Account where
  entry : Byte
  credit : Bool
  closing : Bool

def account : Past → Account
  | [] => { entry := 0, credit := false, closing := false }
  | transition :: earlier =>
      match transition.label with
      | .call _ => { account earlier with entry := transition.source.state.state }
      | .main (.removeCommand .W) => { account earlier with credit := true }
      | .main (.removeCommand .A) => { account earlier with credit := false }
      | .main (.removeCommand .R) => { account earlier with credit := false }
      | .main (.write .report 0) => { account earlier with credit := false }
      | .main (.write .expiry 0) => { account earlier with credit := false }
      | .main (.clearReportValid .asicResetSpi caller) =>
          { account earlier with closing := decide (caller ≠ .command .W) }
      | .main (.setState _) => { account earlier with closing := false }
      | _ => account earlier

def beginsReply : Step → Bool
  | .main (.write .report 0) => true
  | .main (.write .expiry 0) => true
  | _ => false

/-- A reply of `appService` is sent from a call that found the device working,
and it is the first one since the latest `'W'`, with no abort or reset since. -/
def tiedToWork (label : Step) (_ : Device) (history : Past) : Prop :=
  (unsolicited label = true → (account history).entry = stateWorking) ∧
    (beginsReply label = true → (account history).credit = true)

instance (label : Step) (device : Device) (history : Past) :
    Decidable (tiedToWork label device history) :=
  inferInstanceAs (Decidable
    ((unsolicited label = true → (account history).entry = stateWorking) ∧
      (beginsReply label = true → (account history).credit = true)))

/-- Reports come only while the device is working, and not between the last
clearing of the flag and the reset of the status byte; a device that is not
working asks a running timer only within the interval. -/
def onlyWhileWorking : Step → Device → Past → Prop
  | .interrupt (.spi _ _), device, history =>
      device.state.state = stateWorking ∧ (account history).closing = false
  | .main .timerExpired, device, history =>
      device.state.state ≠ stateWorking → device.workTimer.active = 0 ∨
        ((watch history).armed.isSome = true ∧ (watch history).elapsed < 16000)
  | _, _, _ => True

instance : (label : Step) → (device : Device) → (history : Past) →
    Decidable (onlyWhileWorking label device history)
  | .interrupt (.spi _ _), device, history =>
      inferInstanceAs (Decidable
        (device.state.state = stateWorking ∧ (account history).closing = false))
  | .interrupt .tick, _, _ => .isTrue trivial
  | .call _, _, _ => .isTrue trivial
  | .main point, device, history =>
      if asked : point = .timerExpired then
        decidable_of_iff (device.state.state ≠ stateWorking → device.workTimer.active = 0 ∨
          ((watch history).armed.isSome = true ∧ (watch history).elapsed < 16000))
          (by rw [asked]; exact Iff.rfl)
      else .isTrue (by cases point <;> trivial)

def tying : Setting Point Device Interrupt Call where
  machine := firmware
  allowed := fun label device history =>
    onlyWhileWorking label device history ∧ Clocked device (watch history)
  always := fun _ history => Meets tiedToWork history

/-- The replies so far belong to works, and the device stands in this relation to
the account. -/
def Telling (relation : Device → Account → Prop) (device : Device) (history : Past) : Prop :=
  Meets tiedToWork history ∧ relation device (account history)

def Point.unaccounted : Point → Bool
  | .removeCommand .W => false
  | .removeCommand .A => false
  | .removeCommand .R => false
  | .write .report _ => false
  | .write .expiry _ => false
  | .clearReportValid .asicResetSpi _ => false
  | .setState _ => false
  | _ => true

theorem account_unaccounted {point : Point} (unaccounted : point.unaccounted = true)
    (before after : Device) (history : Past) :
    account (⟨.main point, before, after⟩ :: history) = account history := by
  cases point with
  | removeCommand command => cases command <;> first | rfl | cases unaccounted
  | clearReportValid routine caller => cases routine <;> first | rfl | cases unaccounted
  | write caller index => cases caller <;> first | rfl | cases unaccounted
  | _ => first | rfl | cases unaccounted

theorem tiedToWork_of_silent {label : Step} (silent : unsolicited label = false)
    (device : Device) (history : Past) : tiedToWork label device history := by
  refine ⟨fun spoken => ?_, fun begun => ?_⟩
  · rw [silent] at spoken
    cases spoken
  · revert silent
    unfold beginsReply at begun
    split at begun
    · exact nofun
    · exact nofun
    · cases begun

theorem unsolicited_unaccounted {point : Point} (unaccounted : point.unaccounted = true) :
    unsolicited (.main point) = false := by
  cases point with
  | write caller index => cases caller <;> first | rfl | cases unaccounted
  | _ => rfl

theorem Telling.step {relation other : Device → Account → Prop} {point : Point}
    {before after : Device} {history : Past} (telling : Telling relation before history)
    (unaccounted : point.unaccounted = true)
    (step : ∀ book, relation before book → other after book) :
    Telling other after (⟨.main point, before, after⟩ :: history) := by
  obtain ⟨told, related⟩ := telling
  refine ⟨⟨tiedToWork_of_silent (unsolicited_unaccounted unaccounted) _ _, told⟩, ?_⟩
  rw [account_unaccounted unaccounted]
  exact step _ related

/-- What an interrupt leaves alone: the clock changes only the time, and the
handler of a report is admitted only while the device is working. -/
theorem steady_telling {relation : Device → Account → Prop}
    (spared : ∀ before after book, after.reportValid = before.reportValid →
      after.state = before.state → after.workTimer = before.workTimer →
      relation before book → relation after book)
    (reported : ∀ before after book, before.state.state = stateWorking → book.closing = false →
      after.state = before.state → after.workTimer = before.workTimer →
      relation before book → relation after book) :
    tying.Steady (Telling relation) where
  stable := by
    intro source before after history handled admitted telling
    obtain ⟨told, related⟩ := telling
    rcases handler_eq_some handled with ⟨rfl, rfl⟩ | ⟨spdr, polls, rfl, _, rfl⟩
    · exact ⟨⟨tiedToWork_of_silent rfl _ _, told⟩, spared before _ _ rfl rfl rfl related⟩
    · exact ⟨⟨tiedToWork_of_silent rfl _ _, told⟩,
        reported before _ _ admitted.1.1 admitted.1.2 rfl rfl related⟩
  always := fun _ _ telling => telling.1

/-- Between calls a report is pending only while the device is working, and a
working device has not been answered. -/
structure Tied (device : Device) (book : Account) : Prop where
  flag : device.reportValid ≠ 0 → device.state.state = stateWorking
  unpaid : device.state.state = stateWorking → book.credit = true

theorem Tied.spared {before after : Device} {book : Account} (tied : Tied before book)
    (flag : after.reportValid ≠ 0 → before.reportValid ≠ 0)
    (state : after.state.state = before.state.state) : Tied after book where
  flag := by
    intro raised
    rw [state]
    exact tied.flag (flag raised)
  unpaid := by
    rw [state]
    exact tied.unpaid

theorem Tied.reported {before after : Device} {book : Account} (tied : Tied before book)
    (working : before.state.state = stateWorking) (state : after.state = before.state) :
    Tied after book where
  flag := fun _ => by rw [state, working]
  unpaid := fun _ => tied.unpaid working

theorem steady_tied : tying.Steady (Telling Tied) :=
  steady_telling
    (fun _ _ _ flag state _ tied => tied.spared (by rw [flag]; exact id) (by rw [state]))
    fun _ _ _ working _ state _ tied => tied.reported working state

theorem keeps_tied {point : Point} {before after : Device}
    (unaccounted : point.unaccounted = true)
    (flag : after.reportValid ≠ 0 → before.reportValid ≠ 0)
    (state : after.state.state = before.state.state) :
    tying.Keeps (Telling Tied) point before after :=
  fun _ _ telling => telling.step unaccounted fun _ tied => tied.spared flag state

def Framed (frame : Timer → Byte → Bool → Prop) (device : Device) (book : Account) : Prop :=
  frame device.workTimer book.entry book.credit

theorem steady_framed (frame : Timer → Byte → Bool → Prop) :
    tying.Steady (Telling (Framed frame)) := by
  refine steady_telling (fun _ _ _ _ _ timer framed => ?_) fun _ _ _ _ _ _ timer framed => ?_
  · unfold Framed
    rw [timer]
    exact framed
  · unfold Framed
    rw [timer]
    exact framed

theorem keeps_framed {frame : Timer → Byte → Bool → Prop} {point : Point}
    {before after : Device} (silent : unsolicited (.main point) = false)
    (same : ∀ history, (account (⟨.main point, before, after⟩ :: history)).entry =
        (account history).entry ∧
      (account (⟨.main point, before, after⟩ :: history)).credit = (account history).credit)
    (timer : after.workTimer = before.workTimer) :
    tying.Keeps (Telling (Framed frame)) point before after := by
  intro history _ telling
  refine ⟨⟨tiedToWork_of_silent silent _ _, telling.1⟩, ?_⟩
  unfold Framed
  rw [(same history).1, (same history).2, timer]
  exact telling.2

theorem coversAsic_framed (frame : Timer → Byte → Bool → Prop) (caller : Caller) :
    CoversAsic (tying.Keeps (Telling (Framed frame))) caller where
  clearReportCount := fun _ _ => keeps_framed rfl (fun _ => ⟨rfl, rfl⟩) rfl
  clearReportValid := by
    intro routine device
    cases routine <;> exact keeps_framed rfl (fun _ => ⟨rfl, rfl⟩) rfl
  resetLow := fun _ => keeps_framed rfl (fun _ => ⟨rfl, rfl⟩) rfl
  resetHigh := fun _ => keeps_framed rfl (fun _ => ⟨rfl, rfl⟩) rfl
  disableSpi := fun _ => keeps_framed rfl (fun _ => ⟨rfl, rfl⟩) rfl
  enableSpi := fun _ => keeps_framed rfl (fun _ => ⟨rfl, rfl⟩) rfl

/-- The flag has been cleared for the last time; no report is admitted. -/
structure Closing (frame : Timer → Byte → Bool → Prop) (device : Device) (book : Account) :
    Prop where
  framed : Framed frame device book
  lowered : device.reportValid = 0
  closing : book.closing = true

theorem steady_closing (frame : Timer → Byte → Bool → Prop) :
    tying.Steady (Telling (Closing frame)) := by
  refine steady_telling (fun _ _ _ flag _ timer closing => ?_)
    fun _ _ _ _ still _ _ closing => ?_
  · refine ⟨?_, by rw [flag, closing.lowered], closing.closing⟩
    unfold Framed
    rw [timer]
    exact closing.framed
  · rw [closing.closing] at still
    cases still

/-- The status byte has been reset with the flag down; no report is admitted. -/
structure Quiet (frame : Timer → Byte → Bool → Prop) (device : Device) (book : Account) :
    Prop where
  framed : Framed frame device book
  lowered : device.reportValid = 0
  stopped : device.state.state ≠ stateWorking

theorem Quiet.spared {frame : Timer → Byte → Bool → Prop} {before after : Device}
    {book : Account} (quiet : Quiet frame before book)
    (flag : after.reportValid = before.reportValid)
    (state : after.state.state = before.state.state)
    (timer : after.workTimer = before.workTimer) : Quiet frame after book where
  framed := by
    unfold Framed
    rw [timer]
    exact quiet.framed
  lowered := by rw [flag, quiet.lowered]
  stopped := by
    rw [state]
    exact quiet.stopped

theorem steady_quiet (frame : Timer → Byte → Bool → Prop) :
    tying.Steady (Telling (Quiet frame)) :=
  steady_telling
    (fun _ _ _ flag state timer quiet => quiet.spared flag (by rw [state]) timer)
    fun _ _ _ working _ _ _ quiet => absurd working quiet.stopped

theorem Quiet.tied {frame : Timer → Byte → Bool → Prop} {device : Device} {book : Account}
    (quiet : Quiet frame device book) : Tied device book :=
  ⟨fun raised => absurd quiet.lowered raised, fun working => absurd working quiet.stopped⟩

theorem keeps_quiet {frame : Timer → Byte → Bool → Prop} {point : Point}
    {before after : Device} (unaccounted : point.unaccounted = true)
    (flag : after.reportValid = before.reportValid)
    (state : after.state.state = before.state.state)
    (timer : after.workTimer = before.workTimer) :
    tying.Keeps (Telling (Quiet frame)) point before after :=
  fun _ _ telling => telling.step unaccounted fun _ quiet => quiet.spared flag state timer

/-- The last steps of `'R'` and of both branches of `appService` before the reply. -/
theorem asicResetSpi_closing_triple (frame : Timer → Byte → Bool → Prop) (caller : Caller)
    (notW : caller ≠ .command .W) :
    tying.Triple (Telling (Framed frame)) (asicResetSpi caller)
      fun _ => Telling (Closing frame) := by
  have cleared : tying.Triple (Telling (Framed frame)) (clearReport .asicResetSpi caller)
      fun _ => Telling (Closing frame) := by
    refine .seq (.kept (steady_framed frame)
      (.assign ((coversAsic_framed frame caller).clearReportCount _))) fun _ => ?_
    refine .assign (steady_framed frame) (steady_closing frame) fun _ _ telling _ => ?_
    exact ⟨⟨tiedToWork_of_silent rfl _ _, telling.1⟩, telling.2, rfl, decide_eq_true notW⟩
  refine cleared.seq fun _ => .kept (steady_closing frame)
    (.bind (.assign fun _ _ _ telling => ?_) fun _ => .assign fun _ _ _ telling => ?_)
  · exact telling.step rfl fun _ closing => ⟨closing.framed, closing.lowered, closing.closing⟩
  · exact telling.step rfl fun _ closing => ⟨closing.framed, closing.lowered, closing.closing⟩

theorem setState_quiet_triple (frame : Timer → Byte → Bool → Prop) (caller : Caller) :
    tying.Triple (Telling (Closing frame)) (setState caller stateReset)
      fun _ => Telling (Quiet frame) :=
  .assign (steady_closing frame) (steady_quiet frame) fun _ _ telling _ =>
    ⟨⟨tiedToWork_of_silent rfl _ _, telling.1⟩, telling.2.framed, telling.2.lowered,
      reset_ne_working⟩

/-- A reply is due: the call found the device working and its work unanswered. -/
def Due (timer : Timer → Prop) (workTimer : Timer) (entry : Byte) (credit : Bool) : Prop :=
  entry = stateWorking ∧ credit = true ∧ timer workTimer

def Paid (timer : Timer → Prop) (workTimer : Timer) (entry : Byte) (_ : Bool) : Prop :=
  entry = stateWorking ∧ timer workTimer

theorem beginsReply_laterByte {index : Nat} (later : index ≠ 0) (caller : Caller) :
    beginsReply (.main (.write caller index)) = false := by
  cases index with
  | zero => exact absurd rfl later
  | succ index => cases caller <;> rfl

theorem account_laterByte {index : Nat} (later : index ≠ 0) (caller : Caller)
    (before after : Device) (history : Past) :
    account (⟨.main (.write caller index), before, after⟩ :: history) = account history := by
  cases index with
  | zero => exact absurd rfl later
  | succ index => cases caller <;> rfl

theorem Telling.firstByte {timer : Timer → Prop} {caller : Caller} {device after : Device}
    {history : Past} (own : caller = .report ∨ caller = .expiry)
    (telling : Telling (Quiet (Due timer)) device history)
    (flag : after.reportValid = device.reportValid)
    (state : after.state.state = device.state.state)
    (workTimer : after.workTimer = device.workTimer) :
    Telling (Quiet (Paid timer)) after (⟨.main (.write caller 0), device, after⟩ :: history) := by
  obtain ⟨told, quiet⟩ := telling
  obtain ⟨⟨entry, credit, held⟩, lowered, stopped⟩ := quiet.spared flag state workTimer
  refine ⟨⟨⟨fun _ => entry, fun _ => credit⟩, told⟩, ?_⟩
  rcases own with rfl | rfl
  · exact ⟨⟨entry, held⟩, lowered, stopped⟩
  · exact ⟨⟨entry, held⟩, lowered, stopped⟩

theorem sendState_unsolicited_triple (timer : Timer → Prop) {caller : Caller}
    (own : caller = .report ∨ caller = .expiry) (cmd : Byte) :
    tying.Triple (Telling (Quiet (Due timer))) (sendState caller cmd)
      fun _ => Telling (Quiet (Paid timer)) := by
  have first : tying.Triple (Telling (Quiet (Due timer))) (usbWrite caller 0 (fun _ => [cmd]) 1)
      fun _ => Telling (Quiet (Paid timer)) :=
    .seq (.assign (steady_quiet _) (steady_quiet _) fun _ _ telling _ =>
      telling.firstByte own rfl rfl rfl) fun _ => .done (steady_quiet _)
  refine first.seq fun _ => .kept (steady_quiet _) (.each fun index _ => ?_)
  refine .assign fun device history _ telling => ?_
  have later : 1 + index ≠ 0 := by omega
  refine ⟨⟨⟨fun _ => telling.2.framed.1, fun begun => ?_⟩, telling.1⟩, ?_⟩
  · rw [beginsReply_laterByte later] at begun
    cases begun
  · rw [account_laterByte later]
    exact telling.2.spared rfl rfl rfl

theorem serviceReport_tied_triple :
    tying.Triple (Telling (Framed (Due fun _ => True))) serviceReport
      fun _ => Telling (Quiet (Paid fun timer => timer.active = 0)) := by
  have covers := coversAsic_framed (Due fun _ => True) .report
  have read : asicGetNonce.Within (tying.Keeps (Telling (Framed (Due fun _ => True)))) :=
    .bind (clearReport_within covers _) fun _ =>
      .fetch fun _ => keeps_framed rfl (fun _ => ⟨rfl, rfl⟩) rfl
  refine .seq (.kept (steady_framed _) read) fun nonce => ?_
  have stopped : tying.Triple (Telling (Framed (Due fun _ => True)))
      (assign .timerStop fun device => { device with workTimer := timerStop device.workTimer })
      fun _ => Telling (Framed (Due fun timer => timer.active = 0)) :=
    .assign (steady_framed _) (steady_framed _) fun _ _ telling _ =>
      telling.step rfl fun _ due => ⟨due.1, due.2.1, rfl⟩
  refine stopped.seq fun _ => ?_
  refine .seq (.kept (steady_framed _) (asicStop_within (coversAsic_framed _ .report))) fun _ => ?_
  refine (asicResetSpi_closing_triple _ .report nofun).seq fun _ => ?_
  refine (setState_quiet_triple _ _).seq fun _ => ?_
  refine .seq (.kept (steady_quiet _) (.assign fun _ => keeps_quiet rfl rfl rfl rfl)) fun _ => ?_
  refine .seq (.kept (steady_quiet _) (.assign fun _ => keeps_quiet rfl rfl rfl rfl)) fun _ => ?_
  refine .seq (.kept (steady_quiet _) (.assign fun _ => keeps_quiet rfl rfl rfl rfl)) fun _ => ?_
  exact sendState_unsolicited_triple _ (.inl rfl) _

theorem serviceExpiry_tied_triple :
    tying.Triple (Telling (Framed (Due fun _ => True))) serviceExpiry
      fun _ => Telling (Quiet (Paid fun _ => True)) := by
  refine .seq (.kept (steady_framed _) (asicStop_within (coversAsic_framed _ .expiry))) fun _ => ?_
  refine (asicResetSpi_closing_triple _ .expiry nofun).seq fun _ => ?_
  refine (setState_quiet_triple _ _).seq fun _ => ?_
  refine .seq (.kept (steady_quiet _) (.assign fun _ => keeps_quiet rfl rfl rfl rfl)) fun _ => ?_
  refine .seq (.kept (steady_quiet _) (.assign fun _ => keeps_quiet rfl rfl rfl rfl)) fun _ => ?_
  exact sendState_unsolicited_triple _ (.inr rfl) _

/-- A call of `appService` that has not changed the status byte so far. -/
def Entered (device : Device) (book : Account) : Prop :=
  Tied device book ∧ book.entry = device.state.state

def Inspected (valid : Byte) (device : Device) (book : Account) : Prop :=
  Entered device book ∧ (valid ≠ 0 → device.state.state = stateWorking)

/-- The report branch is over; if it was taken, the timer is stopped. -/
def Waiting (device : Device) (book : Account) : Prop :=
  Tied device book ∧ (device.workTimer.active = 0 ∨ book.entry = device.state.state)

def Answered (expired : Bool) (device : Device) (book : Account) : Prop :=
  Tied device book ∧
    (expired = true → book.entry = stateWorking ∧ book.credit = true)

theorem steady_entered : tying.Steady (Telling Entered) :=
  steady_telling
    (fun _ _ _ flag state _ entered =>
      ⟨entered.1.spared (by rw [flag]; exact id) (by rw [state]), by rw [state, entered.2]⟩)
    fun _ _ _ working _ state _ entered =>
      ⟨entered.1.reported working state, by rw [state, entered.2]⟩

theorem steady_inspected (valid : Byte) : tying.Steady (Telling (Inspected valid)) :=
  steady_telling
    (fun _ _ _ flag state _ inspected =>
      ⟨⟨inspected.1.1.spared (by rw [flag]; exact id) (by rw [state]),
        by rw [state, inspected.1.2]⟩, by rw [state]; exact inspected.2⟩)
    fun _ _ _ working _ state _ inspected =>
      ⟨⟨inspected.1.1.reported working state, by rw [state, inspected.1.2]⟩,
        by rw [state]; exact inspected.2⟩

theorem steady_waiting : tying.Steady (Telling Waiting) :=
  steady_telling
    (fun _ _ _ flag state timer waiting =>
      ⟨waiting.1.spared (by rw [flag]; exact id) (by rw [state]),
        by rw [state, timer]; exact waiting.2⟩)
    fun _ _ _ working _ state timer waiting =>
      ⟨waiting.1.reported working state, by rw [state, timer]; exact waiting.2⟩

theorem steady_answered (expired : Bool) : tying.Steady (Telling (Answered expired)) :=
  steady_telling
    (fun _ _ _ flag state _ answered =>
      ⟨answered.1.spared (by rw [flag]; exact id) (by rw [state]), answered.2⟩)
    fun _ _ _ working _ state _ answered =>
      ⟨answered.1.reported working state, answered.2⟩

theorem Waiting.expired {device : Device} {history : Past}
    (waiting : Waiting device (account history))
    (admitted : tying.allowed (.main .timerExpired) device history)
    (due : timerDue device.workTimer device.time = true) :
    (account history).entry = stateWorking ∧ (account history).credit = true := by
  have active : device.workTimer.active ≠ 0 := by
    intro stopped
    unfold timerDue at due
    rw [if_pos stopped] at due
    cases due
  have working : device.state.state = stateWorking := by
    refine Decidable.byContradiction fun idle => ?_
    rcases admitted.1 idle with stopped | ⟨set, early⟩
    · exact active stopped
    · obtain ⟨start, armed⟩ := Option.isSome_iff_exists.mp set
      rw [not_timerDue_of_early admitted.2 armed early] at due
      cases due
  rcases waiting.2 with stopped | same
  · exact absurd stopped active
  · exact ⟨same.trans working, waiting.1.unpaid working⟩

theorem workTimerExpired_tied_triple :
    tying.Triple (Telling Waiting) workTimerExpired fun expired => Telling (Answered expired) := by
  refine .statement steady_waiting steady_answered fun device history telling admitted => ?_
  have answers := telling.2.expired admitted
  refine ⟨⟨tiedToWork_of_silent rfl _ _, telling.1⟩, telling.2.1.spared id rfl, ?_⟩
  exact answers

theorem appService_tied_triple :
    tying.Triple (Telling Entered) appService fun _ => Telling Tied := by
  have inspected : tying.Triple (Telling Entered) asicReportValid
      fun valid => Telling (Inspected valid) := by
    refine .fetch steady_entered steady_inspected fun device history telling _ => ?_
    refine telling.step rfl fun _ entered => ⟨entered, fun raised => entered.1.flag ?_⟩
    intro lowered
    rw [lowered] at raised
    exact raised rfl
  refine inspected.seq fun valid => ?_
  have reported : tying.Triple (Telling (Inspected valid)) (onlyIf (valid ≠ 0) serviceReport)
      fun _ => Telling Waiting := by
    refine .onlyIf steady_waiting (fun raised => ?_) fun _ device history telling => ?_
    · refine serviceReport_tied_triple.conseq (fun _ _ telling => ?_) fun _ _ _ telling => ?_
      · obtain ⟨told, ⟨tied, entry⟩, working⟩ := telling
        exact ⟨told, entry.trans (working raised), tied.unpaid (working raised), trivial⟩
      · exact ⟨telling.1, telling.2.tied, .inl telling.2.framed.2⟩
    · exact ⟨telling.1, telling.2.1.1, .inr telling.2.1.2⟩
  refine reported.seq fun _ => workTimerExpired_tied_triple.seq fun expired => ?_
  refine .onlyIf steady_tied (fun due => ?_) fun _ _ _ telling => ⟨telling.1, telling.2.1⟩
  refine serviceExpiry_tied_triple.conseq (fun _ _ telling => ?_) fun _ _ _ telling => ?_
  · obtain ⟨entry, credit⟩ := telling.2.2 due
    exact ⟨telling.1, entry, credit, trivial⟩
  · exact ⟨telling.1, telling.2.tied⟩

theorem sendState_quiet_triple (command : Command) (cmd : Byte) :
    tying.Triple (Telling (Quiet fun _ _ _ => True)) (sendState (.command command) cmd)
      fun _ => Telling Tied := by
  have covers : CoversReply (tying.Keeps (Telling (Quiet fun _ _ _ => True)))
      (.command command) :=
    fun _ _ _ => keeps_quiet rfl rfl rfl rfl
  exact (Setting.Triple.kept (steady_quiet _) (sendState_within covers cmd)).conseq
    (fun _ _ telling => telling) fun _ _ _ telling => ⟨telling.1, telling.2.tied⟩

theorem commandR_tied_triple : tying.Triple (Telling Tied) commandR fun _ => Telling Tied := by
  have removed : tying.Triple (Telling Tied) (removeCommand .R)
      fun _ => Telling (Framed fun _ _ _ => True) :=
    .assign steady_tied (steady_framed _) fun _ _ telling _ =>
      ⟨⟨tiedToWork_of_silent rfl _ _, telling.1⟩, trivial⟩
  refine removed.seq fun _ => ?_
  refine .seq (.kept (steady_framed _) (asicReset_within (coversAsic_framed _ _))) fun _ => ?_
  refine (asicResetSpi_closing_triple _ (.command .R) nofun).seq fun _ => ?_
  exact (setState_quiet_triple _ _).seq fun _ => sendState_quiet_triple _ _

/-- `'A'` resets the status byte first; from then on no report is admitted. -/
def Aborted (device : Device) (_ : Account) : Prop := device.state.state ≠ stateWorking

theorem steady_aborted : tying.Steady (Telling Aborted) := by
  refine steady_telling (fun _ _ _ _ state _ aborted => ?_)
    fun _ _ _ working _ _ _ aborted => absurd working aborted
  unfold Aborted
  rw [state]
  exact aborted

theorem commandA_tied_triple : tying.Triple (Telling Tied) commandA fun _ => Telling Tied := by
  have removed : tying.Triple (Telling Tied) (removeCommand .A)
      fun _ => Telling (Framed fun _ _ _ => True) :=
    .assign steady_tied (steady_framed _) fun _ _ telling _ =>
      ⟨⟨tiedToWork_of_silent rfl _ _, telling.1⟩, trivial⟩
  have aborted : tying.Triple (Telling (Framed fun _ _ _ => True))
      (setState (.command .A) stateReset) fun _ => Telling Aborted :=
    .assign (steady_framed _) steady_aborted fun _ _ telling _ =>
      ⟨⟨tiedToWork_of_silent rfl _ _, telling.1⟩, reset_ne_working⟩
  have cleared : tying.Triple (Telling Aborted) (clearReport .asicStop (.command .A))
      fun _ => Telling (Quiet fun _ _ _ => True) := by
    refine .seq (.kept steady_aborted (.assign fun _ _ _ telling =>
      telling.step rfl fun _ aborted => aborted)) fun _ => ?_
    exact .assign steady_aborted (steady_quiet _) fun _ _ telling _ =>
      telling.step rfl fun _ aborted => ⟨trivial, rfl, aborted⟩
  refine removed.seq fun _ => aborted.seq fun _ => .seq (cleared.seq fun _ => .kept
    (steady_quiet _) (.assign fun _ => keeps_quiet rfl rfl rfl rfl)) fun _ =>
    sendState_quiet_triple _ _

/-- Within a `'W'` the work is already on the account. -/
def Accepted (device : Device) (book : Account) : Prop :=
  Tied device book ∧ book.credit = true

theorem steady_accepted : tying.Steady (Telling Accepted) :=
  steady_telling
    (fun _ _ _ flag state _ accepted =>
      ⟨accepted.1.spared (by rw [flag]; exact id) (by rw [state]), accepted.2⟩)
    fun _ _ _ working _ state _ accepted =>
      ⟨accepted.1.reported working state, accepted.2⟩

theorem keeps_accepted {point : Point} {before after : Device}
    (unaccounted : point.unaccounted = true)
    (flag : after.reportValid ≠ 0 → before.reportValid ≠ 0)
    (state : after.state.state = before.state.state) :
    tying.Keeps (Telling Accepted) point before after :=
  fun _ _ telling => telling.step unaccounted fun _ accepted =>
    ⟨accepted.1.spared flag state, accepted.2⟩

theorem coversAsic_accepted : CoversAsic (tying.Keeps (Telling Accepted)) (.command .W) where
  clearReportCount := fun _ _ => keeps_accepted rfl id rfl
  clearReportValid := by
    intro routine device history _ telling
    obtain ⟨told, tied, credit⟩ := telling
    have lowered : Tied { device with reportValid := 0 } (account history) :=
      tied.spared (fun raised => absurd rfl raised) rfl
    refine ⟨⟨tiedToWork_of_silent rfl _ _, told⟩, ?_⟩
    cases routine <;> exact ⟨⟨lowered.flag, lowered.unpaid⟩, credit⟩
  resetLow := fun _ => keeps_accepted rfl id rfl
  resetHigh := fun _ => keeps_accepted rfl id rfl
  disableSpi := fun _ => keeps_accepted rfl id rfl
  enableSpi := fun _ => keeps_accepted rfl id rfl

theorem startWork_tied_triple :
    tying.Triple (Telling Accepted) startWork fun _ => Telling Accepted := by
  have started : tying.Triple (Telling Accepted) (setState (.command .W) stateWorking)
      fun _ => Telling Accepted := by
    refine .assign steady_accepted steady_accepted fun _ _ telling _ => ?_
    exact ⟨⟨tiedToWork_of_silent rfl _ _, telling.1⟩,
      ⟨fun _ => rfl, fun _ => telling.2.2⟩, telling.2.2⟩
  refine started.seq fun _ => .kept steady_accepted ?_
  refine .bind (.assign fun _ => keeps_accepted rfl id rfl) fun _ =>
    .bind (.assign fun _ => keeps_accepted rfl id rfl) fun _ =>
    .bind (asicReset_within coversAsic_accepted) fun _ =>
    .bind (asicResetSpi_within coversAsic_accepted) fun _ =>
    .bind (.fetch fun _ => keeps_accepted rfl id rfl) fun _ =>
    .bind (pushWork_within (fun _ _ => keeps_accepted rfl id rfl) _) fun _ =>
    .bind (.assign fun _ => keeps_accepted rfl id rfl) fun _ => ?_
  exact sendState_within (fun _ _ _ => keeps_accepted rfl id rfl) _

theorem commandW_tied_triple : tying.Triple (Telling Tied) commandW fun _ => Telling Tied := by
  have removed : tying.Triple (Telling Tied) (removeCommand .W) fun _ => Telling Accepted :=
    .assign steady_tied steady_accepted fun _ _ telling _ =>
      ⟨⟨tiedToWork_of_silent rfl _ _, telling.1⟩, ⟨telling.2.flag, fun _ => rfl⟩, rfl⟩
  have filled : fillWork.Within (tying.Keeps (Telling Accepted)) :=
    fillWork_within ⟨fun _ _ _ _ => keeps_accepted rfl id rfl,
      fun _ _ _ _ => keeps_accepted rfl id rfl⟩
  refine removed.seq fun _ => .seq (.kept steady_accepted filled) fun _ =>
    .seq (.kept steady_accepted (.assign fun _ => keeps_accepted rfl id rfl)) fun _ => ?_
  exact startWork_tied_triple.conseq (fun _ _ telling => telling)
    fun _ _ _ telling => ⟨telling.1, telling.2.1⟩

theorem single_tied_triple (count : BitVec 16) {command : Command} (notW : command ≠ .W) :
    tying.Triple (Telling Tied) (dispatch count command) fun _ => Telling Tied := by
  have removed : ∀ other, (Point.removeCommand other).unaccounted = true →
      (removeCommand other).Within (tying.Keeps (Telling Tied)) :=
    fun _ unaccounted => .assign fun _ => keeps_tied unaccounted id rfl
  cases command with
  | L =>
      exact .kept steady_tied (.bind (removed .L rfl) fun _ =>
        .assign fun _ => keeps_tied rfl id rfl)
  | R => exact commandR_tied_triple
  | I =>
      exact .kept steady_tied (.bind (removed .I rfl) fun _ =>
        sendCmdReply_within (fun _ _ _ => keeps_tied rfl id rfl) _ _ _)
  | A => exact commandA_tied_triple
  | S =>
      exact .kept steady_tied (.bind (removed .S rfl) fun _ =>
        sendState_within (fun _ _ _ => keeps_tied rfl id rfl) _)
  | W => exact absurd rfl notW
  | other byte => exact .kept steady_tied (removed (.other byte) rfl)

theorem Telling.call {device : Device} {history : Past} (telling : Telling Tied device history)
    (entry : Call) : Telling Entered device (⟨.call entry, device, device⟩ :: history) :=
  ⟨⟨tiedToWork_of_silent rfl _ _, telling.1⟩, ⟨telling.2.flag, telling.2.unpaid⟩, rfl⟩

theorem boundary_tied : Boundary tying (Telling Tied) where
  steady := steady_tied
  call := fun entry _ _ _ telling => ⟨(telling.call entry).1, (telling.call entry).2.1⟩
  receive := fun _ _ => keeps_tied rfl id rfl
  getCount := fun _ => keeps_tied rfl id rfl
  peekCommand := fun _ => keeps_tied rfl id rfl
  single := fun count _ notW => single_tied_triple count notW
  work := commandW_tied_triple
  flush := fun results => .kept steady_tied (flushReplies_within
    ⟨fun _ => keeps_tied rfl id rfl, fun _ _ => keeps_tied rfl id rfl,
      fun _ _ => keeps_tied rfl id rfl, fun _ _ => keeps_tied rfl id rfl,
      fun _ _ => keeps_tied rfl id rfl⟩ results)
  service := fun _ _ _ telling => appService_tied_triple _ _ (telling.call .service)

/-- In every run in which reports come only while the device is working and no
timer of an abandoned work runs out, each unsolicited reply is sent by a call
that found the device working, it is the only one for its `'W'`, and none is
sent between an abort or a reset and the next `'W'`. -/
theorem unsolicited_tied_to_work (choices : Choices)
    (working : Meets onlyWhileWorking (after choices).history) :
    Meets tiedToWork (after choices).history := by
  have clocked : Meets (fun label device history =>
      onlyWhileWorking label device history ∧ Clocked device (watch history))
      (after choices).history :=
    firmware.meets_and (fun choices _ => clocked_run choices) choices working
  have initial : Telling Tied boot [] :=
    ⟨trivial, fun raised => absurd rfl raised, fun working => by cases working⟩
  exact tying.run_always boundary_tied.steady initial boundary_tied.calls choices clocked

def answeredWork : Choices :=
  oneWork ++ .interrupt (.spi 1 fun _ => some 2) :: .call .service :: .replicate 30 .main

set_option maxRecDepth 10000 in
theorem unsolicited_tied_to_answeredWork :
    (after answeredWork).history.any (fun step => beginsReply step.label) = true ∧
      Meets tiedToWork (after answeredWork).history := by
  have run : (after answeredWork).history.any (fun step => beginsReply step.label) = true ∧
      Meets onlyWhileWorking (after answeredWork).history := by
    decide +kernel
  exact ⟨run.1, unsolicited_tied_to_work answeredWork run.2⟩

/-- A work is aborted, and its report comes after `asicStop` has cleared the flag
and before it pulls the reset line: the next `appService` answers the work. -/
def abortedWork : Choices :=
  oneWork ++ .call (.usbData [0x41]) :: .replicate 7 .main ++
    .interrupt (.spi 1 fun _ => some 2) :: .replicate 8 .main ++
    .call .service :: .replicate 30 .main

set_option maxRecDepth 10000 in
theorem unsolicited_after_abort :
    ¬ ∀ choices : Choices, Meets tiedToWork (after choices).history := by
  intro tied
  have answered := tied abortedWork
  revert answered
  decide +kernel

end MiniMiner.AvalonBTC
