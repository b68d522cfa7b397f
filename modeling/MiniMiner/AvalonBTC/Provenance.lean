import MiniMiner.AvalonBTC.ReportInterrupt

/-! Where the nonces in the replies come from. A ledger of the history records
which run of the report handler was the latest when `appService` tested the flag
and when it read the report, and for which runs a reply has been sent. -/

set_option autoImplicit false

namespace MiniMiner.AvalonBTC

open LittleEndian Preemption Preemption.Program

/-- A run of the handler is given by the history up to and including it. -/
structure Ledger where
  latest : Past
  tested : Past
  read : Past
  answered : List Past
  works : Nat
  settled : Bool

/-- The ledger of a history. A `'W'` is settled by its last clearing of the
report flag. -/
def ledger : Past → Ledger
  | [] => { latest := [], tested := [], read := [], answered := [], works := 0, settled := true }
  | transition :: earlier =>
      match transition.label with
      | .interrupt (.spi _ _) => { ledger earlier with latest := transition :: earlier }
      | .main .testReport => { ledger earlier with tested := (ledger earlier).latest }
      | .main .readReport => { ledger earlier with read := (ledger earlier).latest }
      | .main (.write .report 0) =>
          { ledger earlier with answered := (ledger earlier).read :: (ledger earlier).answered }
      | .main (.removeCommand .W) =>
          { ledger earlier with works := (ledger earlier).works + 1, settled := false }
      | .main (.clearReportValid .asicResetSpi (.command .W)) =>
          { ledger earlier with settled := true }
      | _ => ledger earlier

/-- The history ends with a run of the handler that left this value in the
report, after the last clearing of the flag by the latest `'W'`, of which there
have been as many as now. -/
def Genuine (works : Nat) (capture : Past) (value : Word) : Prop :=
  ∃ spdr polls before earlier,
    capture = ⟨.interrupt (.spi spdr polls), before, spiStc spdr polls before⟩ :: earlier ∧
      (spiStc spdr polls before).report = value ∧
      (ledger earlier).works = works ∧ (ledger earlier).settled = true

def unsolicited : Step → Bool
  | .main (.write .report _) => true
  | .main (.write .expiry _) => true
  | _ => false

/-- A reply with a valid nonce carries the report of the handler run that was
pending when the flag was tested, and no other run came before it was read. -/
def carriesGenuine (label : Step) (device : Device) (history : Past) : Prop :=
  unsolicited label = true → device.state.nonceValid = 1 →
    ∃ value, device.state.nonce = nonceOfReport value ∧
      Genuine (ledger history).works (ledger history).read value ∧
      (ledger history).tested = (ledger history).read

theorem ledger_suffix (history : Past) :
    (ledger history).latest <:+ history ∧ (ledger history).read <:+ history := by
  induction history with
  | nil => exact ⟨List.suffix_refl _, List.suffix_refl _⟩
  | cons transition earlier ih =>
      obtain ⟨latest, read⟩ := ih
      have later {past : Past} (suffix : past <:+ earlier) : past <:+ transition :: earlier :=
        suffix.trans (List.suffix_cons _ _)
      unfold ledger
      split
      · exact ⟨List.suffix_refl _, later read⟩
      · exact ⟨later latest, later read⟩
      · exact ⟨later latest, later latest⟩
      all_goals exact ⟨later latest, later read⟩

def Point.unnoted : Point → Bool
  | .testReport => false
  | .readReport => false
  | .write .report _ => false
  | .write .expiry _ => false
  | .removeCommand .W => false
  | .clearReportValid .asicResetSpi (.command .W) => false
  | _ => true

theorem ledger_unnoted {point : Point} (unnoted : point.unnoted = true) (before after : Device)
    (history : Past) : ledger (⟨.main point, before, after⟩ :: history) = ledger history := by
  cases point with
  | removeCommand command => cases command <;> first | rfl | cases unnoted
  | clearReportValid routine caller =>
      cases routine <;> cases caller <;> try rfl
      next command => cases command <;> first | rfl | cases unnoted
  | write caller index => cases caller <;> first | rfl | cases unnoted
  | _ => first | rfl | cases unnoted

theorem unsolicited_unnoted {point : Point} (unnoted : point.unnoted = true) :
    unsolicited (.main point) = false := by
  cases point with
  | write caller index => cases caller <;> first | rfl | cases unnoted
  | _ => rfl

/-- The replies so far carry what they should, and the ledger stands in this
relation to the device. -/
def Noting (relation : Device → Ledger → Prop) (device : Device) (history : Past) : Prop :=
  Meets carriesGenuine history ∧ relation device (ledger history)

/-- No two replies for one run of the handler, and none for a later run than the
one read last. -/
structure Consistent (book : Ledger) : Prop where
  once : book.answered.Pairwise fun later earlier => earlier.length < later.length
  bounded : ∀ capture ∈ book.answered, capture.length ≤ book.read.length

def provenance : Setting Point Device Interrupt Call where
  machine := firmware
  allowed := fun _ _ _ => True
  always := Noting fun _ => Consistent

/-- What is left of the report and its interrupt when the flag may have been
cleared. -/
structure Spared (before after : Device) : Prop where
  spcr : after.spcr = before.spcr
  report : after.report = before.report
  flag : after.reportValid ≠ 0 → before.reportValid ≠ 0

theorem steady_noting {relation : Device → Ledger → Prop}
    (spared : ∀ before after book, Spared before after → after.state = before.state →
      relation before book → relation after book)
    (spi : ∀ spdr polls device history, device.spcr &&& spie ≠ 0 →
      relation device (ledger history) →
      relation (spiStc spdr polls device) { ledger history with
        latest := ⟨.interrupt (.spi spdr polls), device, spiStc spdr polls device⟩ :: history })
    (consistent : ∀ device book, relation device book → Consistent book) :
    provenance.Steady (Noting relation) where
  stable := by
    intro source before after history handled _ noting
    obtain ⟨told, related⟩ := noting
    rcases handler_eq_some handled with ⟨rfl, rfl⟩ | ⟨spdr, polls, rfl, enabled, rfl⟩
    · exact ⟨⟨nofun, told⟩, spared before _ _ ⟨rfl, rfl, id⟩ rfl related⟩
    · exact ⟨⟨nofun, told⟩, spi spdr polls before history enabled related⟩
  always := fun device _ noting => ⟨noting.1, consistent device _ noting.2⟩

theorem Noting.unnoted {relation other : Device → Ledger → Prop} {point : Point}
    {before after : Device} {history : Past} (noting : Noting relation before history)
    (unnoted : point.unnoted = true)
    (step : ∀ book, relation before book → other after book) :
    Noting other after (⟨.main point, before, after⟩ :: history) := by
  obtain ⟨told, related⟩ := noting
  refine ⟨⟨fun spoken => ?_, told⟩, ?_⟩
  · rw [unsolicited_unnoted unnoted] at spoken
    cases spoken
  · rw [ledger_unnoted unnoted]
    exact step _ related

/-- A raised flag belongs to the latest run of the handler, which has not been
read and keeps the interrupt disabled. -/
structure Resting (device : Device) (book : Ledger) : Prop where
  consistent : Consistent book
  settled : book.settled = true
  fresh : device.reportValid ≠ 0 → device.spcr &&& spie = 0 ∧
    Genuine book.works book.latest device.report ∧ book.read.length < book.latest.length

theorem Resting.spared {before after : Device} {book : Ledger} (resting : Resting before book)
    (spared : Spared before after) : Resting after book := by
  refine ⟨resting.consistent, resting.settled, fun raised => ?_⟩
  rw [spared.spcr, spared.report]
  exact resting.fresh (spared.flag raised)

theorem Resting.captured {device : Device} {history : Past}
    (resting : Resting device (ledger history)) (spdr : Byte) (polls : Nat → Option Byte) :
    Resting (spiStc spdr polls device) { ledger history with
      latest := ⟨.interrupt (.spi spdr polls), device, spiStc spdr polls device⟩ :: history } := by
  refine ⟨⟨resting.consistent.once, resting.consistent.bounded⟩, resting.settled,
    fun _ => ⟨?_, ?_, ?_⟩⟩
  · exact clear_and_eq_zero device.spcr spie
  · exact ⟨spdr, polls, device, history, rfl, rfl, rfl, resting.settled⟩
  · exact Nat.lt_succ_of_le (ledger_suffix history).2.length_le

theorem steady_resting : provenance.Steady (Noting Resting) :=
  steady_noting (fun _ _ _ spared _ resting => resting.spared spared)
    (fun spdr polls _ _ _ resting => resting.captured spdr polls)
    fun _ _ resting => resting.consistent

theorem steady_consistent : provenance.Steady (Noting fun _ => Consistent) :=
  steady_noting (fun _ _ _ _ _ consistent => consistent)
    (fun _ _ _ _ _ consistent => ⟨consistent.once, consistent.bounded⟩)
    fun _ _ consistent => consistent

/-- A statement that leaves no trace in the ledger, and none in the report and
its interrupt but that it may clear the flag. -/
structure Aside (point : Point) (before after : Device) : Prop extends Spared before after where
  unnoted : point.unnoted = true

theorem keeps_noting {relation : Device → Ledger → Prop}
    (spared : ∀ before after book, Spared before after →
      relation before book → relation after book)
    (point : Point) (before after : Device) (aside : Aside point before after) :
    provenance.Keeps (Noting relation) point before after :=
  fun _ _ noting => noting.unnoted aside.unnoted fun book related =>
    spared before after book aside.toSpared related

theorem keeps_resting (point : Point) (before after : Device) (aside : Aside point before after) :
    provenance.Keeps (Noting Resting) point before after :=
  keeps_noting (fun _ _ _ spared resting => resting.spared spared) point before after aside

theorem coversAsic_aside {caller : Caller} (other : caller ≠ .command .W) :
    CoversAsic Aside caller where
  clearReportCount := fun _ _ => ⟨⟨rfl, rfl, id⟩, rfl⟩
  clearReportValid := by
    intro routine device
    refine ⟨⟨rfl, rfl, fun raised => absurd rfl raised⟩, ?_⟩
    cases routine <;> cases caller <;> try rfl
    next command => cases command <;> first | rfl | exact absurd rfl other
  resetLow := fun _ => ⟨⟨rfl, rfl, id⟩, rfl⟩
  resetHigh := fun _ => ⟨⟨rfl, rfl, id⟩, rfl⟩
  disableSpi := fun _ => ⟨⟨rfl, rfl, id⟩, rfl⟩
  enableSpi := fun _ => ⟨⟨rfl, rfl, id⟩, rfl⟩

theorem coversState_aside (caller : Caller) : CoversState Aside caller where
  setState := fun _ _ => ⟨⟨rfl, rfl, id⟩, rfl⟩
  setNonceValid := fun _ _ => ⟨⟨rfl, rfl, id⟩, rfl⟩
  setNonce := fun _ _ => ⟨⟨rfl, rfl, id⟩, rfl⟩

theorem coversReply_aside (command : Command) : CoversReply Aside (.command command) :=
  fun _ _ _ => ⟨⟨rfl, rfl, id⟩, rfl⟩

theorem coversFlush_aside : CoversFlush Aside where
  flushCount := fun _ => ⟨⟨rfl, rfl, id⟩, rfl⟩
  flushTimer := fun _ _ => ⟨⟨rfl, rfl, id⟩, rfl⟩
  flushRestart := fun _ _ => ⟨⟨rfl, rfl, id⟩, rfl⟩
  sendByte := fun _ _ => ⟨⟨rfl, rfl, id⟩, rfl⟩
  removeSent := fun _ _ => ⟨⟨rfl, rfl, id⟩, rfl⟩

/-- The flag has been found raised: the interrupt is disabled, so its handler
cannot run until the report branch enables it again. -/
structure Held (device : Device) (book : Ledger) : Prop where
  consistent : Consistent book
  settled : book.settled = true
  disabled : device.spcr &&& spie = 0
  genuine : Genuine book.works book.latest device.report
  newer : book.read.length < book.latest.length
  tested : book.tested = book.latest

theorem Held.spared {before after : Device} {book : Ledger} (held : Held before book)
    (spared : Spared before after) : Held after book where
  consistent := held.consistent
  settled := held.settled
  disabled := by
    rw [spared.spcr]
    exact held.disabled
  genuine := by
    rw [spared.report]
    exact held.genuine
  newer := held.newer
  tested := held.tested

theorem steady_held : provenance.Steady (Noting Held) :=
  steady_noting (fun _ _ _ spared _ held => held.spared spared)
    (fun _ _ _ _ enabled held => absurd held.disabled enabled)
    fun _ _ held => held.consistent

def HeldLow (device : Device) (book : Ledger) : Prop :=
  Held device book ∧ device.reportValid = 0

theorem Spared.lowered {before after : Device} (spared : Spared before after)
    (lowered : before.reportValid = 0) : after.reportValid = 0 :=
  Decidable.byContradiction fun raised => spared.flag raised lowered

theorem steady_heldLow : provenance.Steady (Noting HeldLow) :=
  steady_noting (fun _ _ _ spared _ held => ⟨held.1.spared spared, spared.lowered held.2⟩)
    (fun _ _ _ _ enabled held => absurd held.1.disabled enabled)
    fun _ _ held => held.1.consistent

/-- The report branch has read this report. -/
structure Carrying (nonce : Word) (device : Device) (book : Ledger) : Prop where
  resting : Resting device book
  genuine : Genuine book.works book.read nonce
  tested : book.tested = book.read

theorem Carrying.spared {nonce : Word} {before after : Device} {book : Ledger}
    (carrying : Carrying nonce before book) (spared : Spared before after) :
    Carrying nonce after book :=
  ⟨carrying.resting.spared spared, carrying.genuine, carrying.tested⟩

theorem Carrying.captured {nonce : Word} {device : Device} {history : Past}
    (carrying : Carrying nonce device (ledger history)) (spdr : Byte)
    (polls : Nat → Option Byte) :
    Carrying nonce (spiStc spdr polls device) { ledger history with
      latest := ⟨.interrupt (.spi spdr polls), device, spiStc spdr polls device⟩ :: history } :=
  ⟨carrying.resting.captured spdr polls, carrying.genuine, carrying.tested⟩

/-- The report read last has not been answered. -/
def Unanswered (book : Ledger) : Prop :=
  ∀ capture ∈ book.answered, capture.length < book.read.length

/-- The report branch before it enables the interrupt. -/
structure Taken (nonce : Word) (device : Device) (book : Ledger) : Prop where
  carrying : Carrying nonce device book
  unanswered : Unanswered book
  disabled : device.spcr &&& spie = 0
  lowered : device.reportValid = 0

theorem Taken.spared {nonce : Word} {before after : Device} {book : Ledger}
    (taken : Taken nonce before book) (spared : Spared before after) : Taken nonce after book where
  carrying := taken.carrying.spared spared
  unanswered := taken.unanswered
  disabled := by
    rw [spared.spcr]
    exact taken.disabled
  lowered := spared.lowered taken.lowered

theorem steady_taken (nonce : Word) : provenance.Steady (Noting (Taken nonce)) :=
  steady_noting (fun _ _ _ spared _ taken => taken.spared spared)
    (fun _ _ _ _ enabled taken => absurd taken.disabled enabled)
    fun _ _ taken => taken.carrying.resting.consistent

theorem keeps_taken (nonce : Word) (point : Point) (before after : Device)
    (aside : Aside point before after) :
    provenance.Keeps (Noting (Taken nonce)) point before after :=
  keeps_noting (fun _ _ _ spared taken => taken.spared spared) point before after aside

theorem Held.read {device : Device} {book : Ledger} (held : HeldLow device book) :
    Taken device.report device { book with read := book.latest } := by
  obtain ⟨held, lowered⟩ := held
  have unanswered : Unanswered { book with read := book.latest } := fun capture answered =>
    Nat.lt_of_le_of_lt (held.consistent.bounded capture answered) held.newer
  have consistent : Consistent { book with read := book.latest } :=
    ⟨held.consistent.once, fun capture answered => Nat.le_of_lt (unanswered capture answered)⟩
  exact ⟨⟨⟨consistent, held.settled, fun raised => absurd lowered raised⟩, held.genuine,
    held.tested⟩, unanswered, held.disabled, lowered⟩

theorem asicGetNonce_triple :
    provenance.Triple (Noting Held) asicGetNonce fun nonce => Noting (Taken nonce) := by
  have covers : CoversAsic Aside .report := coversAsic_aside nofun
  have cleared : provenance.Triple (Noting Held) (clearReport .asicGetNonce .report)
      fun _ => Noting HeldLow := by
    refine .seq (.kept steady_held (.assign fun device => keeps_noting
      (fun _ _ _ spared held => held.spared spared) _ _ _ (covers.clearReportCount _ device)))
      fun _ => ?_
    refine .assign steady_held steady_heldLow fun device history noting _ => ?_
    have aside := covers.clearReportValid .asicGetNonce device
    exact noting.unnoted aside.unnoted fun _ held => ⟨held.spared aside.toSpared, rfl⟩
  exact cleared.seq fun _ => .fetch steady_heldLow steady_taken
    fun device history noting _ => ⟨⟨nofun, noting.1⟩, Held.read noting.2⟩

/-- The interrupt is enabled again and the report has not been answered. -/
def Answering (nonce : Word) (device : Device) (book : Ledger) : Prop :=
  Carrying nonce device book ∧ Unanswered book

theorem steady_answering (nonce : Word) : provenance.Steady (Noting (Answering nonce)) :=
  steady_noting (fun _ _ _ spared _ answering => ⟨answering.1.spared spared, answering.2⟩)
    (fun spdr polls _ _ _ answering => ⟨answering.1.captured spdr polls, answering.2⟩)
    fun _ _ answering => answering.1.resting.consistent

/-- The nonce of the report is in `app->state`. -/
def Replying (nonce : Word) (device : Device) (book : Ledger) : Prop :=
  Carrying nonce device book ∧ device.state.nonce = nonceOfReport nonce

theorem steady_replying (nonce : Word) : provenance.Steady (Noting (Replying nonce)) :=
  steady_noting
    (fun _ _ _ spared same replying => ⟨replying.1.spared spared, by rw [same, replying.2]⟩)
    (fun spdr polls _ _ _ replying => ⟨replying.1.captured spdr polls, replying.2⟩)
    fun _ _ replying => replying.1.resting.consistent

def Prepared (nonce : Word) (device : Device) (book : Ledger) : Prop :=
  Replying nonce device book ∧ Unanswered book

theorem steady_prepared (nonce : Word) : provenance.Steady (Noting (Prepared nonce)) :=
  steady_noting
    (fun _ _ _ spared same prepared =>
      ⟨⟨prepared.1.1.spared spared, by rw [same, prepared.1.2]⟩, prepared.2⟩)
    (fun spdr polls _ _ _ prepared => ⟨⟨prepared.1.1.captured spdr polls, prepared.1.2⟩, prepared.2⟩)
    fun _ _ prepared => prepared.1.1.resting.consistent

theorem Replying.speaks {nonce : Word} {device : Device} {history : Past}
    (replying : Replying nonce device (ledger history)) (label : Step) :
    carriesGenuine label device history :=
  fun _ _ => ⟨nonce, replying.2, replying.1.genuine, replying.1.tested⟩

theorem Prepared.firstByte {nonce : Word} {before after : Device} {book : Ledger}
    (prepared : Prepared nonce before book) (spared : Spared before after)
    (sameState : after.state = before.state) :
    Replying nonce after { book with answered := book.read :: book.answered } := by
  obtain ⟨⟨carrying, loaded⟩, unanswered⟩ := prepared
  have resting := carrying.resting.spared spared
  have consistent : Consistent { book with answered := book.read :: book.answered } := by
    refine ⟨List.pairwise_cons.mpr ⟨unanswered, resting.consistent.once⟩, ?_⟩
    intro capture member
    rcases List.mem_cons.mp member with rfl | earlier
    · exact Nat.le_refl _
    · exact resting.consistent.bounded capture earlier
  exact ⟨⟨⟨consistent, resting.settled, resting.fresh⟩, carrying.genuine, carrying.tested⟩,
    by rw [sameState, loaded]⟩

theorem ledger_laterByte {index : Nat} (later : index ≠ 0) (caller : Caller)
    (before after : Device) (history : Past) :
    ledger (⟨.main (.write caller index), before, after⟩ :: history) = ledger history := by
  cases index with
  | zero => exact absurd rfl later
  | succ index => cases caller <;> rfl

theorem sendState_report_triple (nonce : Word) (cmd : Byte) :
    provenance.Triple (Noting (Prepared nonce)) (sendState .report cmd)
      fun _ => Noting (Replying nonce) := by
  have first : provenance.Triple (Noting (Prepared nonce)) (usbWrite .report 0 (fun _ => [cmd]) 1)
      fun _ => Noting (Replying nonce) := by
    refine .seq (.assign (steady_prepared nonce) (steady_replying nonce) ?_)
      fun _ => .done (steady_replying nonce)
    intro device history noting _
    exact ⟨⟨noting.2.1.speaks _, noting.1⟩, noting.2.firstByte ⟨rfl, rfl, id⟩ rfl⟩
  refine first.seq fun _ => .kept (steady_replying nonce) (.each fun index _ => ?_)
  refine .assign fun device history _ noting => ?_
  have later : 1 + index ≠ 0 := by omega
  refine ⟨⟨noting.2.speaks _, noting.1⟩, ?_⟩
  rw [ledger_laterByte later]
  exact ⟨noting.2.1.spared ⟨rfl, rfl, id⟩, noting.2.2⟩

theorem serviceReport_provenance_triple :
    provenance.Triple (Noting Held) serviceReport fun _ => Noting Resting := by
  refine asicGetNonce_triple.seq fun nonce => ?_
  have steady := steady_taken nonce
  have keeps := keeps_taken nonce
  have covers : CoversAsic Aside .report := coversAsic_aside nofun
  refine .seq (.kept steady (.assign fun _ => keeps _ _ _ ⟨⟨rfl, rfl, id⟩, rfl⟩)) fun _ => ?_
  refine .seq (.kept steady ((asicStop_within covers).imp keeps)) fun _ => ?_
  refine .seq (.kept steady ((asicResetSpi_within covers).imp keeps)) fun _ => ?_
  refine .seq (.kept steady (.assign fun device =>
    keeps _ _ _ ((coversState_aside .report).setState device _))) fun _ => ?_
  refine .seq (.assign steady (steady_answering nonce) ?_) fun _ => ?_
  · -- the flag is still low when the interrupt is enabled
    intro device history noting _
    refine noting.unnoted rfl fun book taken => ⟨⟨⟨taken.carrying.resting.consistent,
      taken.carrying.resting.settled, fun raised => absurd taken.lowered raised⟩,
      taken.carrying.genuine, taken.carrying.tested⟩, taken.unanswered⟩
  refine .seq (.assign (steady_answering nonce) (steady_prepared nonce) ?_) fun _ => ?_
  · intro device history noting _
    exact noting.unnoted rfl fun book answering =>
      ⟨⟨answering.1.spared ⟨rfl, rfl, id⟩, rfl⟩, answering.2⟩
  refine .seq (.kept (steady_prepared nonce) (.assign ?_)) fun _ => ?_
  · intro device history _ noting
    exact noting.unnoted rfl fun book prepared =>
      ⟨⟨prepared.1.1.spared ⟨rfl, rfl, id⟩, prepared.1.2⟩, prepared.2⟩
  · exact (sendState_report_triple nonce _).conseq (fun _ _ prepared => prepared)
      fun _ _ _ noting => ⟨noting.1, noting.2.1.resting⟩

/-- The reply to an expired timer carries no valid nonce. -/
def Silent (device : Device) (book : Ledger) : Prop :=
  Resting device book ∧ device.state.nonceValid = 0

theorem steady_silent : provenance.Steady (Noting Silent) :=
  steady_noting
    (fun _ _ _ spared same silent => ⟨silent.1.spared spared, by rw [same, silent.2]⟩)
    (fun spdr polls _ _ _ silent => ⟨silent.1.captured spdr polls, silent.2⟩)
    fun _ _ silent => silent.1.consistent

theorem keeps_silent_write (index : Nat) (device : Device) (ring : RingBuffer 256) :
    provenance.Keeps (Noting Silent) (.write .expiry index) device
      { device with usartToUsbBuffer := ring } := by
  intro history _ noting
  obtain ⟨told, resting, invalid⟩ := noting
  refine ⟨⟨fun _ valid => ?_, told⟩, resting.spared ⟨rfl, rfl, id⟩, invalid⟩
  rw [invalid] at valid
  cases valid

theorem serviceExpiry_provenance_triple :
    provenance.Triple (Noting Resting) serviceExpiry fun _ => Noting Resting := by
  have covers : CoversAsic Aside .expiry := coversAsic_aside nofun
  have states := coversState_aside .expiry
  refine .seq (.kept steady_resting ((asicStop_within covers).imp keeps_resting)) fun _ => ?_
  refine .seq (.kept steady_resting ((asicResetSpi_within covers).imp keeps_resting)) fun _ => ?_
  refine .seq (.kept steady_resting (.assign fun device =>
    keeps_resting _ _ _ (states.setState device _))) fun _ => ?_
  refine .seq (.kept steady_resting (.assign fun device =>
    keeps_resting _ _ _ (states.setNonce device _))) fun _ => ?_
  refine .seq (.assign steady_resting steady_silent fun device history noting _ =>
    noting.unnoted rfl fun _ resting => ⟨resting.spared ⟨rfl, rfl, id⟩, rfl⟩) fun _ => ?_
  have replied := Setting.Triple.kept steady_silent
    (sendState_within keeps_silent_write Command.S.toByte)
  exact replied.conseq (fun _ _ noting => noting) fun _ _ _ noting => ⟨noting.1, noting.2.1⟩

def Tested (valid : Byte) (device : Device) (book : Ledger) : Prop :=
  Resting device book ∧ (valid ≠ 0 → Held device book)

theorem steady_tested (valid : Byte) : provenance.Steady (Noting (Tested valid)) :=
  steady_noting
    (fun _ _ _ spared _ tested =>
      ⟨tested.1.spared spared, fun raised => (tested.2 raised).spared spared⟩)
    (fun spdr polls _ _ enabled tested => ⟨tested.1.captured spdr polls,
      fun raised => absurd (tested.2 raised).disabled enabled⟩)
    fun _ _ tested => tested.1.consistent

theorem Resting.test {device : Device} {book : Ledger} (resting : Resting device book) :
    Tested (device.reportValid.setWidth 8) device { book with tested := book.latest } := by
  have consistent : Consistent { book with tested := book.latest } :=
    ⟨resting.consistent.once, resting.consistent.bounded⟩
  refine ⟨⟨consistent, resting.settled, resting.fresh⟩, fun raised => ?_⟩
  obtain ⟨disabled, genuine, newer⟩ := resting.fresh fun lowered => by
    rw [lowered] at raised
    exact raised rfl
  exact ⟨consistent, resting.settled, disabled, genuine, newer, rfl⟩

theorem appService_provenance_triple :
    provenance.Triple (Noting Resting) appService fun _ => Noting Resting := by
  have tested : provenance.Triple (Noting Resting) asicReportValid
      fun valid => Noting (Tested valid) :=
    .fetch steady_resting steady_tested fun device history noting _ =>
      ⟨⟨nofun, noting.1⟩, noting.2.test⟩
  refine tested.seq fun valid => ?_
  have reported : provenance.Triple (Noting (Tested valid)) (onlyIf (valid ≠ 0) serviceReport)
      fun _ => Noting Resting :=
    .onlyIf steady_resting
      (fun raised => serviceReport_provenance_triple.conseq
        (fun _ _ noting => ⟨noting.1, noting.2.2 raised⟩) fun _ _ _ noting => noting)
      fun _ _ _ noting => ⟨noting.1, noting.2.1⟩
  refine reported.seq fun _ => ?_
  have expired : provenance.Triple (Noting Resting) workTimerExpired fun _ => Noting Resting :=
    .kept steady_resting
      ⟨fun _ => keeps_resting _ _ _ ⟨⟨rfl, rfl, id⟩, rfl⟩, fun _ => trivial⟩
  exact expired.seq fun _ => .onlyIf steady_resting (fun _ => serviceExpiry_provenance_triple)
    fun _ _ _ noting => noting

theorem keeps_consistent {point : Point} {before after : Device}
    (silent : unsolicited (.main point) = false)
    (same : ∀ history, (ledger (⟨.main point, before, after⟩ :: history)).answered =
        (ledger history).answered ∧
      (ledger (⟨.main point, before, after⟩ :: history)).read = (ledger history).read) :
    provenance.Keeps (Noting fun _ => Consistent) point before after := by
  intro history _ noting
  obtain ⟨sameAnswered, sameRead⟩ := same history
  refine ⟨⟨fun spoken => ?_, noting.1⟩, ?_, ?_⟩
  · rw [silent] at spoken
    cases spoken
  · rw [sameAnswered]
    exact noting.2.once
  · rw [sameAnswered, sameRead]
    exact noting.2.bounded

theorem coversAsic_consistent :
    CoversAsic (provenance.Keeps (Noting fun _ => Consistent)) (.command .W) where
  clearReportCount := fun _ _ => keeps_consistent rfl fun _ => ⟨rfl, rfl⟩
  clearReportValid := by
    intro routine device
    cases routine <;> exact keeps_consistent rfl fun _ => ⟨rfl, rfl⟩
  resetLow := fun _ => keeps_consistent rfl fun _ => ⟨rfl, rfl⟩
  resetHigh := fun _ => keeps_consistent rfl fun _ => ⟨rfl, rfl⟩
  disableSpi := fun _ => keeps_consistent rfl fun _ => ⟨rfl, rfl⟩
  enableSpi := fun _ => keeps_consistent rfl fun _ => ⟨rfl, rfl⟩

/-- The last clearing of the flag by a `'W'`: whatever the handler left before
it is forgotten. -/
theorem asicResetSpi_work_triple :
    provenance.Triple (Noting fun _ => Consistent) (asicResetSpi (.command .W))
      fun _ => Noting Resting := by
  have cleared : provenance.Triple (Noting fun _ => Consistent)
      (clearReport .asicResetSpi (.command .W)) fun _ => Noting Resting := by
    refine .seq (.kept steady_consistent (.assign (coversAsic_consistent.clearReportCount _)))
      fun _ => .assign steady_consistent steady_resting fun device history noting _ => ?_
    exact ⟨⟨nofun, noting.1⟩, ⟨noting.2.once, noting.2.bounded⟩, rfl,
      fun raised => absurd rfl raised⟩
  refine cleared.seq fun _ => .kept steady_resting (.bind (.assign ?_) fun _ => .assign ?_)
  · exact fun _ => keeps_resting _ _ _ ⟨⟨rfl, rfl, id⟩, rfl⟩
  · exact fun _ => keeps_resting _ _ _ ⟨⟨rfl, rfl, id⟩, rfl⟩

theorem startWork_provenance_triple :
    provenance.Triple (Noting fun _ => Consistent) startWork fun _ => Noting Resting := by
  have keeps {effect : Device → Device} {point : Point} (unnoted : point.unnoted = true) :
      provenance.Triple (Noting fun _ => Consistent) (assign point effect)
        fun _ => Noting fun _ => Consistent :=
    .kept steady_consistent (.assign fun _ _ _ noting =>
      noting.unnoted unnoted fun _ consistent => consistent)
  refine (keeps rfl).seq fun _ => (keeps rfl).seq fun _ => (keeps rfl).seq fun _ => ?_
  refine .seq (.kept steady_consistent (asicReset_within coversAsic_consistent)) fun _ => ?_
  refine asicResetSpi_work_triple.seq fun _ => .kept steady_resting ?_
  have line : ∀ device value,
      provenance.Keeps (Noting Resting) .dataPort device { device with portb := value } :=
    fun _ _ => keeps_resting _ _ _ ⟨⟨rfl, rfl, id⟩, rfl⟩
  refine .bind (.fetch fun _ => keeps_resting _ _ _ ⟨⟨rfl, rfl, id⟩, rfl⟩) fun _ =>
    .bind (pushWork_within line _) fun _ => .bind (.assign fun _ => ?_) fun _ => ?_
  · exact keeps_resting _ _ _ ⟨⟨rfl, rfl, id⟩, rfl⟩
  · exact (sendState_within (coversReply_aside .W) _).imp keeps_resting

theorem commandW_provenance_triple :
    provenance.Triple (Noting Resting) commandW fun _ => Noting Resting := by
  have removed : provenance.Triple (Noting Resting) (removeCommand .W)
      fun _ => Noting fun _ => Consistent :=
    .assign steady_resting steady_consistent fun _ _ noting _ =>
      ⟨⟨nofun, noting.1⟩, noting.2.consistent.once, noting.2.consistent.bounded⟩
  refine removed.seq fun _ => ?_
  refine .seq (.kept steady_consistent (fillWork_within ⟨?_, ?_⟩)) fun _ => ?_
  · exact fun _ _ _ _ => keeps_consistent rfl fun _ => ⟨rfl, rfl⟩
  · exact fun _ _ _ _ => keeps_consistent rfl fun _ => ⟨rfl, rfl⟩
  refine .seq (.kept steady_consistent (.assign fun _ => ?_)) fun _ =>
    startWork_provenance_triple
  exact keeps_consistent rfl fun _ => ⟨rfl, rfl⟩

theorem boundary_provenance : Boundary provenance (Noting Resting) where
  steady := steady_resting
  call := fun _ _ _ _ noting => ⟨⟨nofun, noting.1⟩, noting.2⟩
  receive := fun _ _ => keeps_resting _ _ _ ⟨⟨rfl, rfl, id⟩, rfl⟩
  getCount := fun _ => keeps_resting _ _ _ ⟨⟨rfl, rfl, id⟩, rfl⟩
  peekCommand := fun _ => keeps_resting _ _ _ ⟨⟨rfl, rfl, id⟩, rfl⟩
  single := by
    intro count command notW
    have within : (dispatch count command).Within Aside := by
      refine dispatch_within (fun other notW => ⟨coversReply_aside other, ?_, ?_⟩) ?_ ?_ count notW
      · exact coversAsic_aside fun same => notW (Caller.command.inj same)
      · exact coversState_aside _
      · intro other notW device
        refine ⟨⟨rfl, rfl, id⟩, ?_⟩
        cases other <;> first | rfl | exact absurd rfl notW
      · exact fun _ _ => ⟨⟨rfl, rfl, id⟩, rfl⟩
    exact .kept steady_resting (within.imp keeps_resting)
  work := commandW_provenance_triple
  flush := fun results => .kept steady_resting
    ((flushReplies_within coversFlush_aside results).imp keeps_resting)
  service := fun _ _ _ noting =>
    appService_provenance_triple _ _ ⟨⟨nofun, noting.1⟩, noting.2⟩

theorem noting_boot : Noting Resting boot [] :=
  ⟨trivial, ⟨⟨.nil, nofun⟩, rfl, fun raised => absurd rfl raised⟩⟩

theorem noting_run (choices : Choices) :
    Noting (fun _ => Consistent) (after choices).state (after choices).history :=
  provenance.run_always boundary_provenance.steady noting_boot boundary_provenance.calls choices
    (Meets.trivial _)

end MiniMiner.AvalonBTC
