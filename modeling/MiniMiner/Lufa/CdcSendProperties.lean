import MiniMiner.Lufa.CdcSend

/-! Every run of the sending calls, whatever the host, the bus and the control requests
do between two of their statements, is a run of the pipe. -/

set_option autoImplicit false

namespace MiniMiner.Lufa

open LittleEndian

/-- The bank is the one being filled, or the packet on offer. -/
def Banked (sender : Sender) (pipe : Pipe) : Prop :=
  if sender.queued then pipe.loading = [] ∧ pipe.offered = some sender.bank
  else pipe.loading = sender.bank ∧ pipe.offered = none

/-- A full packet at the end is followed by what is in the bank. -/
def Settled (sender : Sender) (pipe : Pipe) : Prop :=
  pipe.unterminated = true → pipe.failed = true ∨ sender.bank ≠ [] ∧ sender.queued = false

/-- The bank has been cleared, and nothing is in it since. -/
def Blank (sender : Sender) (pipe : Pipe) : Prop :=
  sender.bank = [] ∧ sender.queued = false ∧ pipe.unterminated = false ∧ pipe.cleared = true

def Room (sender : Sender) : Prop :=
  sender.queued = false ∧ sender.bank.length < endpointSize

/-- What is known before the next statement. After the selection of the endpoint the
call can have lost it only together with what was in its bank. -/
def At (sender : Sender) (pipe : Pipe) : SendCode → Prop
  | .idle | .taskState | .taskBaud | .stateTest _ | .baudTest _ | .select _ =>
      pipe.taken = none ∧ pipe.frames = 0 ∧ Settled sender pipe
  | .allowed _ | .bytes | .full =>
      pipe.taken = none ∧ pipe.frames = 0 ∧ Settled sender pipe ∧
        (sender.active = false → Blank sender pipe)
  | .clear _ | .clearBank true =>
      pipe.taken = none ∧ pipe.frames = 0 ∧ (sender.active = false → Blank sender pipe)
  | .clearBank false =>
      pipe.taken = none ∧ pipe.frames = 0 ∧ (sender.active = false → Blank sender pipe) ∧
        (sender.active = true → Room sender)
  | .write _ =>
      pipe.taken = none ∧ (sender.active = false → Blank sender pipe) ∧
        (sender.active = true → Room sender)
  | .clearAgain =>
      pipe.taken = none ∧ (sender.active = false → Blank sender pipe) ∧
        sender.queued = false ∧ sender.bank = []
  | .waitBegin _ =>
      pipe.taken = none ∧ pipe.frames = 0 ∧ (sender.active = false → Blank sender pipe) ∧
        (sender.queued = false → sender.bank = [])
  | .waitReady _ waiting | .waitState _ waiting | .waitStalled _ waiting | .waitFrame _ waiting =>
      pipe.taken = none ∧ pipe.frames + waiting.timeoutMSRem.toNat = streamTimeout.toNat ∧
        (sender.active = false → Blank sender pipe) ∧ (sender.queued = false → sender.bank = [])
  | .returning call code =>
      pipe.Promised code call ∧ (code = .noError → Settled sender pipe)

structure Tracks (sender : Sender) (pipe : Pipe) : Prop where
  banked : Banked sender pipe
  short : sender.bank.length ≤ endpointSize
  disabled : sender.enabled = false → Blank sender pipe
  point : At sender pipe sender.code

/-- What a cleared bank leaves of the pipe. -/
def Pipe.lost (pipe : Pipe) : Pipe :=
  { pipe with loading := [], offered := none, unterminated := false, cleared := true }

theorem At.lost {sender next : Sender} {pipe : Pipe} {code : SendCode} (at_ : At sender pipe code)
    (bank : next.bank = []) (queued : next.queued = false) :
    At next pipe.lost code := by
  have room : Room next := ⟨queued, by rw [bank]; decide⟩
  have blank : Blank next pipe.lost :=
    ⟨bank, queued, rfl, rfl⟩
  have settled : Settled next pipe.lost :=
    fun unterminated => by cases unterminated
  cases code with
  | idle | taskState | taskBaud | stateTest | baudTest | select =>
      exact ⟨at_.1, at_.2.1, settled⟩
  | allowed | bytes | full => exact ⟨at_.1, at_.2.1, settled, fun _ => blank⟩
  | clear => exact ⟨at_.1, at_.2.1, fun _ => blank⟩
  | clearBank bankFull =>
      cases bankFull with
      | true => exact ⟨at_.1, at_.2.1, fun _ => blank⟩
      | false => exact ⟨at_.1, at_.2.1, fun _ => blank, fun _ => room⟩
  | write => exact ⟨at_.1, fun _ => blank, fun _ => room⟩
  | clearAgain => exact ⟨at_.1, fun _ => blank, queued, bank⟩
  | waitBegin | waitReady | waitState | waitStalled | waitFrame =>
      exact ⟨at_.1, at_.2.1, fun _ => blank, fun _ => bank⟩
  | returning call code =>
      obtain ⟨⟨kept, late⟩, _⟩ := at_
      refine ⟨⟨?_, late⟩, fun _ => settled⟩
      cases call with
      | sendByte byte => exact kept
      | flush => exact ⟨kept.1, fun _ => ⟨rfl, fun unterminated => by cases unterminated⟩⟩

theorem Tracks.lost {sender next : Sender} {pipe : Pipe} (tracks : Tracks sender pipe)
    (bank : next.bank = []) (queued : next.queued = false) (code : next.code = sender.code) :
    Pipe.specification.Follows Tracks next pipe (some .lost) := by
  refine ⟨_, rfl, ?_, ?_, ?_, ?_⟩
  · rw [Banked, queued, bank]
    exact ⟨rfl, rfl⟩
  · rw [bank]
    decide
  · exact fun _ => ⟨bank, queued, rfl, rfl⟩
  · rw [code]
    exact tracks.point.lost bank queued

theorem At.delivered {sender : Sender} {pipe : Pipe} {code : SendCode} (at_ : At sender pipe code)
    (banked : Banked sender pipe) (queued : sender.queued = true) :
    At sender.cleared { pipe with offered := none } code := by
  have loading : pipe.loading = [] := by
    rw [Banked, if_pos queued] at banked
    exact banked.1
  have settled : Settled sender pipe → Settled sender.cleared { pipe with offered := none } := by
    intro settled unterminated
    rcases settled unterminated with failed | ⟨_, free⟩
    · exact .inl failed
    · -- what is collected was queued, so nothing was waiting in the bank
      rw [queued] at free
      cases free
  have blank : (sender.active = false → Blank sender pipe) →
      sender.active = false → Blank sender.cleared { pipe with offered := none } :=
    fun blank inactive => ⟨rfl, rfl, (blank inactive).2.2⟩
  have room : Room sender.cleared := ⟨rfl, Nat.zero_lt_succ _⟩
  cases code with
  | idle | taskState | taskBaud | stateTest | baudTest | select =>
      exact ⟨at_.1, at_.2.1, settled at_.2.2⟩
  | allowed | bytes | full => exact ⟨at_.1, at_.2.1, settled at_.2.2.1, blank at_.2.2.2⟩
  | clear => exact ⟨at_.1, at_.2.1, blank at_.2.2⟩
  | clearBank bankFull =>
      cases bankFull with
      | true => exact ⟨at_.1, at_.2.1, blank at_.2.2⟩
      | false => exact ⟨at_.1, at_.2.1, blank at_.2.2.1, fun _ => room⟩
  | write => exact ⟨at_.1, blank at_.2.1, fun _ => room⟩
  | clearAgain => exact ⟨at_.1, blank at_.2.1, rfl, rfl⟩
  | waitBegin | waitReady | waitState | waitStalled | waitFrame =>
      exact ⟨at_.1, at_.2.1, blank at_.2.2.1, fun _ => rfl⟩
  | returning call code =>
      obtain ⟨⟨kept, late⟩, rest⟩ := at_
      refine ⟨⟨?_, late⟩, fun succeeded => settled (rest succeeded)⟩
      cases call with
      | sendByte byte => exact kept
      | flush => exact kept

theorem Tracks.delivered {sender : Sender} {pipe : Pipe} (tracks : Tracks sender pipe)
    (queued : sender.queued = true) :
    Pipe.specification.Follows Tracks sender.cleared pipe (some (.delivered sender.bank)) := by
  have banked := tracks.banked
  rw [Banked, if_pos queued] at banked
  refine ⟨{ pipe with offered := none }, if_pos banked.2, ?_, Nat.zero_le _, ?_, ?_⟩
  · exact ⟨banked.1, rfl⟩
  · intro disabled
    have blank := tracks.disabled disabled
    exact ⟨rfl, rfl, blank.2.2⟩
  · exact tracks.point.delivered tracks.banked queued

/-- A statement that changes neither the bank nor the pipe. -/
theorem Tracks.goto {sender next : Sender} {pipe : Pipe} {event : Option SendEvent}
    {code : SendCode} (tracks : Tracks sender pipe)
    (stepped : sender.goto code = some (next, event)) (point : At sender pipe code) :
    Pipe.specification.Follows Tracks next pipe event := by
  cases stepped
  refine ⟨tracks.banked, tracks.short, tracks.disabled, ?_⟩
  cases code <;> exact point

/-- `Endpoint_ClearIN` before a statement that a queued bank suits as well as a lost
endpoint. -/
theorem Tracks.clearIN {sender next : Sender} {pipe : Pipe} {event : Option SendEvent}
    {code : SendCode} (tracks : Tracks sender pipe)
    (stepped : sender.clearIN code = some (next, event))
    (handed : sender.active = true → sender.queued = false →
      At { sender with queued := true, code := code }
        { pipe with
          loading := [], offered := some sender.bank
          unterminated := sender.bank.length = endpointSize } code)
    (kept : (sender.active = true → sender.queued = true) → At sender pipe code) :
    Pipe.specification.Follows Tracks next pipe event := by
  unfold Sender.clearIN at stepped
  split at stepped
  · next free =>
    simp only [Bool.and_eq_true, Bool.not_eq_true'] at free
    obtain ⟨active, queued⟩ := free
    cases stepped
    have banked := tracks.banked
    rw [Banked, queued, if_neg Bool.false_ne_true] at banked
    have enabled : sender.enabled = true := by
      rw [Sender.active, Bool.and_eq_true] at active
      exact active.2
    refine ⟨_, if_pos ⟨banked.2, banked.1⟩, ⟨rfl, rfl⟩, tracks.short, ?_, handed active queued⟩
    intro disabled
    rw [enabled] at disabled
    cases disabled
  · next busy =>
    refine tracks.goto stepped (kept fun active => ?_)
    simpa [active] using busy

theorem Tracks.loading {sender : Sender} {pipe : Pipe} (tracks : Tracks sender pipe)
    (gone : sender.queued = false → sender.bank = []) : pipe.loading = [] := by
  have banked := tracks.banked
  unfold Banked at banked
  split at banked
  · exact banked.1
  · next free => rw [banked.1, gone (by simpa using free)]

theorem room_of_allowed {sender : Sender} {registers : Registers}
    (allowed : sender.isReadWriteAllowed registers = true) (active : sender.active = true) :
    Room sender := by
  rw [Sender.isReadWriteAllowed, if_pos active] at allowed
  simpa [Room] using allowed

theorem Tracks.write8 {sender next : Sender} {pipe : Pipe} {event : Option SendEvent} {byte : Byte}
    (tracks : Tracks sender pipe)
    (stepped : sender.write8 byte (.returning (.sendByte byte) .noError) = some (next, event))
    (point : At sender pipe (.write byte)) :
    Pipe.specification.Follows Tracks next pipe event := by
  obtain ⟨untaken, blank, room⟩ := point
  unfold Sender.write8 at stepped
  cases active : sender.active with
  | true =>
      obtain ⟨free, below⟩ := room active
      have banked := tracks.banked
      rw [Banked, free, if_neg Bool.false_ne_true] at banked
      simp only [active, free, below, if_true, Bool.not_false, decide_true, Bool.and_self,
        Option.some.injEq, Prod.mk.injEq] at stepped
      obtain ⟨rfl, rfl⟩ := stepped
      refine ⟨_, if_pos ⟨banked.2, by rw [banked.1]; exact below, untaken⟩,
        ⟨congrArg (· ++ [byte]) banked.1, banked.2⟩, ?_, ?_, ?_⟩
      · rw [List.length_append]
        exact below
      · intro disabled
        rw [Sender.active, disabled, Bool.and_false] at active
        cases active
      · refine ⟨⟨rfl, fun late => by cases late⟩, fun _ _ => ?_⟩
        exact .inr ⟨by simp, rfl⟩
  | false =>
      obtain ⟨bank, free, terminated, cleared⟩ := blank active
      simp only [active, Bool.false_eq_true, if_false, Option.some.injEq, Prod.mk.injEq]
        at stepped
      obtain ⟨rfl, rfl⟩ := stepped
      refine ⟨_, if_pos ⟨untaken, cleared⟩, tracks.banked, tracks.short, tracks.disabled, ?_⟩
      refine ⟨⟨rfl, fun late => by cases late⟩, fun _ unterminated => ?_⟩
      rw [terminated] at unterminated
      cases unterminated

theorem promised_flush {sender : Sender} {pipe : Pipe} (untaken : pipe.taken = none)
    (loading : pipe.loading = [])
    (terminated : pipe.unterminated = true → pipe.failed = true) :
    At sender pipe (.returning .flush .noError) :=
  ⟨⟨⟨untaken, fun _ => ⟨loading, terminated⟩⟩, fun late => by cases late⟩,
    fun _ unterminated => .inl (terminated unterminated)⟩

theorem promised_failure {sender : Sender} {pipe : Pipe} {call : SendCall} {code : ErrorCode}
    (untaken : pipe.taken = none) (failed : code ≠ .noError)
    (late : code = .timeout → pipe.frames = streamTimeout.toNat) :
    At sender pipe (.returning call code) := by
  refine ⟨⟨?_, late⟩, fun succeeded => absurd succeeded failed⟩
  cases call with
  | sendByte byte =>
      change pipe.taken = if code = .noError then some byte else none
      rw [if_neg failed, untaken]
  | flush => exact ⟨untaken, fun succeeded => absurd succeeded failed⟩

theorem Tracks.returned {sender next : Sender} {pipe : Pipe} {event : Option SendEvent}
    {call : SendCall} {code : ErrorCode} (tracks : Tracks sender pipe)
    (stepped : some ({ sender with code := .idle }, some (.returned call code)) =
      some (next, event)) (point : At sender pipe (.returning call code)) :
    Pipe.specification.Follows Tracks next pipe event := by
  cases stepped
  refine ⟨_, if_pos point.1, tracks.banked, tracks.short, tracks.disabled, rfl, rfl, ?_⟩
  intro unterminated
  cases code with
  | noError =>
      rcases point.2 rfl unterminated with failed | filled
      · exact .inl (by simp [failed])
      · exact .inr filled
  | endpointStalled | deviceDisconnected | busSuspended | timeout => exact .inl (by simp)

theorem astray {sender : Sender} {pipe : Pipe} {queued : Bool} {code : SendCode}
    (active : sender.active = true) :
    ({ sender with queued := queued, code := code } : Sender).active = false →
      Blank { sender with queued := queued, code := code } pipe := by
  intro inactive
  change sender.active = false at inactive
  rw [active] at inactive
  cases inactive

theorem gone {sender : Sender} {pipe : Pipe} (blank : sender.active = false → Blank sender pipe)
    (kept : sender.active = true → sender.queued = true) (free : sender.queued = false) :
    sender.bank = [] := by
  cases active : sender.active with
  | true =>
      rw [kept active] at free
      cases free
  | false => exact (blank active).1

theorem terminated_of_inactive {sender : Sender} {pipe : Pipe}
    (blank : sender.active = false → Blank sender pipe) (inactive : sender.active = true → False)
    (unterminated : pipe.unterminated = true) : pipe.failed = true := by
  cases active : sender.active with
  | true => exact (inactive active).elim
  | false =>
      rw [(blank active).2.2.1] at unterminated
      cases unterminated

theorem Tracks.empty_of_bytes {sender : Sender} {pipe : Pipe} {registers : Registers}
    (tracks : Tracks sender pipe) (zero : sender.bytesInEndpoint registers = 0)
    (blank : sender.active = false → Blank sender pipe) (free : sender.queued = false) :
    sender.bank = [] := by
  cases active : sender.active with
  | true =>
      -- at most sixteen bytes: the count does not wrap in its register
      have short : sender.bank.length ≤ 16 := tracks.short
      simp only [Sender.bytesInEndpoint, active, free, Bool.not_false, Bool.and_self, if_true]
        at zero
      have length := congrArg BitVec.toNat zero
      rw [BitVec.toNat_ofNat] at length
      change sender.bank.length % 256 = 0 at length
      exact List.eq_nil_of_length_eq_zero (by omega)
  | false => exact (blank active).1

theorem at_afterWait {sender : Sender} {pipe : Pipe} {call : SendCall} {registers : Registers}
    (untaken : pipe.taken = none) (blank : sender.active = false → Blank sender pipe)
    (free : sender.queued = false → sender.bank = [])
    (ready : sender.isReady registers = true) : At sender pipe (Sender.afterWait call) := by
  have owned : sender.queued = false := by
    cases active : sender.active with
    | true => simpa [Sender.isReady, active] using ready
    | false => exact (blank active).2.1
  cases call with
  | sendByte byte =>
      refine ⟨untaken, blank, fun _ => ⟨owned, ?_⟩⟩
      rw [free owned]
      decide
  | flush => exact ⟨untaken, blank, owned, free owned⟩

theorem Tracks.select {sender next : Sender} {pipe : Pipe} {event : Option SendEvent}
    {call : SendCall} (tracks : Tracks sender pipe)
    (stepped : some ({ sender with
      selected := .dataIn
      code := match call with
        | .sendByte byte => .allowed byte
        | .flush => .bytes }, none) = some (next, event))
    (point : At sender pipe (.select call)) :
    Pipe.specification.Follows Tracks next pipe event := by
  cases stepped
  have blank : ({ sender with selected := .dataIn } : Sender).active = false →
      Blank sender pipe := by
    intro inactive
    apply tracks.disabled
    simpa [Sender.active] using inactive
  refine ⟨tracks.banked, tracks.short, tracks.disabled, ?_⟩
  cases call with
  | sendByte byte => exact ⟨point.1, point.2.1, point.2.2, blank⟩
  | flush => exact ⟨point.1, point.2.1, point.2.2, blank⟩

theorem Tracks.bytes {sender next : Sender} {pipe : Pipe} {event : Option SendEvent}
    {registers : Registers} (tracks : Tracks sender pipe)
    (stepped : sender.goto (if sender.bytesInEndpoint registers = 0 then .returning .flush .noError
      else .full) = some (next, event)) (point : At sender pipe .bytes) :
    Pipe.specification.Follows Tracks next pipe event := by
  obtain ⟨untaken, frames, settled, blank⟩ := point
  refine tracks.goto stepped ?_
  split
  · next zero =>
    have empty := tracks.empty_of_bytes zero blank
    refine promised_flush untaken (tracks.loading empty) fun unterminated => ?_
    rcases settled unterminated with failed | ⟨filled, free⟩
    · exact failed
    · exact absurd (empty free) filled
  · exact ⟨untaken, frames, settled, blank⟩

theorem Tracks.clearBank {sender next : Sender} {pipe : Pipe} {event : Option SendEvent}
    (tracks : Tracks sender pipe)
    (stepped : sender.clearIN (.returning .flush .noError) = some (next, event))
    (point : At sender pipe (.clearBank false)) :
    Pipe.specification.Follows Tracks next pipe event := by
  obtain ⟨untaken, frames, blank, room⟩ := point
  refine tracks.clearIN stepped (fun active _ => ?_) fun kept => ?_
  · -- there was room left, so the packet is a short one
    refine promised_flush untaken rfl fun full => ?_
    have below := (room active).2
    rw [of_decide_eq_true full] at below
    exact absurd below (Nat.lt_irrefl _)
  · refine promised_flush untaken (tracks.loading fun free => gone blank kept free) ?_
    refine terminated_of_inactive blank fun active => ?_
    have free := (room active).1
    rw [kept active] at free
    cases free

theorem Tracks.clearAgain {sender next : Sender} {pipe : Pipe} {event : Option SendEvent}
    (tracks : Tracks sender pipe)
    (stepped : sender.clearIN (.returning .flush .noError) = some (next, event))
    (point : At sender pipe .clearAgain) :
    Pipe.specification.Follows Tracks next pipe event := by
  obtain ⟨untaken, blank, free, bank⟩ := point
  refine tracks.clearIN stepped (fun active _ => ?_) fun kept => ?_
  · -- the empty packet after a full one
    refine promised_flush untaken rfl fun full => ?_
    have full := of_decide_eq_true full
    rw [bank] at full
    cases full
  · refine promised_flush untaken (tracks.loading fun _ => bank) ?_
    refine terminated_of_inactive blank fun active => ?_
    rw [kept active] at free
    cases free

theorem Tracks.waitFrame {sender next : Sender} {pipe : Pipe} {event : Option SendEvent}
    {call : SendCall} {waiting : Waiting} (tracks : Tracks sender pipe)
    (stepped : (if sender.frameNumber ≠ waiting.previousFrameNumber then
        if waiting.timeoutMSRem = 0 then sender.goto (.returning call .timeout)
        else
          some ({ sender with
            code := .waitReady call ⟨waiting.timeoutMSRem - 1, sender.frameNumber⟩ }, some .frame)
      else sender.goto (.waitReady call waiting)) = some (next, event))
    (point : At sender pipe (.waitFrame call waiting)) :
    Pipe.specification.Follows Tracks next pipe event := by
  obtain ⟨untaken, frames, blank, free⟩ := point
  split at stepped
  · split at stepped
    · next zero =>
      refine tracks.goto stepped (promised_failure untaken (by decide) fun _ => ?_)
      rw [zero] at frames
      exact frames
    · next positive =>
      cases stepped
      have left := toNat_sub_one positive
      refine ⟨{ pipe with frames := pipe.frames + 1 }, if_pos (by omega), tracks.banked,
        tracks.short, tracks.disabled, untaken, ?_, blank, free⟩
      simp only
      omega
  · exact tracks.goto stepped ⟨untaken, frames, blank, free⟩

theorem Tracks.mainStep {sender next : Sender} {pipe : Pipe} {registers : Registers}
    {event : Option SendEvent} (tracks : Tracks sender pipe)
    (stepped : sender.mainStep registers = some (next, event)) :
    Pipe.specification.Follows Tracks next pipe event := by
  have point := tracks.point
  unfold Sender.mainStep at stepped
  cases code : sender.code with
  | idle => simp [code] at stepped
  | taskState =>
      rw [code] at stepped point
      refine tracks.goto stepped ?_
      split <;> exact point
  | taskBaud =>
      rw [code] at stepped point
      refine tracks.goto stepped ?_
      split <;> exact point
  | stateTest call =>
      rw [code] at stepped point
      refine tracks.goto stepped ?_
      split
      · exact point
      · exact promised_failure point.1 (by decide) fun late => by cases late
  | baudTest call =>
      rw [code] at stepped point
      refine tracks.goto stepped ?_
      split
      · exact point
      · exact promised_failure point.1 (by decide) fun late => by cases late
  | select call =>
      rw [code] at stepped point
      exact tracks.select stepped point
  | allowed byte =>
      rw [code] at stepped point
      obtain ⟨untaken, frames, _, blank⟩ := point
      refine tracks.goto stepped ?_
      split
      · next allowed => exact ⟨untaken, blank, room_of_allowed allowed⟩
      · exact ⟨untaken, frames, blank⟩
  | clear byte =>
      rw [code] at stepped point
      obtain ⟨untaken, frames, blank⟩ := point
      refine tracks.clearIN stepped (fun active _ => ?_) fun kept => ?_
      · exact ⟨untaken, frames, astray active, fun free => by cases free⟩
      · exact ⟨untaken, frames, blank, fun free => gone blank kept free⟩
  | write byte =>
      rw [code] at stepped point
      exact tracks.write8 stepped point
  | bytes =>
      rw [code] at stepped point
      exact tracks.bytes stepped point
  | full =>
      rw [code] at stepped point
      obtain ⟨untaken, frames, settled, blank⟩ := point
      refine tracks.goto stepped ?_
      cases allowed : sender.isReadWriteAllowed registers with
      | true => exact ⟨untaken, frames, blank, room_of_allowed allowed⟩
      | false => exact ⟨untaken, frames, blank⟩
  | clearBank bankFull =>
      cases bankFull with
      | true =>
          rw [code] at stepped point
          obtain ⟨untaken, frames, blank⟩ := point
          refine tracks.clearIN stepped (fun active _ => ?_) fun kept => ?_
          · exact ⟨untaken, frames, astray active, fun free => by cases free⟩
          · exact ⟨untaken, frames, blank, fun free => gone blank kept free⟩
      | false =>
          rw [code] at stepped point
          exact tracks.clearBank stepped point
  | clearAgain =>
      rw [code] at stepped point
      exact tracks.clearAgain stepped point
  | waitBegin call =>
      rw [code] at stepped point
      obtain ⟨untaken, frames, blank, free⟩ := point
      exact tracks.goto stepped ⟨untaken, by rw [frames, Nat.zero_add], blank, free⟩
  | waitReady call waiting =>
      rw [code] at stepped point
      obtain ⟨untaken, frames, blank, free⟩ := point
      refine tracks.goto stepped ?_
      split
      · next ready => exact at_afterWait untaken blank free ready
      · exact ⟨untaken, frames, blank, free⟩
  | waitState call waiting =>
      rw [code] at stepped point
      refine tracks.goto stepped ?_
      split
      · exact promised_failure point.1 (by decide) fun late => by cases late
      split
      · exact promised_failure point.1 (by decide) fun late => by cases late
      · exact point
  | waitStalled call waiting =>
      rw [code] at stepped point
      refine tracks.goto stepped ?_
      split
      · exact promised_failure point.1 (by decide) fun late => by cases late
      · exact point
  | waitFrame call waiting =>
      rw [code] at stepped point
      exact tracks.waitFrame stepped point
  | returning call result =>
      rw [code] at stepped point
      exact tracks.returned stepped point

theorem sending_simulated : sending.Simulated Pipe.specification Tracks := by
  intro sender pipe action next event tracks stepped
  cases action with
  | call call =>
      simp only [sending, Sender.step] at stepped
      split at stepped
      · next idle =>
        have point := tracks.point
        rw [idle] at point
        exact tracks.goto stepped point
      · cases stepped
  | usbTask =>
      simp only [sending, Sender.step] at stepped
      split at stepped
      · next idle =>
        have point := tracks.point
        rw [idle] at point
        exact tracks.goto stepped point
      · cases stepped
  | receive =>
      simp only [sending, Sender.step] at stepped
      split at stepped
      · next idle =>
        have point := tracks.point
        cases stepped
        refine ⟨tracks.banked, tracks.short, tracks.disabled, ?_⟩
        rw [idle] at point ⊢
        exact point
      · cases stepped
  | main registers => exact tracks.mainStep stepped
  | inToken =>
      simp only [sending, Sender.step] at stepped
      split at stepped
      · next offered =>
        cases stepped
        rw [Bool.and_eq_true] at offered
        exact tracks.delivered offered.1
      · cases stepped
  | startOfFrame number =>
      cases stepped
      exact ⟨tracks.banked, tracks.short, tracks.disabled, tracks.point⟩
  | reset nested enabled =>
      cases stepped
      exact tracks.lost rfl rfl rfl
  | configure state success =>
      cases stepped
      exact tracks.lost rfl rfl rfl
  | setLineEncoding baudRateBPS =>
      cases stepped
      exact ⟨tracks.banked, tracks.short, tracks.disabled, tracks.point⟩
  | setHalt =>
      cases stepped
      exact ⟨tracks.banked, tracks.short, tracks.disabled, tracks.point⟩
  | clearHalt =>
      cases stepped
      exact tracks.lost rfl rfl rfl
  | deviceState state =>
      cases stepped
      exact ⟨tracks.banked, tracks.short, tracks.disabled, tracks.point⟩

/-- The state that a successful configuration leaves, between two calls. -/
def Sender.attached (sender : Sender) : Sender :=
  { sender.cleared with enabled := true, code := .idle }

theorem tracks_attached (sender : Sender) : Tracks sender.attached .empty where
  banked := ⟨rfl, rfl⟩
  short := Nat.zero_le _
  disabled := fun disabled => by cases disabled
  point := ⟨rfl, rfl, fun unterminated => by cases unterminated⟩

/-- From a configured endpoint on, every run of `CDC_Device_SendByte`, `CDC_Device_Flush`
and `CDC_Device_USBTask` keeps the promises of the pipe. No byte is written into a full or
queued bank, or to another endpoint before the bank has been cleared; a call reports success
exactly if its byte was written; a flush that reports success leaves nothing behind, and the
last packet is a short one unless a call has failed since the last byte was written; no wait
outlasts its frames. -/
theorem cdcSend_refines_pipe (sender : Sender) (schedule : List SendAction) :
    ∃ pipe, Pipe.specification.replay .empty (sending.run schedule sender.attached).2 = some pipe ∧
      Tracks (sending.run schedule sender.attached).1 pipe :=
  System.Simulated.run sending_simulated schedule (tracks_attached sender)

def openSender : Sender := ⟨.configured, 9600, .control, 0, true, false, false, [], .idle⟩

/-- Sixteen bytes fill the bank; the flush offers them, waits for the host, and ends the
transfer with an empty packet. -/
example :
    let statements : Nat → List SendAction := fun count =>
      .replicate count (.main ⟨false, false, false, 0⟩)
    let bytes : List SendAction :=
      (List.range 16).flatMap fun byte =>
        [.call (.sendByte (BitVec.ofNat 8 byte))] ++ statements 6
    ((sending.run (bytes ++ [.usbTask] ++ statements 9 ++ [.inToken] ++ statements 10 ++ [.inToken])
      openSender).2.drop 32) =
      [.handed ((List.range 16).map (BitVec.ofNat 8)),
        .delivered ((List.range 16).map (BitVec.ofNat 8)), .handed [], .returned .flush .noError,
        .delivered []] := by
  decide +kernel

/-- The bytes for which `CDC_Device_SendByte` has reported success. -/
def sentBytes (events : List SendEvent) : List Byte :=
  events.filterMap fun
    | .returned (.sendByte byte) .noError => some byte
    | _ => none

/-- The packets that the host has collected. -/
def collected (events : List SendEvent) : List (List Byte) :=
  events.filterMap fun
    | .delivered packet => some packet
    | _ => none

def written (events : List SendEvent) : List Byte :=
  events.filterMap fun
    | .accepted byte => some byte
    | _ => none

/-- The bytes between the program and the host. -/
def Pipe.inFlight (pipe : Pipe) : List Byte := pipe.offered.getD [] ++ pipe.loading

structure Accounted (events : List SendEvent) (pipe : Pipe) : Prop where
  ordered : List.Sublist ((collected events).flatten ++ pipe.inFlight) (written events)
  complete : pipe.cleared = false →
    (collected events).flatten ++ pipe.inFlight = written events ∧
      sentBytes events ++ pipe.taken.toList = written events
  cleared : pipe.cleared = true → .lost ∈ events
  packets : ∀ packet ∈ collected events, packet.length ≤ endpointSize
  offered : ∀ packet ∈ pipe.offered, packet.length ≤ endpointSize
  loading : pipe.loading.length ≤ endpointSize

theorem accounted_empty : Accounted [] .empty where
  ordered := List.Sublist.refl _
  complete := fun _ => ⟨rfl, rfl⟩
  cleared := fun cleared => by cases cleared
  packets := fun packet member => by cases member
  offered := fun packet member => by cases member
  loading := Nat.zero_le _

theorem collected_append (events : List SendEvent) (event : SendEvent) :
    collected (events ++ [event]) = collected events ++ collected [event] :=
  List.filterMap_append

theorem written_append (events : List SendEvent) (event : SendEvent) :
    written (events ++ [event]) = written events ++ written [event] :=
  List.filterMap_append

theorem sentBytes_append (events : List SendEvent) (event : SendEvent) :
    sentBytes (events ++ [event]) = sentBytes events ++ sentBytes [event] :=
  List.filterMap_append

/-- An event that moves no byte into the pipe, out of it, or to the caller. -/
theorem Accounted.quiet {events : List SendEvent} {pipe next : Pipe} {event : SendEvent}
    (accounted : Accounted events pipe) (noneCollected : collected [event] = [])
    (noneWritten : written [event] = []) (noneSent : sentBytes [event] = [])
    (inFlight : next.inFlight = pipe.inFlight) (taken : next.taken = pipe.taken)
    (cleared : next.cleared = pipe.cleared)
    (offered : ∀ packet ∈ next.offered, packet.length ≤ endpointSize)
    (loading : next.loading.length ≤ endpointSize) : Accounted (events ++ [event]) next := by
  refine ⟨?_, ?_, ?_, ?_, offered, loading⟩
  · rw [collected_append, written_append, noneCollected, noneWritten, inFlight, List.append_nil,
      List.append_nil]
    exact accounted.ordered
  · rw [collected_append, written_append, sentBytes_append, noneCollected, noneWritten, noneSent,
      inFlight, taken, cleared, List.append_nil, List.append_nil, List.append_nil]
    exact accounted.complete
  · intro lost
    exact List.mem_append_left _ (accounted.cleared (cleared ▸ lost))
  · rw [collected_append, noneCollected, List.append_nil]
    exact accounted.packets

theorem Accounted.lost_append {events : List SendEvent} {pipe : Pipe}
    (accounted : Accounted events pipe) (event : SendEvent) (cleared : pipe.cleared = true) :
    .lost ∈ events ++ [event] :=
  List.mem_append_left _ (accounted.cleared cleared)

theorem Accounted.accepted {events : List SendEvent} {pipe : Pipe} {byte : Byte}
    (accounted : Accounted events pipe) (free : pipe.offered = none)
    (below : pipe.loading.length < endpointSize) (untaken : pipe.taken = none) :
    Accounted (events ++ [.accepted byte])
      { pipe with loading := pipe.loading ++ [byte], taken := some byte, failed := false } := by
  have moved : (collected (events ++ [.accepted byte])).flatten ++
      Pipe.inFlight { pipe with
        loading := pipe.loading ++ [byte], taken := some byte, failed := false } =
      ((collected events).flatten ++ pipe.inFlight) ++ [byte] := by
    simp [collected, Pipe.inFlight, free]
  refine ⟨?_, fun kept => ?_, accounted.lost_append _, ?_, ?_, ?_⟩
  · rw [moved, written_append]
    exact accounted.ordered.append_right _
  · obtain ⟨delivered, sent⟩ := accounted.complete kept
    rw [untaken, Option.toList_none, List.append_nil] at sent
    rw [moved, written_append, sentBytes_append, delivered, sent]
    exact ⟨rfl, by simp [sentBytes, written]⟩
  · simpa [collected_append, collected] using accounted.packets
  · simp [free]
  · rw [List.length_append]
    exact below

theorem Accounted.delivered {events : List SendEvent} {pipe : Pipe} {packet : List Byte}
    (accounted : Accounted events pipe) (offered : pipe.offered = some packet) :
    Accounted (events ++ [.delivered packet]) { pipe with offered := none } := by
  have moved : (collected (events ++ [.delivered packet])).flatten ++
      Pipe.inFlight { pipe with offered := none } =
      (collected events).flatten ++ pipe.inFlight := by
    simp [collected, Pipe.inFlight, offered]
  refine ⟨?_, fun kept => ?_, accounted.lost_append _, ?_, nofun, accounted.loading⟩
  · rw [moved, written_append]
    simpa [written] using accounted.ordered
  · rw [moved, written_append, sentBytes_append]
    simpa [written, sentBytes] using accounted.complete kept
  · intro other member
    rw [collected_append, List.mem_append] at member
    rcases member with before | here
    · exact accounted.packets other before
    · obtain rfl : other = packet := by simpa [collected] using here
      exact accounted.offered other offered

theorem Accounted.lost {events : List SendEvent} {pipe : Pipe}
    (accounted : Accounted events pipe) : Accounted (events ++ [.lost]) pipe.lost := by
  refine ⟨?_, nofun, fun _ => List.mem_append_right _ (List.mem_singleton_self _), ?_, nofun,
    Nat.zero_le _⟩
  · have front := (List.sublist_append_left (collected events).flatten pipe.inFlight).trans
      accounted.ordered
    simpa [collected_append, written_append, collected, written, Pipe.inFlight, Pipe.lost]
      using front
  · simpa [collected_append, collected] using accounted.packets

theorem sentBytes_of_promised {pipe : Pipe} {call : SendCall} {code : ErrorCode}
    (promised : pipe.Promised code call) :
    sentBytes [.returned call code] = pipe.taken.toList := by
  obtain ⟨kept, _⟩ := promised
  cases call with
  | sendByte byte =>
      change pipe.taken = if code = .noError then some byte else none at kept
      rw [kept]
      cases code <;> rfl
  | flush =>
      rw [kept.1]
      cases code <;> rfl

theorem Accounted.event {events : List SendEvent} {pipe next : Pipe} {event : SendEvent}
    (accounted : Accounted events pipe) (accepted : pipe.accept event = some next) :
    Accounted (events ++ [event]) next := by
  cases event with
  | accepted byte =>
      simp only [Pipe.accept, Option.ite_none_right_eq_some, Option.some.injEq] at accepted
      obtain ⟨⟨free, below, untaken⟩, rfl⟩ := accepted
      exact accounted.accepted free below untaken
  | elsewhere byte =>
      simp only [Pipe.accept, Option.ite_none_right_eq_some, Option.some.injEq] at accepted
      -- a byte goes to another endpoint only after the bank has been cleared
      obtain ⟨⟨_, cleared⟩, rfl⟩ := accepted
      refine ⟨?_, fun kept => ?_, accounted.lost_append _, ?_, accounted.offered,
        accounted.loading⟩
      · simpa [collected_append, written_append, collected, written, Pipe.inFlight]
          using accounted.ordered
      · rw [cleared] at kept
        cases kept
      · simpa [collected_append, collected] using accounted.packets
  | overflow byte => cases accepted
  | handed packet =>
      simp only [Pipe.accept, Option.ite_none_right_eq_some, Option.some.injEq] at accepted
      obtain ⟨⟨free, rfl⟩, rfl⟩ := accepted
      refine accounted.quiet rfl rfl rfl ?_ rfl rfl ?_ (Nat.zero_le _)
      · simp [Pipe.inFlight, free]
      · intro packet member
        cases member
        exact accounted.loading
  | delivered packet =>
      simp only [Pipe.accept, Option.ite_none_right_eq_some, Option.some.injEq] at accepted
      obtain ⟨offered, rfl⟩ := accepted
      exact accounted.delivered offered
  | lost =>
      cases accepted
      exact accounted.lost
  | frame =>
      simp only [Pipe.accept, Option.ite_none_right_eq_some, Option.some.injEq] at accepted
      obtain ⟨_, rfl⟩ := accepted
      exact accounted.quiet rfl rfl rfl rfl rfl rfl accounted.offered accounted.loading
  | returned call code =>
      simp only [Pipe.accept, Option.ite_none_right_eq_some, Option.some.injEq] at accepted
      obtain ⟨promised, rfl⟩ := accepted
      refine ⟨?_, fun kept => ?_, accounted.lost_append _, ?_, accounted.offered,
        accounted.loading⟩
      · simpa [collected_append, written_append, collected, written, Pipe.inFlight]
          using accounted.ordered
      · rw [sentBytes_append, sentBytes_of_promised promised]
        simpa [collected_append, written_append, collected, written, Pipe.inFlight]
          using accounted.complete kept
      · simpa [collected_append, collected] using accounted.packets

theorem Tracks.inFlight {sender : Sender} {pipe : Pipe} (tracks : Tracks sender pipe) :
    pipe.inFlight = sender.bank := by
  have banked := tracks.banked
  unfold Banked at banked
  split at banked
  · rw [Pipe.inFlight, banked.1, banked.2, Option.getD_some, List.append_nil]
  · rw [Pipe.inFlight, banked.1, banked.2, Option.getD_none, List.nil_append]

/-- As long as the bank is never cleared, nothing that was reported as sent is missing. -/
theorem collected_of_kept (sender : Sender) (schedule : List SendAction)
    (kept : .lost ∉ (sending.run schedule sender.attached).2)
    (idle : (sending.run schedule sender.attached).1.code = .idle) :
    (collected (sending.run schedule sender.attached).2).flatten ++
        (sending.run schedule sender.attached).1.bank =
      sentBytes (sending.run schedule sender.attached).2 := by
  obtain ⟨pipe, replayed, tracks⟩ :=
    System.Simulated.run sending_simulated schedule (tracks_attached sender)
  have accounted : Accounted (sending.run schedule sender.attached).2 pipe :=
    Specification.replay_invariant Accounted.event accounted_empty replayed
  have uncleared : pipe.cleared = false := by
    cases cleared : pipe.cleared with
    | true => exact absurd (accounted.cleared cleared) kept
    | false => rfl
  obtain ⟨delivered, sent⟩ := accounted.complete uncleared
  have point := tracks.point
  rw [idle] at point
  rw [point.1, Option.toList_none, List.append_nil] at sent
  rw [← tracks.inFlight, delivered, sent]

/-- The host collects packets of at most sixteen bytes. What it has and what is still in
the bank is in the order of the writes, whatever happens on the bus; and as long as the bank
is never cleared it is, between two calls, exactly what `CDC_Device_SendByte` has reported as
sent. -/
theorem cdcSend_in_order (sender : Sender) (schedule : List SendAction) :
    let run := sending.run schedule sender.attached
    (∀ packet ∈ collected run.2, packet.length ≤ endpointSize) ∧ run.1.bank.length ≤ endpointSize ∧
      List.Sublist ((collected run.2).flatten ++ run.1.bank) (written run.2) ∧
      (.lost ∉ run.2 → run.1.code = .idle →
        (collected run.2).flatten ++ run.1.bank = sentBytes run.2) := by
  intro run
  obtain ⟨pipe, replayed, tracks⟩ :=
    System.Simulated.run sending_simulated schedule (tracks_attached sender)
  have accounted : Accounted run.2 pipe :=
    Specification.replay_invariant Accounted.event accounted_empty replayed
  refine ⟨accounted.packets, tracks.short, ?_, collected_of_kept sender schedule⟩
  rw [← tracks.inFlight]
  exact accounted.ordered

/-- A flush that has just reported success leaves nothing in a bank that is not queued. -/
theorem bank_of_flushed {sender : Sender} {schedule : List SendAction} {earlier : List SendEvent}
    (flushed : (sending.run schedule sender.attached).2 =
      earlier ++ [.returned .flush .noError])
    (free : (sending.run schedule sender.attached).1.queued = false) :
    (sending.run schedule sender.attached).1.bank = [] := by
  obtain ⟨pipe, replayed, tracks⟩ :=
    System.Simulated.run sending_simulated schedule (tracks_attached sender)
  rw [flushed] at replayed
  obtain ⟨middle, _, accepted⟩ := Specification.replay_concat replayed
  simp only [Pipe.specification, Pipe.accept, Option.ite_none_right_eq_some,
    Option.some.injEq] at accepted
  obtain ⟨⟨⟨_, promised⟩, _⟩, rfl⟩ := accepted
  have banked := tracks.banked
  rw [Banked, free, if_neg Bool.false_ne_true] at banked
  rw [← banked.1]
  exact (promised rfl).1

theorem inToken_unqueued {sender : Sender} (free : sender.queued = false) :
    sending.step sender .inToken = none := by
  simp [sending, Sender.step, free]

theorem inToken_queued {sender : Sender} (queued : sender.queued = true)
    (unstalled : sender.stalled = false) :
    sending.step sender .inToken = some (sender.cleared, some (.delivered sender.bank)) := by
  simp [sending, Sender.step, queued, unstalled]

/-- After a flush that reports success one more IN token of the host is enough: then it has
every byte that was reported as sent, as long as the bank was never cleared. -/
theorem flushed_bytes_delivered (sender : Sender) (schedule : List SendAction)
    (earlier : List SendEvent)
    (flushed : (sending.run schedule sender.attached).2 =
      earlier ++ [.returned .flush .noError])
    (idle : (sending.run schedule sender.attached).1.code = .idle)
    (unstalled : (sending.run schedule sender.attached).1.stalled = false)
    (kept : .lost ∉ earlier) :
    (collected (sending.run (schedule ++ [.inToken]) sender.attached).2).flatten =
      sentBytes (sending.run schedule sender.attached).2 := by
  have unlost : .lost ∉ (sending.run schedule sender.attached).2 := by
    rw [flushed, List.mem_append, List.mem_singleton]
    rintro (lost | lost)
    · exact kept lost
    · cases lost
  have sent := collected_of_kept sender schedule unlost idle
  rw [sending.run_append]
  -- the last packet has been collected already, or this token collects it
  cases queued : (sending.run schedule sender.attached).1.queued with
  | false =>
      rw [bank_of_flushed flushed queued, List.append_nil] at sent
      simp only [System.run, inToken_unqueued queued, List.append_nil]
      exact sent
  | true =>
      have single (packet : List Byte) : collected [.delivered packet] = [packet] := rfl
      simp only [System.run, inToken_queued queued unstalled, Option.toList_some, List.append_nil]
      rw [collected_append, single, List.flatten_append, List.flatten_singleton]
      exact sent

/-- Three bytes, the pass of the main loop that flushes them, and the host. -/
def threeBytesAndFlush : List SendAction :=
  [0x01, 0x02, 0x03].flatMap (fun byte =>
    .call (.sendByte byte) :: .replicate 6 (.main ⟨false, false, false, 0⟩)) ++
  [.usbTask] ++ .replicate 9 (.main ⟨false, false, false, 0⟩)

theorem flushed_bytes_delivered_three :
    (collected (sending.run (threeBytesAndFlush ++ [.inToken]) openSender.attached).2).flatten =
      [0x01, 0x02, 0x03] := by
  have events : (sending.run threeBytesAndFlush openSender.attached).2 =
      [.accepted 0x01, .returned (.sendByte 0x01) .noError, .accepted 0x02,
        .returned (.sendByte 0x02) .noError, .accepted 0x03,
        .returned (.sendByte 0x03) .noError, .handed [0x01, 0x02, 0x03]] ++
      [.returned .flush .noError] := by
    decide +kernel
  rw [flushed_bytes_delivered openSender threeBytesAndFlush _ events (by decide +kernel)
    (by decide +kernel) (by decide), events]
  rfl

end MiniMiner.Lufa
