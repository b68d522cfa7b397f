import MiniMiner.AvalonBTC.Worktask

/-! The replies of the firmware. Each reply goes byte by byte into the transmit
ring and from there into the endpoint; as long as the ring is not overrun, the
endpoint receives the replies whole and in order. -/

set_option autoImplicit false

namespace MiniMiner.AvalonBTC

open LittleEndian Preemption Preemption.Program

/-- The branches of `appService` reply on their own account. -/
def Caller.own : Caller → Bool
  | .command _ => false
  | _ => true

/-- A reply, with the device as it was when its first byte was written: the
state, the number of works executed and the task. -/
structure Reply where
  caller : Caller
  state : State
  generation : Nat
  task : WorkUnit
  bytes : List Byte

/-- The frame a reply should become. -/
def Reply.frame (reply : Reply) : List Byte :=
  match reply.caller with
  | .command .I => Command.I.toByte :: identity
  | .command command => command.toByte :: reply.state.bytes
  | _ => Command.S.toByte :: reply.state.bytes

def extendLast (byte : Byte) : List Reply → List Reply
  | [] => []
  | [reply] => [{ reply with bytes := reply.bytes ++ [byte] }]
  | reply :: next :: rest => reply :: extendLast byte (next :: rest)

/-- The byte written to the transmit ring by a statement. -/
def writtenByte (transition : Transition Point Device Interrupt Call) : Byte :=
  transition.source.usartToUsbBuffer.stored transition.target.usartToUsbBuffer

def replies : Past → List Reply
  | [] => []
  | transition :: earlier =>
      match transition.label with
      | .main (.write caller 0) =>
          replies earlier ++
            [{ caller := caller
               state := transition.source.state
               generation := (works earlier).length
               task := transition.source.worktask
               bytes := [writtenByte transition] }]
      | .main (.write _ (_ + 1)) => extendLast (writtenByte transition) (replies earlier)
      | _ => replies earlier

theorem extendLast_append (byte : Byte) (complete : List Reply) (reply : Reply) :
    extendLast byte (complete ++ [reply]) =
      complete ++ [{ reply with bytes := reply.bytes ++ [byte] }] := by
  induction complete with
  | nil => rfl
  | cons first rest ih =>
      cases rest with
      | nil => rfl
      | cons second others =>
          rw [List.cons_append, List.cons_append, extendLast, ← List.cons_append, ih]
          rfl

theorem executed_initial (transition : Transition Point Device Interrupt Call)
    (history : Past) : executed history <+: executed (transition :: history) := by
  simp only [executed]
  split
  · exact List.prefix_refl _
  · exact List.prefix_append _ _
  · exact List.prefix_append _ _
  · exact List.prefix_refl _

theorem works_initial (transition : Transition Point Device Interrupt Call) (history : Past) :
    works history <+: works (transition :: history) :=
  (executed_initial transition history).filterMap _

theorem works_getLast_of_loaded {history : Past} {bytes : List Byte}
    (found : loaded history = some bytes) : (works history).getLast? = some bytes := by
  induction history with
  | nil => cases found
  | cons transition earlier ih =>
      obtain ⟨label, source, target⟩ := transition
      cases label with
      | interrupt source => exact ih found
      | call entry => exact ih found
      | main point =>
          cases point with
          | precalc =>
              obtain rfl := Option.some.inj found
              simp [works, executed, Token.work?]
          | removeCommand command =>
              cases command with
              | W => cases found
              | _ => simpa [works, executed, Token.work?] using ih found
          | _ => exact ih found

/-- What a reply says about the commands: it answers an executed command or is
sent by `appService`, a `'W'` is acknowledged in `STATE_WORKING` with no nonce,
and the task was the one of the latest work executed by then. -/
structure Reply.Sound (reply : Reply) (history : Past) : Prop where
  answers : ∀ command, reply.caller = .command command → command ≠ .W →
    Token.single command.toByte ∈ executed history
  acknowledges : reply.caller = .command .W →
    reply.state.state = stateWorking ∧ reply.state.nonceValid = 0
  task : 0 < reply.generation → ∃ bytes,
    (works history)[reply.generation - 1]? = some bytes ∧ reply.task.Holds bytes

theorem Reply.Sound.later {reply : Reply} {history : Past} (sound : reply.Sound history)
    (transition : Transition Point Device Interrupt Call) :
    reply.Sound (transition :: history) where
  answers := fun command isCommand notW =>
    (executed_initial transition history).subset (sound.answers command isCommand notW)
  acknowledges := sound.acknowledges
  task := by
    intro positive
    obtain ⟨bytes, found, holds⟩ := sound.task positive
    obtain ⟨inside, _⟩ := List.getElem?_eq_some_iff.mp found
    obtain ⟨more, extended⟩ := works_initial transition history
    refine ⟨bytes, ?_, holds⟩
    rw [← extended, List.getElem?_append_left inside, found]

def writesReply : Step → Bool
  | .main (.write _ _) => true
  | _ => false

def withinTransmitRing (label : Step) (device : Device) (_ : Past) : Prop :=
  writesReply label = true → device.usartToUsbBuffer.count.toNat < 256

instance (label : Step) (device : Device) (history : Past) :
    Decidable (withinTransmitRing label device history) :=
  inferInstanceAs (Decidable
    (writesReply label = true → device.usartToUsbBuffer.count.toNat < 256))

def replying : Setting Point Device Interrupt Call where
  machine := firmware
  allowed := fun label device history =>
    withinTransmitRing label device history ∧ Stored device history
  always := fun device history =>
    device.endpoint <+: (replies history).flatMap Reply.bytes ∧
      (∃ complete rest, replies history = complete ++ rest ∧ rest.length ≤ 1 ∧
        (∀ reply ∈ complete, reply.bytes = reply.frame) ∧
        ∀ reply ∈ rest, reply.bytes <+: reply.frame) ∧
      ∀ reply ∈ replies history, reply.Sound history

/-- All replies are complete, and the endpoint and the ring hold them. -/
structure Settled (device : Device) (history : Past) : Prop where
  stream : device.endpoint ++ device.usartToUsbBuffer.contents =
    (replies history).flatMap Reply.bytes
  complete : ∀ reply ∈ replies history, reply.bytes = reply.frame
  sound : ∀ reply ∈ replies history, reply.Sound history

/-- Between calls the task is loaded, unless there has been none. -/
structure Replied (device : Device) (history : Past) : Prop extends Settled device history where
  loads : works history ≠ [] → (loaded history).isSome = true

def Point.mute : Point → Bool
  | .write _ _ => false
  | _ => true

theorem replies_mute {point : Point} (mute : point.mute = true) (before after : Device)
    (history : Past) : replies (⟨.main point, before, after⟩ :: history) = replies history := by
  cases point <;> first | rfl | cases mute

theorem Settled.later {label : Step} {before after : Device} {history : Past}
    (settled : Settled before history)
    (same : replies (⟨label, before, after⟩ :: history) = replies history)
    (endpoint : after.endpoint = before.endpoint)
    (ring : after.usartToUsbBuffer = before.usartToUsbBuffer) :
    Settled after (⟨label, before, after⟩ :: history) where
  stream := by rw [same, endpoint, ring, settled.stream]
  complete := by
    rw [same]
    exact settled.complete
  sound := by
    rw [same]
    exact fun reply member => (settled.sound reply member).later _

theorem Settled.always {device : Device} {history : Past} (settled : Settled device history) :
    replying.always device history := by
  refine ⟨⟨_, settled.stream⟩, ⟨replies history, [], ?_, Nat.zero_le _, settled.complete, ?_⟩,
    settled.sound⟩
  · rw [List.append_nil]
  · exact fun _ member => by cases member

theorem endpoint_handled {source : Interrupt} {before after : Device}
    (handled : handler source before = some after) :
    after.endpoint = before.endpoint ∧ after.usartToUsbBuffer = before.usartToUsbBuffer ∧
      after.state = before.state := by
  rcases handler_eq_some handled with ⟨_, rfl⟩ | ⟨_, _, _, _, rfl⟩
  · exact ⟨rfl, rfl, rfl⟩
  · exact ⟨rfl, rfl, rfl⟩

theorem steady_settled : replying.Steady Settled where
  stable := by
    intro source before after history handled _ settled
    obtain ⟨endpoint, ring, _⟩ := endpoint_handled handled
    exact settled.later rfl endpoint ring
  always := fun _ _ settled => settled.always

theorem steady_replied : replying.Steady Replied where
  stable := by
    intro source before after history handled _ replied
    obtain ⟨endpoint, ring, _⟩ := endpoint_handled handled
    exact ⟨replied.toSettled.later rfl endpoint ring, replied.loads⟩
  always := fun _ _ replied => replied.toSettled.always

theorem keeps_settled {point : Point} {before after : Device} (mute : point.mute = true)
    (endpoint : after.endpoint = before.endpoint)
    (ring : after.usartToUsbBuffer = before.usartToUsbBuffer) :
    replying.Keeps Settled point before after :=
  fun history _ settled => settled.later (replies_mute mute before after history) endpoint ring

theorem loads_later {label : Step} {before after : Device} {history : Past}
    (loads : works history ≠ [] → (loaded history).isSome = true)
    (notW : label ≠ .main (.removeCommand .W))
    (some : works (⟨label, before, after⟩ :: history) ≠ []) :
    (loaded (⟨label, before, after⟩ :: history)).isSome = true := by
  cases label with
  | interrupt source => exact loads some
  | call entry => exact loads some
  | main point =>
      cases point with
      | precalc => rfl
      | removeCommand command =>
          cases command with
          | W => exact absurd rfl notW
          | _ => exact loads (by simpa [works, executed, Token.work?] using some)
      | _ => exact loads some

/-- Statements that neither write a reply nor begin a `'W'`. -/
def Point.uneventful : Point → Bool
  | .removeCommand .W => false
  | point => point.mute

theorem Replied.later {point : Point} {before after : Device} {history : Past}
    (replied : Replied before history) (uneventful : point.uneventful = true)
    (endpoint : after.endpoint = before.endpoint)
    (ring : after.usartToUsbBuffer = before.usartToUsbBuffer) :
    Replied after (⟨.main point, before, after⟩ :: history) := by
  have mute : point.mute = true := by
    cases point with
    | removeCommand command => rfl
    | _ => exact uneventful
  refine ⟨replied.toSettled.later (replies_mute mute before after history) endpoint ring,
    loads_later replied.loads fun same => ?_⟩
  rw [Label.main.inj same] at uneventful
  cases uneventful

theorem keeps_replied {point : Point} {before after : Device}
    (uneventful : point.uneventful = true) (endpoint : after.endpoint = before.endpoint)
    (ring : after.usartToUsbBuffer = before.usartToUsbBuffer) :
    replying.Keeps Replied point before after :=
  fun _ _ replied => replied.later uneventful endpoint ring

/-- A reply of which so many bytes have been written. -/
structure Talking (caller : Caller) (count : Nat) (earlier : List Reply) (reply : Reply)
    (device : Device) (history : Past) : Prop where
  current : replies history = earlier ++ [reply]
  caller : reply.caller = caller
  state : reply.state = device.state
  bytes : reply.bytes = reply.frame.take count
  complete : ∀ other ∈ earlier, other.bytes = other.frame
  stream : device.endpoint ++ device.usartToUsbBuffer.contents =
    (replies history).flatMap Reply.bytes
  sound : ∀ other ∈ replies history, other.Sound history
  loads : works history ≠ [] → (loaded history).isSome = true

def InReply (caller : Caller) (count : Nat) (device : Device) (history : Past) : Prop :=
  ∃ earlier reply, Talking caller count earlier reply device history

theorem steady_inReply (caller : Caller) (count : Nat) :
    replying.Steady (InReply caller count) where
  stable := by
    intro source before after history handled _ inReply
    obtain ⟨earlier, reply, talking⟩ := inReply
    obtain ⟨endpoint, ring, state⟩ := endpoint_handled handled
    refine ⟨earlier, reply, talking.current, talking.caller, ?_, talking.bytes,
      talking.complete, ?_, fun other member => (talking.sound other member).later _,
      talking.loads⟩
    · rw [state, talking.state]
    · rw [endpoint, ring]
      exact talking.stream
  always := by
    intro device history inReply
    obtain ⟨earlier, reply, talking⟩ := inReply
    refine ⟨⟨_, talking.stream⟩, ⟨earlier, [reply], talking.current, Nat.le_refl _,
      talking.complete, fun other member => ?_⟩, talking.sound⟩
    obtain rfl := List.mem_singleton.mp member
    rw [talking.bytes]
    exact List.take_prefix _ _

/-- A command may be answered once it has been executed. -/
structure Ready (caller : Caller) (device : Device) (history : Past) : Prop where
  answers : ∀ command, caller = .command command → command ≠ .W →
    Token.single command.toByte ∈ executed history
  acknowledges : caller = .command .W →
    device.state.state = stateWorking ∧ device.state.nonceValid = 0

theorem Ready.later {caller : Caller} {label : Step} {before after : Device} {history : Past}
    (ready : Ready caller before history) (state : after.state = before.state) :
    Ready caller after (⟨label, before, after⟩ :: history) where
  answers := fun command isCommand notW =>
    (executed_initial _ history).subset (ready.answers command isCommand notW)
  acknowledges := by
    rw [state]
    exact ready.acknowledges

theorem steady_ready_reply (caller : Caller) :
    replying.Steady fun device history => Replied device history ∧ Ready caller device history :=
  steady_replied.and fun _ _ _ _ handled _ ready => ready.later (endpoint_handled handled).2.2

theorem Replied.begin {caller : Caller} {device : Device} {history : Past} {byte : Byte}
    {rest : List Byte} (replied : Replied device history) (ready : Ready caller device history)
    (stored : Stored device history) (room : device.usartToUsbBuffer.count.toNat < 256)
    (frame : ∀ reply : Reply, reply.caller = caller → reply.state = device.state →
      reply.frame = byte :: rest) :
    InReply caller 1 { device with usartToUsbBuffer := device.usartToUsbBuffer.insert byte }
      (⟨.main (.write caller 0), device,
        { device with usartToUsbBuffer := device.usartToUsbBuffer.insert byte }⟩ :: history) := by
  have written := device.usartToUsbBuffer.stored_insert byte
  refine ⟨replies history, _, rfl, rfl, rfl, ?_, replied.complete, ?_, ?_, replied.loads⟩
  · rw [frame _ rfl rfl]
    exact congrArg (fun first => [first]) written
  · have extended := device.usartToUsbBuffer.contents_insert byte room
    simp only [replies, writtenByte, written, List.flatMap_append, List.flatMap_singleton]
    rw [extended, ← List.append_assoc, replied.stream]
  · intro other member
    rcases List.mem_append.mp member with earlier | new
    · exact (replied.sound other earlier).later _
    · obtain rfl := List.mem_singleton.mp new
      refine ⟨ready.answers, ready.acknowledges, fun positive => ?_⟩
      obtain ⟨bytes, found⟩ := Option.isSome_iff_exists.mp
        (replied.loads (List.length_pos_iff.mp positive))
      refine ⟨bytes, ?_, stored bytes found⟩
      have last := works_getLast_of_loaded found
      rw [List.getLast?_eq_getElem?] at last
      exact last

theorem InReply.continue {caller : Caller} {count : Nat} {device : Device} {history : Past}
    {byte : Byte} (inReply : InReply caller count device history)
    (room : device.usartToUsbBuffer.count.toNat < 256)
    (frame : ∀ reply : Reply, reply.caller = caller → reply.state = device.state →
      reply.frame[count]? = some byte) (index : Nat) :
    InReply caller (count + 1)
      { device with usartToUsbBuffer := device.usartToUsbBuffer.insert byte }
      (⟨.main (.write caller (index + 1)), device,
        { device with usartToUsbBuffer := device.usartToUsbBuffer.insert byte }⟩ :: history) := by
  obtain ⟨earlier, reply, talking⟩ := inReply
  have written := device.usartToUsbBuffer.stored_insert byte
  have next := frame reply talking.caller talking.state
  have current : replies (⟨.main (.write caller (index + 1)), device,
      { device with usartToUsbBuffer := device.usartToUsbBuffer.insert byte }⟩ :: history) =
      earlier ++ [{ reply with bytes := reply.bytes ++ [byte] }] := by
    simp only [replies, writtenByte, written, talking.current, extendLast_append]
  refine ⟨earlier, _, current, talking.caller, talking.state, ?_, talking.complete, ?_, ?_,
    talking.loads⟩
  · have more := List.take_add_one (l := reply.frame) (i := count)
    rw [next, Option.toList_some, ← talking.bytes] at more
    exact more.symm
  · have extended := device.usartToUsbBuffer.contents_insert byte room
    have before := talking.stream
    rw [talking.current] at before
    rw [current, extended, ← List.append_assoc, before]
    simp only [List.flatMap_append, List.flatMap_singleton, List.append_assoc]
  · intro other member
    rw [current] at member
    rcases List.mem_append.mp member with old | new
    · refine (talking.sound other ?_).later _
      rw [talking.current]
      exact List.mem_append_left _ old
    · obtain rfl := List.mem_singleton.mp new
      have sound : reply.Sound history := talking.sound reply (by
        rw [talking.current]
        exact List.mem_append_right _ (List.mem_singleton.mpr rfl))
      exact ⟨sound.answers, sound.acknowledges, sound.task⟩

theorem InReply.finish {caller : Caller} {count : Nat} {device : Device} {history : Past}
    (inReply : InReply caller count device history)
    (length : ∀ reply : Reply, reply.caller = caller → reply.frame.length = count) :
    Replied device history := by
  obtain ⟨earlier, reply, talking⟩ := inReply
  refine ⟨⟨talking.stream, fun other member => ?_, talking.sound⟩, talking.loads⟩
  rw [talking.current] at member
  rcases List.mem_append.mp member with old | new
  · exact talking.complete other old
  · obtain rfl := List.mem_singleton.mp new
    rw [talking.bytes, ← length other talking.caller, List.take_length]

theorem sendCmdReply_triple {caller : Caller} {cmd : Byte} {data : Device → List Byte}
    {size : Nat}
    (frame : ∀ (reply : Reply) (device : Device), reply.caller = caller →
      reply.state = device.state → reply.frame = cmd :: data device)
    (length : ∀ reply : Reply, reply.caller = caller → reply.frame.length = size + 1) :
    replying.Triple
      (fun device history => Replied device history ∧ Ready caller device history)
      (sendCmdReply caller cmd data size) fun _ => Replied := by
  have first : replying.Triple
      (fun device history => Replied device history ∧ Ready caller device history)
      (usbWrite caller 0 (fun _ => [cmd]) 1) fun _ => InReply caller 1 :=
    .seq (.assign (steady_ready_reply caller) (steady_inReply caller 1)
      fun device history both admitted => both.1.begin both.2 admitted.2 (admitted.1 rfl)
        fun reply isCaller state => frame reply device isCaller state)
      fun _ => .done (steady_inReply caller 1)
  have rest : replying.Triple (InReply caller 1) (usbWrite caller 1 data size)
      fun _ => InReply caller (size + 1) := by
    refine Setting.Triple.eachRange (fun count => InReply caller (count + 1))
      (steady_inReply caller _) fun index inside => ?_
    refine .assign (steady_inReply caller _) (steady_inReply caller _) ?_
    intro device history inReply admitted
    rw [Nat.add_comm 1 index]
    refine inReply.continue (admitted.1 rfl) (fun reply isCaller state => ?_) index
    have whole := frame reply device isCaller state
    have size := length reply isCaller
    rw [whole, List.length_cons] at size
    rw [whole, List.getElem?_cons_succ, List.getD_eq_getElem?_getD,
      List.getElem?_eq_getElem (by omega)]
    rfl
  exact first.seq fun _ => rest.conseq (fun _ _ inReply => inReply)
    fun _ _ _ inReply => inReply.finish length

/-- The callers whose replies carry `app->state`, and the first byte of these. -/
def StateReply (caller : Caller) (cmd : Byte) : Prop :=
  ∀ reply : Reply, reply.caller = caller → reply.frame = cmd :: reply.state.bytes

theorem stateReply_command {command : Command} (notI : command ≠ .I) :
    StateReply (.command command) command.toByte := by
  intro reply isCaller
  unfold Reply.frame
  rw [isCaller]
  cases command <;> first | rfl | exact absurd rfl notI

theorem stateReply_own {caller : Caller} (own : caller = .report ∨ caller = .expiry) :
    StateReply caller Command.S.toByte := by
  intro reply isCaller
  unfold Reply.frame
  rw [isCaller]
  rcases own with rfl | rfl <;> rfl

theorem sendState_triple {caller : Caller} {cmd : Byte} (replies : StateReply caller cmd) :
    replying.Triple
      (fun device history => Replied device history ∧ Ready caller device history)
      (sendState caller cmd) fun _ => Replied := by
  refine sendCmdReply_triple (fun reply device isCaller state => ?_) fun reply isCaller => ?_
  · rw [replies reply isCaller, state]
  · rw [replies reply isCaller]
    rfl

theorem ready_own {caller : Caller} (own : caller = .report ∨ caller = .expiry)
    (device : Device) (history : Past) : Ready caller device history := by
  rcases own with rfl | rfl
  · exact ⟨nofun, nofun⟩
  · exact ⟨nofun, nofun⟩

theorem sendState_own_triple {caller : Caller} (own : caller = .report ∨ caller = .expiry) :
    replying.Triple Replied (sendState caller Command.S.toByte) fun _ => Replied :=
  (sendState_triple (stateReply_own own)).conseq
    (fun device history replied => ⟨replied, ready_own own device history⟩)
    fun _ _ _ replied => replied

/-- What is known of the past between calls. -/
structure Recorded (history : Past) : Prop where
  complete : ∀ reply ∈ replies history, reply.bytes = reply.frame
  sound : ∀ reply ∈ replies history, reply.Sound history
  loads : works history ≠ [] → (loaded history).isSome = true

theorem Recorded.later {label : Step} {before after : Device} {history : Past}
    (recorded : Recorded history)
    (same : replies (⟨label, before, after⟩ :: history) = replies history)
    (notW : label ≠ .main (.removeCommand .W)) :
    Recorded (⟨label, before, after⟩ :: history) where
  complete := by
    rw [same]
    exact recorded.complete
  sound := by
    rw [same]
    exact fun reply member => (recorded.sound reply member).later _
  loads := loads_later recorded.loads notW

theorem records_replies :
    transmitter.Records replying (fun history => (replies history).flatMap Reply.bytes)
      Recorded where
  undisturbed := fun _ _ _ handled =>
    ⟨(endpoint_handled handled).2.1, (endpoint_handled handled).1⟩
  interrupt := fun _ _ _ _ => ⟨rfl, fun recorded => recorded.later rfl fun same => by cases same⟩
  main := by
    intro point own before after history
    have mute : replies (⟨.main point, before, after⟩ :: history) = replies history ∧
        (Label.main point : Step) ≠ .main (.removeCommand .W) := by
      simp only [Transmitter.points, transmitter, List.mem_cons, List.not_mem_nil, or_false] at own
      rcases own with rfl | rfl | rfl | rfl | rfl <;> exact ⟨rfl, fun same => by cases same⟩
    exact ⟨by rw [mute.1], fun recorded => recorded.later mute.1 mute.2⟩
  always := by
    intro device history sent recorded
    refine ⟨sent, ⟨replies history, [], ?_, Nat.zero_le _, recorded.complete, ?_⟩, recorded.sound⟩
    · rw [List.append_nil]
    · exact fun _ member => by cases member

theorem flushReplies_triple (results : List Bool) :
    replying.Triple Replied (flushReplies results) fun _ => Replied := by
  rw [flushReplies_eq]
  refine (records_replies.preserves.flush results).conseq (fun _ _ replied => ?_)
    fun _ _ _ streams => ?_
  · exact ⟨replied.stream, replied.complete, replied.sound, replied.loads⟩
  · exact ⟨⟨streams.stream, streams.facts.complete, streams.facts.sound⟩, streams.facts.loads⟩

theorem coversAsic_replied (caller : Caller) : CoversAsic (replying.Keeps Replied) caller where
  clearReportCount := fun _ _ => keeps_replied rfl rfl rfl
  clearReportValid := fun _ _ => keeps_replied rfl rfl rfl
  resetLow := fun _ => keeps_replied rfl rfl rfl
  resetHigh := fun _ => keeps_replied rfl rfl rfl
  disableSpi := fun _ => keeps_replied rfl rfl rfl
  enableSpi := fun _ => keeps_replied rfl rfl rfl

theorem serviceReport_replied_triple :
    replying.Triple Replied serviceReport fun _ => Replied := by
  have covers := coversAsic_replied .report
  have read : asicGetNonce.Within (replying.Keeps Replied) :=
    .bind (clearReport_within covers _) fun _ => .fetch fun _ => keeps_replied rfl rfl rfl
  refine .seq (.kept steady_replied read) fun nonce => ?_
  refine .seq (.kept steady_replied (.assign fun _ => keeps_replied rfl rfl rfl)) fun _ => ?_
  refine .seq (.kept steady_replied (asicStop_within covers)) fun _ => ?_
  refine .seq (.kept steady_replied (asicResetSpi_within covers)) fun _ => ?_
  refine .seq (.kept steady_replied (.assign fun _ => keeps_replied rfl rfl rfl)) fun _ => ?_
  refine .seq (.kept steady_replied (.assign fun _ => keeps_replied rfl rfl rfl)) fun _ => ?_
  refine .seq (.kept steady_replied (.assign fun _ => keeps_replied rfl rfl rfl)) fun _ => ?_
  refine .seq (.kept steady_replied (.assign fun _ => keeps_replied rfl rfl rfl)) fun _ => ?_
  exact sendState_own_triple (.inl rfl)

theorem serviceExpiry_replied_triple :
    replying.Triple Replied serviceExpiry fun _ => Replied := by
  have covers := coversAsic_replied .expiry
  refine .seq (.kept steady_replied (asicStop_within covers)) fun _ => ?_
  refine .seq (.kept steady_replied (asicResetSpi_within covers)) fun _ => ?_
  refine .seq (.kept steady_replied (.assign fun _ => keeps_replied rfl rfl rfl)) fun _ => ?_
  refine .seq (.kept steady_replied (.assign fun _ => keeps_replied rfl rfl rfl)) fun _ => ?_
  refine .seq (.kept steady_replied (.assign fun _ => keeps_replied rfl rfl rfl)) fun _ => ?_
  exact sendState_own_triple (.inr rfl)

theorem appService_replied_triple :
    replying.Triple Replied appService fun _ => Replied := by
  refine .read (fun _ => True) steady_replied (fun _ => keeps_replied rfl rfl rfl)
    (fun _ _ _ => trivial) fun valid _ => ?_
  refine .seq (.onlyIf steady_replied (fun _ => serviceReport_replied_triple)
    fun _ _ _ replied => replied) fun _ => ?_
  refine .seq (.kept steady_replied ⟨fun _ => keeps_replied rfl rfl rfl, fun _ => trivial⟩)
    fun expired => ?_
  exact .onlyIf steady_replied (fun _ => serviceExpiry_replied_triple)
    fun _ _ _ replied => replied

theorem removeCommand_replied_triple {command : Command} (notW : command ≠ .W) :
    replying.Triple Replied (removeCommand command) fun _ device history =>
      Replied device history ∧ Ready (.command command) device history := by
  refine .assign steady_replied (steady_ready_reply _) fun device history replied _ => ?_
  have uneventful : (Point.removeCommand command).uneventful = true := by
    cases command <;> first | rfl | exact absurd rfl notW
  have taken : ∀ after : Device, executed
      (⟨.main (.removeCommand command), device, after⟩ :: history) =
      executed history ++ [.single command.toByte] := by
    intro after
    cases command <;> first | rfl | exact absurd rfl notW
  refine ⟨replied.later uneventful rfl rfl, fun other same _ => ?_,
    fun same => absurd (Caller.command.inj same) notW⟩
  obtain rfl := Caller.command.inj same
  rw [taken]
  exact List.mem_append_right _ (List.mem_singleton.mpr rfl)

theorem keeps_ready {caller : Caller} (notW : caller ≠ .command .W) {point : Point}
    {before after : Device} (uneventful : point.uneventful = true)
    (endpoint : after.endpoint = before.endpoint)
    (ring : after.usartToUsbBuffer = before.usartToUsbBuffer) :
    replying.Keeps (fun device history => Replied device history ∧ Ready caller device history)
      point before after := by
  refine (keeps_replied uneventful endpoint ring).and fun history _ ready => ?_
  refine ⟨fun command same other => ?_, fun same => absurd same notW⟩
  exact (executed_initial _ history).subset (ready.answers command same other)

theorem coversAsic_ready {caller : Caller} (notW : caller ≠ .command .W) :
    CoversAsic (replying.Keeps fun device history =>
      Replied device history ∧ Ready caller device history) caller where
  clearReportCount := fun _ _ => keeps_ready notW rfl rfl rfl
  clearReportValid := fun _ _ => keeps_ready notW rfl rfl rfl
  resetLow := fun _ => keeps_ready notW rfl rfl rfl
  resetHigh := fun _ => keeps_ready notW rfl rfl rfl
  disableSpi := fun _ => keeps_ready notW rfl rfl rfl
  enableSpi := fun _ => keeps_ready notW rfl rfl rfl

theorem single_replied_triple (count : BitVec 16) {command : Command} (notW : command ≠ .W) :
    replying.Triple Replied (dispatch count command) fun _ => Replied := by
  have removed := removeCommand_replied_triple notW
  have other : Caller.command command ≠ .command .W := fun same =>
    notW (Caller.command.inj same)
  have steady := steady_ready_reply (.command command)
  have covers := coversAsic_ready other
  cases command with
  | L =>
      refine removed.seq fun _ => .assign steady steady_replied fun _ _ both _ => ?_
      exact both.1.later rfl rfl rfl
  | R =>
      refine removed.seq fun _ => ?_
      refine .seq (.kept steady (asicReset_within covers)) fun _ => ?_
      refine .seq (.kept steady (asicResetSpi_within covers)) fun _ => ?_
      refine .seq (.kept steady (.assign fun _ => keeps_ready other rfl rfl rfl)) fun _ => ?_
      exact sendState_triple (stateReply_command nofun)
  | I =>
      refine removed.seq fun _ => sendCmdReply_triple (fun reply _ isCaller _ => ?_)
        fun reply isCaller => ?_
      · unfold Reply.frame
        rw [isCaller]
      · unfold Reply.frame
        rw [isCaller]
        rfl
  | A =>
      refine removed.seq fun _ => ?_
      refine .seq (.kept steady (.assign fun _ => keeps_ready other rfl rfl rfl)) fun _ => ?_
      refine .seq (.kept steady (asicStop_within covers)) fun _ => ?_
      exact sendState_triple (stateReply_command nofun)
  | S => exact removed.seq fun _ => sendState_triple (stateReply_command nofun)
  | W => exact absurd rfl notW
  | other byte => exact removed.conseq (fun _ _ replied => replied) fun _ _ _ both => both.1

/-- A `'W'` once it has set the status byte and cleared the nonce flag. -/
theorem keeps_acknowledging {point : Point} {before after : Device}
    (uneventful : point.uneventful = true) (endpoint : after.endpoint = before.endpoint)
    (ring : after.usartToUsbBuffer = before.usartToUsbBuffer)
    (state : after.state.state = before.state.state)
    (nonceValid : after.state.nonceValid = before.state.nonceValid) :
    replying.Keeps (fun device history =>
      Replied device history ∧ Ready (.command .W) device history) point before after := by
  refine (keeps_replied uneventful endpoint ring).and fun history _ ready => ?_
  refine ⟨fun command same other => absurd (Caller.command.inj same).symm other, fun same => ?_⟩
  rw [state, nonceValid]
  exact ready.acknowledges same

theorem startWork_replied_triple : replying.Triple Replied startWork fun _ => Replied := by
  have started : replying.Triple Replied (setState (.command .W) stateWorking)
      fun _ device history => Replied device history ∧ device.state.state = stateWorking := by
    refine .assign steady_replied ?_ fun _ _ replied _ => ⟨replied.later rfl rfl rfl, rfl⟩
    exact steady_replied.and fun _ _ _ _ handled _ working => by
      rw [(endpoint_handled handled).2.2]
      exact working
  have cleared : replying.Triple
      (fun device history => Replied device history ∧ device.state.state = stateWorking)
      (setNonceValid (.command .W) 0) fun _ device history =>
        Replied device history ∧ Ready (.command .W) device history := by
    refine .assign ?_ (steady_ready_reply _) fun _ _ both _ => ⟨both.1.later rfl rfl rfl,
      fun command same other => absurd (Caller.command.inj same).symm other,
      fun _ => ⟨both.2, rfl⟩⟩
    exact steady_replied.and fun _ _ _ _ handled _ working => by
      rw [(endpoint_handled handled).2.2]
      exact working
  have covers : CoversAsic (replying.Keeps fun device history =>
      Replied device history ∧ Ready (.command .W) device history) (.command .W) :=
    { clearReportCount := fun _ _ => keeps_acknowledging rfl rfl rfl rfl rfl
      clearReportValid := fun _ _ => keeps_acknowledging rfl rfl rfl rfl rfl
      resetLow := fun _ => keeps_acknowledging rfl rfl rfl rfl rfl
      resetHigh := fun _ => keeps_acknowledging rfl rfl rfl rfl rfl
      disableSpi := fun _ => keeps_acknowledging rfl rfl rfl rfl rfl
      enableSpi := fun _ => keeps_acknowledging rfl rfl rfl rfl rfl }
  have steady := steady_ready_reply (.command .W)
  refine started.seq fun _ => cleared.seq fun _ => ?_
  refine .seq (.kept steady (.assign fun _ => keeps_acknowledging rfl rfl rfl rfl rfl)) fun _ => ?_
  refine .seq (.kept steady (asicReset_within covers)) fun _ => ?_
  refine .seq (.kept steady (asicResetSpi_within covers)) fun _ => ?_
  refine .seq (.kept steady (.fetch fun _ => keeps_acknowledging rfl rfl rfl rfl rfl))
    fun work => ?_
  refine .seq (.kept steady (pushWork_within
    (fun _ _ => keeps_acknowledging rfl rfl rfl rfl rfl) work)) fun _ => ?_
  refine .seq (.kept steady (.assign fun _ => keeps_acknowledging rfl rfl rfl rfl rfl)) fun _ => ?_
  exact sendState_triple (stateReply_command nofun)

theorem commandW_replied_triple : replying.Triple Replied commandW fun _ => Replied := by
  have removed : replying.Triple Replied (removeCommand .W) fun _ => Settled :=
    .assign steady_replied steady_settled fun _ _ replied _ => replied.toSettled.later rfl rfl rfl
  have computed : replying.Triple Settled
      (assign .precalc fun device =>
        { device with
          worktask := { device.worktask with
            precalc := asicPrecalc device.worktask.midstate device.worktask.data
              device.worktask.precalc } })
      fun _ => Replied :=
    .assign steady_settled steady_replied fun _ _ settled _ =>
      ⟨settled.later rfl rfl rfl, fun _ => rfl⟩
  refine removed.seq fun _ => .seq (.kept steady_settled (fillWork_within ⟨?_, ?_⟩)) fun _ =>
    computed.seq fun _ => startWork_replied_triple
  · exact fun _ _ _ _ => keeps_settled rfl rfl rfl
  · exact fun _ _ _ _ => keeps_settled rfl rfl rfl

theorem Replied.call {device : Device} {history : Past} (replied : Replied device history)
    (entry : Call) : Replied device (⟨.call entry, device, device⟩ :: history) :=
  ⟨replied.toSettled.later rfl rfl rfl, replied.loads⟩

theorem boundary_replied : Boundary replying Replied where
  steady := steady_replied
  call := fun entry _ _ _ replied => replied.call entry
  receive := fun _ _ => keeps_replied rfl rfl rfl
  getCount := fun _ => keeps_replied rfl rfl rfl
  peekCommand := fun _ => keeps_replied rfl rfl rfl
  single := fun count _ notW => single_replied_triple count notW
  work := commandW_replied_triple
  flush := flushReplies_triple
  service := fun _ _ _ replied => appService_replied_triple _ _ (replied.call .service)

theorem replied_boot : Replied boot [] :=
  ⟨⟨rfl, nofun, nofun⟩, fun some => absurd rfl some⟩

theorem meets_replying (choices : Choices)
    (fits : Meets withinTransmitRing (after choices).history) :
    Meets replying.allowed (after choices).history :=
  firmware.meets_and (fun choices _ => stored_run boot choices) choices fits

/-- As long as the transmit ring is not overrun, in every state of every run the
endpoint has received an initial part of the replies, of which all but the last
are complete frames. -/
theorem replies_run (choices : Choices)
    (fits : Meets withinTransmitRing (after choices).history) :
    replying.always (after choices).state (after choices).history :=
  replying.run_always boundary_replied.steady replied_boot boundary_replied.calls choices
    (meets_replying choices fits)

end MiniMiner.AvalonBTC
