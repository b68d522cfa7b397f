import MiniMiner.Link

/-! Whose reply the driver takes. Replies carry no mark of the work they belong
to; the driver attributes each one to the work it is scanning. -/

set_option autoImplicit false

namespace MiniMiner

open LittleEndian Preemption AvalonBTC

theorem tokens_sendbuf (sent : List Bfgminer.Work) (rest : List Byte) :
    commands.Takes (sent.flatMap Bfgminer.Work.sendbuf ++ rest)
      (sent.map fun work => .work work.payload) rest := by
  induction sent with
  | nil => exact .nil rest
  | cons work others ih =>
      rw [List.flatMap_cons, List.append_assoc, Bfgminer.Work.sendbuf_eq, List.cons_append]
      exact .cons (nextToken_work work.length_payload _) ih

/-- Running the call in progress to its end brings no new bytes and can only add
executed commands. -/
theorem mains_history (count : Nat) (config : Config Point Device Interrupt Call)
    (fits : Meets withinRing config.history) :
    Meets withinRing (firmware.run (.replicate count .main) config).history ∧
      chunks (firmware.run (.replicate count .main) config).history = chunks config.history ∧
      executed config.history <+:
        executed (firmware.run (.replicate count .main) config).history := by
  induction count generalizing config with
  | zero => exact ⟨fits, rfl, List.prefix_refl _⟩
  | succ count ih =>
      obtain ⟨code, state, history⟩ := config
      cases code with
      | done value => exact ih _ fits
      | statement point effect next =>
          obtain ⟨meets, same, taken⟩ := ih ⟨next state, effect state,
            ⟨.main point, state, effect state⟩ :: history⟩ ⟨trivial, fits⟩
          exact ⟨meets, same, (executed_initial _ history).trans taken⟩

/-- A firmware that is fed with works has executed an initial part of them, also
in the middle of a call. -/
theorem executed_sent {choices : Choices} {sent : List Bfgminer.Work}
    (fits : Meets withinRing (after choices).history)
    (delivered : (chunks (after choices).history).flatten <+:
      sent.flatMap Bfgminer.Work.sendbuf) :
    executed (after choices).history <+: sent.map fun work => .work work.payload := by
  obtain ⟨later, finished⟩ := firmware.run_alone (after choices).code (after choices).state
    (after choices).history
  have mains := mains_history ((after choices).code.length (after choices).state)
    (after choices) fits
  have extended : firmware.run
      (.replicate ((after choices).code.length (after choices).state) .main) (after choices) =
      after (choices ++
        .replicate ((after choices).code.length (after choices).state) .main) :=
    (firmware.run_append _ _ _).symm
  have idle : (after (choices ++
      .replicate ((after choices).code.length (after choices).state) .main)).idle = true := by
    rw [← extended]
    exact congrArg Config.idle finished
  rw [extended] at mains
  obtain ⟨meets, same, taken⟩ := mains
  obtain ⟨_, holding⟩ := received_of_idle rfl _ meets idle
  refine taken.trans ?_
  have commandsRead := holding.commands
  rw [← after, same] at commandsRead
  rw [commandsRead]
  obtain ⟨more, whole⟩ := delivered
  have takes := (commands.takes_read (chunks (after choices).history)).append more
  have empty : commands.tokens [] = [] := commands.tokens_of_none rfl
  have works := (tokens_sendbuf sent []).tokens_eq
  rw [List.append_nil, ← whole, takes.tokens_eq, empty, List.append_nil] at works
  exact ⟨_, works⟩

/-- A reply without the bytes written so far: what is known from its beginning. -/
def AvalonBTC.Reply.origin (reply : Reply) : Reply := { reply with bytes := [] }

theorem eq_of_origin {first second : Reply} (same : first.origin = second.origin) :
    first.caller = second.caller ∧ first.frame = second.frame ∧
      first.generation = second.generation ∧ first.task = second.task := by
  obtain ⟨caller, state, generation, task, bytes⟩ := first
  cases same
  exact ⟨rfl, rfl, rfl, rfl⟩

theorem origin_extendLast (byte : Byte) (list : List Reply) :
    (extendLast byte list).map Reply.origin = list.map Reply.origin := by
  induction list with
  | nil => rfl
  | cons first rest ih =>
      cases rest with
      | nil => rfl
      | cons second others => exact congrArg (first.origin :: ·) ih

/-- A step of the firmware begins at most one reply and changes no other. -/
theorem origins_step (transition : Transition Point Device Interrupt Call) (history : Past) :
    (replies (transition :: history)).map Reply.origin = (replies history).map Reply.origin ∨
      ∃ caller, transition.label = .main (.write caller 0) ∧
        (replies (transition :: history)).map Reply.origin =
          (replies history).map Reply.origin ++
            [{ caller := caller, state := transition.source.state,
               generation := (works history).length, task := transition.source.worktask,
               bytes := [] }] := by
  obtain ⟨label, source, target⟩ := transition
  cases label with
  | interrupt source => exact .inl rfl
  | call entry => exact .inl rfl
  | main point =>
      cases point with
      | write caller index =>
          cases index with
          | zero =>
              refine .inr ⟨caller, rfl, ?_⟩
              simp only [replies, List.map_append, List.map_cons, List.map_nil, Reply.origin]
          | succ index => exact .inl (origin_extendLast _ _)
      | _ => exact .inl rfl

/-- A firmware fed with works acknowledges them and replies for `appService`. -/
def OnlyWorks (history : Past) : Prop :=
  ∀ reply ∈ replies history, ∀ command, reply.caller = .command command → command = .W

theorem onlyWorks_of_executed {history : Past} {sent : List Bfgminer.Work}
    (sound : ∀ reply ∈ replies history, reply.Sound history)
    (executes : executed history <+: sent.map fun work => .work work.payload) :
    OnlyWorks history := by
  refine fun reply member command isCommand => Decidable.byContradiction fun notW => ?_
  have single := executes.subset ((sound reply member).answers command isCommand notW)
  obtain ⟨_, _, different⟩ := List.mem_map.mp single
  cases different

theorem length_frame {reply : Reply}
    (only : ∀ command, reply.caller = .command command → command = .W) :
    reply.frame.length = 7 := by
  unfold Reply.frame
  split
  · next isCaller => cases only _ isCaller
  · rfl
  · rfl

theorem outcome_acknowledgement {reply : Reply} {history : Past} (sound : reply.Sound history)
    (only : ∀ command, reply.caller = .command command → command = .W)
    (command : reply.caller.own = false) :
    (Bfgminer.MMOState.ofBuffer reply.frame).outcome = none := by
  cases isCaller : reply.caller with
  | command sender =>
      obtain rfl := only sender isCaller
      obtain ⟨working, invalid⟩ := sound.acknowledges isCaller
      have isFrame : StateReply (.command .W) Command.W.toByte := stateReply_command nofun
      rw [isFrame reply isCaller]
      have state : (Bfgminer.MMOState.ofBuffer
          (Command.W.toByte :: reply.state.bytes)).state = stateWorking := working
      have nonceValid : (Bfgminer.MMOState.ofBuffer
          (Command.W.toByte :: reply.state.bytes)).nonceValid = 0 := invalid
      unfold Bfgminer.MMOState.outcome
      rw [state, nonceValid]
      rfl
  | _ =>
      rw [isCaller] at command
      cases command

theorem reply_of_window {choices : Choices} {count : Nat}
    (fits : Meets withinTransmitRing (after choices).history)
    (only : OnlyWorks (after choices).history)
    (enough : 7 * count + 7 ≤ (after choices).state.endpoint.length) :
    ∃ reply, (replies (after choices).history)[count]? = some reply ∧
      ((after choices).state.endpoint.drop (7 * count)).take 7 = reply.frame := by
  obtain ⟨initial, ⟨complete, rest, split, short, full, part⟩, _⟩ := replies_run choices fits
  have shape : ∀ reply ∈ replies (after choices).history, reply.bytes <+: reply.frame := by
    intro reply member
    rw [split] at member
    rcases List.mem_append.mp member with old | last
    · exact full reply old ▸ List.prefix_refl reply.bytes
    · exact part reply last
  have sizes : ∀ reply ∈ replies (after choices).history, reply.frame.length = 7 :=
    fun reply member => length_frame (only reply member)
  rw [List.flatMap_def] at initial
  have bounded : ∀ frame ∈ (replies (after choices).history).map Reply.bytes,
      frame.length ≤ 7 := by
    intro frame member
    obtain ⟨reply, source, rfl⟩ := List.mem_map.mp member
    exact sizes reply source ▸ (shape reply source).length_le
  -- Only the last reply may still be in progress.
  have whole : ∀ index, index + 1 < ((replies (after choices).history).map Reply.bytes).length →
      ∀ frame, ((replies (after choices).history).map Reply.bytes)[index]? = some frame →
        frame.length = 7 := by
    intro index inside frame found
    rw [List.getElem?_map] at found
    obtain ⟨reply, source, rfl⟩ := Option.map_eq_some_iff.mp found
    have member := List.mem_of_getElem? source
    rw [List.length_map, split, List.length_append] at inside
    rw [split, List.getElem?_append_left (by omega)] at source
    rw [full reply (List.mem_of_getElem? source), sizes reply member]
  have window := frame_of_window (by decide) bounded whole initial enough
  rw [List.getElem?_map] at window
  obtain ⟨reply, found, bytes⟩ := Option.map_eq_some_iff.mp window
  have member := List.mem_of_getElem? found
  refine ⟨reply, found, ?_⟩
  rw [← bytes]
  refine (shape reply member).eq_of_length ?_
  rw [bytes, sizes reply member, List.length_take, List.length_drop]
  omega

theorem reply_later (transition : Transition Point Device Interrupt Call) {history : Past}
    {index : Nat} {reply : Reply} (found : (replies history)[index]? = some reply) :
    ∃ later, (replies (transition :: history))[index]? = some later ∧
      later.origin = reply.origin := by
  have initial : (replies history).map Reply.origin <+:
      (replies (transition :: history)).map Reply.origin := by
    rcases origins_step transition history with same | ⟨caller, _, more⟩
    · exact same ▸ List.prefix_refl _
    · rw [more]
      exact List.prefix_append _ _
  obtain ⟨inside, _⟩ := List.getElem?_eq_some_iff.mp found
  obtain ⟨rest, extended⟩ := initial
  have same : ((replies (transition :: history)).map Reply.origin)[index]? =
      some reply.origin := by
    rw [← extended, List.getElem?_append_left (by rwa [List.length_map]), List.getElem?_map,
      found]
    rfl
  rw [List.getElem?_map] at same
  exact Option.map_eq_some_iff.mp same

/-- A reply from the given index on was there before the step or is begun by it. -/
theorem mem_drop_step {transition : Transition Point Device Interrupt Call} {history : Past}
    {count : Nat} {reply : Reply} (member : reply ∈ (replies (transition :: history)).drop count) :
    (∃ earlier ∈ (replies history).drop count, earlier.origin = reply.origin) ∨
      transition.label = .main (.write reply.caller 0) ∧
        reply.generation = (works history).length := by
  have origin : reply.origin ∈ ((replies (transition :: history)).map Reply.origin).drop count := by
    rw [← List.map_drop]
    exact List.mem_map_of_mem member
  rcases origins_step transition history with same | ⟨caller, begins, more⟩
  · rw [same, ← List.map_drop] at origin
    exact .inl (List.mem_map.mp origin)
  · rw [more, List.drop_append, List.mem_append, ← List.map_drop] at origin
    rcases origin with old | new
    · exact .inl (List.mem_map.mp old)
    · have first := List.mem_singleton.mp (List.mem_of_mem_drop new)
      refine .inr ⟨?_, congrArg Reply.generation first⟩
      rw [begins, show reply.caller = caller from congrArg Reply.caller first]

namespace Link

/-- What holds in every state of a link kept in step: the firmware has received
an initial part of what was sent, every reply of `appService` that is unread was
begun after the latest work, and every outcome belongs to its work. -/
structure Sane (link : Link) : Prop where
  reached : ∃ choices, link.config = after choices
  delivered : (chunks link.config.history).flatten <+:
    link.sent.flatMap Bfgminer.Work.sendbuf
  whole : 7 ∣ link.taken
  busy : link.scanning = true → link.sent ≠ []
  current : ∀ reply ∈ (replies link.config.history).drop (link.taken / 7),
    reply.caller.own = true → reply.generation = link.sent.length
  belongs : ∀ taking ∈ link.outcomes, link.Belongs taking

theorem sane_start : start.Sane where
  reached := ⟨[], rfl⟩
  delivered := List.nil_prefix
  whole := Nat.dvd_zero 7
  busy := nofun
  current := nofun
  belongs := nofun

theorem Sane.advance {link : Link} (sane : link.Sane) {choice : Choice Interrupt Call}
    {transition : Transition Point Device Interrupt Call}
    (recorded : (AvalonBTC.firmware.advance link.config choice).history =
      transition :: link.config.history)
    (delivered : (chunks (transition :: link.config.history)).flatten <+:
      link.sent.flatMap Bfgminer.Work.sendbuf)
    (begins : ∀ caller, transition.label = .main (.write caller 0) → caller.own = true →
      (works link.config.history).length = link.sent.length) :
    Sane { link with config := AvalonBTC.firmware.advance link.config choice } where
  reached := by
    obtain ⟨choices, reached⟩ := sane.reached
    refine ⟨choices ++ [choice], ?_⟩
    rw [after, AvalonBTC.firmware.run_append, ← after, ← reached]
    rfl
  delivered := by
    rw [recorded]
    exact delivered
  whole := sane.whole
  busy := sane.busy
  current := by
    intro reply member own
    rw [recorded] at member
    rcases mem_drop_step member with ⟨earlier, old, same⟩ | ⟨begun, generation⟩
    · obtain ⟨caller, _, generation, _⟩ := eq_of_origin same
      rw [← generation]
      exact sane.current earlier old (by rwa [caller])
    · rw [generation]
      exact begins reply.caller begun own
  belongs := by
    intro taking member
    obtain ⟨reply, work, found, sent, outcome, generation, holds⟩ := sane.belongs taking member
    obtain ⟨later, stays, same⟩ := reply_later transition found
    obtain ⟨_, sameFrame, sameGeneration, sameTask⟩ := eq_of_origin same
    rw [← sameFrame] at outcome
    rw [← sameGeneration] at generation
    rw [← sameTask] at holds
    refine ⟨later, work, ?_, sent, outcome, generation, holds⟩
    rw [recorded]
    exact stays

theorem Sane.firmware {link : Link} (sane : link.Sane) {choice : Choice Interrupt Call}
    (delivers : link.delivers choice = true) (kept : link.inStep (.firmware choice)) :
    Sane { link with config := AvalonBTC.firmware.advance link.config choice } := by
  obtain ⟨⟨code, device, history⟩, sent, scanning, taken, outcomes⟩ := link
  cases choice with
  | main =>
      cases code with
      | done value => exact sane
      | statement point effect next =>
          refine sane.advance rfl sane.delivered fun caller begins own => kept ?_
          cases begins
          exact own
  | interrupt source =>
      cases handled : AvalonBTC.firmware.handler source device with
      | none => simpa only [Machine.advance, handled] using sane
      | some after =>
          have recorded : (AvalonBTC.firmware.advance ⟨code, device, history⟩
              (.interrupt source)).history = ⟨.interrupt source, device, after⟩ :: history := by
            simp only [Machine.advance, handled]
          exact sane.advance recorded sane.delivered fun _ begins => by cases begins
  | call entry =>
      cases code with
      | done value =>
          refine sane.advance rfl ?_ fun _ begins => by cases begins
          cases entry with
          | usbData received =>
              have initial := List.isPrefixOf_iff_prefix.mp delivers
              simpa only [chunks, List.flatten_append, List.flatten_cons, List.flatten_nil,
                List.append_nil] using initial
          | _ => exact sane.delivered
      | statement point effect next => exact sane

theorem Sane.scanhash {link : Link} (sane : link.Sane) (work : Bfgminer.Work)
    (kept : ∀ reply ∈ (replies link.config.history).drop (link.taken / 7),
      reply.caller.own = false) :
    Sane { link with sent := link.sent ++ [work], scanning := true } where
  reached := sane.reached
  delivered := by
    refine sane.delivered.trans ?_
    rw [List.flatMap_append]
    exact List.prefix_append _ _
  whole := sane.whole
  busy := fun _ => List.append_ne_nil_of_right_ne_nil _ (List.cons_ne_nil _ _)
  current := by
    intro reply member own
    rw [kept reply member] at own
    cases own
  belongs := by
    intro taking member
    obtain ⟨reply, earlier, found, sent, rest⟩ := sane.belongs taking member
    obtain ⟨inside, _⟩ := List.getElem?_eq_some_iff.mp sent
    refine ⟨reply, earlier, found, ?_, rest⟩
    rw [List.getElem?_append_left inside, sent]

/-- A reply begun after the last of the works sent was executed holds that work. -/
theorem holds_last {history : Past} {sent : List Bfgminer.Work} {reply : Reply}
    (sound : reply.Sound history)
    (executes : executed history <+: sent.map fun work => .work work.payload)
    (latest : reply.generation = sent.length) (some : sent ≠ []) :
    ∃ work, sent[sent.length - 1]? = .some work ∧ reply.task.Holds work.payload := by
  have positive : 0 < sent.length := List.length_pos_iff.mpr some
  obtain ⟨bytes, found, holds⟩ := sound.task (by omega)
  have initial : works history <+: sent.map Bfgminer.Work.payload := by
    have filtered := executes.filterMap Token.work?
    rw [List.filterMap_map] at filtered
    have payloads : sent.filterMap (Token.work? ∘ fun work => .work work.payload) =
        sent.map Bfgminer.Work.payload := congrFun List.filterMap_eq_map sent
    rwa [payloads] at filtered
  obtain ⟨inside, _⟩ := List.getElem?_eq_some_iff.mp found
  obtain ⟨rest, extended⟩ := initial
  have same : (sent.map Bfgminer.Work.payload)[sent.length - 1]? = .some bytes := by
    rw [← extended, ← latest, List.getElem?_append_left inside, found]
  rw [List.getElem?_map] at same
  obtain ⟨work, last, rfl⟩ := Option.map_eq_some_iff.mp same
  exact ⟨work, last, holds⟩

/-- A whole read takes the next reply; if it yields an outcome, the reply is one
of `appService` and the work it was begun for is the one being scanned. -/
theorem Sane.belongs_read {link : Link} (sane : link.Sane)
    (meets : Meets lossless link.config.history) (scanning : link.scanning = true)
    (enough : link.taken + 7 ≤ link.config.state.endpoint.length) {outcome : Bfgminer.Outcome}
    (yields : (Bfgminer.MMOState.ofBuffer link.buffer).outcome = some outcome) :
    link.Belongs ⟨link.sent.length - 1, link.taken / 7, outcome⟩ := by
  obtain ⟨choices, reached⟩ := sane.reached
  have delivered := sane.delivered
  have current := sane.current
  have taken : 7 * (link.taken / 7) = link.taken := Nat.mul_div_cancel' sane.whole
  rw [buffer, ← taken] at yields
  rw [← taken] at enough
  unfold Belongs
  rw [reached] at meets enough yields delivered current ⊢
  have fits : Meets withinRing (after choices).history := meets.imp fun _ _ _ both => both.1
  have fitsTransmit : Meets withinTransmitRing (after choices).history :=
    meets.imp fun _ _ _ both => both.2
  obtain ⟨_, _, sound⟩ := replies_run choices fitsTransmit
  have executes := executed_sent fits delivered
  have only := onlyWorks_of_executed sound executes
  obtain ⟨reply, found, window⟩ := reply_of_window fitsTransmit only enough
  rw [window] at yields
  have member := List.mem_of_getElem? found
  have own : reply.caller.own = true := by
    refine Bool.of_not_eq_false fun acknowledgement => ?_
    rw [outcome_acknowledgement (sound reply member) (only reply member) acknowledgement] at yields
    cases yields
  have unread : reply ∈ (replies (after choices).history).drop (link.taken / 7) := by
    refine List.mem_of_getElem? (i := 0) ?_
    rw [List.getElem?_drop]
    exact found
  have latest := current reply unread own
  obtain ⟨work, last, holds⟩ :=
    holds_last (sound reply member) executes latest (sane.busy scanning)
  refine ⟨reply, work, found, last, yields, ?_, holds⟩
  have positive : 0 < link.sent.length := List.length_pos_iff.mpr (sane.busy scanning)
  rw [latest]
  exact (Nat.sub_add_cancel positive).symm

theorem Sane.unread {link : Link} (sane : link.Sane) :
    ∀ reply ∈ (replies link.config.history).drop ((link.taken + 7) / 7),
      reply.caller.own = true → reply.generation = link.sent.length := by
  intro reply member
  rw [Nat.add_div_right _ (by decide), ← List.drop_drop] at member
  exact sane.current reply (List.mem_of_mem_drop member)

inductive Changes (link : Link) : Move → Link → Prop where
  | firmware {choice : Choice Interrupt Call} (delivers : link.delivers choice = true) :
      Changes link (.firmware choice)
        { link with config := AvalonBTC.firmware.advance link.config choice }
  | scanhash {work : Bfgminer.Work} (resting : link.scanning = false) :
      Changes link (.scanhash work)
        { link with sent := link.sent ++ [work], scanning := true }
  | restart : Changes link .restart { link with scanning := false }
  | pass : Changes link .read { link with taken := link.taken + 7 }
  | take {outcome : Bfgminer.Outcome} (scanning : link.scanning = true)
      (enough : link.taken + 7 ≤ link.config.state.endpoint.length)
      (yields : (Bfgminer.MMOState.ofBuffer link.buffer).outcome = some outcome) :
      Changes link .read
        { link with
          taken := link.taken + 7
          scanning := false
          outcomes := link.outcomes ++ [⟨link.sent.length - 1, link.taken / 7, outcome⟩] }

theorem step_changes (link : Link) (move : Move) :
    link.step move = link ∨ link.Changes move (link.step move) := by
  cases move with
  | firmware choice =>
      rw [step]
      split
      · next delivers => exact .inr (.firmware delivers)
      · exact .inl rfl
  | scanhash work =>
      rw [step]
      split
      · exact .inl rfl
      · next resting => exact .inr (.scanhash (Bool.of_not_eq_true resting))
  | restart => exact .inr .restart
  | read =>
      rw [step]
      split
      · next full =>
          split
          · exact .inr .pass
          · next outcome yields => exact .inr (.take full.1 full.2 yields)
      · exact .inl rfl

theorem Sane.changes {link next : Link} (sane : link.Sane) {move : Move}
    (changes : link.Changes move next) (kept : link.inStep move)
    (meets : Meets lossless link.config.history) : next.Sane := by
  cases changes with
  | firmware delivers => exact sane.firmware delivers kept
  | scanhash resting => exact sane.scanhash _ (kept resting)
  | restart => exact { sane with busy := nofun }
  | pass =>
      exact { sane with
        whole := Nat.dvd_add sane.whole (Nat.dvd_refl 7)
        current := sane.unread }
  | take scanning enough yields =>
      refine { sane with
        whole := Nat.dvd_add sane.whole (Nat.dvd_refl 7)
        busy := nofun
        current := sane.unread
        belongs := fun taking member => ?_ }
      rcases List.mem_append.mp member with old | new
      · exact sane.belongs taking old
      · obtain rfl := List.mem_singleton.mp new
        exact sane.belongs_read meets scanning enough yields

theorem Sane.step {link : Link} (sane : link.Sane) {move : Move} (kept : link.inStep move)
    (meets : Meets lossless link.config.history) : Sane (link.step move) := by
  rcases link.step_changes move with same | changes
  · rw [same]
    exact sane
  · exact sane.changes changes kept meets

theorem history_suffix_step (link : Link) (move : Move) :
    link.config.history <:+ (link.step move).config.history := by
  rcases link.step_changes move with same | changes
  · exact same.symm ▸ List.suffix_refl _
  · generalize link.step move = next at changes
    cases changes with
    | firmware => exact AvalonBTC.firmware.history_suffix_run [_] link.config
    | _ => exact List.suffix_refl _

theorem history_suffix_moves (moves : List Move) (link : Link) :
    link.config.history <:+ (moves.foldl Link.step link).config.history := by
  induction moves generalizing link with
  | nil => exact List.suffix_refl _
  | cons move rest ih => exact (link.history_suffix_step move).trans (ih _)

theorem Sane.moves {link : Link} (sane : link.Sane) (moves : List Move)
    (kept : InStep.go link moves)
    (meets : Meets lossless (moves.foldl Link.step link).config.history) :
    Sane (moves.foldl Link.step link) := by
  induction moves generalizing link with
  | nil => exact sane
  | cons move rest ih =>
      obtain ⟨admitted, later⟩ := kept
      exact ih (sane.step admitted
        (meets.of_suffix (history_suffix_moves (move :: rest) link))) later meets

/-- As long as the link is kept in step, every outcome belongs to the work it is
taken for. -/
theorem outcomes_belong (moves : List Move)
    (meets : Meets lossless (run moves).config.history) (kept : InStep moves) :
    ∀ taking ∈ (run moves).outcomes, (run moves).Belongs taking :=
  (sane_start.moves moves kept meets).belongs

/-- A work is sent and executed, its report comes and is answered, and both
replies go out. -/
def answered (work : Bfgminer.Work) : List Move :=
  .scanhash work :: .firmware (.call (.usbData work.sendbuf)) ::
    .replicate 1450 (.firmware .main) ++
  .firmware (.interrupt (.spi 1 fun _ => some 2)) :: .firmware (.call .service) ::
    .replicate 30 (.firmware .main) ++
  .firmware (.call (.flush (.replicate 14 true))) :: .replicate 40 (.firmware .main)

/-- The driver reads the acknowledgement of its work and then the answer. -/
def answerTaken : List Move :=
  answered ⟨.replicate 32 0, .replicate 12 0⟩ ++ [.read, .read]

set_option maxRecDepth 10000 in
theorem outcomes_belong_answerTaken :
    (run answerTaken).outcomes.length = 1 ∧
      ∀ taking ∈ (run answerTaken).outcomes, (run answerTaken).Belongs taking := by
  have facts : (run answerTaken).outcomes.length = 1 ∧
      Meets lossless (run answerTaken).config.history ∧ InStep answerTaken := by
    decide +kernel
  have belong := outcomes_belong answerTaken
  generalize run answerTaken = link at *
  exact ⟨facts.1, belong facts.2.1 facts.2.2⟩

/-- The driver is told to restart while the answer is on its way, and takes it
for its next work. -/
def staleTaken : List Move :=
  answered ⟨.replicate 32 0, .replicate 12 0⟩ ++
    [.restart, .scanhash ⟨.replicate 32 1, .replicate 12 1⟩, .read, .read]

set_option maxRecDepth 10000 in
theorem stale_outcome_taken :
    ¬ ∀ moves : List Move, Meets lossless (run moves).config.history →
      ∀ taking ∈ (run moves).outcomes, (run moves).Belongs taking := by
  intro all
  have facts : Meets lossless (run staleTaken).config.history ∧
      (run staleTaken).outcomes.map (fun taking => (taking.work, taking.reply)) = [(1, 1)] ∧
      (replies (run staleTaken).config.history)[1]?.map Reply.generation = some 1 := by
    decide +kernel
  have belong := all staleTaken
  generalize run staleTaken = link at *
  obtain ⟨meets, attributed, first⟩ := facts
  obtain ⟨taking, member, pair⟩ := List.mem_map.mp (attributed ▸ List.mem_singleton_self (1, 1))
  obtain ⟨reply, _, found, _, _, generation, _⟩ := belong meets taking member
  obtain ⟨work, index⟩ := Prod.mk.inj pair
  rw [work] at generation
  rw [index] at found
  rw [found, Option.map_some, generation] at first
  exact absurd first (by decide)

end Link

end MiniMiner
