import Mathlib.Data.List.Forall2
import MiniMiner.AvalonBTC.Worktask
import MiniMiner.TwoWire

/-! The serial line to the ASIC. Every task that `pushWork` reads goes onto the
two data wires word by word; the other bits of the port keep their values. -/

set_option autoImplicit false

namespace MiniMiner.AvalonBTC

open LittleEndian Preemption Preemption.Program

/-- `DATA_P` high sends a one, `DATA_N` high a zero. -/
def dataWires : TwoWire 8 where
  one := dataP
  zero := dataN
  apart := by decide
  one_ne_zero := by decide
  zero_ne_zero := by decide

/-- The words of a task in the order in which the ASIC expects them. -/
def WorkUnit.lineWords (work : WorkUnit) : List Word :=
  clockConfig.toList ++ work.data.toList ++ work.precalc.toList.tail ++ work.midstate.toList ++
    [work.precalc.get 0, 0]

def lineBits (words : List Word) : List Bool := words.flatMap (bitsOf 32)

/-- The values written to the data port. -/
def lineWrites : Past → List Byte
  | [] => []
  | transition :: earlier =>
      match transition.label with
      | .main .dataPort => lineWrites earlier ++ [transition.target.portb]
      | _ => lineWrites earlier

/-- The tasks that `pushWork` has been given. -/
def sentTasks : Past → List WorkUnit
  | [] => []
  | transition :: earlier =>
      match transition.label with
      | .main .loadWork => sentTasks earlier ++ [transition.source.worktask]
      | _ => sentTasks earlier

def line : Setting Point Device Interrupt Call where
  machine := firmware
  allowed := fun _ => Stored
  always := fun _ _ => True

/-- The port bits beside the line, the port values written, the tasks sent and
the payloads executed. -/
structure Lined (base : Byte) (written : List Byte) (tasks : List WorkUnit)
    (payloads : List (List Byte)) (device : Device) (history : Past) : Prop where
  quiet : device.portb &&& ~~~dataWires.both = base
  writes : lineWrites history = written
  sent : sentTasks history = tasks
  loads : works history = payloads

theorem works_offLine {point : Point} (offLine : point.offLine = true) (before after : Device)
    (history : Past) : works (⟨.main point, before, after⟩ :: history) = works history := by
  cases point with
  | removeCommand command =>
      cases command <;>
        simp [works, executed, List.filterMap_append, Token.work?]
  | precalc => cases offLine
  | _ => rfl

section

variable {base : Byte} {written : List Byte} {tasks : List WorkUnit}
  {payloads : List (List Byte)}

theorem Lined.offLine {point : Point} {before after : Device} {history : Past}
    (lined : Lined base written tasks payloads before history) (offLine : point.offLine = true)
    (same : after.portb = before.portb) :
    Lined base written tasks payloads after (⟨.main point, before, after⟩ :: history) where
  quiet := by rw [same, lined.quiet]
  writes := by
    rw [← lined.writes]
    cases point <;> first | rfl | cases offLine
  sent := by
    rw [← lined.sent]
    cases point <;> first | rfl | cases offLine
  loads := by rw [works_offLine offLine, lined.loads]

theorem steady_lined : line.Steady (Lined base written tasks payloads) where
  stable := by
    intro source before after history handled _ lined
    refine ⟨?_, lined.writes, lined.sent, lined.loads⟩
    rw [← lined.quiet]
    rcases handler_eq_some handled with ⟨_, rfl⟩ | ⟨_, _, _, _, rfl⟩ <;> rfl
  always := fun _ _ _ => trivial

theorem keeps_lined {point : Point} {before after : Device} (offLine : point.offLine = true)
    (same : after.portb = before.portb) :
    line.Keeps (Lined base written tasks payloads) point before after :=
  fun _ _ lined => lined.offLine offLine same

theorem steady_linedAt {value : Byte} :
    line.Steady fun device history =>
      Lined base written tasks payloads device history ∧ device.portb = value where
  stable := by
    rintro source before after history handled admitted ⟨lined, here⟩
    refine ⟨steady_lined.stable _ _ _ _ handled admitted lined, ?_⟩
    rw [← here]
    rcases handler_eq_some handled with ⟨_, rfl⟩ | ⟨_, _, _, _, rfl⟩ <;> rfl
  always := fun _ _ _ => trivial

theorem Lined.dataPort {device : Device} {history : Past}
    (lined : Lined base written tasks payloads device history) {value : Byte}
    (quiet : value &&& ~~~dataWires.both = base) :
    Lined base (written ++ [value]) tasks payloads { device with portb := value }
      (⟨.main .dataPort, device, { device with portb := value }⟩ :: history) where
  quiet := quiet
  writes := by rw [← lined.writes]; rfl
  sent := lined.sent
  loads := lined.loads

theorem level_eq_wire (word : Word) :
    (if word &&& 1 = 1 then dataP else dataN) = dataWires.wire (word.getLsbD 0) := by
  have lowest : word &&& 1 = (BitVec.ofBool (word.getLsbD 0)).setWidth 32 :=
    BitVec.and_one_eq_setWidth_ofBool_getLsbD
  rw [lowest]
  cases word.getLsbD 0 <;> rfl

section Sending

variable (aside : base &&& dataWires.both = 0)
include aside

theorem base_and_not_both : base &&& ~~~dataWires.both = base := by
  simpa using TwoWire.or_and_not_both aside 0#8 BitVec.zero_and

theorem sendBits_triple (passes : Nat) (word : Word) :
    line.Triple (Lined base written tasks payloads) (sendBits passes word) fun _ =>
      Lined base (written ++ (bitsOf passes word).flatMap (dataWires.pulse base))
        tasks payloads := by
  induction passes generalizing word written with
  | zero =>
      rw [bitsOf, List.flatMap_nil, List.append_nil]
      exact .done steady_lined
  | succ passes ih =>
      have low : line.Triple (Lined base written tasks payloads)
          (assign .dataPort fun device =>
            { device with portb := device.portb &&& ~~~(dataN ||| dataP) })
          fun _ device history =>
            Lined base (written ++ [base]) tasks payloads device history ∧
              device.portb = base := by
        refine .assign steady_lined steady_linedAt fun device history lined _ => ?_
        have cleared : device.portb &&& ~~~(dataN ||| dataP) = base := lined.quiet
        rw [cleared]
        exact ⟨lined.dataPort (base_and_not_both aside), rfl⟩
      have high : line.Triple
          (fun device history => Lined base (written ++ [base]) tasks payloads device history ∧
            device.portb = base)
          (assign .dataPort fun device =>
            { device with portb := device.portb ||| (if word &&& 1 = 1 then dataP else dataN) })
          fun _ => Lined base (written ++ [base] ++ [base ||| dataWires.wire (word.getLsbD 0)])
            tasks payloads := by
        refine .assign steady_linedAt steady_lined ?_
        rintro device history ⟨lined, rfl⟩ _
        have quiet := TwoWire.or_and_not_both aside _ (dataWires.wire_and_both (word.getLsbD 0))
        rw [← level_eq_wire] at quiet ⊢
        exact lined.dataPort quiet
      have rest := @ih (written ++ [base] ++ [base ||| dataWires.wire (word.getLsbD 0)])
        (word >>> 1)
      have joined : written ++ [base] ++ [base ||| dataWires.wire (word.getLsbD 0)] ++
          (bitsOf passes (word >>> 1)).flatMap (dataWires.pulse base) =
          written ++ (bitsOf (passes + 1) word).flatMap (dataWires.pulse base) := by
        simp only [bitsOf, List.flatMap_cons, TwoWire.pulse, List.append_assoc,
          List.cons_append, List.nil_append]
      rw [joined] at rest
      exact low.seq fun _ => high.seq fun _ => rest

theorem asicSend_triple (buffer : List Word) (size : Nat) :
    line.Triple (Lined base written tasks payloads) (asicSend buffer size) fun _ =>
      Lined base (written ++ (lineBits (buffer.take size)).flatMap (dataWires.pulse base))
        tasks payloads := by
  unfold asicSend
  induction buffer.take size generalizing written with
  | nil =>
      rw [lineBits, List.flatMap_nil, List.flatMap_nil, List.append_nil]
      exact .done steady_lined
  | cons word words ih =>
      have rest := @ih (written ++ (bitsOf 32 word).flatMap (dataWires.pulse base))
      rw [List.append_assoc, ← List.flatMap_append] at rest
      exact (sendBits_triple aside 32 word).seq fun _ => rest

theorem pushWork_triple (work : WorkUnit) :
    line.Triple (Lined base written tasks payloads) (pushWork work) fun _ =>
      Lined base (written ++ dataWires.encode base (lineBits work.lineWords))
        tasks payloads := by
  have idle {earlier : List Byte} : line.Triple (Lined base earlier tasks payloads) asicIdle
      fun _ => Lined base (earlier ++ [base ||| dataWires.both]) tasks payloads := by
    refine .assign steady_lined steady_lined fun device history lined _ => ?_
    have raised : device.portb ||| (dataN ||| dataP) = base ||| dataWires.both := by
      rw [← lined.quiet]
      exact (dataWires.and_not_both_or_both device.portb).symm
    rw [raised]
    exact lined.dataPort (TwoWire.or_and_not_both aside _ BitVec.and_self)
  have whole : work.lineWords = clockConfig.toList.take 2 ++ work.data.toList.take 3 ++
      (work.precalc.toList.drop 1).take 5 ++ work.midstate.toList.take 8 ++
      work.precalc.toList.take 1 ++ [0] := by
    have first : work.precalc.toList.take 1 = [work.precalc.get 0] := by
      rw [List.take_one, List.head?_eq_getElem?]
      simp [Vector.get]
    rw [first, List.take_of_length_le (by simp), List.take_of_length_le (by simp),
      List.take_of_length_le (by simp), List.take_of_length_le (by simp), List.drop_one,
      WorkUnit.lineWords, List.append_assoc _ [work.precalc.get 0]]
    rfl
  rw [whole]
  simp only [TwoWire.encode, lineBits, List.flatMap_append, List.append_assoc]
  simp only [← List.append_assoc]
  exact (asicSend_triple aside clockConfig.toList 2).seq fun _ =>
    (asicSend_triple aside work.data.toList 3).seq fun _ =>
    (asicSend_triple aside (work.precalc.toList.drop 1) 5).seq fun _ =>
    (asicSend_triple aside work.midstate.toList 8).seq fun _ =>
    (asicSend_triple aside work.precalc.toList 1).seq fun _ =>
    (asicSend_triple aside [0] 1).seq fun _ => idle

end Sending

/-- The port values that send a task. -/
def lineCode (base : Byte) (task : WorkUnit) : List Byte :=
  dataWires.encode base (lineBits task.lineWords)

/-- Between calls every executed `'W'` has been sent, and nothing else. -/
def OnLine (base : Byte) (device : Device) (history : Past) : Prop :=
  ∃ tasks payloads, List.Forall₂ WorkUnit.Holds tasks payloads ∧
    Lined base (tasks.flatMap (lineCode base)) tasks payloads device history

theorem steady_onLine : line.Steady (OnLine base) where
  stable := by
    rintro source before after history handled admitted ⟨tasks, payloads, held, lined⟩
    exact ⟨tasks, payloads, held, steady_lined.stable _ _ _ _ handled admitted lined⟩
  always := fun _ _ _ => trivial

theorem keeps_onLine {point : Point} {before after : Device} (offLine : point.offLine = true)
    (same : after.portb = before.portb) : line.Keeps (OnLine base) point before after := by
  rintro history _ ⟨tasks, payloads, held, lined⟩
  exact ⟨tasks, payloads, held, lined.offLine offLine same⟩

/-- Within a `'W'`, when the task is complete and not yet sent. -/
def Loaded (base : Byte) (written : List Byte) (tasks : List WorkUnit)
    (payloads : List (List Byte)) (device : Device) (history : Past) : Prop :=
  ∃ bytes, loaded history = some bytes ∧
    Lined base written tasks (payloads ++ [bytes]) device history

theorem steady_loaded : line.Steady (Loaded base written tasks payloads) where
  stable := by
    rintro source before after history handled admitted ⟨bytes, found, lined⟩
    exact ⟨bytes, found, steady_lined.stable _ _ _ _ handled admitted lined⟩
  always := fun _ _ _ => trivial

theorem coversCaller_loaded (caller : Caller) :
    CoversCaller (line.Keeps (Loaded base written tasks payloads)) caller := by
  refine coversCaller_of_calm ?_ caller
  rintro point before after calm history _ ⟨bytes, found, lined⟩
  exact ⟨bytes, by rw [loaded_silent calm.silent, found], lined.offLine calm.offLine calm.portb⟩

theorem coversCaller_lined (caller : Caller) :
    CoversCaller (line.Keeps (Lined base written tasks payloads)) caller :=
  coversCaller_of_calm (fun _ _ _ calm => keeps_lined calm.offLine calm.portb) caller

theorem fillWork_line_triple :
    line.Triple (Lined base written tasks payloads) fillWork
      fun _ => Lined base written tasks payloads :=
  .kept steady_lined (fillWork_within
    ⟨fun _ _ _ _ => keeps_lined rfl rfl, fun _ _ _ _ => keeps_lined rfl rfl⟩)

theorem precalc_line_triple {effect : Device → Device}
    (same : ∀ device, (effect device).portb = device.portb) :
    line.Triple (Lined base written tasks payloads) (assign .precalc effect)
      fun _ => Loaded base written tasks payloads := by
  refine .assign steady_lined steady_loaded fun device history lined _ => ?_
  refine ⟨payload history, rfl, ?_, lined.writes, lined.sent, ?_⟩
  · rw [same, lined.quiet]
  · rw [← lined.loads]
    simp [works, executed, List.filterMap_append, Token.work?]

/-- The task that has been read for sending. -/
def Sending (base : Byte) (written : List Byte) (tasks : List WorkUnit)
    (payloads : List (List Byte)) (work : WorkUnit) (device : Device) (history : Past) : Prop :=
  ∃ bytes, work.Holds bytes ∧
    Lined base written (tasks ++ [work]) (payloads ++ [bytes]) device history

theorem steady_sending (work : WorkUnit) :
    line.Steady (Sending base written tasks payloads work) where
  stable := by
    rintro source before after history handled admitted ⟨bytes, holds, lined⟩
    exact ⟨bytes, holds, steady_lined.stable _ _ _ _ handled admitted lined⟩
  always := fun _ _ _ => trivial

theorem loadWork_triple :
    line.Triple (Loaded base written tasks payloads)
      (fetch .loadWork fun device => device.worktask)
      fun work => Sending base written tasks payloads work := by
  refine .fetch steady_loaded steady_sending ?_
  rintro device history ⟨bytes, found, lined⟩ stored
  exact ⟨bytes, stored bytes found, lined.quiet, lined.writes,
    by rw [← lined.sent]; rfl, lined.loads⟩

theorem startWork_line_triple (aside : base &&& dataWires.both = 0)
    (held : List.Forall₂ WorkUnit.Holds tasks payloads) :
    line.Triple (Loaded base (tasks.flatMap (lineCode base)) tasks payloads) startWork
      fun _ => OnLine base := by
  have covers := @coversCaller_loaded base (tasks.flatMap (lineCode base)) tasks payloads
    (.command .W)
  have prepared {program : Firmware Unit} (within : program.Within (line.Keeps
      (Loaded base (tasks.flatMap (lineCode base)) tasks payloads))) :=
    Setting.Triple.kept steady_loaded within
  refine (prepared (.assign fun device => covers.state.setState device _)).seq fun _ =>
    (prepared (.assign fun device => covers.state.setNonceValid device _)).seq fun _ =>
    (prepared (.assign fun device => covers.state.setNonce device _)).seq fun _ =>
    (prepared (asicReset_within covers.asic)).seq fun _ =>
    (prepared (asicResetSpi_within covers.asic)).seq fun _ =>
    loadWork_triple.seq fun work => ?_
  rintro device history ⟨bytes, holds, lined⟩
  refine Setting.Triple.conseq
    (.seq (pushWork_triple aside work) fun _ =>
      .seq (.kept steady_lined (.assign fun _ => ?_)) fun _ =>
      .kept steady_lined (sendState_within (coversCaller_lined _).reply _))
    (fun _ _ lined => lined) ?_ device history lined
  · exact keeps_lined rfl rfl
  · intro _ after later reached
    refine ⟨_, _, List.rel_append held (.cons holds .nil), ?_⟩
    rw [List.flatMap_append, List.flatMap_singleton]
    exact reached

theorem commandW_line_triple (aside : base &&& dataWires.both = 0) :
    line.Triple (OnLine base) commandW fun _ => OnLine base := by
  rintro device history ⟨tasks, payloads, held, lined⟩
  have removed : line.Triple (Lined base (tasks.flatMap (lineCode base)) tasks payloads)
      (removeCommand .W) fun _ => Lined base (tasks.flatMap (lineCode base)) tasks payloads :=
    .kept steady_lined (.assign fun _ => keeps_lined rfl rfl)
  refine Setting.Triple.seq removed (fun _ => fillWork_line_triple.seq fun _ =>
    .seq (precalc_line_triple ?_) fun _ => startWork_line_triple aside held) device history lined
  intro device
  rfl

end

theorem OnLine.call {base : Byte} {device : Device} {history : Past}
    (lined : OnLine base device history) (entry : Call) :
    OnLine base device (⟨.call entry, device, device⟩ :: history) := by
  obtain ⟨tasks, payloads, held, lined⟩ := lined
  exact ⟨tasks, payloads, held, lined.quiet, lined.writes, lined.sent, lined.loads⟩

theorem boundary_onLine {base : Byte} (aside : base &&& dataWires.both = 0) :
    Boundary line (OnLine base) where
  steady := steady_onLine
  call := fun entry _ _ _ lined => lined.call entry
  receive := fun _ _ => keeps_onLine rfl rfl
  getCount := fun _ => keeps_onLine rfl rfl
  peekCommand := fun _ => keeps_onLine rfl rfl
  single := fun count _ notW => .kept steady_onLine (dispatch_within
    (fun _ _ => coversCaller_of_calm (fun _ _ _ calm => keeps_onLine calm.offLine calm.portb) _)
    (fun _ _ _ => keeps_onLine rfl rfl) (fun _ _ => keeps_onLine rfl rfl) count notW)
  work := commandW_line_triple aside
  flush := fun results => .kept steady_onLine (flushReplies_within
    (coversFlush_of_calm fun _ _ _ calm => keeps_onLine calm.offLine calm.portb) results)
  service := fun _ _ _ lined => Setting.Triple.kept steady_onLine (appService_within
    (coversService_of_calm fun _ _ _ calm => keeps_onLine calm.offLine calm.portb)) _ _
    (lined.call .service)

/-- Whatever the host sends and whenever interrupts occur, the line has carried
exactly the executed tasks when no call is in progress. -/
theorem onLine_of_idle (start : Device) (choices : Choices)
    (idle : (firmware.run choices (.start start)).idle = true) :
    OnLine (start.portb &&& ~~~dataWires.both) (firmware.run choices (.start start)).state
      (firmware.run choices (.start start)).history := by
  have boundary := boundary_onLine (dataWires.and_not_both_quiet start.portb)
  refine line.run_between boundary.steady ⟨[], [], .nil, rfl, rfl, rfl, rfl⟩ boundary.calls
    choices ?_ idle
  have stored := firmware.meets_and (fun choices _ => stored_run start choices) choices
    (Meets.trivial _)
  exact stored.imp fun _ _ _ both => both.2

end MiniMiner.AvalonBTC
