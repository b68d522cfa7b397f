import Mathlib.Data.List.Basic
import MiniMiner.AvalonBTC.Avalon

/-! The loop of the report interrupt over an arbitrary trace of polls: it always
ends, and it ends with four bytes exactly if each of the three bytes after the
first comes after fewer than 1000 empty polls. -/

set_option autoImplicit false

namespace MiniMiner.AvalonBTC

open LittleEndian

def Capture.poll (state : Capture) : Option Byte → Capture
  | some byte =>
      { report := (state.report <<< 8) ||| byte.setWidth 32
        count := state.count + 1
        timeout := 0 }
  | none => { state with timeout := state.timeout + 1 }

/-- The loop ends at four bytes, or breaks at the thousandth empty poll in a row. -/
def Capture.Exits (state : Capture) : Prop := state.count = 4 ∨ state.timeout = 1000

/-- The statics after a number of polls, whether the loop has ended or not. -/
def Capture.polled (polls : Nat → Option Byte) : (first : Nat) → Capture → Nat → Capture
  | _, state, 0 => state
  | first, state, count + 1 => polled polls (first + 1) (state.poll (polls first)) count

def Capture.entry (spdr : Byte) : Capture :=
  { report := spdr.setWidth 32, count := 1, timeout := 0 }

/-- The loop is running, or has just received its last byte. -/
structure Capture.Running (state : Capture) : Prop where
  count : state.count.toNat ≤ 4
  timeout : state.timeout.toNat < 1000

/-- The polls that can follow at most. -/
def Capture.budget (state : Capture) : Nat :=
  1000 * (4 - state.count.toNat) - state.timeout.toNat

namespace Capture

theorem running_entry (spdr : Byte) : (entry spdr).Running :=
  ⟨by show 1 ≤ 4; decide, by show 0 < 1000; decide⟩

theorem count_lt {state : Capture} (running : state.Running) (unfinished : state.count ≠ 4) :
    state.count.toNat < 4 := by
  refine Nat.lt_of_le_of_ne running.count fun four => unfinished ?_
  exact BitVec.eq_of_toNat_eq four

theorem count_poll {state : Capture} (running : state.Running) (byte : Byte) :
    (state.poll (some byte)).count.toNat = state.count.toNat + 1 := by
  have bounded := running.count
  show (state.count + 1).toNat = _
  rw [BitVec.toNat_add]
  exact Nat.mod_eq_of_lt (by show state.count.toNat + 1 < 2 ^ 8; omega)

theorem timeout_poll {state : Capture} (running : state.Running) :
    (state.poll none).timeout.toNat = state.timeout.toNat + 1 := by
  have bounded := running.timeout
  show (state.timeout + 1).toNat = _
  rw [BitVec.toNat_add]
  exact Nat.mod_eq_of_lt (by show state.timeout.toNat + 1 < 2 ^ 16; omega)

theorem Running.byte {state : Capture} (running : state.Running) (unfinished : state.count ≠ 4)
    (byte : Byte) : (state.poll (some byte)).Running ∧
      (state.poll (some byte)).budget < state.budget := by
  have counted := count_poll running byte
  have below := count_lt running unfinished
  have early := running.timeout
  refine ⟨⟨?_, by show 0 < 1000; decide⟩, ?_⟩
  · omega
  · show 1000 * (4 - (state.poll (some byte)).count.toNat) - 0 < _
    rw [counted, budget]
    omega

theorem Running.empty {state : Capture} (running : state.Running) (unfinished : state.count ≠ 4)
    (early : (state.poll none).timeout ≠ 1000) : (state.poll none).Running ∧
      (state.poll none).budget < state.budget := by
  have waited := timeout_poll running
  have below := count_lt running unfinished
  have bounded := running.timeout
  have short : (state.poll none).timeout.toNat ≠ 1000 := fun reached =>
    early (BitVec.eq_of_toNat_eq reached)
  refine ⟨⟨running.count, by omega⟩, ?_⟩
  show 1000 * (4 - state.count.toNat) - (state.poll none).timeout.toNat < _
  rw [waited, budget]
  omega

theorem Running.poll {state : Capture} (running : state.Running) (unfinished : state.count ≠ 4)
    {seen : Option Byte} (early : (state.poll seen).timeout ≠ 1000) :
    (state.poll seen).Running ∧ (state.poll seen).budget < state.budget := by
  cases seen with
  | some byte => exact running.byte unfinished byte
  | none => exact running.empty unfinished early

theorem Running.budget_pos {state : Capture} (running : state.Running)
    (unfinished : state.count ≠ 4) : 0 < state.budget := by
  have below := count_lt running unfinished
  have bounded := running.timeout
  rw [budget]
  omega

theorem Running.not_exits {state : Capture} (running : state.Running)
    (unfinished : state.count ≠ 4) : ¬ state.Exits := by
  intro exits
  rcases exits with four | late
  · exact unfinished four
  · have bounded := running.timeout
    rw [late] at bounded
    exact absurd bounded (by decide)

end Capture

/-- The loop goes on with the state a poll leaves, unless that poll made it break. -/
theorem capture_step (polls : Nat → Option Byte) (fuel first : Nat) {state : Capture}
    (unfinished : state.count ≠ 4) :
    capture polls (fuel + 1) first state =
      if (state.poll (polls first)).timeout = 1000 then state.poll (polls first)
      else capture polls fuel (first + 1) (state.poll (polls first)) := by
  rw [capture, if_neg unfinished]
  cases polls first with
  | some byte => rfl
  | none => rfl

theorem capture_finished (polls : Nat → Option Byte) (fuel first : Nat) {state : Capture}
    (finished : state.count = 4) : capture polls fuel first state = state := by
  cases fuel with
  | zero => rfl
  | succ fuel => rw [capture, if_pos finished]

/-- With fuel for every poll that can follow, the loop ends at the first state
that makes it end. -/
theorem capture_exits (polls : Nat → Option Byte) {fuel first : Nat} {state : Capture}
    (running : state.Running) (enough : state.budget < fuel) :
    ∃ count ≤ state.budget, capture polls fuel first state = .polled polls first state count ∧
      (Capture.polled polls first state count).Exits ∧
      ∀ earlier < count, ¬ (Capture.polled polls first state earlier).Exits := by
  induction fuel generalizing first state with
  | zero => exact absurd enough (Nat.not_lt_zero _)
  | succ fuel ih =>
      by_cases finished : state.count = 4
      · exact ⟨0, Nat.zero_le _, capture_finished polls _ _ finished, .inl finished,
          fun _ none => absurd none (Nat.not_lt_zero _)⟩
      have going := running.not_exits finished
      rw [capture_step polls fuel first finished]
      split
      · next late =>
          refine ⟨1, running.budget_pos finished, rfl, .inr late, fun earlier before => ?_⟩
          obtain rfl : earlier = 0 := by omega
          exact going
      · next early =>
          obtain ⟨next, less⟩ := running.poll finished early
          obtain ⟨count, bounded, ends, exits, before⟩ := ih next (by omega)
          refine ⟨count + 1, by omega, ends, exits, fun earlier below => ?_⟩
          cases earlier with
          | zero => exact going
          | succ earlier => exact before earlier (by omega)

/-- The bytes come one after the other, each after fewer than 1000 empty polls. -/
def Delivers (polls : Nat → Option Byte) : (first : Nat) → List Byte → Prop
  | _, [] => True
  | first, byte :: rest => ∃ gap < 1000, (∀ poll < gap, polls (first + poll) = none) ∧
      polls (first + gap) = some byte ∧ Delivers polls (first + gap + 1) rest

/-- The three bytes that complete a report come in time. -/
def Timely (polls : Nat → Option Byte) : Prop :=
  ∃ byte1 byte2 byte3, Delivers polls 0 [byte1, byte2, byte3]

def shiftIn (report : Word) (bytes : List Byte) : Word :=
  bytes.foldl (fun report byte => (report <<< 8) ||| byte.setWidth 32) report

theorem capture_next {polls : Nat → Option Byte} {gap : Nat} (fuel first : Nat) {state : Capture}
    {byte : Byte} (running : state.Running) (unfinished : state.count ≠ 4)
    (short : state.timeout.toNat + gap < 1000) (empty : ∀ poll < gap, polls (first + poll) = none)
    (found : polls (first + gap) = some byte) :
    capture polls (fuel + gap + 1) first state =
      capture polls fuel (first + gap + 1) (state.poll (some byte)) := by
  induction gap generalizing first state with
  | zero =>
      rw [Nat.add_zero] at found
      rw [capture_step polls _ _ unfinished, found]
      exact if_neg nofun
  | succ gap ih =>
      have nothing := empty 0 (Nat.succ_pos gap)
      rw [Nat.add_zero] at nothing
      have waited := Capture.timeout_poll running
      have early : (state.poll none).timeout ≠ 1000 := by
        intro late
        rw [late] at waited
        change 1000 = _ at waited
        omega
      have next := (running.poll unfinished early).1
      rw [capture_step polls _ _ unfinished, nothing, if_neg early, ← Nat.add_assoc]
      have rest := ih (first + 1) next unfinished (by omega)
        (fun poll below => by
          have later := empty (poll + 1) (by omega)
          rwa [Nat.add_comm poll, ← Nat.add_assoc] at later)
        (by rwa [Nat.add_assoc, Nat.add_comm 1])
      rw [rest, Nat.add_assoc first 1, Nat.add_comm 1 gap, ← Nat.add_assoc]
      rfl

theorem capture_of_delivers {polls : Nat → Option Byte} {bytes : List Byte} {fuel first : Nat}
    {state : Capture} (running : state.Running) (start : state.timeout = 0)
    (missing : state.count.toNat + bytes.length = 4) (delivers : Delivers polls first bytes)
    (enough : 1000 * bytes.length ≤ fuel) :
    (capture polls fuel first state).report = shiftIn state.report bytes ∧
      (capture polls fuel first state).count = 4 := by
  induction bytes generalizing fuel first state with
  | nil =>
      have finished : state.count = 4 := BitVec.eq_of_toNat_eq missing
      rw [capture_finished polls _ _ finished]
      exact ⟨rfl, finished⟩
  | cons byte rest ih =>
      obtain ⟨gap, short, empty, found, later⟩ := delivers
      rw [List.length_cons] at missing enough
      have unfinished : state.count ≠ 4 := by
        intro finished
        rw [finished] at missing
        change 4 + _ = 4 at missing
        omega
      have counted := Capture.count_poll running byte
      obtain ⟨fuel, rfl⟩ : ∃ less, fuel = less + gap + 1 := ⟨fuel - gap - 1, by omega⟩
      rw [capture_next fuel first running unfinished (by rw [start]; simpa using short) empty found]
      exact ih (running.byte unfinished byte).1 rfl (by omega) later (by omega)

/-- A loop that ends with four bytes has received the missing ones in time. -/
theorem delivers_of_capture {polls : Nat → Option Byte} {fuel first : Nat} {state : Capture}
    (running : state.Running) (complete : (capture polls fuel first state).count = 4) :
    state.count = 4 ∨ ∃ gap byte rest, state.timeout.toNat + gap < 1000 ∧
      (∀ poll < gap, polls (first + poll) = none) ∧ polls (first + gap) = some byte ∧
      state.count.toNat + 1 + rest.length = 4 ∧ Delivers polls (first + gap + 1) rest := by
  induction fuel generalizing first state with
  | zero => exact .inl complete
  | succ fuel ih =>
      by_cases finished : state.count = 4
      · exact .inl finished
      refine .inr ?_
      rw [capture_step polls fuel first finished] at complete
      cases seen : polls first with
      | some byte =>
          rw [seen, if_neg nofun] at complete
          have counted := Capture.count_poll running byte
          refine ⟨0, byte, ?_⟩
          rcases ih (running.byte finished byte).1 complete with
            four | ⟨gap, second, rest, short, empty, found, missing, later⟩
          · refine ⟨[], running.timeout, nofun, seen, ?_, trivial⟩
            rw [← counted, four]
            rfl
          · change 0 + gap < 1000 at short
            rw [Nat.zero_add] at short
            refine ⟨second :: rest, running.timeout, nofun, seen, ?_,
              gap, short, empty, found, later⟩
            rw [List.length_cons]
            omega
      | none =>
          rw [seen] at complete
          have waited := Capture.timeout_poll running
          split at complete
          · exact absurd complete finished
          · next early =>
              obtain ⟨gap, byte, rest, short, empty, found, missing, later⟩ :=
                (ih (running.poll finished early).1 complete).resolve_left finished
              refine ⟨gap + 1, byte, rest, by omega, fun poll below => ?_, ?_, missing, ?_⟩
              · cases poll with
                | zero => exact seen
                | succ poll =>
                    rw [Nat.add_comm poll, ← Nat.add_assoc]
                    exact empty poll (by omega)
              · rw [Nat.add_comm gap, ← Nat.add_assoc]
                exact found
              · rw [Nat.add_comm gap, ← Nat.add_assoc]
                exact later

theorem capture_bounded (spdr : Byte) (polls : Nat → Option Byte) :
    ∃ count ≤ 3000,
      capture polls 3001 0 (.entry spdr) = .polled polls 0 (.entry spdr) count ∧
      (Capture.polled polls 0 (.entry spdr) count).Exits ∧
      ∀ earlier < count, ¬ (Capture.polled polls 0 (.entry spdr) earlier).Exits :=
  capture_exits polls (Capture.running_entry spdr) (Nat.lt_succ_self 3000)

theorem spiStc_of_delivers {polls : Nat → Option Byte} {byte0 byte1 byte2 byte3 : Byte}
    (delivers : Delivers polls 0 [byte1, byte2, byte3]) (device : Device) :
    (spiStc byte0 polls device).report =
      shiftIn (byte0.setWidth 32) [byte1, byte2, byte3] ∧
      (spiStc byte0 polls device).reportCount = 4 :=
  capture_of_delivers (Capture.running_entry byte0) rfl rfl delivers
    (by show 3000 ≤ 3001; decide)

theorem reportCount_spiStc_iff (spdr : Byte) (polls : Nat → Option Byte) (device : Device) :
    (spiStc spdr polls device).reportCount = 4 ↔ Timely polls := by
  constructor
  · intro complete
    have received := (delivers_of_capture (Capture.running_entry spdr) complete).resolve_left
      (by show ¬ (1 : Byte) = 4; decide)
    obtain ⟨gap, byte, rest, short, empty, found, missing, later⟩ := received
    change 0 + gap < 1000 at short
    rw [Nat.zero_add] at short
    change 1 + 1 + rest.length = 4 at missing
    obtain ⟨second, third, rfl⟩ : ∃ second third, rest = [second, third] :=
      List.length_eq_two.mp (by omega)
    exact ⟨byte, second, third, gap, short, empty, found, later⟩
  · intro timely
    obtain ⟨byte1, byte2, byte3, delivers⟩ := timely
    exact (spiStc_of_delivers delivers device).2

theorem shiftIn_three (byte0 byte1 byte2 byte3 : Byte) :
    shiftIn (byte0.setWidth 32) [byte1, byte2, byte3] = ofBytes byte3 byte2 byte1 byte0 := by
  apply BitVec.eq_of_getLsbD_eq
  intro index bound
  simp only [shiftIn, List.foldl_cons, List.foldl_nil, ofBytes, BitVec.getLsbD_append,
    BitVec.getLsbD_or, BitVec.getLsbD_shiftLeft, BitVec.getLsbD_setWidth]
  interval_cases index <;> simp

end MiniMiner.AvalonBTC
