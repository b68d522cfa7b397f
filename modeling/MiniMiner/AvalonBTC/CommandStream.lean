import MiniMiner.AvalonBTC.Footprint
import MiniMiner.Framing

/-! The host's byte stream as a stream of commands, and what a run of the
firmware has received and executed of it. -/

set_option autoImplicit false

namespace MiniMiner.AvalonBTC

open LittleEndian Preemption

/-- A byte `'W'` takes the forty-four bytes after it as its payload; every other
byte is a command of its own. -/
inductive Token where
  | single (byte : Byte)
  | work (payload : List Byte)
  deriving DecidableEq

def Token.bytes : Token → List Byte
  | .single byte => [byte]
  | .work payload => Command.W.toByte :: payload

def nextToken : List Byte → Option (Token × List Byte)
  | [] => none
  | first :: rest =>
      if first = Command.W.toByte then
        if 44 ≤ rest.length then some (.work (rest.take 44), rest.drop 44) else none
      else some (.single first, rest)

theorem nextToken_eq_some {stream rest : List Byte} {token : Token}
    (found : nextToken stream = some (token, rest)) :
    (∃ byte, byte ≠ Command.W.toByte ∧ token = .single byte ∧ stream = byte :: rest) ∨
      ∃ payload, payload.length = 44 ∧ token = .work payload ∧
        stream = Command.W.toByte :: (payload ++ rest) := by
  match stream with
  | [] => cases found
  | first :: others =>
      simp only [nextToken] at found
      split at found
      · next isW =>
        split at found
        · next enough =>
          injection found with pair
          injection pair with sameToken sameRest
          refine .inr ⟨others.take 44, by simpa using enough, sameToken.symm, ?_⟩
          rw [isW, ← sameRest, List.take_append_drop]
        · cases found
      · next notW =>
        injection found with pair
        injection pair with sameToken sameRest
        exact .inl ⟨first, notW, sameToken.symm, by rw [sameRest]⟩

theorem nextToken_single {byte : Byte} (notW : byte ≠ Command.W.toByte) (rest : List Byte) :
    nextToken (byte :: rest) = some (.single byte, rest) := by
  simp only [nextToken, notW, if_false]

theorem nextToken_work {payload : List Byte} (size : payload.length = 44) (rest : List Byte) :
    nextToken (Command.W.toByte :: (payload ++ rest)) = some (.work payload, rest) := by
  simp only [nextToken, if_true, ← size, List.length_append, Nat.le_add_right,
    List.take_left, List.drop_left]

/-- What keeps a stream from having a first command: it is empty or its first
byte is a `'W'` without all its payload. -/
theorem nextToken_eq_none_iff {stream : List Byte} :
    nextToken stream = none ↔
      stream = [] ∨ (stream.head? = some Command.W.toByte ∧ stream.length ≤ 44) := by
  match stream with
  | [] => simp [nextToken]
  | first :: others =>
      simp only [nextToken, reduceCtorEq, List.head?_cons, Option.some.injEq, false_or,
        List.length_cons]
      by_cases isW : first = Command.W.toByte
      · by_cases enough : 44 ≤ others.length
        · simp only [isW, enough, if_true, reduceCtorEq, true_and, false_iff]
          omega
        · simp only [isW, enough, if_true, if_false, true_and, true_iff]
          omega
      · simp [isW]

theorem Command.toByte_ofByte (byte : Byte) : (Command.ofByte byte).toByte = byte := by
  unfold Command.ofByte
  repeat' split
  all_goals first | rfl | (symm; assumption)

theorem Command.ofByte_ne_W {byte : Byte} (notW : byte ≠ Command.W.toByte) :
    Command.ofByte byte ≠ .W := by
  intro isW
  apply notW
  rw [← isW, Command.toByte_ofByte]

/-- The cut of the host's stream into commands. -/
def commands : Framing Byte Token where
  symbols := Token.bytes
  next := nextToken
  next_eq := by
    intro stream token rest found
    rcases nextToken_eq_some found with ⟨byte, _, rfl, rfl⟩ | ⟨payload, _, rfl, rfl⟩ <;> rfl
  next_append := by
    intro stream token rest found more
    rcases nextToken_eq_some found with ⟨byte, notW, rfl, rfl⟩ | ⟨payload, size, rfl, rfl⟩
    · exact nextToken_single notW _
    · rw [List.cons_append, List.append_assoc]
      exact nextToken_work size _
  symbols_ne_nil := by
    intro stream token rest _
    cases token <;> exact List.cons_ne_nil _ _

/-- The chunks drained from the endpoint, one for each call. -/
def chunks : Past → List (List Byte)
  | [] => []
  | transition :: earlier =>
      match transition.label with
      | .call (.usbData received) => chunks earlier ++ [received]
      | _ => chunks earlier

/-- The bytes taken from the ring for the latest `'W'`. -/
def payload : Past → List Byte
  | [] => []
  | transition :: earlier =>
      match transition.label with
      | .main (.removeCommand .W) => []
      | .main (.fillMidstate _) => payload earlier ++ [transition.source.buffer.peek]
      | .main (.fillData _) => payload earlier ++ [transition.source.buffer.peek]
      | _ => payload earlier

/-- The commands executed by `serialProcess`. A `'W'` counts from the moment its
payload has been taken from the ring. -/
def executed : Past → List Token
  | [] => []
  | transition :: earlier =>
      match transition.label with
      | .main (.removeCommand .W) => executed earlier
      | .main (.removeCommand command) => executed earlier ++ [.single command.toByte]
      | .main .precalc => executed earlier ++ [.work (payload earlier)]
      | _ => executed earlier

def Token.work? : Token → Option (List Byte)
  | .single _ => none
  | .work payload => some payload

/-- The payloads of the `'W'` commands executed. -/
def works (history : Past) : List (List Byte) := (executed history).filterMap Token.work?

/-- The payload of the latest `'W'`, once it is complete. -/
def loaded : Past → Option (List Byte)
  | [] => none
  | transition :: earlier =>
      match transition.label with
      | .main (.removeCommand .W) => none
      | .main .precalc => some (payload earlier)
      | _ => loaded earlier

/-- The statements that call `RingBuffer_Remove` on the receive ring. -/
def Point.removesReceived : Point → Bool
  | .removeCommand _ => true
  | .fillMidstate _ => true
  | .fillData _ => true
  | _ => false

/-- No byte has been removed from an empty receive ring. -/
def RemovesOnlyFilled (history : Past) : Prop :=
  ∀ transition ∈ history, ∀ point, transition.label = .main point →
    point.removesReceived = true → transition.source.buffer.count ≠ 0

/-- The bytes drained from the endpoint fit into the receive ring. -/
def withinRing : Step → Device → Past → Prop
  | .call (.usbData received), device, _ => device.buffer.count.toNat + received.length ≤ 128
  | _, _, _ => True

instance : (label : Step) → (device : Device) → (history : Past) →
    Decidable (withinRing label device history)
  | .call (.usbData received), device, _ =>
      inferInstanceAs (Decidable (device.buffer.count.toNat + received.length ≤ 128))
  | .call (.flush _), _, _ => .isTrue trivial
  | .call .service, _, _ => .isTrue trivial
  | .main _, _, _ => .isTrue trivial
  | .interrupt _, _, _ => .isTrue trivial

end MiniMiner.AvalonBTC
