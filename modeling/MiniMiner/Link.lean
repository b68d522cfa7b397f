import MiniMiner.AvalonBTC.Reception
import MiniMiner.AvalonBTC.Replies
import MiniMiner.Bfgminer.Driver

/-! The driver and the firmware at the two ends of a serial link that loses
nothing. The driver makes one call of `mmo_scanhash` after the other, each for
its own work; the firmware runs as before, fed with what the driver has sent. -/

set_option autoImplicit false

namespace MiniMiner

open LittleEndian Preemption AvalonBTC

/-- An outcome that `mmo_scanhash` has taken for a work, and the reply it has
read it from; both are counted from the start. -/
structure Taking where
  work : Nat
  reply : Nat
  outcome : Bfgminer.Outcome
  deriving DecidableEq

/-- The firmware; the works of the calls of `mmo_scanhash` so far, and whether
the last of them is still in its loop; the bytes read by the driver; and the
outcomes it has taken. -/
structure Link where
  config : Config Point Device Interrupt Call
  sent : List Bfgminer.Work
  scanning : Bool
  taken : Nat
  outcomes : List Taking

inductive Move where
  | firmware (choice : Choice Interrupt Call)
  /-- `mmo_scanhash` is called and sends its work. -/
  | scanhash (work : Bfgminer.Work)
  /-- `mmo_scanhash` leaves its loop for new work. -/
  | restart
  /-- `serial_read` returns a whole reply to `mmo_scanhash`. -/
  | read

namespace Link

/-- The firmware receives the bytes the driver has sent, in order. -/
def delivers (link : Link) : Choice Interrupt Call → Bool
  | .call (.usbData received) =>
      ((chunks link.config.history).flatten ++ received).isPrefixOf
        (link.sent.flatMap Bfgminer.Work.sendbuf)
  | _ => true

def buffer (link : Link) : List Byte := (link.config.state.endpoint.drop link.taken).take 7

def step (link : Link) : Move → Link
  | .firmware choice =>
      if link.delivers choice then
        { link with config := AvalonBTC.firmware.advance link.config choice }
      else link
  | .scanhash work =>
      if link.scanning then link
      else { link with sent := link.sent ++ [work], scanning := true }
  | .restart => { link with scanning := false }
  | .read =>
      if link.scanning ∧ link.taken + 7 ≤ link.config.state.endpoint.length then
        match (Bfgminer.MMOState.ofBuffer link.buffer).outcome with
        | none => { link with taken := link.taken + 7 }
        | some outcome =>
            { link with
              taken := link.taken + 7
              scanning := false
              outcomes := link.outcomes ++
                [{ work := link.sent.length - 1, reply := link.taken / 7, outcome := outcome }] }
      else link

def start : Link where
  config := .start boot
  sent := []
  scanning := false
  taken := 0
  outcomes := []

def run (moves : List Move) : Link := moves.foldl step start

/-- The next statement of the firmware begins a reply of `appService`. -/
def beginsOwnReply (link : Link) : Bool :=
  match link.config.code with
  | .statement (.write caller 0) _ _ => caller.own
  | _ => false

/-- `mmo_scanhash` is called only when no reply of `appService` is unread, and
`appService` replies only when every work sent has been executed. -/
def inStep (link : Link) : Move → Prop
  | .scanhash _ => link.scanning = false →
      ∀ reply ∈ (replies link.config.history).drop (link.taken / 7), reply.caller.own = false
  | .firmware .main => link.beginsOwnReply = true →
      (works link.config.history).length = link.sent.length
  | _ => True

instance (link : Link) : (move : Move) → Decidable (link.inStep move)
  | .scanhash _ => inferInstanceAs (Decidable (link.scanning = false →
      ∀ reply ∈ (replies link.config.history).drop (link.taken / 7), reply.caller.own = false))
  | .firmware .main => inferInstanceAs (Decidable (link.beginsOwnReply = true →
      (works link.config.history).length = link.sent.length))
  | .firmware (.interrupt _) => .isTrue trivial
  | .firmware (.call _) => .isTrue trivial
  | .restart => .isTrue trivial
  | .read => .isTrue trivial

/-- Every move was made in a state that the condition admits. -/
def InStep : List Move → Prop :=
  go start
where
  go (link : Link) : List Move → Prop
    | [] => True
    | move :: rest => link.inStep move ∧ go (link.step move) rest

instance InStep.decidable (link : Link) : (moves : List Move) → Decidable (InStep.go link moves)
  | [] => .isTrue trivial
  | move :: rest =>
      have := InStep.decidable (link.step move) rest
      inferInstanceAs (Decidable (link.inStep move ∧ InStep.go (link.step move) rest))

instance (moves : List Move) : Decidable (InStep moves) :=
  inferInstanceAs (Decidable (InStep.go start moves))

/-- Neither ring of the firmware is overrun. -/
def lossless (label : Step) (device : Device) (history : Past) : Prop :=
  withinRing label device history ∧ withinTransmitRing label device history

instance (label : Step) (device : Device) (history : Past) :
    Decidable (lossless label device history) :=
  inferInstanceAs (Decidable
    (withinRing label device history ∧ withinTransmitRing label device history))

/-- The outcome was taken from a reply that the firmware began when the latest
`'W'` it had executed was the one for this very work, and the task unit held it. -/
def Belongs (link : Link) (taking : Taking) : Prop :=
  ∃ reply work, (replies link.config.history)[taking.reply]? = some reply ∧
    link.sent[taking.work]? = some work ∧
    (Bfgminer.MMOState.ofBuffer reply.frame).outcome = some taking.outcome ∧
    reply.generation = taking.work + 1 ∧ reply.task.Holds work.payload

end Link

end MiniMiner
