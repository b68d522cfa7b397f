import MiniMiner.LittleEndian

/-! `driver-miniminer1.c`: what `mmo_scanhash` sends for a work and how it takes
a reply. -/

set_option autoImplicit false

namespace MiniMiner.Bfgminer

open LittleEndian

/-- The parts of `struct work` that `mmo_scanhash` reads: `midstate` and the
twelve bytes from `data + 64` on. -/
structure Work where
  midstate : Vector Byte 32
  data : Vector Byte 12
  deriving DecidableEq

/-- The forty-four bytes after the command byte. -/
def Work.payload (work : Work) : List Byte :=
  work.midstate.toList ++ work.data.toList

/-- `sendbuf`. -/
def Work.sendbuf (work : Work) : List Byte :=
  0x57 :: (work.midstate.toList ++ work.data.toList)

structure MMOState where
  state : Byte
  nonceValid : Byte
  nonce : Word
  deriving DecidableEq

/-- The seven bytes of a full read as the driver takes them apart; the command
byte is not looked at. -/
def MMOState.ofBuffer (buffer : List Byte) : MMOState where
  state := buffer.getD 1 0
  nonceValid := buffer.getD 2 0
  nonce := ofBytes (buffer.getD 3 0) (buffer.getD 4 0) (buffer.getD 5 0) (buffer.getD 6 0)

/-- The two ways in which a reply ends the loop of `mmo_scanhash`:
`submit_nonce`, or the whole range is taken as exhausted. -/
inductive Outcome where
  | submitNonce (nonce : Word)
  | exhausted
  deriving DecidableEq

/-- `nonce_valid` is looked at before the status letter, which is R at rest. -/
def MMOState.outcome (state : MMOState) : Option Outcome :=
  if state.nonceValid = 1 then some (.submitNonce state.nonce)
  else if state.state = 0x52 then some .exhausted
  else none

theorem Work.length_payload (work : Work) : work.payload.length = 44 := by
  simp [Work.payload]

theorem Work.sendbuf_eq (work : Work) : work.sendbuf = 0x57 :: work.payload := rfl

end MiniMiner.Bfgminer
