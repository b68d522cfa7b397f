import MiniMiner.AvalonBTC.NonceDecoding

/-! Complete and incomplete reports. The handler raises the flag on both exits of
its loop, so a nonce is made of four bytes only if the bytes came in time. -/

set_option autoImplicit false

namespace MiniMiner.AvalonBTC

open LittleEndian Preemption

/-- Each of the three bytes after the first comes after fewer than 1000 empty
polls of the handler. -/
def timelyReports : Step → Device → Past → Prop
  | .interrupt (.spi _ polls), _, _ => Timely polls
  | _, _, _ => True

/-- A reply with a valid nonce was made from four bytes that a run of the handler
has received. -/
def carriesComplete (label : Step) (device : Device) (history : Past) : Prop :=
  unsolicited label = true → device.state.nonceValid = 1 →
    ∃ byte0 byte1 byte2 byte3 polls source earlier,
      ⟨.interrupt (.spi byte0 polls), source, spiStc byte0 polls source⟩ :: earlier <:+ history ∧
      Delivers polls 0 [byte1, byte2, byte3] ∧
      device.state.nonce = ofBytes byte0 byte1 byte2 byte3 - 0xC0

theorem reportValid_spiStc (spdr : Byte) (polls : Nat → Option Byte) (device : Device) :
    (spiStc spdr polls device).reportValid = 1 := rfl

theorem carriesComplete_of_genuine {label : Step} {device : Device} {history : Past}
    (genuine : carriesGenuine label device history) (timely : Meets timelyReports history) :
    carriesComplete label device history := by
  intro spoken valid
  obtain ⟨value, nonce, ⟨byte0, polls, source, earlier, read, report, _⟩, _⟩ := genuine spoken valid
  have suffix := (ledger_suffix history).2
  rw [read] at suffix
  obtain ⟨byte1, byte2, byte3, delivers⟩ := (timely.of_suffix suffix).1
  refine ⟨byte0, byte1, byte2, byte3, polls, source, earlier, suffix, delivers, ?_⟩
  rw [nonce, ← report, (spiStc_of_delivers delivers source).1, shiftIn_three,
    nonceOfReport_ofBytes]

/-- A run of the handler publishes only a complete report exactly if the bytes
come in time; and in every run in which they always do, every reply with a valid
nonce is made from four bytes. -/
theorem complete_reports_iff_timely (spdr : Byte) (polls : Nat → Option Byte) (device : Device)
    (choices : Choices) :
    (((spiStc spdr polls device).reportValid = 1 →
      (spiStc spdr polls device).reportCount = 4) ↔ Timely polls) ∧
    (Meets timelyReports (after choices).history →
      Meets carriesComplete (after choices).history) := by
  constructor
  · rw [← reportCount_spiStc_iff spdr polls device]
    exact ⟨fun published => published (reportValid_spiStc spdr polls device),
      fun complete _ => complete⟩
  · intro timely
    exact (noting_run choices).1.with_past timely fun _ _ _ => carriesComplete_of_genuine

theorem complete_reports_promptly :
    (spiStc 1 promptBytes boot).reportCount = 4 ∧
      Meets carriesComplete (after (beforeTest [.interrupt (.spi 1 promptBytes)] [] ++
        List.replicate 24 .main)).history := by
  have timely : Timely promptBytes := ⟨2, 3, 4, delivers_promptBytes⟩
  have complete := complete_reports_iff_timely 1 promptBytes boot
    (beforeTest [.interrupt (.spi 1 promptBytes)] [] ++ List.replicate 24 .main)
  refine ⟨complete.1.mpr timely rfl, complete.2 ?_⟩
  iterate 25 refine ⟨trivial, ?_⟩
  exact ⟨timely, trivial⟩

/-- The first byte is followed by silence: the flag goes up after one byte, and
the reply carries a valid nonce. -/
theorem incomplete_report_sent :
    (spiStc 0xC5 (fun _ => none) boot).reportValid = 1 ∧
      (spiStc 0xC5 (fun _ => none) boot).reportCount = 1 ∧
      (replies (after (beforeTest [.interrupt (.spi 0xC5 fun _ => none)] [] ++
        List.replicate 24 .main)).history).map (fun reply => (reply.caller, reply.state.nonceValid,
          reply.state.nonce)) = [(.report, 1, 0xC4FFFF40)] := by
  decide +kernel

end MiniMiner.AvalonBTC
