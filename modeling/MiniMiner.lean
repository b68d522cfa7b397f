import MiniMiner.Preemption.Program
import MiniMiner.Preemption.Machine
import MiniMiner.Preemption.Triple
import MiniMiner.LittleEndian
import MiniMiner.RingBuffer
import MiniMiner.Transmission
import MiniMiner.AvalonBTC.Precalc
import MiniMiner.AvalonBTC.Device
import MiniMiner.AvalonBTC.PrecalcProperties
import MiniMiner.AvalonBTC.Application
import MiniMiner.AvalonBTC.Main
import MiniMiner.AvalonBTC.Footprint
import MiniMiner.Framing
import MiniMiner.AvalonBTC.CommandStream
import MiniMiner.AvalonBTC.Reception
import MiniMiner.AvalonBTC.Worktask
import MiniMiner.AvalonBTC.ReceptionProperties
import MiniMiner.AvalonBTC.Line
import MiniMiner.Bfgminer.Driver
import MiniMiner.AvalonBTC.LineProperties
import MiniMiner.AvalonBTC.ReportInterrupt
import MiniMiner.AvalonBTC.Provenance
import MiniMiner.AvalonBTC.WorkTimer
import MiniMiner.AvalonBTC.WorkingState
import MiniMiner.AvalonBTC.Unsolicited
import MiniMiner.AvalonBTC.Replies
import MiniMiner.Link
import MiniMiner.LinkProperties
import MiniMiner.TimerProperties
import MiniMiner.AvalonBTC.Capture
import MiniMiner.AvalonBTC.NonceDecoding
import MiniMiner.AvalonBTC.CompleteReports
import MiniMiner.AvalonBTC.TransmitRing
import MiniMiner.XilinxFpgaProg.Application
import MiniMiner.XilinxFpgaProg.Parser
import MiniMiner.XilinxFpgaProg.FrameStream
import MiniMiner.XilinxFpgaProg.Relay
import MiniMiner.Bfgminer.Statline
import MiniMiner.PeriodicTimer
import MiniMiner.XilinxFpgaProg.Reassembly
import MiniMiner.Bfgminer.CheckNonce
import MiniMiner.AvalonBTC.Resumption
import MiniMiner.RingAccess
import MiniMiner.Lufa.CdcSend
import MiniMiner.Lufa.CdcSendProperties
import MiniMiner.Lufa.CdcReceive
import MiniMiner.Lufa.CdcReceiveProperties
import MiniMiner.Lufa.ControlRequest
import MiniMiner.Lufa.ControlRequestProperties
import MiniMiner.Lufa.DescriptorProperties
import MiniMiner.Lufa.Port
import MiniMiner.AvalonBTC.Answers
import MiniMiner.AvalonBTC.HostSession
import MiniMiner.AvalonBTC.Polling
import MiniMiner.XilinxFpgaProg.HostStream
import MiniMiner.XilinxFpgaProg.LineEncoding
import MiniMiner.XilinxFpgaProg.RelayTimer
import MiniMiner.Lufa.CdcSendReturns
import MiniMiner.XilinxFpgaProg.SpiMode
