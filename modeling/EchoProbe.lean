import EchoProbe.Main
import EchoProbe.Session
import EchoProbe.Simulation.Network
import EchoProbe.Wire.Datagram
import EchoProbe.Proofs.Classification.Effect
import EchoProbe.Proofs.Classification.Quotes
import EchoProbe.Proofs.Ledger.History
import EchoProbe.Proofs.Run.FatalSend
import EchoProbe.Proofs.Run.RoundTrip
import EchoProbe.Proofs.Session.Spoofing
import EchoProbe.Proofs.Wire.RoundTrip
import EchoProbe.Proofs.Classification.Recovery
import EchoProbe.Proofs.Wire.Verification
import EchoProbe.Proofs.Run.Delivery
import EchoProbe.Proofs.Run.LifeCycle
import EchoProbe.Proofs.Run.Stopping
import EchoProbe.Proofs.Run.Ending
import EchoProbe.Proofs.Run.Failures
import EchoProbe.Proofs.Run.DeadProcessor
import EchoProbe.Proofs.Wire.Bounds
import EchoProbe.Proofs.Run.Datagrams
import EchoProbe.Proofs.Sending
import EchoProbe.Proofs.Ledger.Sweeping
import EchoProbe.Proofs.Statistics.Order
import EchoProbe.Proofs.Classification.Reordering
import EchoProbe.Proofs.Wire.Corruption
import EchoProbe.Proofs.Run.Sending
import EchoProbe.Proofs.Run.Pacing
import EchoProbe.Proofs.Statistics.Summary
import EchoProbe.Proofs.Run.ClockEnd
import EchoProbe.Proofs.Reporter.Tower
import EchoProbe.Proofs.Run.Encapsulation
import EchoProbe.Proofs.Run.Interruptions
