import TelemetryRelay.Main
import TelemetryRelay.Message.Reading
import TelemetryRelay.Parties
import TelemetryRelay.SourceScan
import TelemetryRelay.Proofs.Wire.Reading
import TelemetryRelay.Proofs.Bytes
import TelemetryRelay.Proofs.Wire.Grammar
import TelemetryRelay.Proofs.Wire.Stream
import TelemetryRelay.Proofs.Wire.Checksum
import TelemetryRelay.Proofs.Wire.Corruption
import TelemetryRelay.Proofs.Machine
import TelemetryRelay.Proofs.Link.Steps
import TelemetryRelay.Proofs.Link.Soundness
import TelemetryRelay.Proofs.Link.Runs
import TelemetryRelay.Proofs.Link.FailedConnection
import TelemetryRelay.Proofs.Link.SingleFlight
import TelemetryRelay.Proofs.Wire.Progress
import TelemetryRelay.Proofs.Link.FreshConnection
import TelemetryRelay.Proofs.Link.Termination
import TelemetryRelay.Proofs.Link.Alone
import TelemetryRelay.Proofs.Link.Course
import TelemetryRelay.Proofs.Link.Budget
import TelemetryRelay.Proofs.Outbox.Steps
import TelemetryRelay.Proofs.Outbox.Order
import TelemetryRelay.Proofs.Bus.History
import TelemetryRelay.Proofs.Bus.Widening
import TelemetryRelay.Proofs.Node.Steps
import TelemetryRelay.Proofs.Assoc
import TelemetryRelay.Proofs.Node.Carriage
import TelemetryRelay.Proofs.Node.Effects
import TelemetryRelay.Proofs.Node.Subscriptions
import TelemetryRelay.Proofs.Node.Frames
import TelemetryRelay.Proofs.Link.Jobs
import TelemetryRelay.Proofs.Node.Replies
import TelemetryRelay.Proofs.Node.Publishing
import TelemetryRelay.Proofs.Wire.Sequence
import TelemetryRelay.Proofs.Link.Bound
import TelemetryRelay.Proofs.Node.Connections
import TelemetryRelay.Proofs.Node.Intake
import TelemetryRelay.Proofs.Link.Position
import TelemetryRelay.Proofs.Node.Reader
import TelemetryRelay.Proofs.Node.Stream
import TelemetryRelay.Proofs.Node.Inbound
import TelemetryRelay.Proofs.Mapping.Building
import TelemetryRelay.Proofs.Mapping.Offence
import TelemetryRelay.Proofs.Mapping
import TelemetryRelay.Proofs.Node.Sharing
import TelemetryRelay.Proofs.Node.Dues
import TelemetryRelay.Proofs.Node.Relaying
import TelemetryRelay.Proofs.Node.Forwarding
import TelemetryRelay.Proofs.Message.Catalogue
import TelemetryRelay.Proofs.Wire.Resumption
import TelemetryRelay.Proofs.Link.PerConnection
import TelemetryRelay.Proofs.Link.Received
import TelemetryRelay.Proofs.Link.Sent
import TelemetryRelay.Proofs.Node.Advertising
import TelemetryRelay.Proofs.Relay
import TelemetryRelay.Proofs.Node.Aside
import TelemetryRelay.Proofs.Node.Plans
import TelemetryRelay.Proofs.Node.Acceptors
import TelemetryRelay.Proofs.Node.Lineage
import TelemetryRelay.Proofs.Node.Peers
import TelemetryRelay.Proofs.Node.Admission
import TelemetryRelay.Proofs.Node.Hearing
import TelemetryRelay.Proofs.Node.Closing
import TelemetryRelay.Proofs.Node.Order
import TelemetryRelay.Proofs.Node.Passage
import TelemetryRelay.Proofs.Relay.Stop
import TelemetryRelay.Proofs.Message.Descent
import TelemetryRelay.Proofs.Text.Utf8
import TelemetryRelay.Proofs.Text.Pieces
import TelemetryRelay.Proofs.Message.Pilot
import TelemetryRelay.Proofs.SourceScan
import TelemetryRelay.Proofs.Bus.Entries
import TelemetryRelay.Proofs.Message.Laser
