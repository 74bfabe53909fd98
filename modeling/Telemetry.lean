import Telemetry.Octets.Value
import Telemetry.Station.Service
import Telemetry.Main
import Telemetry.Proofs.Bmp.Chunks
import Telemetry.Proofs.Bmp.Accounting
import Telemetry.Proofs.Bmp.Neighbours
import Telemetry.Proofs.Bmp.RoundTrip
import Telemetry.Proofs.Bmp.Searching
import Telemetry.Proofs.Netflow.CacheHistory
import Telemetry.Proofs.Netflow.Isolation
import Telemetry.Proofs.Netflow.FlowsetOrder
import Telemetry.Proofs.Sflow.Modes
import Telemetry.Proofs.Sflow.RoundTrip
import Telemetry.Proofs.Bmp.Shape
import Telemetry.Proofs.Bmp.Prefixes
import Telemetry.Proofs.Bmp.Landing
import Telemetry.Proofs.Station.Dispatching
import Telemetry.Proofs.Station.Delivery
import Telemetry.Proofs.Station.Settlement
import Telemetry.Proofs.Station.Admission
import Telemetry.Proofs.Station.Listening
import Telemetry.Proofs.Station.Turns
import Telemetry.Proofs.Station.Conservation
import Telemetry.Proofs.Station.Interleaving
import Telemetry.Proofs.Bmp.Resuming
import Telemetry.Proofs.Station.Recutting
import Telemetry.Proofs.Netflow.Records
import Telemetry.Proofs.Netflow.Usability
import Telemetry.Proofs.Netflow.Tasks
import Telemetry.Proofs.Netflow.Racing
import Telemetry.Proofs.Station.Ports
import Telemetry.Proofs.Station.Starting
import Telemetry.Proofs.Netflow.CacheEffect
import Telemetry.Proofs.Netflow.Duplicates
import Telemetry.Proofs.Sflow.Truncation
import Telemetry.Proofs.Sflow.Reencoding
import Telemetry.Proofs.Bmp.Resyncing
import Telemetry.Proofs.Bmp.Waiting
import Telemetry.Proofs.Bmp.Agreement
import Telemetry.Proofs.Bmp.Modes
import Telemetry.Proofs.Bmp.Losses
import Telemetry.Proofs.Netflow.Kinds
import Telemetry.Proofs.Sflow.Shortage
import Telemetry.Proofs.Station.Shortage
import Telemetry.Proofs.Wire.TlvSplitting
