import VirtualCamera.Main
import VirtualCamera.Loop
import VirtualCamera.Sensor.Bench
import VirtualCamera.Importer
import VirtualCamera.Proofs.Locks
import VirtualCamera.Proofs.Record
import VirtualCamera.Proofs.Ledger
import VirtualCamera.Proofs.Conservation
import VirtualCamera.Proofs.Exposure
import VirtualCamera.Proofs.Tags
import VirtualCamera.Proofs.Order
import VirtualCamera.Proofs.Barrier
import VirtualCamera.Proofs.Closing
import VirtualCamera.Proofs.Provenance
import VirtualCamera.Proofs.Delivery
import VirtualCamera.Proofs.PlanarSizes
import VirtualCamera.Proofs.Admission
import VirtualCamera.Proofs.Custody
import VirtualCamera.Proofs.Waiting
import VirtualCamera.Proofs.Strokes
import VirtualCamera.Proofs.Painting
import VirtualCamera.Proofs.Callers
import VirtualCamera.Proofs.Jobs
import VirtualCamera.Proofs.Shutdown
import VirtualCamera.Proofs.Settings
import VirtualCamera.Proofs.Ranges
import VirtualCamera.Proofs.Regions
import VirtualCamera.Proofs.Survivors
import VirtualCamera.Proofs.FrameLength
import VirtualCamera.Proofs.Stopping
import VirtualCamera.Proofs.Pacing
import VirtualCamera.Proofs.CarriedSettings
import VirtualCamera.Proofs.Resupply
import VirtualCamera.Proofs.Batches
import VirtualCamera.Proofs.JsonText
import VirtualCamera.Proofs.RoundTrip
import VirtualCamera.Proofs.Lifecycle
import VirtualCamera.Proofs.Finals
import VirtualCamera.Proofs.Totals
import VirtualCamera.Proofs.Refusals
import VirtualCamera.Proofs.Repetition
import VirtualCamera.Proofs.Reports
import VirtualCamera.Proofs.Resolution
import VirtualCamera.Proofs.Dispatch
import VirtualCamera.Proofs.Templates
import VirtualCamera.Proofs.Forgetting
import VirtualCamera.Proofs.FrameContents
import VirtualCamera.Proofs.Acquisition
import VirtualCamera.Proofs.Extents
import VirtualCamera.Proofs.Grammar
import VirtualCamera.Proofs.Overlay
import VirtualCamera.Proofs.Tiling
import VirtualCamera.Proofs.SharedFences
import VirtualCamera.Proofs.Loops
import VirtualCamera.Proofs.WorkerLoop
