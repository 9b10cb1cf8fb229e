import SecretSync.Api.Recorder
import SecretSync.Controller.CommandLine
import SecretSync.Controller.Probe
import SecretSync.Json.Merge
import SecretSync.Json.Yaml
import SecretSync.Main
import SecretSync.Metrics.Exposition
import SecretSync.Proofs.Store.Contents
import SecretSync.Proofs.Store.Versions
import SecretSync.Resource.Definition
import SecretSync.Watch.Loop
import SecretSync.Proofs.Pass.Protocol
import SecretSync.Proofs.Pass.Reachable
import SecretSync.Proofs.Race.Scene
import SecretSync.Proofs.Race.Ownership
import SecretSync.Proofs.Race.Order
import SecretSync.Proofs.Pass.Solo
import SecretSync.Proofs.Pass.Evaluation
import SecretSync.Proofs.Pass.Quiescence
import SecretSync.Proofs.Pass.Recovery
import SecretSync.Proofs.Race.Overtaking
import SecretSync.Proofs.Queue.SingleFlight
import SecretSync.Proofs.Queue.Delivery
import SecretSync.Proofs.Watch.Feeding
import SecretSync.Proofs.Watch.Relist
import SecretSync.Proofs.Pass.Convergence
import SecretSync.Proofs.Queue.Crew
import SecretSync.Proofs.Queue.Return
import SecretSync.Proofs.Queue.Ceiling
import SecretSync.Proofs.Controller.Calm
import SecretSync.Proofs.Controller.Upkeep
import SecretSync.Proofs.Queue.Wakeup
import SecretSync.Proofs.Race.Frame
import SecretSync.Proofs.Pass.Marked
import SecretSync.Proofs.Pass.Course
import SecretSync.Proofs.Pass.Independence
import SecretSync.Proofs.Controller.Healing
import SecretSync.Proofs.Race.Descent
import SecretSync.Proofs.Controller.Aside
import SecretSync.Proofs.Controller.Shift
import SecretSync.Proofs.Controller.Shutdown
import SecretSync.Proofs.Store.Likeness
import SecretSync.Proofs.Pass.Secrecy
import SecretSync.Proofs.Resource.Admission
import SecretSync.Proofs.Api.Agreement
import SecretSync.Proofs.Pass.Aftermath
import SecretSync.Proofs.Controller.Schedule
import SecretSync.Proofs.Controller.Listing
import SecretSync.Proofs.Controller.Tally
import SecretSync.Proofs.Store.Calls
import SecretSync.Proofs.Store.Snapshots
import SecretSync.Proofs.Store.Refusals
import SecretSync.Proofs.Pass.Notices
import SecretSync.Proofs.Pass.Materialize
import SecretSync.Proofs.Resource.StatusPatch
import SecretSync.Proofs.Time.Backoff
import SecretSync.Proofs.Time.Notation
import SecretSync.Proofs.Pass.Lookup
import SecretSync.Proofs.Json.ReadBack
import SecretSync.Proofs.Resource.Forms
import SecretSync.Proofs.Queue.Stray
import SecretSync.Proofs.Controller.Layers
import SecretSync.Proofs.Metrics.Account
