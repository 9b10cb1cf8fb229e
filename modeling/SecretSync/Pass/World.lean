import SecretSync.Metrics.Basic
import SecretSync.Pass.Owner
import SecretSync.Pass.Sync
import SecretSync.Store.Cluster

namespace SecretSync

structure RecordedEvent where
  subject : String
  event : Event
  deriving DecidableEq, Repr

structure World where
  cluster : Cluster
  vault : Vault
  events : List RecordedEvent
  metrics : Metrics
  clock : Moment

namespace World

def start (clock : Moment) : World := ⟨Cluster.empty, Vault.empty, [], Metrics.empty, clock⟩

def bump (m : Metrics) : Counter → Metrics
  | .created => m.countCreated
  | .updated => m.countUpdated
  | .skipped reason => m.countSkipped reason

/-- Changes the cluster by a call and gives its answer. -/
def call (w : World) (f : Cluster → Cluster.Answer α) : Except StoreError α × World :=
  let r := f w.cluster
  (r.1, { w with cluster := r.2 })

def answer : (q : Request) → World → q.Answer × World
  | .getBinding k, w => w.call fun c => c.getBinding k
  | .getSecret k, w => w.call fun c => c.getSecret k
  | .readVault b, w =>
    let r := w.vault.read b
    (r.1, { w with vault := r.2 })
  | .createSecret s, w => w.call fun c => c.createSecret s
  | .updateSecret s, w => w.call fun c => c.updateSecret s
  | .updateStatus b, w => w.call fun c => c.updateStatus b
  | .record b e, w => ((), { w with events := w.events ++ [⟨b.key, e⟩] })
  | .count c, w => ((), { w with metrics := bump w.metrics c })
  | .now, w => (w.clock, w)

/-- As `answer`, but Secrets are read from a snapshot that may lag behind. -/
def answerLagging (snapshot : Option Secret) : (q : Request) → World → q.Answer × World
  | .getSecret _, w => (.ok snapshot, w)
  | q, w => answer q w

def run (p : Pass α) (w : World) : Except PassError α × World := Program.run answer p.run w

def runLagging (snapshot : Option Secret) (p : Pass α) (w : World) : Except PassError α × World :=
  Program.run (answerLagging snapshot) p.run w

end World

end SecretSync
