import SecretSync.Numeric.Binary64
import SecretSync.Table

namespace SecretSync

/-- How many observations stay within each bound, their sum and their number. -/
structure Histogram where
  within : List Nat
  sum : Binary64
  count : Nat
  deriving DecidableEq

namespace Histogram

def empty (bounds : List Binary64) : Histogram := ⟨bounds.map fun _ => 0, Binary64.zero, 0⟩

def observe (h : Histogram) (bounds : List Binary64) (x : Binary64) : Histogram where
  within := (bounds.zip h.within).map fun b => if x.le b.1 then b.2 + 1 else b.2
  sum := h.sum.add x
  count := h.count + 1

end Histogram

def hundredths (n : Nat) : Binary64 := Binary64.ofRatio false n 100

structure Metrics where
  /-- By queue and result. -/
  reconciliations : Table (String × String) Nat
  /-- By kind and queue. -/
  errors : Table (String × String) Nat
  durations : Table String Histogram
  dropped : Table String Nat
  depth : Table String Nat
  created : Nat
  updated : Nat
  vaultReads : Nat
  vaultErrors : Nat
  vaultDurations : Histogram
  skipped : Table String Nat
  deriving DecidableEq

namespace Metrics

/-- Bounds for the seconds of a pass. -/
def durationBounds : List Binary64 := [1, 5, 10, 50, 100, 200, 500, 1000].map hundredths

/-- Bounds for the seconds of a vault read. -/
def vaultBounds : List Binary64 := [5, 10, 50, 100, 200, 500].map hundredths

def empty : Metrics where
  reconciliations := Table.empty
  errors := Table.empty
  durations := Table.empty
  dropped := Table.empty
  depth := Table.empty
  created := 0
  updated := 0
  vaultReads := 0
  vaultErrors := 0
  vaultDurations := Histogram.empty vaultBounds
  skipped := Table.empty

instance : Inhabited Metrics := ⟨empty⟩

/-- Samples of a family are told apart by their label values written one after the other; a sample
keeps the values it was first used with. -/
def sampleKey (text : String × String → String) (samples : Table (String × String) Nat)
    (key : String × String) : String × String :=
  (samples.keys.find? fun k => text k = text key).getD key

/-- One more for the sample of a pair of label values. -/
def countPair (text : String × String → String) (samples : Table (String × String) Nat)
    (key : String × String) : Table (String × String) Nat :=
  samples.adjust (sampleKey text samples key) 0 (· + 1)

def countReconciliation (m : Metrics) (queue result : String) : Metrics :=
  { m with
    reconciliations := countPair (fun k => k.1 ++ k.2) m.reconciliations (queue, result) }

def countError (m : Metrics) (queue kind : String) : Metrics :=
  { m with errors := countPair (fun k => k.2 ++ k.1) m.errors (kind, queue) }

def observeDuration (m : Metrics) (queue : String) (seconds : Binary64) : Metrics :=
  { m with
    durations := m.durations.adjust queue (Histogram.empty durationBounds) fun h =>
      h.observe durationBounds seconds }

def countDropped (m : Metrics) (queue : String) : Metrics :=
  { m with dropped := m.dropped.adjust queue 0 (· + 1) }

/-- A gauge holds at most 2^63 - 1. -/
def setDepth (m : Metrics) (queue : String) (depth : Nat) : Metrics :=
  { m with depth := m.depth.insert queue (min depth (Nat.pow 2 63 - 1)) }

def countCreated (m : Metrics) : Metrics := { m with created := m.created + 1 }

def countUpdated (m : Metrics) : Metrics := { m with updated := m.updated + 1 }

def countVaultRead (m : Metrics) (seconds : Binary64) (success : Bool) : Metrics :=
  { m with
    vaultReads := m.vaultReads + 1
    vaultErrors := if success then m.vaultErrors else m.vaultErrors + 1
    vaultDurations := m.vaultDurations.observe vaultBounds seconds }

def countSkipped (m : Metrics) (reason : String) : Metrics :=
  { m with skipped := m.skipped.adjust reason 0 (· + 1) }

end Metrics

end SecretSync
