import SecretSync.Queue.Station
import Mathlib.Data.List.Basic
import Mathlib.Data.List.Infix

/-!
What each count changes. The samples of a family are told apart by their labels put together, which
is safe for the labels in use: no result ends with another, and no kind of an error does.
-/
namespace SecretSync

namespace PassError

def kinds : List String :=
  ["invalid_key", "missing_output_name", "missing_owner_identity", "resource_conflict",
    "vault_fetch", "materialized_secret_missing", "decode", "store"]

theorem kind_mem (e : PassError) : e.kind ∈ kinds := by
  cases e <;> simp [kind, kinds]

end PassError

/-- No text of a list ends with another one. -/
def Endings (l : List String) : Prop := ∀ r ∈ l, ∀ s ∈ l, r.toList <:+ s.toList → r = s

theorem Endings.append_inj {l : List String} {a b r s : String} (endings : Endings l)
    (first : r ∈ l) (second : s ∈ l) (same : a ++ r = b ++ s) : a = b ∧ r = s := by
  have parts : a.toList ++ r.toList = b.toList ++ s.toList := by
    simpa using congrArg String.toList same
  have one : r.toList <:+ a.toList ++ r.toList := List.suffix_append ..
  have two : s.toList <:+ a.toList ++ r.toList := parts ▸ List.suffix_append ..
  have ends : r = s := (List.suffix_or_suffix_of_suffix one two).elim
    (endings r first s second) fun under => (endings s second r first under).symm
  subst ends
  exact ⟨String.toList_inj.1 (List.append_cancel_right parts), rfl⟩

namespace Metrics

def resultLabel (ok : Bool) : String := if ok then "success" else "error"

def results : List String := [resultLabel true, resultLabel false]

theorem endings_results : Endings results := by
  unfold Endings
  decide +kernel

theorem endings_kinds : Endings PassError.kinds := by
  unfold Endings
  decide +kernel

section Pairs

variable {text : String × String → String} {samples : Table (String × String) Nat}
  {key k : String × String}

theorem mem_keys_insert {κ α : Type} [DecidableEq κ] [KeyOrder κ] {t : Table κ α} {k j : κ} {v : α}
    (inside : j ∈ (t.insert k v).keys) : j = k ∨ j ∈ t.keys := by
  obtain ⟨e, there, rfl⟩ := List.mem_map.1 inside
  rcases Table.mem_place there with rfl | there
  · exact .inl rfl
  · exact .inr (List.mem_map_of_mem there)

/-- No other sample goes by the same text. -/
def Owned (text : String × String → String) (samples : Table (String × String) Nat)
    (key : String × String) : Prop := ∀ k ∈ samples.keys, text k = text key → k = key

theorem sampleKey_eq (own : Owned text samples key) :
    sampleKey text samples key = key := by
  unfold sampleKey
  cases found : samples.keys.find? fun k => text k = text key with
  | none => rfl
  | some k => exact own k (List.mem_of_find?_eq_some found) (by simpa using List.find?_some found)

theorem get?_countPair (own : Owned text samples key) (k) :
    ((countPair text samples key).get? k).getD 0 =
      (samples.get? k).getD 0 + if key = k then 1 else 0 := by
  rw [countPair, sampleKey_eq own, Table.adjust, Table.get?_insert]
  split_ifs with same
  · rw [same]
    rfl
  · rfl

theorem mem_keys_countPair (own : Owned text samples key)
    (inside : k ∈ (countPair text samples key).keys) : k = key ∨ k ∈ samples.keys := by
  rw [countPair, sampleKey_eq own] at inside
  exact mem_keys_insert inside

end Pairs

inductive Line where
  | success
  | failure
  | kind (k : String)
  | dropped
  | duration
  deriving DecidableEq

def Line.ofResult (ok : Bool) : Line := if ok then .success else .failure

def read (m : Metrics) (queue : String) : Line → Nat
  | .success => (m.reconciliations.get? (queue, "success")).getD 0
  | .failure => (m.reconciliations.get? (queue, "error")).getD 0
  | .kind k => (m.errors.get? (k, queue)).getD 0
  | .dropped => (m.dropped.get? queue).getD 0
  | .duration => ((m.durations.get? queue).map Histogram.count).getD 0

structure Labelled (m : Metrics) : Prop where
  results : ∀ k ∈ m.reconciliations.keys, k.2 ∈ results
  kinds : ∀ k ∈ m.errors.keys, k.1 ∈ PassError.kinds

/-- At most one more is counted, on a line of a queue, and the depths may change. -/
structure Counts (m m' : Metrics) (entry : Option (String × Line)) : Prop where
  labelled : m'.Labelled
  read : ∀ q l, m'.read q l = m.read q l + if entry = some (q, l) then 1 else 0
  created : m'.created = m.created
  updated : m'.updated = m.updated

variable {m : Metrics} {queue : String}

theorem Labelled.result_own (labelled : m.Labelled) (queue : String) {result : String}
    (known : result ∈ Metrics.results) :
    Owned (fun k => k.1 ++ k.2) m.reconciliations (queue, result) := by
  intro k inside same
  obtain ⟨first, second⟩ := endings_results.append_inj (labelled.results k inside) known same
  exact Prod.ext first second

theorem Labelled.kind_own (labelled : m.Labelled) (e : PassError) :
    Owned (fun k => k.2 ++ k.1) m.errors (e.kind, queue) := by
  intro k inside same
  obtain ⟨second, first⟩ := endings_kinds.append_inj (labelled.kinds k inside) e.kind_mem same
  exact Prod.ext first second

theorem counts_reconciliation (labelled : m.Labelled) (queue : String) (ok : Bool) :
    Counts m (m.countReconciliation queue (resultLabel ok)) (some (queue, .ofResult ok)) :=
  have known : resultLabel ok ∈ results := by cases ok <;> decide
  have own := labelled.result_own queue known
  { labelled :=
      { results := fun k inside => by
          rcases mem_keys_countPair own inside with rfl | inside
          · exact known
          · exact labelled.results k inside
        kinds := labelled.kinds }
    read := fun q l => by
      have count (r : String) := get?_countPair own (q, r)
      cases l with
      | success =>
        refine (count "success").trans ?_
        cases ok <;> simp [read, resultLabel, Line.ofResult]
      | failure =>
        refine (count "error").trans ?_
        cases ok <;> simp [read, resultLabel, Line.ofResult]
      | _ => cases ok <;> simp [read, countReconciliation, Line.ofResult]
    created := rfl
    updated := rfl }

theorem counts_error (labelled : m.Labelled) (queue : String) (e : PassError) :
    Counts m (m.countError queue e.kind) (some (queue, .kind e.kind)) where
  labelled :=
    { results := labelled.results
      kinds := fun k inside => by
        rcases mem_keys_countPair (labelled.kind_own e) inside with rfl | inside
        · exact e.kind_mem
        · exact labelled.kinds k inside }
  read := fun q l => by
    cases l with
    | kind k =>
      refine (get?_countPair (labelled.kind_own e) (k, q)).trans ?_
      simp only [read, Option.some.injEq, Line.kind.injEq, Prod.mk.injEq, and_comm]
    | _ => simp [read, countError]
  created := rfl
  updated := rfl

theorem counts_dropped (labelled : m.Labelled) (queue : String) :
    Counts m (m.countDropped queue) (some (queue, .dropped)) where
  labelled := ⟨labelled.results, labelled.kinds⟩
  read := fun q l => by
    cases l with
    | dropped =>
      simp only [read, countDropped, Table.adjust, Table.get?_insert, Option.some.injEq,
        Prod.mk.injEq, and_true]
      split_ifs with same
      · rw [same]
        rfl
      · rfl
    | _ => simp [read, countDropped]
  created := rfl
  updated := rfl

theorem counts_duration (labelled : m.Labelled) (queue : String) (seconds : Binary64) :
    Counts m (m.observeDuration queue seconds) (some (queue, .duration)) where
  labelled := ⟨labelled.results, labelled.kinds⟩
  read := fun q l => by
    cases l with
    | duration =>
      simp only [read, observeDuration, Table.adjust, Table.get?_insert, Option.some.injEq,
        Prod.mk.injEq, and_true]
      split_ifs with same
      · subst same
        cases m.durations.get? queue <;> rfl
      · rfl
    | _ => simp [read, observeDuration]
  created := rfl
  updated := rfl

theorem Counts.refl (labelled : m.Labelled) : Counts m m none :=
  ⟨labelled, fun _ _ => rfl, rfl, rfl⟩

theorem counts_beside (labelled : m.Labelled) (depth skipped : Table String Nat)
    (reads errors : Nat) (durations : Histogram) :
    Counts m
      { m with
        depth := depth, skipped := skipped
        vaultReads := reads, vaultErrors := errors, vaultDurations := durations } none where
  labelled := ⟨labelled.results, labelled.kinds⟩
  read := fun q l => by cases l <;> rfl
  created := rfl
  updated := rfl

def gauge (m : Metrics) (queue : String) : Nat := (m.depth.get? queue).getD 0

end Metrics

namespace Station

variable {s : Station} {m : Metrics}

/-- The gauge of a queue tells how many keys wait, as far as it goes. -/
def Gauged (s : Station) (m : Metrics) : Prop :=
  m.gauge s.name = min s.queue.length (Nat.pow 2 63 - 1)

theorem update_metrics (s : Station) (q : WorkQueue) (m : Metrics) :
    ∃ depth, (s.update q m).2 = { m with depth := depth } := by
  simp only [update, report]
  split_ifs
  · exact ⟨m.depth, rfl⟩
  · exact ⟨_, rfl⟩

theorem Gauged.update (gauged : s.Gauged m) (q : WorkQueue) :
    (s.update q m).1.Gauged (s.update q m).2 := by
  simp only [Gauged, Station.update, report]
  split_ifs with same
  · rw [same]
    exact gauged
  · simp only [Metrics.gauge, Metrics.setDepth, Table.get?_insert_self, Option.getD_some]

theorem gauge_update (s : Station) (q : WorkQueue) (m : Metrics) {name : String}
    (other : name ≠ s.name) : (s.update q m).2.gauge name = m.gauge name := by
  simp only [update, report]
  split_ifs
  · rfl
  · simp only [Metrics.gauge, Metrics.setDepth, Table.get?_insert_of_ne _ _ other.symm]

end Station

end SecretSync
