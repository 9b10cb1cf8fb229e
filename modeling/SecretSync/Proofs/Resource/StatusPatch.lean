import SecretSync.Proofs.Api.Address
import SecretSync.Proofs.Pass.Evaluation
import SecretSync.Proofs.Resource.RoundTrip

/-!
The patch of a status. Whatever text a stored binding is read from, the patched text reads as the
binding with the new status and nothing else changed, which is what a cluster in memory stores. The
text that is written of a binding tells its moments to the second, and so does what is read of it.
-/
namespace SecretSync

namespace Exchange

theorem patchStatus_of_named {b : Binding} {k : Key} (named : target b.metadata = .ok k) :
    ∃ x, patchStatus b = .ok x ∧ x.request = objectRequest? k .patch
      (statusPath k.space k.name ++ "?&fieldManager=" ++ controllerName)
      "application/merge-patch+json" (statusPatch b) := by
  rw [patchStatus, named]
  exact ⟨_, rfl, rfl⟩

theorem body_of_patchStatus {b : Binding} {x : Exchange Binding} {q : HttpRequest}
    (made : patchStatus b = .ok x) (sent : x.request = some q) :
    q.contentType = "application/merge-patch+json" ∧ q.body = statusPatch b := by
  cases named : target b.metadata with
  | error e =>
    rw [patchStatus, named] at made
    cases made
  | ok k =>
    obtain ⟨y, made', asks⟩ := patchStatus_of_named named
    cases made'.symm.trans made
    rw [asks, objectRequest?] at sent
    split at sent
    · cases sent
    · obtain ⟨_, -, rfl⟩ := Option.map_eq_some_iff.1 sent
      exact ⟨rfl, rfl⟩

end Exchange

/-- The patch that is sent to write a status. Over the text that is written of a stored binding it
gives that binding with the new status, its moments to the second; over any text that reads as the
stored binding it gives that binding with the new status and nothing else changed. And that is what
a cluster stores when the status is written, but for the version. -/
theorem status_patch_means_status_write {stored : Binding}
    (readable : stored.metadata.notes.Readable) (b : Binding) :
    (∀ x q, Exchange.patchStatus b = .ok x → x.request = some q →
      q.contentType = "application/merge-patch+json" ∧ q.body = Exchange.statusPatch b) ∧
    Binding.ofJson (Json.patched stored.toJson (Exchange.statusPatch b)) =
      .ok { stored with
        metadata := { stored.metadata with notes := stored.metadata.notes.told }
        status := b.status } ∧
    (∀ members, Binding.ofJson (.object members) = .ok stored →
      Binding.ofJson (Json.patched (.object members) (Exchange.statusPatch b)) =
        .ok { stored with status := b.status }) ∧
    ∀ (c : Cluster) k, c.failures .updateStatus = 0 → b.metadata.writeKey = .ok k →
      c.bindings.get? k = some stored → ∃ d,
        (c.updateStatus b).1 = .ok d ∧ (c.updateStatus b).2.bindings.get? k = some d ∧
        d = { stored with
          metadata := { stored.metadata with resourceVersion := some c.nextVersion }
          status := b.status } := by
  refine ⟨fun x q => Exchange.body_of_patchStatus, Binding.ofJson_patched readable b,
    fun members read => Binding.ofJson_patched_object read b, fun c k calm named there => ?_⟩
  have write := Cluster.updateStatus_calm calm named
  rw [there] at write
  rw [write]
  exact ⟨_, rfl, Table.get?_insert_self .., rfl⟩

def Binding.sampleAtNoon : Binding :=
  { Binding.sample with
    metadata := { Binding.sample.metadata with
      notes := { Bookkeeping.empty with created := some ⟨1714564800, 500000000⟩ } }
    status := some ⟨some "149603e6c03516362a8da23f624db945", none⟩ }

theorem Binding.readable_sampleAtNoon : sampleAtNoon.metadata.notes.Readable := by
  refine ⟨?_, nofun, nofun, nofun, nofun⟩
  rintro _ ⟨⟩
  change Moment.ofUnix? _ _ = _
  decide

def Binding.noonText : List (String × Json) :=
  [("metadata", .object
     [("creationTimestamp", .string "2024-05-01T12:00:00.5Z"), ("name", .string "db-cred"),
      ("namespace", .string "default"), ("resourceVersion", .string "1"), ("uid", .string "u1")]),
   ("spec", Binding.sample.spec.toJson),
   ("status", .object [("secretHash", .string "149603e6c03516362a8da23f624db945")])]

theorem Binding.ofJson_noonText : ofJson (.object noonText) = .ok sampleAtNoon := by
  rfl

/-- Half a second is lost over the text that is written of a binding. -/
theorem status_patch_drops_fraction :
    Binding.ofJson (Json.patched Binding.sampleAtNoon.toJson (Exchange.statusPatch .sample)) ≠
      .ok { Binding.sampleAtNoon with status := Binding.sample.status } := by
  rw [Binding.ofJson_patched Binding.readable_sampleAtNoon]
  intro same
  have created := congrArg (fun r => r.toOption.map fun d => d.metadata.notes.created) same
  exact absurd created (by decide)

/-- A status with one field is written over one with the other. -/
theorem sample_status_patched :
    let b : Binding := { Binding.sample with status := some ⟨none, some "2024-05-01T12:30:00Z"⟩ }
    let c : Cluster :=
      { Cluster.empty with
        bindings := Table.empty.insert ⟨"default", "db-cred"⟩ Binding.sampleAtNoon }
    (∃ x q, Exchange.patchStatus b = .ok x ∧ x.request = some q ∧
      q.body = .object [("status", .object
        [("lastAzureUpdate", .string "2024-05-01T12:30:00Z"), ("secretHash", .null)])]) ∧
    (∃ d, Binding.ofJson (Json.patched Binding.sampleAtNoon.toJson (Exchange.statusPatch b)) =
      .ok d ∧ d.status = b.status ∧ d.metadata.notes.created = some ⟨1714564800, 0⟩) ∧
    Binding.ofJson (Json.patched (.object Binding.noonText) (Exchange.statusPatch b)) =
      .ok { Binding.sampleAtNoon with status := b.status } ∧
    ∃ d, (c.updateStatus b).1 = .ok d ∧ d.status = b.status ∧ d.spec = Binding.sample.spec := by
  intro b c
  obtain ⟨sends, written, kept, stores⟩ :=
    status_patch_means_status_write Binding.readable_sampleAtNoon b
  have addressable : Key.Addressable ⟨"default", "db-cred"⟩ :=
    ⟨by decide, by decide, by decide⟩
  have request := Exchange.objectRequest?_of_reaches addressable
    (Exchange.reaches_status addressable) .patch "application/merge-patch+json"
    (Exchange.statusPatch b)
  obtain ⟨x, made, asks⟩ :=
    Exchange.patchStatus_of_named (b := b) (k := ⟨"default", "db-cred"⟩) rfl
  have sent := asks.trans request
  obtain ⟨d, answer, -, stored⟩ := stores c ⟨"default", "db-cred"⟩ rfl rfl rfl
  exact ⟨⟨x, _, made, sent, (sends x _ made sent).2⟩, ⟨_, written, rfl, rfl⟩,
    kept Binding.noonText Binding.ofJson_noonText, d, answer, stored ▸ rfl, stored ▸ rfl⟩

end SecretSync
