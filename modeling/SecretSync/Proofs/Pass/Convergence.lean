import SecretSync.Proofs.Pass.Quiescence

namespace SecretSync

open Digest (contentHash)

variable {w : World} {key : String} {k : Key} {b : Binding} {v : String}

/-- A spec sync without an error changes nothing over a Secret of the binding, or makes the Secret
and a status that tells of it. -/
theorem specSync_cases (sound : w.cluster.Sound) (parsed : Key.parse? key = some k)
    (found : w.cluster.bindings.get? k = some b) (value : w.vault.value? b = some v)
    (ok : (World.run (Pass.specSync key) w).1 = .ok ()) :
    (Idle w (World.run (Pass.specSync key) w).2 ∧
      ∃ s, w.cluster.secrets.get? b.outputKey = some s ∧ s.metadata.controlledBy b = true) ∨
    w.cluster.secrets.get? b.outputKey = none ∧
      Wrote .spec w b v (World.run (Pass.specSync key) w).2 ∧
      Told .spec w k b v (World.run (Pass.specSync key) w).2 := by
  have owned := owned_of_specSync sound parsed found ok
  have upshot := run_upshot .spec sound parsed found
  change Upshot .spec w k b (World.run (Pass.specSync key) w).2 _ at upshot
  change ∃ s, (World.run (Pass.specSync key) w).2.cluster.secrets.get? _ = _ ∧ _ at owned
  cases upshot with
  | idle idle =>
    rw [idle.cluster.secrets] at owned
    exact .inl ⟨idle, owned⟩
  | told u wrote told =>
    cases wrote.value.symm.trans value
    exact .inr ⟨wrote.free rfl, wrote, told⟩
  | untold u wrote untold left stuck => exact absurd ok stuck

/-- A poll without an error leaves the Secrets to a status that tells of the value, or it puts the
value in. -/
theorem vaultPoll_cases (sound : w.cluster.Sound) (parsed : Key.parse? key = some k)
    (found : w.cluster.bindings.get? k = some b) (value : w.vault.value? b = some v)
    (ok : (World.run (Pass.vaultPoll key) w).1 = .ok ()) :
    (b.observedHash = contentHash v ∧
      (World.run (Pass.vaultPoll key) w).2.cluster.secrets = w.cluster.secrets) ∨
    b.observedHash ≠ contentHash v ∧ ∃ s, b.HoldsFor v s ∧
      (World.run (Pass.vaultPoll key) w).2.cluster.secrets.get? b.outputKey = some s := by
  have upshot := run_upshot .poll sound parsed found
  change Upshot .poll w k b (World.run (Pass.vaultPoll key) w).2 _ at upshot
  cases upshot with
  | idle idle content =>
    obtain ⟨u, read, hash⟩ := content rfl ok
    cases read.symm.trans value
    exact .inl ⟨hash, idle.cluster.secrets⟩
  | told u wrote told =>
    cases wrote.value.symm.trans value
    obtain ⟨s, holds, secrets⟩ := wrote.secret
    have there := Table.get?_insert_self w.cluster.secrets b.outputKey s
    rw [← secrets] at there
    exact .inr ⟨wrote.changed rfl, s, holds, there⟩
  | untold u wrote untold left stuck => exact absurd ok stuck

/-- After a spec sync and a poll without an error the output Secret is there and belongs to the
binding. It holds the value in the vault if and only if it was not so that the status told of that
value already while the Secret was there without it. -/
theorem synced_and_polled_holds_iff {w : World} (reachable : w.Reachable)
    {key : String} {k : Key} {b : Binding} {v : String} (parsed : Key.parse? key = some k)
    (found : w.cluster.bindings.get? k = some b) (value : w.vault.value? b = some v)
    (synced : (World.run (Pass.specSync key) w).1 = .ok ())
    (polled : (World.run (Pass.vaultPoll key) (World.run (Pass.specSync key) w).2).1 = .ok ()) :
    ∃ s, (World.run (Pass.vaultPoll key)
        (World.run (Pass.specSync key) w).2).2.cluster.secrets.get? b.outputKey = some s ∧
      s.metadata.controlledBy b = true ∧
      (b.HoldsFor v s ↔ (b.observedHash = contentHash v →
        ∀ old, w.cluster.secrets.get? b.outputKey = some old → b.HoldsFor v old)) := by
  have sound := sound_run (Pass.specSync key) reachable.sound
  rcases specSync_cases reachable.sound parsed found value synced with
    ⟨idle, old, there, owned⟩ | ⟨free, wrote, told⟩
  · have found' := found
    have value' := (value?_congr idle.values b).trans value
    rw [← idle.cluster.bindings] at found'
    rcases vaultPoll_cases sound parsed found' value' polled with
      ⟨hash, same⟩ | ⟨differs, s, holds, stored⟩
    · refine ⟨old, ?_, owned, ?_⟩
      · rw [same, idle.cluster.secrets]
        exact there
      · constructor
        · intro holds _ old' there'
          cases there.symm.trans there'
          exact holds
        · intro held
          exact held hash old there
    · refine ⟨s, stored, holds.controlled, ?_⟩
      constructor
      · intro _ hash
        exact absurd hash differs
      · intro _
        exact holds
  · obtain ⟨d, alike, hash, bindings⟩ := told.binding
    obtain ⟨s, holds, secrets⟩ := wrote.secret
    have found' := Table.get?_insert_self w.cluster.bindings k d
    rw [← bindings] at found'
    have value' := (value?_alike alike wrote.values).trans value
    -- the status tells of the value by now, so the poll leaves the new Secret as it is
    rcases vaultPoll_cases sound parsed found' value' polled with ⟨_, same⟩ | ⟨differs, _⟩
    · refine ⟨s, ?_, holds.controlled, ?_⟩
      · rw [same, secrets]
        exact Table.get?_insert_self ..
      · constructor
        · intro _ _ old there
          exact nomatch free.symm.trans there
        · intro _
          exact holds
    · exact absurd hash differs

def Binding.rekeyed (b : Binding) (keyName : String) : Binding :=
  { b with spec := { b.spec with output := { b.spec.output with keyName := keyName } } }

def Binding.synced : Binding :=
  { Binding.sample with
    metadata := { Binding.sample.metadata with resourceVersion := some "3" }
    status := some ⟨some (contentHash "old"), some "1970-01-01T00:00:00Z"⟩ }

/-- The Secret was made for "old", the vault may have got another value, and then the binding was
given another key. -/
def World.rekeyed (value : String) : World :=
  [.vault (.sample value), .insertBinding (Binding.synced.rekeyed "login")].foldl World.edit
    (World.run (Pass.specSync "default/db-cred") (.sample "old")).2

theorem World.rekeyed_reachable (value : String) : (World.rekeyed value).Reachable := by
  have made := (World.sample_reachable "old").run (Pass.specSync "default/db-cred")
  exact (made.edit (.vault (.sample value))).edit (.insertBinding (Binding.synced.rekeyed "login"))

def Binding.relocated : Binding :=
  { Binding.synced.rekeyed "login" with
    metadata := { Binding.sample.metadata with resourceVersion := some "4" } }

theorem rekeyed_secret_gets_new_value :
    (World.rekeyed "new").cluster.bindings.get? ⟨"default", "db-cred"⟩ = some .relocated ∧
    ∃ s, (World.run (Pass.vaultPoll "default/db-cred")
        (World.run (Pass.specSync "default/db-cred")
          (.rekeyed "new")).2).2.cluster.secrets.get? ⟨"default", "db-secret"⟩ = some s ∧
      Binding.relocated.HoldsFor "new" s := by
  have found : (World.rekeyed "new").cluster.bindings.get? ⟨"default", "db-cred"⟩ =
      some .relocated := by decide +kernel
  have value : (World.rekeyed "new").vault.value? .relocated = some "new" := by decide +kernel
  have differs : Binding.relocated.observedHash ≠ contentHash "new" := by decide +kernel
  have synced := ok_of_isOk (r := (World.run (Pass.specSync "default/db-cred")
    (.rekeyed "new")).1) (by decide +kernel)
  have polled := ok_of_isOk (r := (World.run (Pass.vaultPoll "default/db-cred")
    (World.run (Pass.specSync "default/db-cred") (.rekeyed "new")).2).1) (by decide +kernel)
  obtain ⟨s, there, _, holds⟩ := synced_and_polled_holds_iff (World.rekeyed_reachable "new")
    (by decide +kernel) found value synced polled
  exact ⟨found, s, there, holds.2 fun hash => absurd hash differs⟩

/-- Nothing but the key has changed, so the status tells of the value and the poll is content. The
Secret has nothing under the new key. -/
theorem rekeyed_secret_left_behind :
    (World.rekeyed "old").Reachable ∧ (∀ op, (World.rekeyed "old").cluster.failures op = 0) ∧
    Key.parse? "default/db-cred" = some ⟨"default", "db-cred"⟩ ∧
    (World.rekeyed "old").cluster.bindings.get? ⟨"default", "db-cred"⟩ = some .relocated ∧
    Binding.relocated.metadata.uid = some "u1" ∧ Binding.relocated.spec.output.name ≠ "" ∧
    (World.rekeyed "old").vault.value? .relocated = some "old" ∧
    (∃ s, (World.rekeyed "old").cluster.secrets.get? ⟨"default", "db-secret"⟩ = some s ∧
      s.metadata.controlledBy .relocated = true) ∧
    (World.run (Pass.specSync "default/db-cred") (.rekeyed "old")).1 = .ok () ∧
    (World.run (Pass.vaultPoll "default/db-cred")
      (World.run (Pass.specSync "default/db-cred") (.rekeyed "old")).2).1 = .ok () ∧
    ¬ ∃ s, (World.run (Pass.vaultPoll "default/db-cred")
        (World.run (Pass.specSync "default/db-cred")
          (.rekeyed "old")).2).2.cluster.secrets.get? ⟨"default", "db-secret"⟩ = some s ∧
      Binding.relocated.HoldsFor "old" s := by
  have owned : ((World.rekeyed "old").cluster.secrets.get? ⟨"default", "db-secret"⟩).map
      (fun s => s.metadata.controlledBy .relocated) = some true := by decide +kernel
  have nothing : ((World.run (Pass.vaultPoll "default/db-cred")
      (World.run (Pass.specSync "default/db-cred")
        (.rekeyed "old")).2).2.cluster.secrets.get? ⟨"default", "db-secret"⟩).bind
          (fun s => s.value? "login") = none := by decide +kernel
  refine ⟨World.rekeyed_reachable "old", ?_, by decide +kernel, by decide +kernel, rfl,
    by decide, by decide +kernel, Option.map_eq_some_iff.1 owned, ok_of_isOk (by decide +kernel),
    ok_of_isOk (by decide +kernel), ?_⟩
  · intro op
    cases op <;> decide +kernel
  · rintro ⟨s, there, holds⟩
    have value : s.value? "login" = some "old" := holds.value
    rw [there, Option.bind_some, value] at nothing
    exact nomatch nothing

end SecretSync
