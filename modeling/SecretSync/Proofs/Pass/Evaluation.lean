import SecretSync.Proofs.Pass.Solo

namespace SecretSync

open Digest (contentHash)

namespace Cluster

variable {c : Cluster} {k : Key} {s : Secret} {b : Binding}

theorem attempt_calm {op : Operation} {call : Answer α} (calm : c.failures op = 0) :
    c.attempt op call = call := by
  have none : ¬ 0 < c.failures op := by omega
  rw [attempt, if_neg none]

theorem createSecret_calm (calm : c.failures .createSecret = 0)
    (ready : s.metadata.writeKey = .ok k) :
    c.createSecret s =
      match c.secrets.get? k with
      | some _ => (.error (.conflict "Secret" k.render "already exists"), c)
      | none => (.ok (c.created s), c.withCreated k s) := by
  rw [createSecret, ready]
  exact attempt_calm calm

theorem updateSecret_calm (calm : c.failures .updateSecret = 0)
    (ready : s.metadata.writeKey = .ok k) :
    c.updateSecret s =
      match c.secrets.get? k with
      | none => (.error (.notFound "Secret" k.render), c)
      | some existing =>
        if fresh s existing then
          (.ok (c.replaced s existing), c.withReplaced k s existing)
        else (.error (.conflict "Secret" k.render "the object has been modified"), c) := by
  rw [updateSecret, ready]
  exact attempt_calm calm

theorem updateStatus_calm (calm : c.failures .updateStatus = 0)
    (ready : b.metadata.writeKey = .ok k) :
    c.updateStatus b =
      match c.bindings.get? k with
      | none => (.error (.notFound Binding.kind k.render), c)
      | some existing => (.ok (c.restated b existing), c.withRestated k b existing) := by
  rw [updateStatus, ready]
  exact attempt_calm calm

end Cluster

namespace World

section Equations

theorem run_bind (p : Pass α) (f : α → Pass β) (w : World) :
    run (p >>= f) w =
      match run p w with
      | (.ok a, w') => run (f a) w'
      | (.error e, w') => (.error e, w') := by
  unfold run
  rw [Pass.run_bind]
  obtain ⟨e | a, w'⟩ := Program.run answer p.run w <;> rfl

theorem run_bind_of_ok {p : Pass α} {f : α → Pass β} {w w' : World} {a : α}
    (h : run p w = (.ok a, w')) : run (p >>= f) w = run (f a) w' := by
  rw [run_bind, h]

theorem run_bind_of_error {p : Pass α} {f : α → Pass β} {w w' : World} {e : PassError}
    (h : run p w = (.error e, w')) : run (p >>= f) w = (.error e, w') := by
  rw [run_bind, h]

theorem run_ofStore {p : Pass (Except StoreError α)} {w w' : World} {a : α}
    (h : run p w = (.ok (.ok a), w')) : run (do Pass.ofStore (← p)) w = (.ok a, w') := by
  rw [run_bind_of_ok h]
  rfl

theorem run_parseKey {key : String} {k : Key} (parsed : Key.parse? key = some k) (w : World) :
    run (Pass.parseKey key) w = (.ok k, w) := by
  unfold Pass.parseKey
  rw [parsed]
  rfl

theorem run_getBinding_of {w : World} {answer : (q : Request) → World → q.Answer × World} {k : Key}
    (asks : answer (.getBinding k) w = w.call fun c => c.getBinding k)
    (calm : w.cluster.failures .getBinding = 0) :
    Program.run answer (Pass.getBinding k).run w = (.ok (w.cluster.bindings.get? k), w) := by
  have asked : Program.run answer (Pass.ask (.getBinding k)).run w =
      (.ok (answer (.getBinding k) w).1, (answer (.getBinding k) w).2) := rfl
  unfold Pass.getBinding
  rw [Pass.run_bind, asked, asks, World.call, Cluster.getBinding, Cluster.attempt_calm calm]
  rfl

theorem run_getBinding {w : World} (calm : w.cluster.failures .getBinding = 0) (k : Key) :
    run (Pass.getBinding k) w = (.ok (w.cluster.bindings.get? k), w) := run_getBinding_of rfl calm

theorem run_getSecret {w : World} (calm : w.cluster.failures .getSecret = 0) (k : Key) :
    run (Pass.getSecret k) w = (.ok (w.cluster.secrets.get? k), w) := by
  apply run_ofStore
  change (Except.ok (w.cluster.getSecret k).1,
    ({ w with cluster := (w.cluster.getSecret k).2 } : World)) = _
  rw [Cluster.getSecret, Cluster.attempt_calm calm]

theorem run_readVault (w : World) (b : Binding) : run (Pass.readVault b) w =
    (.ok (w.vault.read b).1, { w with vault := (w.vault.read b).2 }) := rfl

theorem run_ensureSecret_nameless {b : Binding} (nameless : b.spec.output.name = "") (w : World) :
    run (Pass.ensureSecret b) w = (.error (.missingOutputName b.key), w) := by
  unfold Pass.ensureSecret
  rw [if_pos nameless]
  rfl

theorem run_ensureSecret_found {w : World} {b : Binding} {s : Secret}
    (calm : w.cluster.failures .getSecret = 0) (named : b.spec.output.name ≠ "")
    (there : w.cluster.secrets.get? b.outputKey = some s) :
    run (Pass.ensureSecret b) w = (.ok s, w) := by
  unfold Pass.ensureSecret
  rw [if_neg named]
  change run (Pass.getSecret b.outputKey >>= _) w = _
  rw [run_bind_of_ok (run_getSecret calm b.outputKey), there]
  rfl

end Equations

section Writes

variable {w : World} {k : Key} {b : Binding} {s : Secret}

theorem run_createSecret (calm : w.cluster.failures .createSecret = 0)
    (named : s.metadata.writeKey = .ok k) (free : w.cluster.secrets.get? k = none) :
    run (Pass.createSecret s) w =
      (.ok (w.cluster.created s), { w with cluster := w.cluster.withCreated k s }) := by
  apply run_ofStore
  change (Except.ok (w.cluster.createSecret s).1,
    ({ w with cluster := (w.cluster.createSecret s).2 } : World)) = _
  rw [Cluster.createSecret_calm calm named, free]

theorem run_updateSecret {e : Secret} (calm : w.cluster.failures .updateSecret = 0)
    (named : s.metadata.writeKey = .ok k) (there : w.cluster.secrets.get? k = some e)
    (fresh : Cluster.fresh s e = true) : run (Pass.updateSecret s) w =
      (.ok (w.cluster.replaced s e), { w with cluster := w.cluster.withReplaced k s e }) := by
  apply run_ofStore
  change (Except.ok (w.cluster.updateSecret s).1,
    ({ w with cluster := (w.cluster.updateSecret s).2 } : World)) = _
  rw [Cluster.updateSecret_calm calm named, there]
  dsimp only
  rw [if_pos fresh]

theorem run_updateStatus {existing : Binding} (calm : w.cluster.failures .updateStatus = 0)
    (named : b.metadata.writeKey = .ok k) (there : w.cluster.bindings.get? k = some existing) :
    run (Pass.updateStatus b) w = (.ok (w.cluster.restated b existing),
      { w with cluster := w.cluster.withRestated k b existing }) := by
  apply run_ofStore
  change (Except.ok (w.cluster.updateStatus b).1,
    ({ w with cluster := (w.cluster.updateStatus b).2 } : World)) = _
  rw [Cluster.updateStatus_calm calm named, there]

theorem run_createSecret_nameless {e : StoreError} (w : World)
    (nameless : s.metadata.writeKey = .error e) :
    run (Pass.createSecret s) w = (.error (.store e), w) := by
  have asked : run (Pass.ask (.createSecret s)) w = (.ok (.error e), w) := by
    change (Except.ok (w.cluster.createSecret s).1,
      ({ w with cluster := (w.cluster.createSecret s).2 } : World)) = _
    simp only [Cluster.createSecret, nameless]
    rfl
  exact (run_bind_of_ok asked).trans rfl

theorem run_updateSecret_nameless {e : StoreError} (w : World)
    (nameless : s.metadata.writeKey = .error e) :
    run (Pass.updateSecret s) w = (.error (.store e), w) := by
  have asked : run (Pass.ask (.updateSecret s)) w = (.ok (.error e), w) := by
    change (Except.ok (w.cluster.updateSecret s).1,
      ({ w with cluster := (w.cluster.updateSecret s).2 } : World)) = _
    simp only [Cluster.updateSecret, nameless]
    rfl
  exact (run_bind_of_ok asked).trans rfl

theorem run_tryCatch (p : Pass α) (handle : PassError → Pass α) (w : World) :
    run (tryCatch p handle) w =
      match run p w with
      | (.ok a, w') => (.ok a, w')
      | (.error e, w') => run (handle e) w' := by
  unfold run
  rw [Pass.run_tryCatch]
  obtain ⟨e | a, w'⟩ := Program.run answer p.run w <;> rfl

theorem run_writeStatus (calm : w.cluster.failures .updateStatus = 0)
    (named : b.metadata.writeKey = .ok k) (there : w.cluster.bindings.get? k = some b) :
    run (Pass.writeStatus b s) w =
      (.ok (w.cluster.restated { b with status := some (b.observe s w.clock) } b),
        { w with cluster :=
          w.cluster.withRestated k { b with status := some (b.observe s w.clock) } b }) := by
  have asked : run Pass.now w = (.ok w.clock, w) := rfl
  exact (run_bind_of_ok asked).trans (run_updateStatus calm named there)

end Writes

variable {w : World} {key : String} {k : Key} {b : Binding}

theorem run_invalid (lane : Lane) (unparsed : Key.parse? key = none) (w : World) :
    run (lane.pass key) w = (.error (.invalidKey key), w) := by
  cases lane with
  | spec =>
    change run (Pass.specSync key) w = _
    unfold Pass.specSync Pass.parseKey
    rw [unparsed]
    rfl
  | poll =>
    change run (Pass.vaultPoll key) w = _
    unfold Pass.vaultPoll Pass.parseKey
    rw [unparsed]
    rfl

theorem run_gone (lane : Lane) (calm : w.cluster.failures .getBinding = 0)
    (parsed : Key.parse? key = some k) (gone : w.cluster.bindings.get? k = none) :
    run (lane.pass key) w = (.ok (), w) := by
  cases lane with
  | spec =>
    change run (Pass.specSync key) w = _
    unfold Pass.specSync
    rw [run_bind_of_ok (run_parseKey parsed w), run_bind_of_ok (run_getBinding calm k), gone]
    rfl
  | poll =>
    change run (Pass.vaultPoll key) w = _
    unfold Pass.vaultPoll
    rw [run_bind_of_ok (run_parseKey parsed w), run_bind_of_ok (run_getBinding calm k), gone]
    rfl

theorem run_specSync (calm : w.cluster.failures .getBinding = 0)
    (parsed : Key.parse? key = some k) (found : w.cluster.bindings.get? k = some b) :
    run (Pass.specSync key) w =
      run (do
        let s ← Pass.ensureSecret b
        if s.metadata.controlledBy b then Pass.record b Event.synced
        else Pass.refuse key b (s.metadata.name.getD "")) w := by
  unfold Pass.specSync
  rw [run_bind_of_ok (run_parseKey parsed w), run_bind_of_ok (run_getBinding calm k), found]

theorem run_nameless (calm : w.cluster.failures .getBinding = 0)
    (parsed : Key.parse? key = some k) (found : w.cluster.bindings.get? k = some b)
    (nameless : b.spec.output.name = "") :
    run (Pass.specSync key) w = (.error (.missingOutputName b.key), w) := by
  rw [run_specSync calm parsed found]
  exact run_bind_of_error (run_ensureSecret_nameless nameless w)

/-- A spec sync that finds a Secret of its own only notes that. -/
theorem run_present (calm : ∀ op, w.cluster.failures op = 0)
    (parsed : Key.parse? key = some k) (found : w.cluster.bindings.get? k = some b)
    (named : b.spec.output.name ≠ "") {s : Secret}
    (present : w.cluster.secrets.get? b.outputKey = some s)
    (owned : s.metadata.controlledBy b = true) :
    run (Pass.specSync key) w =
      (.ok (), { w with events := w.events ++ [⟨b.key, Event.synced⟩] }) := by
  rw [run_specSync (calm _) parsed found,
    run_bind_of_ok (run_ensureSecret_found (calm _) named present), if_pos owned]
  rfl

theorem run_vaultPoll (calm : w.cluster.failures .getBinding = 0)
    (parsed : Key.parse? key = some k) (found : w.cluster.bindings.get? k = some b) :
    run (Pass.vaultPoll key) w =
      run (do
        match ← Pass.readVault b with
        | .error e =>
          Pass.record b (Event.vaultFailed k.name b.spec.vault.name)
          throw (.vaultFetch k.name b.spec.vault.name e)
        | .ok value =>
          if b.observedHash = contentHash value then pure ()
          else Pass.refresh key k b value) w := by
  have looked := run_getBinding calm k
  rw [found] at looked
  unfold Pass.vaultPoll
  exact (run_bind_of_ok (run_parseKey parsed w)).trans (run_bind_of_ok looked)

/-- A poll over a status that tells of the value in the vault writes nothing. It is content, unless
the vault refuses the read. -/
theorem run_unchanged (calm : w.cluster.failures .getBinding = 0)
    (parsed : Key.parse? key = some k) (found : w.cluster.bindings.get? k = some b) {v : String}
    (value : w.vault.value? b = some v) (same : b.observedHash = contentHash v) :
    Idle w (run (Pass.vaultPoll key) w).2 ∧
      ((run (Pass.vaultPoll key) w).1 = .ok () ∨
        0 < w.vault.failures ∧ (run (Pass.vaultPoll key) w).1 =
          .error (.vaultFetch k.name b.spec.vault.name (.unavailable b.spec.vault.name))) := by
  rw [run_vaultPoll calm parsed found, run_bind_of_ok (run_readVault w b)]
  have kept : (w.vault.read b).2.values = w.vault.values := values_read w.vault b
  by_cases failing : 0 < w.vault.failures
  · have refused : (w.vault.read b).1 = .error (.unavailable b.spec.vault.name) := by
      rw [Vault.read, if_pos failing]
    rw [refused]
    exact ⟨⟨.refl _, kept⟩, .inr ⟨failing, rfl⟩⟩
  · have answered : (w.vault.read b).1 = .ok v := by
      change w.vault.values.get? _ = some v at value
      simp only [Vault.read, if_neg failing, Vault.value?, value]
    rw [answered]
    dsimp only
    rw [if_pos same]
    exact ⟨⟨.refl _, kept⟩, .inl rfl⟩

end World

end SecretSync
