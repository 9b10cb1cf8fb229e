import SecretSync.Proofs.Pass.Evaluation

/-!
The course of a whole pass that nothing fails: what it answers, what it records and what it writes,
told from the binding, the Secret under its output key, the value in the vault and the clock alone.
Nothing else of the world has a say in it.
-/
namespace SecretSync

open Digest (contentHash)

/-- The two writes of a pass: a value for a binding, over a Secret or as a new one. -/
structure Deed where
  binding : Binding
  owner : OwnerReference
  value : String
  before : Option Secret
  now : Moment

namespace Deed

def secret (d : Deed) (version identity : Nat) : Secret :=
  { (d.binding.desired d.owner d.value).folded with
    metadata :=
      { (d.binding.desired d.owner d.value).metadata with
        resourceVersion := some (toString version)
        uid :=
          match d.before with
          | none => some ("uid-" ++ toString identity)
          | some e => e.metadata.uid } }

def status (d : Deed) : Binding.Status := ⟨some (contentHash d.value), some d.now.rfc3339⟩

def told (d : Deed) (version : Nat) : Binding :=
  { d.binding with
    status := some d.status
    metadata := { d.binding.metadata with resourceVersion := some (toString version) } }

def writes (d : Deed) : List Write :=
  [match d.before with
    | none => .createSecret d.binding.outputKey
    | some _ => .updateSecret d.binding.outputKey,
    .updateStatus d.binding.metadata.key (some (contentHash d.value))]

def identities (d : Deed) : Nat := if d.before.isNone then 1 else 0

end Deed

namespace Cluster

def perform (c : Cluster) (d : Deed) : Cluster :=
  { c with
    secrets := c.secrets.insert d.binding.outputKey (d.secret (c.versions + 1) (c.identities + 1))
    bindings := c.bindings.insert d.binding.metadata.key (d.told (c.versions + 2))
    versions := c.versions + 2
    identities := c.identities + d.identities
    journal := c.journal ++ d.writes }

def follow (c : Cluster) : Option Deed → Cluster
  | none => c
  | some d => c.perform d

end Cluster

structure Course where
  result : Except PassError Unit
  events : List Event
  deed : Option Deed

namespace Course

def stop (e : PassError) (events : List Event) : Course := ⟨.error e, events, none⟩

/-- A pass that has a value to write. A binding without a namespace has no place for it. -/
def write (d : Deed) (e : Event) : Course :=
  if d.binding.metadata.space.isNone then stop (.store (.missingField "metadata.namespace")) []
  else ⟨.ok (), [e], some d⟩

def refused (key secret : String) : Course :=
  stop (.resourceConflict key secret) [Event.nameTaken secret]

def unread (resource vault : String) (e : VaultError) : Course :=
  stop (.vaultFetch resource vault e) [Event.vaultFailed resource vault]

def spec (key : String) (b : Binding) (existing : Option Secret)
    (read : Except VaultError String) (now : Moment) : Course :=
  if b.spec.output.name = "" then stop (.missingOutputName b.key) []
  else
    match existing with
    | some s =>
      if s.metadata.controlledBy b then ⟨.ok (), [Event.synced], none⟩
      else refused key (s.metadata.name.getD "")
    | none =>
      match b.ownerReference? with
      | none => stop (.missingOwnerIdentity b.key) []
      | some owner =>
        match read with
        | .error e => unread (b.metadata.name.getD "") b.spec.vault.name e
        | .ok v => write ⟨b, owner, v, none, now⟩ Event.synced

def poll (key : String) (k : Key) (b : Binding) (existing : Option Secret)
    (read : Except VaultError String) (now : Moment) : Course :=
  match read with
  | .error e => unread k.name b.spec.vault.name e
  | .ok v =>
    if b.observedHash = contentHash v then ⟨.ok (), [], none⟩
    else if b.spec.output.name = "" then stop (.missingOutputName b.key) []
    else
      match b.ownerReference? with
      | none => stop (.missingOwnerIdentity b.key) []
      | some owner =>
        match existing with
        | none => stop (.secretMissing key b.spec.output.name) []
        | some e =>
          if e.metadata.controlledBy b then write ⟨b, owner, v, some e, now⟩ Event.updated
          else refused key b.spec.output.name

def onBinding (lane : Lane) (key : String) (k : Key) (b : Binding) (w : World) : Course :=
  match lane with
  | .spec => spec key b (w.cluster.secrets.get? b.outputKey) (w.vault.read b).1 w.clock
  | .poll => poll key k b (w.cluster.secrets.get? b.outputKey) (w.vault.read b).1 w.clock

/-- What a pass does in a world. It has nothing to do for a binding that is gone. -/
def of (lane : Lane) (key : String) (k : Key) (w : World) : Course :=
  match w.cluster.bindings.get? k with
  | none => ⟨.ok (), [], none⟩
  | some b => onBinding lane key k b w

end Course

namespace World

structure Calm (w : World) : Prop where
  cluster : ∀ op, w.cluster.failures op = 0
  vault : w.vault.failures = 0

/-- A world went a course. How often the vault was read and what was counted is left open. -/
structure Went (w : World) (k : Key) (c : Course) (r : Except PassError Unit × World) :
    Prop where
  result : r.1 = c.result
  cluster : r.2.cluster = w.cluster.follow c.deed
  events : r.2.events = w.events ++ c.events.map fun e => ⟨k.render, e⟩
  values : r.2.vault.values = w.vault.values
  failures : r.2.vault.failures = w.vault.failures
  clock : r.2.clock = w.clock

end World

namespace Binding

theorem writeKey_desired (b : Binding) (owner : OwnerReference) (v : String) :
    (b.desired owner v).metadata.writeKey =
      if b.metadata.space.isNone then .error (.missingField "metadata.namespace")
      else .ok b.outputKey := by
  unfold Meta.writeKey desired outputKey
  cases b.metadata.space <;> rfl

theorem fresh_desiredOver (b : Binding) (owner : OwnerReference) (v : String) (e : Secret) :
    Cluster.fresh (b.desiredOver owner v e) e = true := by
  unfold Cluster.fresh desiredOver
  cases e.metadata.resourceVersion with
  | none => rfl
  | some version => exact decide_eq_true rfl

end Binding

namespace Cluster

variable {c : Cluster}

/-- Creating a Secret and telling of it are the writes of a deed. -/
theorem perform_created {b : Binding} {owner : OwnerReference} (v : String) (now : Moment)
    (owned : b.ownerReference? = some owner) :
    (c.withCreated b.outputKey (b.desired owner v)).withRestated b.metadata.key
        { b with status := some (b.observe (c.created (b.desired owner v)) now) } b =
      c.perform ⟨b, owner, v, none, now⟩ := by
  have holds := b.holdsFor_created c v owned
  have status : b.observe (c.created (b.desired owner v)) now =
      Deed.status ⟨b, owner, v, none, now⟩ := by
    rw [Binding.observe, holds.value]
    rfl
  rw [status]
  simp only [withRestated, withCreated, perform, Deed.writes, List.append_assoc]
  rfl

theorem perform_replaced {b : Binding} {owner : OwnerReference} (v : String) (e : Secret)
    (now : Moment) (owned : b.ownerReference? = some owner) :
    (c.withReplaced b.outputKey (b.desiredOver owner v e) e).withRestated b.metadata.key
        { b with status := some (b.observe (c.replaced (b.desiredOver owner v e) e) now) } b =
      c.perform ⟨b, owner, v, some e, now⟩ := by
  have holds := b.holdsFor_replaced c v e e owned
  have status : b.observe (c.replaced (b.desiredOver owner v e) e) now =
      Deed.status ⟨b, owner, v, some e, now⟩ := by
    rw [Binding.observe, holds.value]
    rfl
  rw [status]
  simp only [withRestated, withReplaced, perform, Deed.writes, List.append_assoc]
  rfl

end Cluster

namespace World

variable {w : World} {key : String} {k : Key} {b : Binding} {owner : OwnerReference} {v : String}

theorem run_status {s : Secret} {counter : Counter} (calm : w.cluster.failures .updateStatus = 0)
    (spaced : ¬ b.metadata.space.isNone = true) (owned : b.ownerReference? = some owner)
    (found : w.cluster.bindings.get? b.metadata.key = some b) (rest : Pass α) :
    run (do
        Pass.count counter
        let _ ← Pass.writeStatus b s
        rest) w =
      run rest { w with
        metrics := bump w.metrics counter
        cluster := w.cluster.withRestated b.metadata.key
          { b with status := some (b.observe s w.clock) } b } := by
  have named : b.metadata.writeKey = .ok b.metadata.key := by
    obtain ⟨space, there⟩ := Option.ne_none_iff_exists'.1 (mt Option.isNone_iff_eq_none.2 spaced)
    exact Meta.writeKey_of_parts there (Binding.ownerReference_eq_some owned).1
  have counted : run (Pass.count counter) w =
      (.ok (), { w with metrics := bump w.metrics counter }) := rfl
  rw [run_bind_of_ok counted]
  exact run_bind_of_ok (run_writeStatus (w := { w with metrics := bump w.metrics counter })
    calm named found)

theorem run_make (calm : w.Calm) (owned : b.ownerReference? = some owner)
    (found : w.cluster.bindings.get? b.metadata.key = some b)
    (free : w.cluster.secrets.get? b.outputKey = none) :
    run (do
        let created ← Pass.createSecret (b.desired owner v)
        Pass.count .created
        let _ ← Pass.writeStatus b created
        pure created) w =
      if b.metadata.space.isNone then (.error (.store (.missingField "metadata.namespace")), w)
      else (.ok (w.cluster.created (b.desired owner v)),
        { w with
          metrics := bump w.metrics .created
          cluster := w.cluster.perform ⟨b, owner, v, none, w.clock⟩ }) := by
  have named := b.writeKey_desired owner v
  by_cases spaceless : b.metadata.space.isNone = true
  · rw [if_pos spaceless] at named ⊢
    exact run_bind_of_error (run_createSecret_nameless w named)
  · rw [if_neg spaceless] at named ⊢
    rw [run_bind_of_ok (run_createSecret (calm.cluster _) named free),
      ← Cluster.perform_created v w.clock owned]
    exact run_status (w := { w with
        cluster := w.cluster.withCreated b.outputKey (b.desired owner v) })
      (calm.cluster _) spaceless owned found (pure _)

theorem run_overwrite {e : Secret} (calm : w.Calm) (owned : b.ownerReference? = some owner)
    (found : w.cluster.bindings.get? b.metadata.key = some b)
    (there : w.cluster.secrets.get? b.outputKey = some e) :
    run (do
        let updated ← Pass.updateSecret (b.desiredOver owner v e)
        Pass.count .updated
        let _ ← Pass.writeStatus b updated
        Pass.record b Event.updated) w =
      if b.metadata.space.isNone then (.error (.store (.missingField "metadata.namespace")), w)
      else (.ok (),
        { w with
          metrics := bump w.metrics .updated
          cluster := w.cluster.perform ⟨b, owner, v, some e, w.clock⟩
          events := w.events ++ [⟨b.key, Event.updated⟩] }) := by
  have named : (b.desiredOver owner v e).metadata.writeKey = _ := b.writeKey_desired owner v
  by_cases spaceless : b.metadata.space.isNone = true
  · rw [if_pos spaceless] at named ⊢
    exact run_bind_of_error (run_updateSecret_nameless w named)
  · rw [if_neg spaceless] at named ⊢
    rw [run_bind_of_ok (run_updateSecret (calm.cluster _) named there
        (b.fresh_desiredOver owner v e)),
      ← Cluster.perform_replaced v e w.clock owned]
    exact run_status (w := { w with
        cluster := w.cluster.withReplaced b.outputKey (b.desiredOver owner v e) e })
      (calm.cluster _) spaceless owned found (Pass.record b Event.updated)

theorem read_calm (calm : w.Calm) (b : Binding) :
    (w.vault.read b).2.values = w.vault.values ∧ (w.vault.read b).2.failures = w.vault.failures := by
  refine ⟨values_read w.vault b, ?_⟩
  unfold Vault.read
  rw [if_neg (by have := calm.vault; dsimp only; omega)]
  split <;> rfl

theorem Calm.afterRead (calm : w.Calm) (b : Binding) :
    Calm { w with vault := (w.vault.read b).2 } :=
  ⟨calm.cluster, (read_calm calm b).2.trans calm.vault⟩

/-- A pass that writes nothing, after it may have read the vault. -/
theorem went_quiet {events : List Event} {result : Except PassError Unit} {vault : Vault}
    (values : vault.values = w.vault.values) (failures : vault.failures = w.vault.failures) :
    Went w k ⟨result, events, none⟩
      (result, { w with
        vault := vault, events := w.events ++ events.map fun e => ⟨k.render, e⟩ }) :=
  ⟨rfl, rfl, rfl, values, failures, rfl⟩

theorem went_silent {result : Except PassError Unit} {vault : Vault}
    (values : vault.values = w.vault.values) (failures : vault.failures = w.vault.failures) :
    Went w k ⟨result, [], none⟩ (result, { w with vault := vault }) :=
  ⟨rfl, rfl, (List.append_nil _).symm, values, failures, rfl⟩

section Spec

variable (named : b.spec.output.name ≠ "")

include named

theorem run_ensureSecret_free (calm : w.Calm)
    (free : w.cluster.secrets.get? b.outputKey = none) :
    run (Pass.ensureSecret b) w =
      run (do
        let s ← tryCatch (Pass.compose b none) (Pass.noteVaultFailure b)
        let created ← Pass.createSecret s
        Pass.count .created
        let _ ← Pass.writeStatus b created
        pure created) w := by
  unfold Pass.ensureSecret
  rw [if_neg named]
  change run (Pass.getSecret b.outputKey >>= _) w = _
  rw [run_bind_of_ok (run_getSecret (calm.cluster _) b.outputKey), free]

theorem run_compose (w : World) : run (Pass.compose b none) w =
    match b.ownerReference? with
    | none => (.error (.missingOwnerIdentity b.key), w)
    | some owner =>
      ((w.vault.read b).1.map (b.desired owner) |>.mapError
        (.vaultFetch (b.metadata.name.getD "") b.spec.vault.name),
        { w with vault := (w.vault.read b).2 }) := by
  unfold Pass.compose
  rw [if_neg named]
  cases b.ownerReference? with
  | none => rfl
  | some owner =>
    refine (run_bind_of_ok (run_readVault w b)).trans ?_
    cases (w.vault.read b).1 <;> rfl

theorem run_caught (w : World) :
    run (tryCatch (Pass.compose b none) (Pass.noteVaultFailure b)) w =
      match b.ownerReference? with
      | none => (.error (.missingOwnerIdentity b.key), w)
      | some owner =>
        match (w.vault.read b).1 with
        | .error e =>
          (.error (.vaultFetch (b.metadata.name.getD "") b.spec.vault.name e),
            { w with
              vault := (w.vault.read b).2
              events := w.events ++ [⟨b.key,
                Event.vaultFailed (b.metadata.name.getD "") b.spec.vault.name⟩] })
        | .ok v => (.ok (b.desired owner v), { w with vault := (w.vault.read b).2 }) := by
  rw [run_tryCatch, run_compose named w]
  cases b.ownerReference? with
  | none => rfl
  | some owner => cases (w.vault.read b).1 <;> rfl

theorem went_free (calm : w.Calm) (found : w.cluster.bindings.get? b.metadata.key = some b)
    (free : w.cluster.secrets.get? b.outputKey = none) :
    Went w b.metadata.key (.spec key b none (w.vault.read b).1 w.clock)
      (run (do
        let s ← Pass.ensureSecret b
        if s.metadata.controlledBy b then Pass.record b Event.synced
        else Pass.refuse key b (s.metadata.name.getD "")) w) := by
  have ensured := run_ensureSecret_free named calm free
  have caught := run_caught named w
  obtain ⟨values, failures⟩ := read_calm calm b
  unfold Course.spec
  rw [if_neg named]
  cases owned : b.ownerReference? with
  | none =>
    rw [owned] at caught
    rw [run_bind_of_error (ensured.trans (run_bind_of_error caught))]
    exact went_silent rfl rfl
  | some owner =>
    rw [owned] at caught
    cases read : (w.vault.read b).1 with
    | error e =>
      rw [read] at caught
      rw [run_bind_of_error (ensured.trans (run_bind_of_error caught))]
      exact went_quiet values failures
    | ok v =>
      rw [read] at caught
      have made := run_make (v := v) (calm.afterRead b) owned found free
      have ensured := ensured.trans ((run_bind_of_ok caught).trans made)
      dsimp only [Course.write]
      by_cases spaceless : b.metadata.space.isNone = true
      · rw [if_pos spaceless] at ensured ⊢
        rw [run_bind_of_error ensured]
        exact went_silent values failures
      · rw [if_neg spaceless] at ensured ⊢
        rw [run_bind_of_ok ensured]
        -- the Secret just made is not refused
        have mine := (b.holdsFor_created w.cluster v owned).controlled
        rw [if_pos mine]
        exact ⟨rfl, rfl, rfl, values, failures, rfl⟩

end Spec

theorem went_spec (calm : w.Calm) (parsed : Key.parse? key = some k) (placed : b.metadata.key = k)
    (found : w.cluster.bindings.get? k = some b) :
    Went w k (.onBinding .spec key k b w) (run (Pass.specSync key) w) := by
  subst placed
  rw [run_specSync (calm.cluster _) parsed found]
  unfold Course.onBinding
  by_cases nameless : b.spec.output.name = ""
  · rw [run_bind_of_error (run_ensureSecret_nameless nameless w)]
    unfold Course.spec
    rw [if_pos nameless]
    exact went_silent rfl rfl
  cases there : w.cluster.secrets.get? b.outputKey with
  | none => exact went_free nameless calm found there
  | some s =>
    rw [run_bind_of_ok (run_ensureSecret_found (calm.cluster _) nameless there)]
    unfold Course.spec
    rw [if_neg nameless]
    dsimp only
    by_cases owned : s.metadata.controlledBy b = true
    · rw [if_pos owned, if_pos owned]
      exact went_quiet rfl rfl
    · rw [if_neg owned, if_neg owned]
      exact went_quiet rfl rfl

theorem went_poll (calm : w.Calm) (parsed : Key.parse? key = some k) (placed : b.metadata.key = k)
    (found : w.cluster.bindings.get? k = some b) :
    Went w k (.onBinding .poll key k b w) (run (Pass.vaultPoll key) w) := by
  subst placed
  rw [run_vaultPoll (calm.cluster _) parsed found]
  obtain ⟨values, failures⟩ := read_calm calm b
  rw [run_bind_of_ok (run_readVault w b)]
  unfold Course.onBinding Course.poll
  cases read : (w.vault.read b).1 with
  | error e => exact went_quiet values failures
  | ok v =>
    dsimp only
    by_cases current : b.observedHash = contentHash v
    · rw [if_pos current, if_pos current]
      exact went_silent values failures
    rw [if_neg current, if_neg current]
    unfold Pass.refresh Pass.compose
    by_cases nameless : b.spec.output.name = ""
    · rw [if_pos nameless, if_pos nameless]
      exact went_silent values failures
    rw [if_neg nameless, if_neg nameless]
    cases owned : b.ownerReference? with
    | none => exact went_silent values failures
    | some owner =>
      have calm' := calm.afterRead b
      have looked : run (Pass.getSecret ⟨b.metadata.key.space, b.spec.output.name⟩)
          { w with vault := (w.vault.read b).2 } =
          (.ok (w.cluster.secrets.get? b.outputKey), { w with vault := (w.vault.read b).2 }) :=
        run_getSecret (calm'.cluster _) b.outputKey
      change Went w _ _ (run (Pass.getSecret _ >>= _) _)
      rw [run_bind_of_ok looked]
      cases there : w.cluster.secrets.get? b.outputKey with
      | none => exact went_silent values failures
      | some e =>
        dsimp only
        by_cases mine : e.metadata.controlledBy b = true
        · rw [if_pos mine, if_pos mine]
          have written := run_overwrite (v := v) calm' owned found there
          dsimp only [Course.write]
          by_cases spaceless : b.metadata.space.isNone = true
          · rw [if_pos spaceless] at written ⊢
            exact written ▸ went_silent values failures
          · rw [if_neg spaceless] at written ⊢
            exact written ▸ ⟨rfl, rfl, rfl, values, failures, rfl⟩
        · rw [if_neg mine, if_neg mine]
          exact went_quiet values failures

/-- A whole pass that nothing fails goes its course. -/
theorem went (lane : Lane) (calm : w.Calm) (sound : w.cluster.Sound)
    (parsed : Key.parse? key = some k) :
    Went w k (.of lane key k w) (run (lane.pass key) w) := by
  unfold Course.of
  cases found : w.cluster.bindings.get? k with
  | none =>
    rw [run_gone lane (calm.cluster _) parsed found]
    exact went_silent rfl rfl
  | some b =>
    cases lane with
    | spec => exact went_spec calm parsed (sound.placed found) found
    | poll => exact went_poll calm parsed (sound.placed found) found

end World

namespace Course

variable {lane : Lane} {key : String} {k : Key} {w : World} {d : Deed}

variable {b : Binding} {existing : Option Secret} {read : Except VaultError String} {now : Moment}

theorem write_deed {e : Event} {d' : Deed} (writes : (write d e).deed = some d') : d' = d := by
  unfold write at writes
  split at writes
  · exact nomatch writes
  · exact (Option.some.inj writes).symm

theorem spec_deed (writes : (spec key b existing read now).deed = some d) :
    d.binding = b ∧ d.before = existing := by
  revert writes
  fun_cases spec key b existing read now with
  | case6 =>
    intro writes
    cases write_deed writes
    exact ⟨rfl, rfl⟩
  | _ => exact fun writes => (nomatch writes)

theorem poll_deed (writes : (poll key k b existing read now).deed = some d) :
    d.binding = b ∧ d.before = existing := by
  revert writes
  fun_cases poll key k b existing read now with
  | case6 =>
    intro writes
    cases write_deed writes
    exact ⟨rfl, rfl⟩
  | _ => exact fun writes => (nomatch writes)

theorem of_deed (writes : (of lane key k w).deed = some d) :
    w.cluster.bindings.get? k = some d.binding ∧
      w.cluster.secrets.get? d.binding.outputKey = d.before := by
  unfold of at writes
  cases found : w.cluster.bindings.get? k with
  | none =>
    rw [found] at writes
    exact nomatch writes
  | some b =>
    rw [found] at writes
    have own : d.binding = b ∧ d.before = w.cluster.secrets.get? b.outputKey := by
      cases lane with
      | spec => exact spec_deed writes
      | poll => exact poll_deed writes
    obtain ⟨rfl, before⟩ := own
    exact ⟨rfl, before.symm⟩

theorem read_congr {u v : Vault} (values : v.values = u.values) (failures : v.failures = u.failures)
    (b : Binding) : (v.read b).1 = (u.read b).1 := by
  unfold Vault.read Vault.value?
  dsimp only
  rw [values, failures]
  split
  · rfl
  · split <;> rfl

/-- A course depends on nothing but the binding, its Secret, the values of the vault and the
clock. -/
theorem of_congr {w' : World} (binding : w'.cluster.bindings.get? k = w.cluster.bindings.get? k)
    (secret : ∀ b, w.cluster.bindings.get? k = some b →
      w'.cluster.secrets.get? b.outputKey = w.cluster.secrets.get? b.outputKey)
    (values : w'.vault.values = w.vault.values) (failures : w'.vault.failures = w.vault.failures)
    (clock : w'.clock = w.clock) : of lane key k w' = of lane key k w := by
  unfold of
  rw [binding]
  cases found : w.cluster.bindings.get? k with
  | none => rfl
  | some b =>
    dsimp only
    unfold onBinding
    rw [secret b found, read_congr values failures, clock]

end Course

end SecretSync
