import SecretSync.Proofs.Api.Server

/-!
Passes whose writes go through an API server. Reads are answered alike, from a snapshot of the
Secrets that may lag behind, so a pass goes the same way whether its writes go through the server or
to the cluster, and can only end with the same error in other words.
-/
namespace SecretSync

open ApiServer (through heardCreating heardReplacing)

def PassError.heard (hear : StoreError → StoreError) : PassError → PassError
  | .store e => .store (hear e)
  | e => e

namespace World

/-- As `answerLagging`, but writes go through a server. -/
def answerRemote (wording : Wording) (snapshot : Option Secret) :
    (q : Request) → World → q.Answer × World
  | .createSecret s, w => w.call (through wording (Exchange.createSecret s))
  | .updateSecret s, w => w.call (through wording (Exchange.replaceSecret s))
  | .updateStatus b, w => w.call (through wording (Exchange.patchStatus b))
  | q, w => answerLagging snapshot q w

def runRemote (wording : Wording) (snapshot : Option Secret) (p : Pass α) (w : World) :
    Except PassError α × World :=
  Program.run (answerRemote wording snapshot) p.run w

/-- A pass goes the same way through a server, where store errors are heard in a certain way. -/
def Mirrors (wording : Wording) (snapshot : Option Secret) (hear : StoreError → StoreError)
    (w : World) (p : Pass α) : Prop :=
  runRemote wording snapshot p w =
    ((runLagging snapshot p w).1.mapError (PassError.heard hear), (runLagging snapshot p w).2)

variable {wording : Wording} {snapshot : Option Secret} {hear : StoreError → StoreError}
  {w : World}

theorem mirrors_pure (a : α) : Mirrors wording snapshot hear w (pure a) := rfl

theorem mirrors_throw {e : PassError} (same : e.heard hear = e) :
    Mirrors wording snapshot hear w (throw e : Pass α) := by
  change (Except.error e, w) = (Except.error (e.heard hear), w)
  rw [same]

theorem mirrors_bind {p : Pass α} {f : α → Pass β} (first : Mirrors wording snapshot hear w p)
    (next : ∀ a v, runLagging snapshot p w = (.ok a, v) → Mirrors wording snapshot hear v (f a)) :
    Mirrors wording snapshot hear w (p >>= f) := by
  unfold Mirrors runRemote runLagging at first next ⊢
  rw [Pass.run_bind, Pass.run_bind, first]
  generalize Program.run (answerLagging snapshot) p.run w = r at next
  obtain ⟨e | a, v⟩ := r
  · rfl
  · exact next a v rfl

/-- A pass whose errors are handled must not hear any in other words. -/
theorem mirrors_tryCatch {p : Pass α} {handle : PassError → Pass α}
    (first : Mirrors wording snapshot id w p)
    (caught : ∀ e v, runLagging snapshot p w = (.error e, v) →
      Mirrors wording snapshot hear v (handle e)) :
    Mirrors wording snapshot hear w (tryCatch p handle) := by
  have plain : ∀ e : PassError, e.heard id = e := fun e => by cases e <;> rfl
  unfold Mirrors runRemote runLagging at first caught ⊢
  rw [Pass.run_tryCatch, Pass.run_tryCatch, first]
  generalize Program.run (answerLagging snapshot) p.run w = r at caught
  obtain ⟨e | a, v⟩ := r
  · change Program.run _ (handle (e.heard id)).run v = _
    rw [plain]
    exact caught e v rfl
  · rfl

theorem mirrors_ask {q : Request}
    (silent : answerRemote wording snapshot q w = answerLagging snapshot q w) :
    Mirrors wording snapshot hear w (Pass.ask q) := by
  change (Except.ok (answerRemote wording snapshot q w).1, (answerRemote wording snapshot q w).2) =
    (Except.ok (answerLagging snapshot q w).1, (answerLagging snapshot q w).2)
  rw [silent]

section Calls

variable {f : Cluster → Cluster.Answer α} {p : Pass (Except StoreError α)}

theorem mirrors_write {x : Except StoreError (Exchange α)}
    (here : runLagging snapshot p w = (.ok (w.call f).1, (w.call f).2))
    (there : runRemote wording snapshot p w =
      (.ok (w.call (through wording x)).1, (w.call (through wording x)).2))
    (call : through wording x w.cluster =
      ((f w.cluster).1.mapError hear, (f w.cluster).2)) :
    Mirrors wording snapshot hear w (do Pass.ofStore (← p)) := by
  unfold Mirrors
  unfold runLagging at here ⊢
  unfold runRemote at there ⊢
  rw [Pass.run_bind, Pass.run_bind, here, there]
  unfold World.call
  rw [call]
  obtain ⟨e | a, c⟩ := f w.cluster <;> rfl

theorem mirrors_write_then {x : Except StoreError (Exchange α)} {told : α → α} {next : Pass β}
    (here : runLagging snapshot p w = (.ok (w.call f).1, (w.call f).2))
    (there : runRemote wording snapshot p w =
      (.ok (w.call (through wording x)).1, (w.call (through wording x)).2))
    (call : through wording x w.cluster =
      (((f w.cluster).1.mapError hear).map told, (f w.cluster).2))
    (onward : ∀ v, Mirrors wording snapshot hear v next) :
    Mirrors wording snapshot hear w (do
      let _ ← (do Pass.ofStore (← p))
      next) := by
  unfold Mirrors runRemote runLagging at onward ⊢
  unfold runLagging at here
  unfold runRemote at there
  rw [Pass.run_bind, Pass.run_bind, Pass.run_bind, Pass.run_bind, here, there]
  unfold World.call
  rw [call]
  obtain ⟨e | a, c⟩ := f w.cluster
  · rfl
  · exact onward _

theorem call_of_ok {a : α} {v : World}
    (here : runLagging snapshot p w = (.ok (w.call f).1, (w.call f).2))
    (ok : runLagging snapshot (do Pass.ofStore (← p)) w = (.ok a, v)) :
    (f w.cluster).1 = .ok a ∧ v.cluster = (f w.cluster).2 := by
  unfold runLagging at here ok
  rw [Pass.run_bind, here] at ok
  cases result : (w.call f).1 with
  | error e =>
    rw [result] at ok
    cases ok
  | ok a =>
    rw [result] at ok
    cases ok
    exact ⟨result, rfl⟩

end Calls

theorem mirrors_getBinding (calm : w.cluster.failures .getBinding = 0) (k : Key) :
    Mirrors wording snapshot hear w (Pass.getBinding k) := by
  unfold Mirrors runRemote runLagging
  rw [run_getBinding_of rfl calm, run_getBinding_of rfl calm]
  rfl

theorem mirrors_getSecret (k : Key) : Mirrors wording snapshot hear w (Pass.getSecret k) := by
  refine mirrors_bind (mirrors_ask rfl) fun a v asked => ?_
  cases asked
  exact mirrors_pure _

theorem mirrors_record (b : Binding) (e : Event) :
    Mirrors wording snapshot hear w (Pass.record b e) := mirrors_ask rfl

theorem mirrors_refuse (key : String) (b : Binding) (secret : String) :
    Mirrors wording snapshot hear w (Pass.refuse key b secret) :=
  mirrors_bind (mirrors_record _ _) fun _ _ _ => mirrors_throw rfl

theorem mirrors_compose (b : Binding) (value : Option String) :
    Mirrors wording snapshot hear w (Pass.compose b value) := by
  unfold Pass.compose
  by_cases nameless : b.spec.output.name = ""
  · rw [if_pos nameless]
    exact mirrors_throw rfl
  rw [if_neg nameless]
  cases b.ownerReference? with
  | none => exact mirrors_throw rfl
  | some owner =>
    cases value with
    | some v => exact mirrors_pure _
    | none =>
      refine mirrors_bind (mirrors_ask rfl) fun a v _ => ?_
      cases a with
      | ok => exact mirrors_pure _
      | error => exact mirrors_throw rfl

theorem compose_drafts {b : Binding} {value : Option String} {r : Except PassError Secret}
    {v : World} (composed : runLagging snapshot (Pass.compose b value) w = (r, v)) :
    v.cluster = w.cluster ∧
      ((b.spec.output.name ≠ "" ∧ ∃ owner x, r = .ok (b.desired owner x)) ∨
        ∃ e, r = .error e ∧ ∀ hear, e.heard hear = e) := by
  unfold Pass.compose at composed
  by_cases nameless : b.spec.output.name = ""
  · rw [if_pos nameless] at composed
    cases composed
    exact ⟨rfl, .inr ⟨_, rfl, fun _ => rfl⟩⟩
  rw [if_neg nameless] at composed
  cases owned : b.ownerReference? with
  | none =>
    rw [owned] at composed
    cases composed
    exact ⟨rfl, .inr ⟨_, rfl, fun _ => rfl⟩⟩
  | some owner =>
    rw [owned] at composed
    cases value with
    | some x =>
      cases composed
      exact ⟨rfl, .inl ⟨nameless, owner, x, rfl⟩⟩
    | none =>
      have asked : Program.run (answerLagging snapshot) (Pass.readVault b).run w =
          (.ok (w.vault.read b).1, { w with vault := (w.vault.read b).2 }) := rfl
      unfold runLagging at composed
      dsimp only at composed
      rw [Pass.run_bind, asked] at composed
      cases read : (w.vault.read b).1 with
      | ok x =>
        rw [read] at composed
        cases composed
        exact ⟨rfl, .inl ⟨nameless, owner, x, rfl⟩⟩
      | error e =>
        rw [read] at composed
        cases composed
        exact ⟨rfl, .inr ⟨_, rfl, fun _ => rfl⟩⟩

theorem caught_drafts {b : Binding} {s : Secret} {v : World}
    (drafted : runLagging snapshot (tryCatch (Pass.compose b none) (Pass.noteVaultFailure b)) w =
      (.ok s, v)) : v.cluster = w.cluster ∧ ∃ owner x, s = b.desired owner x := by
  unfold runLagging at drafted
  rw [Pass.run_tryCatch] at drafted
  cases composed : Program.run (answerLagging snapshot) (Pass.compose b none).run w with
  | mk r u =>
    rw [composed] at drafted
    obtain ⟨same, ⟨-, owner, x, rfl⟩ | ⟨e, rfl, -⟩⟩ := compose_drafts composed
    · cases drafted
      exact ⟨same, owner, x, rfl⟩
    · cases e <;> cases drafted

theorem mirrors_noteVaultFailure (b : Binding) {e : PassError} (same : e.heard hear = e) :
    Mirrors wording snapshot hear w (Pass.noteVaultFailure b e) := by
  unfold Pass.noteVaultFailure
  cases e with
  | vaultFetch => exact mirrors_bind (mirrors_record _ _) fun _ _ _ => mirrors_throw rfl
  | _ => exact mirrors_throw same

end World

/-- A cluster that fails no call, with stored bindings that can be read, in which the keys of a
binding can stand in a path. -/
structure Cluster.Serves (c : Cluster) (b : Binding) : Prop where
  calm : ∀ op, c.failures op = 0
  readable : ∀ k stored, c.bindings.get? k = some stored → stored.metadata.notes.Readable
  own : ∀ k, b.metadata.writeKey = .ok k → k.Addressable
  output : ∀ space, b.metadata.space = some space → b.spec.output.name ≠ "" →
    Key.Addressable ⟨space, b.spec.output.name⟩

theorem Cluster.Serves.of_eq {c d : Cluster} {b : Binding} (serves : c.Serves b)
    (bindings : d.bindings = c.bindings) (failures : d.failures = c.failures) : d.Serves b where
  calm op := by rw [failures, serves.calm]
  readable := by
    rw [bindings]
    exact serves.readable
  own := serves.own
  output := serves.output

namespace World

variable {wording : Wording} {snapshot : Option Secret} {hear : StoreError → StoreError}
  {w : World} {b : Binding}

theorem addressable_desired {c : Cluster} (serves : c.Serves b) (named : b.spec.output.name ≠ "")
    (owner : OwnerReference) (value : String) :
    ∀ k, (b.desired owner value).metadata.writeKey = .ok k → k.Addressable := by
  intro k ready
  obtain ⟨inside, called⟩ := Meta.writeKey_ok ready
  obtain ⟨space, name⟩ := k
  cases called
  exact serves.output space inside named

theorem mirrors_createSecret (serves : w.cluster.Serves b) (named : b.spec.output.name ≠ "")
    (owner : OwnerReference) (value : String) :
    Mirrors wording snapshot (heardCreating wording) w
      (Pass.createSecret (b.desired owner value)) :=
  mirrors_write rfl rfl (ApiServer.through_createSecret (serves.calm _) nofun
    Bookkeeping.readable_empty (addressable_desired serves named owner value))

theorem mirrors_updateSecret (serves : w.cluster.Serves b) (named : b.spec.output.name ≠ "")
    (owner : OwnerReference) (value : String) (existing : Secret) :
    Mirrors wording snapshot (heardReplacing wording) w
      (Pass.updateSecret (b.desiredOver owner value existing)) :=
  mirrors_write rfl rfl (ApiServer.through_replaceSecret (serves.calm _)
    Bookkeeping.readable_empty (addressable_desired serves named owner value))

/-- Errors other than conflicts are heard as they are. -/
def Plain (hear : StoreError → StoreError) : Prop :=
  ∀ e, (∀ kind key text, e ≠ .conflict kind key text) → hear e = e

theorem plain_creating (wording : Wording) : Plain (heardCreating wording) := by
  intro e other
  cases e with
  | conflict kind key text => exact absurd rfl (other kind key text)
  | _ => rfl

theorem plain_replacing (wording : Wording) : Plain (heardReplacing wording) := by
  intro e other
  cases e with
  | conflict kind key text => exact absurd rfl (other kind key text)
  | _ => rfl

theorem mirrors_updateStatus_then {next : Pass β} (plain : Plain hear) (serves : w.cluster.Serves b)
    (status : Option Binding.Status) (onward : ∀ v, Mirrors wording snapshot hear v next) :
    Mirrors wording snapshot hear w (do
      let _ ← Pass.updateStatus { b with status := status }
      next) := by
  have heard : through wording (Exchange.patchStatus { b with status := status }) w.cluster =
      (((w.cluster.updateStatus { b with status := status }).1.mapError hear).map Binding.told,
        (w.cluster.updateStatus { b with status := status }).2) := by
    refine (ApiServer.through_patchStatus (b := { b with status := status })
      (serves.calm .updateStatus) (fun k stored _ => serves.readable k stored)
      serves.own).trans (Prod.ext ?_ rfl)
    cases answer : (w.cluster.updateStatus { b with status := status }).1 with
    | ok => rfl
    | error e =>
      refine congrArg Except.error (plain e fun kind key text conflict => ?_).symm
      exact ApiServer.updateStatus_no_conflict (serves.calm _) kind key text (conflict ▸ answer)
  exact mirrors_write_then rfl rfl heard onward

theorem mirrors_writeStatus_then {next : Pass β} (plain : Plain hear) (serves : w.cluster.Serves b)
    (s : Secret) (onward : ∀ v, Mirrors wording snapshot hear v next) :
    Mirrors wording snapshot hear w (do
      let _ ← Pass.writeStatus b s
      next) := by
  unfold Pass.writeStatus
  rw [bind_assoc]
  refine mirrors_bind (mirrors_ask rfl) fun moment v asked => ?_
  cases asked
  exact mirrors_updateStatus_then plain serves _ onward

theorem mirrors_count_then {c : Counter} {next : Pass β} (serves : w.cluster.Serves b)
    (onward : ∀ v : World, v.cluster.Serves b → Mirrors wording snapshot hear v next) :
    Mirrors wording snapshot hear w (do
      Pass.count c
      next) := by
  refine mirrors_bind (mirrors_ask rfl) fun _ v counted => onward v ?_
  cases counted
  exact serves.of_eq rfl rfl

theorem mirrors_ensureSecret (serves : w.cluster.Serves b) :
    Mirrors wording snapshot (heardCreating wording) w (Pass.ensureSecret b) := by
  unfold Pass.ensureSecret
  by_cases nameless : b.spec.output.name = ""
  · rw [if_pos nameless]
    exact mirrors_throw rfl
  rw [if_neg nameless]
  refine mirrors_bind (mirrors_getSecret _) fun found v looked => ?_
  have same : v = w := by
    cases looked
    rfl
  subst same
  cases found with
  | some s => exact mirrors_pure s
  | none =>
    have composed : Mirrors wording snapshot (heardCreating wording) v
        (tryCatch (Pass.compose b none) (Pass.noteVaultFailure b)) := by
      refine mirrors_tryCatch (mirrors_compose b none) fun e u failed => ?_
      obtain ⟨-, ⟨-, _, _, ⟨⟩⟩ | ⟨_, ⟨⟩, plain⟩⟩ := compose_drafts failed
      exact mirrors_noteVaultFailure b (plain _)
    refine mirrors_bind composed fun s u drafted => ?_
    obtain ⟨unchanged, owner, x, rfl⟩ := caught_drafts drafted
    have serves : u.cluster.Serves b := unchanged ▸ serves
    refine mirrors_bind (mirrors_createSecret serves nameless owner x) fun created t made => ?_
    obtain ⟨accepted, after⟩ :=
      call_of_ok (f := fun c => c.createSecret (b.desired owner x)) rfl made
    have serves : t.cluster.Serves b := by
      obtain ⟨k, -, -, -, call⟩ := Cluster.createSecret_ok accepted
      rw [after, call]
      exact serves.of_eq rfl rfl
    exact mirrors_count_then serves fun _ serves =>
      mirrors_writeStatus_then (plain_creating wording) serves created fun _ => mirrors_pure created

theorem mirrors_refresh (serves : w.cluster.Serves b) (key : String) (k : Key) (value : String) :
    Mirrors wording snapshot (heardReplacing wording) w (Pass.refresh key k b value) := by
  unfold Pass.refresh
  refine mirrors_bind (mirrors_compose b (some value)) fun desired v composed => ?_
  obtain ⟨unchanged, ⟨named, owner, x, ⟨⟩⟩ | ⟨_, ⟨⟩, -⟩⟩ := compose_drafts composed
  have serves : v.cluster.Serves b := unchanged ▸ serves
  refine mirrors_bind (mirrors_getSecret _) fun found u looked => ?_
  have same : u = v := by
    cases looked
    rfl
  subst same
  cases found with
  | none => exact mirrors_throw rfl
  | some existing =>
    dsimp only
    by_cases owned : existing.metadata.controlledBy b
    · rw [if_pos owned]
      refine mirrors_bind (mirrors_updateSecret serves named owner x existing)
        fun updated t made => ?_
      obtain ⟨accepted, after⟩ :=
        call_of_ok (f := fun c => c.updateSecret (b.desiredOver owner x existing)) rfl made
      have serves : t.cluster.Serves b := by
        obtain ⟨k, stored, -, -, -, -, call⟩ := Cluster.updateSecret_ok accepted
        rw [after, call]
        exact serves.of_eq rfl rfl
      exact mirrors_count_then serves fun _ serves =>
        mirrors_writeStatus_then (plain_replacing wording) serves updated fun _ => mirrors_record b _
    · rw [if_neg owned]
      exact mirrors_refuse key b _

/-- What comes after a binding was found goes the same way if it does for every stored binding. -/
theorem mirrors_found {key : String} {next : Key → Option Binding → Pass α}
    (calm : w.cluster.failures .getBinding = 0)
    (onward : ∀ k, Mirrors wording snapshot hear w (next k (w.cluster.bindings.get? k))) :
    Mirrors wording snapshot hear w (do
      let k ← Pass.parseKey key
      next k (← Pass.getBinding k)) := by
  have parse : Mirrors wording snapshot hear w (Pass.parseKey key) := by
    unfold Pass.parseKey
    cases Key.parse? key with
    | none => exact mirrors_throw rfl
    | some k => exact mirrors_pure k
  refine mirrors_bind parse fun k v parsed => ?_
  have same : v = w := by
    unfold Pass.parseKey at parsed
    cases there : Key.parse? key with
    | none =>
      rw [there] at parsed
      cases parsed
    | some j =>
      rw [there] at parsed
      cases parsed
      rfl
  subst same
  refine mirrors_bind (mirrors_getBinding calm k) fun found u looked => ?_
  rw [runLagging, run_getBinding_of rfl calm] at looked
  cases looked
  exact onward k

theorem mirrors_specSync (calm : w.cluster.failures .getBinding = 0)
    (serves : ∀ k b, w.cluster.bindings.get? k = some b → w.cluster.Serves b) (key : String) :
    Mirrors wording snapshot (heardCreating wording) w (Pass.specSync key) := by
  refine mirrors_found calm fun k => ?_
  cases there : w.cluster.bindings.get? k with
  | none => exact mirrors_pure ()
  | some b =>
    refine mirrors_bind (mirrors_ensureSecret (serves k b there)) fun s v _ => ?_
    by_cases owned : s.metadata.controlledBy b
    · rw [if_pos owned]
      exact mirrors_record b _
    · rw [if_neg owned]
      exact mirrors_refuse key b _

theorem mirrors_vaultPoll (calm : w.cluster.failures .getBinding = 0)
    (serves : ∀ k b, w.cluster.bindings.get? k = some b → w.cluster.Serves b) (key : String) :
    Mirrors wording snapshot (heardReplacing wording) w (Pass.vaultPoll key) := by
  refine mirrors_found calm fun k => ?_
  cases there : w.cluster.bindings.get? k with
  | none => exact mirrors_pure ()
  | some b =>
    refine mirrors_bind (mirrors_ask rfl) fun answer v read => ?_
    have serves : v.cluster.Serves b := by
      cases read
      exact (serves k b there).of_eq rfl rfl
    cases answer with
    | error e => exact mirrors_bind (mirrors_record b _) fun _ _ _ => mirrors_throw rfl
    | ok value =>
      dsimp only
      split
      · exact mirrors_pure ()
      · exact mirrors_refresh serves key k value

end World

end SecretSync
