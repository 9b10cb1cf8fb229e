import SecretSync.Proofs.Pass.Course
import SecretSync.Proofs.Pass.Marked
import SecretSync.Proofs.Race.Descent
import SecretSync.Proofs.Watch.Relist

namespace SecretSync

open Digest (contentHash)

namespace WorkQueue

variable {q : WorkQueue} {key k : String}

/-- A key waits, or will wait when the worker that is at it is done. -/
def Pending (q : WorkQueue) (key : String) : Prop :=
  key ∈ q.waiting ∨ key ∈ q.dirty ∧ key ∈ q.processing

theorem pending_add (tidy : q.Tidy) (isOpen : q.closed = false) (key : String) :
    (q.add key).Pending key := by
  rcases (expects_add isOpen key key).2 (.inr rfl) with waits | dirty
  · exact .inl waits
  · rcases (tidy.add key).dirty_placed ((q.closed_add key).trans isOpen) key dirty with
      waits | works
    · exact .inl waits
    · exact .inr ⟨dirty, works⟩

theorem add_elsewhere (q : WorkQueue) (other : k ≠ key) :
    (k ∈ (q.add key).waiting ↔ k ∈ q.waiting) ∧ (k ∈ (q.add key).dirty ↔ k ∈ q.dirty) ∧
      (k ∈ (q.add key).processing ↔ k ∈ q.processing) := by
  unfold add
  split_ifs <;> simp [other]

end WorkQueue

theorem Binding.Named.owned {b : Binding} (named : b.Named)
    (identity : b.metadata.uid.isSome = true) : ∃ owner, b.ownerReference? = some owner := by
  obtain ⟨space, name, -, called, -⟩ := named
  obtain ⟨uid, known⟩ := Option.isSome_iff_exists.1 identity
  refine ⟨⟨apiVersion, kind, name, uid, some true, none⟩, ?_⟩
  rw [ownerReference?, called, known]
  rfl

/-- A pass ended well. The Secret of a binding holds a value for it, and its status tells so. -/
structure Restored (b : Binding) (v : String) (r : Except PassError Unit × World) : Prop where
  ok : r.1 = .ok ()
  secret : ∃ s, r.2.cluster.secrets.get? b.outputKey = some s ∧
    s.metadata.name = some b.spec.output.name ∧ b.HoldsFor v s
  status : ∃ d, r.2.cluster.bindings.get? b.metadata.key = some d ∧ b.Alike d ∧
    d.observedHash = contentHash v

section Alike

variable {b d : Binding}

theorem Binding.Alike.ownKey (alike : b.Alike d) : d.key = b.key := by
  rw [Binding.key, Binding.key, alike.key]

theorem Binding.Alike.named (alike : b.Alike d) (named : b.Named) : d.Named := by
  obtain ⟨space, name, inside, called, rest⟩ := named
  exact ⟨space, name, alike.space.trans inside, alike.name.trans called, rest⟩

theorem Binding.Alike.holdsFor {v : String} {s : Secret} (alike : b.Alike d)
    (holds : d.HoldsFor v s) : b.HoldsFor v s := by
  have controlled := holds.controlled
  have bytes := holds.bytes
  rw [Meta.controlledBy, alike.uid] at controlled
  rw [alike.spec] at bytes
  exact ⟨bytes, controlled⟩

theorem Binding.Alike.read (alike : b.Alike d) (v : Vault) : v.read d = v.read b := by
  unfold Vault.read Vault.value?
  rw [alike.spec]

theorem Restored.of_alike {v : String} {r : Except PassError Unit × World} (alike : b.Alike d)
    (restored : Restored d v r) : Restored b v r := by
  obtain ⟨ok, ⟨s, there, name, holds⟩, ⟨told, stands, same, hash⟩⟩ := restored
  rw [alike.outputKey] at there
  rw [alike.spec] at name
  rw [alike.key] at stands
  exact ⟨ok, ⟨s, there, name, alike.holdsFor holds⟩, ⟨told, stands, alike.trans same, hash⟩⟩

end Alike

namespace World

variable {w : World} {b : Binding} {v : String}

/-- A spec sync of a binding whose Secret is not there makes it, with the value in the vault. -/
theorem restored_spec (calm : ∀ op, w.cluster.failures op = 0) (sound : w.cluster.Sound) (named : b.Named)
    (identity : b.metadata.uid.isSome = true) (output : b.spec.output.name ≠ "")
    (found : w.cluster.bindings.get? b.metadata.key = some b)
    (free : w.cluster.secrets.get? b.outputKey = none) (value : (w.vault.read b).1 = .ok v) :
    Restored b v (run (Pass.specSync b.key) w) := by
  obtain ⟨owner, owned⟩ := named.owned identity
  have quiet : w.vault.failures = 0 := by
    by_contra failing
    simp [Vault.read, Nat.pos_of_ne_zero failing] at value
  have went := World.went .spec ⟨calm, quiet⟩ sound named.parse_key
  obtain ⟨space, name, inside, -⟩ := named
  have course : Course.of .spec b.key b.metadata.key w =
      ⟨.ok (), [Event.synced], some ⟨b, owner, v, none, w.clock⟩⟩ := by
    simp only [Course.of, found, Course.onBinding, Course.spec, if_neg output, free, owned, value,
      Course.write, inside, Option.isNone_some]
    rfl
  rw [course] at went
  constructor
  · exact went.result
  · refine ⟨w.cluster.created (b.desired owner v), ?_, rfl, b.holdsFor_created w.cluster v owned⟩
    exact (congrArg (fun c : Cluster => c.secrets.get? b.outputKey) went.cluster).trans
      (Table.get?_insert_self ..)
  · refine ⟨Deed.told ⟨b, owner, v, none, w.clock⟩ (w.cluster.versions + 2), ?_,
      ⟨rfl, rfl, rfl, rfl⟩, rfl⟩
    exact (congrArg (fun c : Cluster => c.bindings.get? b.metadata.key) went.cluster).trans
      (Table.get?_insert_self ..)

end World

namespace Scene

/-- A pass created a Secret, or wrote over one, for the binding it read. -/
def WroteFor (s : Scene) (i : Nat) (b : Binding) (t : Secret) : Prop :=
  ∃ c ∈ s.log i, c.stored? = some t ∧ snapshot (s.log i) = some b

theorem reachable_run {s : Scene} (reachable : s.world.Reachable) (moves : List Move) :
    (s.run moves).world.Reachable := by
  induction moves generalizing s with
  | nil => exact reachable
  | cons m moves ih =>
    apply ih
    cases m with
    | edit e => exact reachable.edit e
    | call i =>
      change (s.call i).world.Reachable
      rcases call_cases s i with idle | ⟨q, next, asks⟩
      · rw [idle]
        exact reachable
      · rw [call_ask asks]
        exact reachable.edit (.request q)

end Scene

namespace Controller

variable {c : Controller}

theorem handleSighting_parent {e : Sighting} {s : Secret} {k : Key} {b : Binding}
    (shows : e.object = .ok s) (parent : s.parent? = some k)
    (calm : c.world.cluster.failures .getBinding = 0)
    (found : c.world.cluster.bindings.get? k = some b) :
    c.handleSighting e =
      Controller.enqueue { c with world := (c.world.run (Pass.resolve e)).2 } b := by
  have resolves : Pass.resolve e = Pass.findOwner s := by rw [Pass.resolve, shows]
  have owner : (c.world.run (Pass.resolve e)).1 = .ok (some b) := by
    rw [resolves]
    exact World.findOwner_parent parent calm found
  exact handleSighting_found (Prod.ext owner rfl)

/-- Whatever passes and edits came before, and whatever was done with the queue while it is open: a
Secret that a pass wrote, heard of as it is or as deleted, makes the key of its binding pending if
that still stands, and no other key. The key leads to that binding. Wherever its Secret is gone and
its value can be read, a spec sync of the key makes the Secret again and tells of it. -/
theorem written_secret_leads_back {w : World} (reachable : w.Reachable) (jobs : List Job)
    (moves : List Move) {i : Nat} {j : Job} (job : jobs[i]? = some j) {s : Secret} {b r : Binding}
    (wrote : ((Scene.start w jobs).run moves).WroteFor i b s)
    (there : c.world = ((Scene.start w jobs).run moves).world)
    (calm : ∀ op, c.world.cluster.failures op = 0)
    (stands : c.world.cluster.bindings.get? b.metadata.key = some r)
    (same : r.spec = b.spec) (named : r.Named) (backoff : Backoff) (uses : List QueueMove)
    (queue : c.specs.queue = (QueueInUse.start.moves backoff uses).queue)
    (isOpen : c.specs.queue.closed = false) {e : Sighting} (shows : e.object = .ok s) :
    let d := c.handleSighting e
    d.specs.queue.Pending r.key ∧
    (∀ k, k ≠ r.key →
      (k ∈ d.specs.queue.waiting ↔ k ∈ c.specs.queue.waiting) ∧
      (k ∈ d.specs.queue.dirty ↔ k ∈ c.specs.queue.dirty) ∧
      (k ∈ d.specs.queue.processing ↔ k ∈ c.specs.queue.processing)) ∧
    (d.world.run (Pass.parseKey r.key >>= Pass.getBinding)).1 = .ok (some r) ∧
    s.metadata.name = some r.spec.output.name ∧
    ∀ (later : List Edit) (r' : Binding) (v : String),
      let w' := later.foldl World.edit d.world
      (∀ op, w'.cluster.failures op = 0) →
      r.Alike r' → w'.cluster.bindings.get? r.metadata.key = some r' →
      w'.cluster.secrets.get? r.outputKey = none → (w'.vault.read r).1 = .ok v →
      Restored r v (w'.run (Pass.specSync r.key)) := by
  intro d
  obtain ⟨call, made, stored, read⟩ := wrote
  have descends := Scene.stored_descends reachable jobs moves job made stored read
  have queued : d.specs.queue = c.specs.queue.add r.key := by
    have handled : d = _ := handleSighting_parent shows descends.parent (calm _) stands
    rw [handled, enqueue, queue_add]
  have tidy : c.specs.queue.Tidy := queue ▸ (QueueInUse.orderly_start.moves uses).tidy
  have reached : c.world.Reachable := there ▸ Scene.reachable_run reachable moves
  have placed : r.metadata.key = b.metadata.key := reached.sound.placed stands
  have idle : Idle c.world d.world := (c.calm_handleSighting e).idle
  have calm' : ∀ op, d.world.cluster.failures op = 0 := fun op =>
    Nat.le_zero.1 (calm op ▸ idle.cluster.failures op)
  refine ⟨?_, ?_, ?_, ?_, ?_⟩
  · rw [queued]
    exact WorkQueue.pending_add tidy isOpen r.key
  · intro k other
    rw [queued]
    exact c.specs.queue.add_elsewhere other
  · rw [World.run_bind_of_ok (World.run_parseKey named.parse_key _),
      World.run_getBinding (calm' _), idle.cluster.bindings, placed, stands]
  · rw [descends.name, same]
  · intro later r' v w' quiet alike stands' free value
    have sound : w'.cluster.Sound :=
      World.sound_edits (reached.sound.grows idle.cluster.grows) later
    have identity : r'.metadata.uid.isSome = true := by
      rw [alike.uid]
      exact (reached.marked _ r stands).2
    have output : r'.spec.output.name ≠ "" := by
      rw [alike.spec, same]
      exact descends.named
    -- it is the binding as it stands then that the pass reads
    rw [← alike.ownKey]
    rw [← alike.key] at stands'
    rw [← alike.outputKey] at free
    rw [← alike.read] at value
    exact (World.restored_spec quiet sound (alike.named named) identity output stands' free
      value).of_alike alike

def afterDeletion : Scene :=
  (Scene.start (.sample "old") [⟨.spec, "default/db-cred"⟩]).run
    (List.replicate 8 (.call 0) ++ [.edit (.removeSecret ⟨"default", "db-secret"⟩)])

def deleted : Secret := ((afterDeletion.log 0).findSome? Call.stored?).getD .empty

def orphaned : Binding :=
  (afterDeletion.world.cluster.bindings.get? ⟨"default", "db-cred"⟩).getD .sample

theorem wrote_deleted : afterDeletion.WroteFor 0 .sample deleted := by
  have some : ((afterDeletion.log 0).findSome? Call.stored?) = some deleted := by decide +kernel
  obtain ⟨c, made, stored⟩ := List.exists_of_findSome?_eq_some some
  exact ⟨c, made, stored, by decide +kernel⟩

theorem deleted_secret_leads_back :
    let d := (Controller.make .standard afterDeletion.world).handleSighting
      (.tombstone "default/db-secret" (some deleted))
    d.specs.queue.Pending "default/db-cred" ∧
    Restored orphaned "old" (d.world.run (Pass.specSync "default/db-cred")) := by
  intro d
  have calm : ∀ op, afterDeletion.world.cluster.failures op = 0 := by
    intro op
    cases op <;> decide +kernel
  have named : orphaned.Named :=
    ⟨"default", "db-cred", by decide +kernel, by decide +kernel, by decide, by decide, by decide⟩
  have key : orphaned.key = "default/db-cred" := by decide +kernel
  obtain ⟨pending, -, -, -, heals⟩ := written_secret_leads_back
    (c := Controller.make .standard afterDeletion.world) (World.sample_reachable "old")
    [⟨.spec, "default/db-cred"⟩] _ rfl wrote_deleted rfl calm (r := orphaned) (by decide +kernel)
    (by decide +kernel) named .standard [] rfl rfl
    (e := .tombstone "default/db-secret" (some deleted)) rfl
  rw [key] at pending heals
  refine ⟨pending, heals [] orphaned "old" ?_ (.refl _) ?_ ?_ ?_⟩
  · intro op
    cases op <;> decide +kernel
  · decide +kernel
  · decide +kernel
  · decide +kernel

end Controller

end SecretSync
