import SecretSync.Proofs.Race.Scene

/-!
No pass writes over a Secret that does not belong to the binding it read. A poll looks at the owner
of one Secret and writes later; in between its name can be deleted and taken by another. The write
names the version that was looked at, so what it meets is what was looked at.
-/
namespace SecretSync

/-- What a pass knows in its phase: its binding stands under its own key, and the Secret it claims
belongs to it and is still the same if its version is. -/
structure Informed (key : String) (c : Cluster) (p : Phase) : Prop where
  placed : ∀ b k, p.binding? = some b → Key.parse? key = some k → b.metadata.key = k
  claimed : ∀ b v e, p = .claimed b v e →
    e.metadata.controlledBy b = true ∧ c.Sighted b.outputKey e

variable {key : String} {lane : Lane} {p t : Phase}

theorem informed_start (c : Cluster) : Informed key c .start :=
  ⟨fun _ _ h => (nomatch h), fun _ _ _ h => (nomatch h)⟩

theorem Informed.grows {c d : Cluster} (h : Informed key c p) (g : c.Grows d) :
    Informed key d p where
  placed := h.placed
  claimed b v e is := ⟨(h.claimed b v e is).1, (h.claimed b v e is).2.grows g⟩

/-- A step that goes by the same binding or by none, and claims nothing, adds nothing to know. -/
theorem Informed.goOn {c : Cluster} (h : Informed key c p)
    (same : t.binding? = p.binding? ∨ t.binding? = none)
    (none : ∀ b v e, t ≠ .claimed b v e) : Informed key c t where
  placed b k hb hk := by
    rcases same with same | no
    · exact h.placed b k (same ▸ hb) hk
    · exact nomatch no.symm.trans hb
  claimed b v e is := absurd is (none b v e)

theorem outputKey_of_placed {b : Binding} {k : Key} (h : b.metadata.key = k) :
    b.outputKey = ⟨k.space, b.spec.output.name⟩ := by
  subst h
  rfl

theorem informed_step {w : World} {q : Request} {r : q.Answer} (sound : w.cluster.Sound)
    (answered : (World.answer q w).1 = r) (taken : Phase.Step key lane p q r t)
    (h : Informed key w.cluster p) : Informed key w.cluster t := by
  cases taken with
  | found parsed =>
    refine ⟨fun _ k' hb parsed' => ?_, fun _ _ _ is => (nomatch is)⟩
    cases hb
    cases parsed.symm.trans parsed'
    exact sound.placed (Cluster.getBinding_ok answered)
  | claimed parsed changed mine =>
    rename_i k b v e
    refine ⟨h.placed, fun _ _ _ is => ?_⟩
    cases is
    rw [outputKey_of_placed (h.placed b k rfl parsed)]
    exact ⟨mine, sound.sighted (Cluster.getSecret_ok answered)⟩
  | noted | counted | timed => exact h
  | _ => refine h.goOn ?_ ?_ <;> simp [Phase.binding?]

/-- What a write may do to a Secret that is there: nothing, or a poll writes over it for the binding
that controls it before and after. -/
def MayBecome (lane : Lane) (b : Option Binding) (e e' : Secret) : Prop :=
  e' = e ∨ lane = .poll ∧ ∃ owner, b = some owner ∧
    e.metadata.controlledBy owner = true ∧ e'.metadata.controlledBy owner = true

/-- A poll that claimed a Secret can only write over that one. -/
theorem update_claimed {c : Cluster} {b : Binding} {owner : OwnerReference} {v : String}
    {e : Secret} (owned : b.ownerReference? = some owner)
    (claim : e.metadata.controlledBy b = true ∧ c.Sighted b.outputKey e) {k : Key} {old : Secret}
    (there : c.secrets.get? k = some old) :
    ∃ new, (c.updateSecret (b.desiredOver owner v e)).2.secrets.get? k = some new ∧
      MayBecome .poll (some b) old new := by
  rcases Cluster.updateSecret_cases c (b.desiredOver owner v e) with
    ⟨_, same⟩ | ⟨target, existing, named, met, accepted, call⟩
  · exact ⟨old, same.secrets ▸ there, .inl rfl⟩
  · rw [call]
    by_cases hit : target = k
    · subst hit
      have place : target = b.outputKey := Binding.writeKey_output named rfl rfl
      -- The write names the version that was looked at, which no other Secret ever had.
      have claimed : existing = e := (place ▸ claim.2).met met rfl accepted
      cases there.symm.trans met
      subst claimed
      refine ⟨_, Table.get?_insert_self .., .inr ⟨rfl, b, rfl, claim.1, ?_⟩⟩
      exact (b.holdsFor_replaced c v old old owned).controlled
    · exact ⟨old, (Table.get?_insert_of_ne _ _ hit).trans there, .inl rfl⟩

theorem create_keeps {c : Cluster} (s : Secret) {k : Key} {old : Secret}
    (there : c.secrets.get? k = some old) :
    (c.createSecret s).2.secrets.get? k = some old := by
  rcases Cluster.createSecret_cases c s with ⟨_, same⟩ | ⟨target, _, free, call⟩
  · exact same.secrets ▸ there
  · rw [call]
    have apart : target ≠ k := by
      intro hit
      subst hit
      exact nomatch free.symm.trans there
    exact (Table.get?_insert_of_ne _ _ apart).trans there

theorem step_respects {w : World} {q : Request} {r : q.Answer}
    (taken : Phase.Step key lane p q r t) (h : Informed key w.cluster p) {k : Key}
    {old : Secret} (there : w.cluster.secrets.get? k = some old) :
    ∃ new, (World.answer q w).2.cluster.secrets.get? k = some new ∧
      MayBecome lane p.binding? old new := by
  cases taken with
  | updated owned | updateFailed owned => exact update_claimed owned (h.claimed _ _ _ rfl) there
  | created owned | createFailed owned => exact ⟨old, create_keeps _ there, .inl rfl⟩
  | _ =>
    rw [World.secrets_answer w (fun _ => by simp) (fun _ => by simp)]
    exact ⟨old, there, .inl rfl⟩

namespace Scene

theorem informed_run {w : World} (h : w.Reachable) (jobs : List Job) (moves : List Move) :
    ∃ phases, Follows jobs ((start w jobs).run moves) phases ∧
      ∀ i j, jobs[i]? = some j →
        Informed j.key ((start w jobs).run moves).world.cluster (phases i) := by
  refine follows_run (fun _ => True)
    (fun w _ phases => ∀ i j, jobs[i]? = some j → Informed j.key w.cluster (phases i))
    ?_ ?_ (follows_start h.sound jobs) (fun i j _ => informed_start _) moves fun _ _ => trivial
  · intro w history phases i j q p sound job _ _ taken known n j' job'
    by_cases same : n = i
    · subst same
      cases job.symm.trans job'
      rw [moved_self]
      exact (informed_step sound rfl taken (known n j job)).grows (World.grows_answer q w)
    · rw [moved_of_ne _ _ same]
      exact (known n j' job').grows (World.grows_answer q w)
  · intro w history phases e sound _ known i j job
    exact (known i j job).grows (World.grows_edit w e)

end Scene

def Secret.controllerUid (s : Secret) : Option String :=
  s.metadata.controller?.map OwnerReference.uid

theorem controllerUid_eq {s : Secret} {b : Binding} (h : s.metadata.controlledBy b = true) :
    s.controllerUid = b.metadata.uid := by
  unfold Meta.controlledBy at h
  split at h
  · rename_i owner uid found identity
    rw [Secret.controllerUid, found, identity, Option.map_some, of_decide_eq_true h]
  · exact nomatch h

namespace Scene

/-- Whatever happened before, a call of a pass leaves every Secret in place and under its
controller. If it changes one, the pass is a poll, and the binding it read controls the Secret. -/
theorem call_keeps_foreign_secrets {w : World} (h : w.Reachable) (jobs : List Job)
    (moves : List Move) (i : Nat) {k : Key} {old : Secret}
    (there : ((start w jobs).run moves).world.cluster.secrets.get? k = some old) :
    ∃ new, (((start w jobs).run moves).call i).world.cluster.secrets.get? k = some new ∧
      new.controllerUid = old.controllerUid ∧
      (new ≠ old → ∃ j b, jobs[i]? = some j ∧ j.lane = .poll ∧
        snapshot (((start w jobs).run moves).log i) = some b ∧
        old.metadata.controlledBy b = true) := by
  obtain ⟨phases, follows, informed⟩ := informed_run h jobs moves
  rcases call_cases ((start w jobs).run moves) i with idle | ⟨q, next, asks⟩
  · rw [idle]
    exact ⟨old, there, rfl, fun changed => absurd rfl changed⟩
  · obtain ⟨j, job⟩ := follows.job asks
    obtain ⟨rest, same, leads⟩ := follows.leads job
    cases same.symm.trans asks
    obtain ⟨p, taken, _⟩ := leads (World.answer q ((start w jobs).run moves).world).1
    rw [call_ask asks]
    obtain ⟨new, now, rfl | ⟨lane, b, read, mine, mine'⟩⟩ :=
      step_respects taken (informed i j job) there
    · exact ⟨new, now, rfl, fun changed => absurd rfl changed⟩
    · exact ⟨new, now, (controllerUid_eq mine').trans (controllerUid_eq mine).symm,
        fun _ => ⟨j, b, job, lane, (follows.path job).read.2 b read, mine⟩⟩

theorem call_changes_own_secret : ∃ old new,
    ((start (.sample "old") (bothPasses "default/db-cred")).run
      (sampleMoves 3)).world.cluster.secrets.get? ⟨"default", "db-secret"⟩ = some old ∧
    (((start (.sample "old") (bothPasses "default/db-cred")).run
      (sampleMoves 3)).call 1).world.cluster.secrets.get? ⟨"default", "db-secret"⟩ = some new ∧
    old.value? "password" = some "old" ∧ new.value? "password" = some "new" ∧
    new.controllerUid = old.controllerUid := by
  have made : (((start (.sample "old") (bothPasses "default/db-cred")).run
      (sampleMoves 3)).world.cluster.secrets.get? ⟨"default", "db-secret"⟩).bind
        (fun s => s.value? "password") = some "old" := by
    decide +kernel
  have written : ((((start (.sample "old") (bothPasses "default/db-cred")).run (sampleMoves 3)).call
      1).world.cluster.secrets.get? ⟨"default", "db-secret"⟩).bind
        (fun s => s.value? "password") = some "new" := by
    decide +kernel
  obtain ⟨old, there, was⟩ := Option.bind_eq_some_iff.1 made
  obtain ⟨new, now, same, _⟩ :=
    call_keeps_foreign_secrets (World.sample_reachable "old") (bothPasses "default/db-cred")
      (sampleMoves 3) 1 there
  rw [now] at written
  exact ⟨old, new, there, now, was, written, same⟩

end Scene

end SecretSync
