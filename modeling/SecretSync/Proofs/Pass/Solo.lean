import SecretSync.Proofs.Pass.Protocol
import SecretSync.Proofs.Pass.Reachable

/-!
Whole passes: what a pass does to the world when nothing comes between its calls. It changes
nothing, or it writes the Secret for the value in the vault, and then the status too unless that
fails.
-/
namespace SecretSync

open Digest (contentHash)

/-- Two bindings that differ at most in their status and version. -/
structure Binding.Alike (a b : Binding) : Prop where
  spec : b.spec = a.spec
  name : b.metadata.name = a.metadata.name
  space : b.metadata.space = a.metadata.space
  uid : b.metadata.uid = a.metadata.uid

namespace Binding

theorem Alike.refl (b : Binding) : b.Alike b := ⟨rfl, rfl, rfl, rfl⟩

theorem Alike.trans {a b c : Binding} (h : a.Alike b) (k : b.Alike c) : a.Alike c :=
  ⟨k.spec.trans h.spec, k.name.trans h.name, k.space.trans h.space, k.uid.trans h.uid⟩

theorem Alike.outputKey {a b : Binding} (h : a.Alike b) : b.outputKey = a.outputKey := by
  rw [Binding.outputKey, Binding.outputKey, h.spec, h.space]

theorem Alike.key {a b : Binding} (h : a.Alike b) : b.metadata.key = a.metadata.key := by
  rw [Meta.key, Meta.key, h.space, h.name]

theorem Alike.value? {a b : Binding} (h : a.Alike b) (v : Vault) : v.value? b = v.value? a := by
  rw [Vault.value?, Vault.value?, h.spec]

theorem alike_restated (c : Cluster) (b existing : Binding) :
    existing.Alike (c.restated b existing) := ⟨rfl, rfl, rfl, rfl⟩

end Binding

def Lane.write : Lane → Key → Write
  | .spec => .createSecret
  | .poll => .updateSecret

structure Idle (w₀ w : World) : Prop where
  cluster : w₀.cluster.Same w.cluster
  values : w.vault.values = w₀.vault.values

/-- A pass has written the Secret of a binding for the value in the vault. -/
structure Wrote (lane : Lane) (w₀ : World) (b : Binding) (v : String) (w : World) : Prop where
  values : w.vault.values = w₀.vault.values
  failures : ∀ op, w.cluster.failures op ≤ w₀.cluster.failures op
  value : w₀.vault.value? b = some v
  placed : b.metadata.writeKey = .ok b.metadata.key
  free : lane = .spec → w₀.cluster.secrets.get? b.outputKey = none
  changed : lane = .poll → b.observedHash ≠ contentHash v
  secret : ∃ s, b.HoldsFor v s ∧
    w.cluster.secrets = w₀.cluster.secrets.insert b.outputKey s

structure Untold (lane : Lane) (w₀ : World) (b : Binding) (w : World) : Prop where
  bindings : w.cluster.bindings = w₀.cluster.bindings
  journal : w.cluster.journal = w₀.cluster.journal ++ [lane.write b.outputKey]

structure Told (lane : Lane) (w₀ : World) (k : Key) (b : Binding) (v : String) (w : World) :
    Prop where
  binding : ∃ d, b.Alike d ∧ d.observedHash = contentHash v ∧
    w.cluster.bindings = w₀.cluster.bindings.insert k d
  journal : w.cluster.journal = w₀.cluster.journal ++
    [lane.write b.outputKey, .updateStatus k (some (contentHash v))]

/-- What a whole pass has done so far when it is in a phase. -/
def Alone (lane : Lane) (w₀ : World) (k : Key) (p : Phase) (w : World) : Prop :=
  match p with
  | .start | .failed _ => Idle w₀ w
  | .gone => Idle w₀ w ∧ w₀.cluster.bindings.get? k = none
  | .found b | .present b _ | .vacant b => Idle w₀ w ∧ w₀.cluster.bindings.get? k = some b
  | .fetched b v =>
    Idle w₀ w ∧ w₀.cluster.bindings.get? k = some b ∧ w₀.vault.value? b = some v
  | .claimed b v _ => Idle w₀ w ∧ w₀.cluster.bindings.get? k = some b ∧
    w₀.vault.value? b = some v ∧ b.observedHash ≠ contentHash v
  | .written b v s => w₀.cluster.bindings.get? k = some b ∧ b.HoldsFor v s ∧
    Wrote lane w₀ b v w ∧ Untold lane w₀ b w
  | .unrecorded b v _ _ => w₀.cluster.bindings.get? k = some b ∧
    Wrote lane w₀ b v w ∧ Untold lane w₀ b w ∧ 0 < w₀.cluster.failures .updateStatus
  | .recorded b v _ => w₀.cluster.bindings.get? k = some b ∧
    Wrote lane w₀ b v w ∧ Told lane w₀ k b v w

theorem Idle.refl (w : World) : Idle w w := ⟨.refl _, rfl⟩

theorem Idle.trans {w₀ w₁ w₂ : World} (h : Idle w₀ w₁) (k : Idle w₁ w₂) : Idle w₀ w₂ :=
  ⟨h.cluster.trans k.cluster, k.values.trans h.values⟩

theorem values_read (v : Vault) (b : Binding) : (v.read b).2.values = v.values := by
  unfold Vault.read
  dsimp only
  split
  · rfl
  · split <;> rfl

theorem value?_of_read {v : Vault} {b : Binding} {value : String}
    (h : (v.read b).1 = .ok value) : v.value? b = some value := by
  unfold Vault.read at h
  dsimp only at h
  split at h
  · exact nomatch h
  · split at h
    · rename_i there
      cases h
      exact there
    · exact nomatch h

theorem value?_congr {u v : Vault} (h : u.values = v.values) (b : Binding) :
    u.value? b = v.value? b := by rw [Vault.value?, Vault.value?, h]

def Request.writes : Request → Bool
  | .createSecret _ | .updateSecret _ | .updateStatus _ => true
  | _ => false

theorem idle_answer (q : Request) (w : World) (reads : q.writes = false) :
    Idle w (World.answer q w).2 := by
  cases q with
  | getBinding k => exact ⟨w.cluster.getBinding_same k, rfl⟩
  | getSecret k => exact ⟨w.cluster.getSecret_same k, rfl⟩
  | readVault b => exact ⟨.refl _, values_read w.vault b⟩
  | createSecret | updateSecret | updateStatus => exact nomatch reads
  | record b e => exact ⟨.refl _, rfl⟩
  | count c => exact ⟨.refl _, rfl⟩
  | now => exact ⟨.refl _, rfl⟩

section Kept

variable {lane : Lane} {w₀ w w' : World} {k : Key} {b : Binding} {v : String}

theorem Wrote.idle (h : Wrote lane w₀ b v w) (i : Idle w w') : Wrote lane w₀ b v w' where
  values := i.values.trans h.values
  failures op := Nat.le_trans (i.cluster.failures op) (h.failures op)
  value := h.value
  placed := h.placed
  free := h.free
  changed := h.changed
  secret := by
    obtain ⟨s, holds, there⟩ := h.secret
    exact ⟨s, holds, i.cluster.secrets.trans there⟩

theorem Untold.idle (h : Untold lane w₀ b w) (i : Idle w w') : Untold lane w₀ b w' :=
  ⟨i.cluster.bindings.trans h.bindings, i.cluster.journal.trans h.journal⟩

theorem Told.idle (h : Told lane w₀ k b v w) (i : Idle w w') : Told lane w₀ k b v w' := by
  obtain ⟨d, alike, hash, there⟩ := h.binding
  exact ⟨⟨d, alike, hash, i.cluster.bindings.trans there⟩, i.cluster.journal.trans h.journal⟩

theorem Alone.idle {p : Phase} (h : Alone lane w₀ k p w) (i : Idle w w') :
    Alone lane w₀ k p w' := by
  cases p with
  | start | failed => exact Idle.trans h i
  | gone | found | present | vacant | fetched | claimed => exact ⟨h.1.trans i, h.2⟩
  | written => exact ⟨h.1, h.2.1, h.2.2.1.idle i, h.2.2.2.idle i⟩
  | unrecorded => exact ⟨h.1, h.2.1.idle i, h.2.2.1.idle i, h.2.2.2⟩
  | recorded => exact ⟨h.1, h.2.1.idle i, h.2.2.idle i⟩

end Kept

section Writes

variable {w₀ w : World} {b : Binding} {v : String}

/-- A pass that wrote nothing before has written the Secret, and not the status, once its Secret
write went through. -/
theorem wrote_placed {lane : Lane} {w' : World} {s : Secret} (idle : Idle w₀ w)
    (value : w₀.vault.value? b = some v)
    (free : lane = .spec → w.cluster.secrets.get? b.outputKey = none)
    (changed : lane = .poll → b.observedHash ≠ contentHash v) (vault : w'.vault = w.vault)
    (placed : Cluster.Placed b v s (lane.write b.outputKey) w.cluster w'.cluster) :
    Wrote lane w₀ b v w' ∧ Untold lane w₀ b w' := by
  constructor
  · refine ⟨?_, ?_, value, placed.named, ?_, changed, s, placed.holds, ?_⟩
    · rw [vault]
      exact idle.values
    · rw [placed.failures]
      exact idle.cluster.failures
    · rw [← idle.cluster.secrets]
      exact free
    · rw [← idle.cluster.secrets]
      exact placed.secrets
  · refine ⟨placed.bindings.trans idle.cluster.bindings, ?_⟩
    rw [← idle.cluster.journal]
    exact placed.journal

/-- The status write of a pass goes to the binding it read, which is still there. -/
theorem told_recorded {lane : Lane} {k : Key} {s : Secret} {m : Moment} {d : Binding}
    (sound : w₀.cluster.Sound) (found : w₀.cluster.bindings.get? k = some b)
    (holds : b.HoldsFor v s) (wrote : Wrote lane w₀ b v w) (untold : Untold lane w₀ b w)
    (answered : (World.answer (.updateStatus { b with status := some (b.observe s m) }) w).1 =
      .ok d) :
    Wrote lane w₀ b v
        (World.answer (.updateStatus { b with status := some (b.observe s m) }) w).2 ∧
      Told lane w₀ k b v
        (World.answer (.updateStatus { b with status := some (b.observe s m) }) w).2 := by
  obtain ⟨k', existing, named, there, rfl, after⟩ := Cluster.updateStatus_ok answered
  have key : b.metadata.key = k' := by
    obtain ⟨space, name⟩ := Meta.writeKey_ok named
    rw [Meta.key, space, name]
    rfl
  obtain rfl : k' = k := key.symm.trans (sound.placed found)
  rw [untold.bindings] at there
  cases found.symm.trans there
  have hash := holds.observe m
  rw [World.answer, World.call, after]
  refine ⟨⟨wrote.values, wrote.failures, wrote.value, wrote.placed, wrote.free, wrote.changed,
      wrote.secret⟩,
    ⟨_, Binding.alike_restated w.cluster { b with status := some (b.observe s m) } b, ?_, ?_⟩, ?_⟩
  · simp only [Binding.observedHash, Cluster.restated, Option.bind_some, hash, Option.getD_some]
  · rw [← untold.bindings]
    rfl
  · change w.cluster.journal ++ [.updateStatus k' (b.observe s m).secretHash] = _
    rw [untold.journal, hash, List.append_assoc]
    rfl

end Writes

variable {lane : Lane} {w₀ w : World} {key : String} {k : Key}

theorem value_fetched {b : Binding} {v : String} (idle : Idle w₀ w)
    (answered : (World.answer (.readVault b) w).1 = .ok v) : w₀.vault.value? b = some v :=
  (value?_congr idle.values b).symm.trans (value?_of_read answered)

theorem binding_looked {found : Option Binding} (idle : Idle w₀ w)
    (answered : (World.answer (.getBinding k) w).1 = .ok found) :
    w₀.cluster.bindings.get? k = found := by
  rw [← idle.cluster.bindings]
  exact Cluster.getBinding_ok answered

theorem alone_step {p t : Phase} {q : Request} {r : q.Answer} (sound : w₀.cluster.Sound)
    (parsed : Key.parse? key = some k) (h : Alone lane w₀ k p w)
    (answered : (World.answer q w).1 = r) (taken : Phase.Step key lane p q r t) :
    Alone lane w₀ k t (World.answer q w).2 := by
  cases taken with
  | gone parsed' | found parsed' =>
    cases parsed.symm.trans parsed'
    have idle : Idle w₀ w := h
    exact ⟨idle.trans (idle_answer _ w rfl), binding_looked idle answered⟩
  | lookupFailed =>
    have idle : Idle w₀ w := h
    exact idle.trans (idle_answer _ w rfl)
  | present | vacant =>
    obtain ⟨idle, found⟩ := h
    exact ⟨idle.trans (idle_answer _ w rfl), found⟩
  | searchFailed | supplyFailed | fetchFailed | foreign | missing | pollSearchFailed =>
    obtain ⟨idle, _⟩ := h
    exact idle.trans (idle_answer _ w rfl)
  | supplied | fetched =>
    obtain ⟨idle, found⟩ := h
    exact ⟨idle.trans (idle_answer _ w rfl), found, value_fetched idle answered⟩
  | claimed _ changed =>
    obtain ⟨idle, found, value⟩ := h
    exact ⟨idle.trans (idle_answer _ w rfl), found, value, changed⟩
  | created owned =>
    obtain ⟨idle, found, value⟩ := h
    obtain ⟨free, placed⟩ := Cluster.placed_created owned answered
    exact ⟨found, placed.holds,
      wrote_placed idle value (fun _ => free) (fun poll => nomatch poll) rfl placed⟩
  | updated owned =>
    obtain ⟨idle, found, value, changed⟩ := h
    obtain ⟨_, placed⟩ := Cluster.placed_updated owned answered
    exact ⟨found, placed.holds,
      wrote_placed idle value (fun spec => nomatch spec) (fun _ => changed) rfl placed⟩
  | createFailed =>
    obtain ⟨idle, _⟩ := h
    exact idle.trans ⟨Cluster.createSecret_error answered, rfl⟩
  | updateFailed =>
    obtain ⟨idle, _⟩ := h
    exact idle.trans ⟨Cluster.updateSecret_error answered, rfl⟩
  | recorded =>
    obtain ⟨found, holds, wrote, untold⟩ := h
    exact ⟨found, told_recorded sound found holds wrote untold answered⟩
  | unrecorded =>
    obtain ⟨found, holds, wrote, untold⟩ := h
    obtain ⟨same, reason⟩ := Cluster.updateStatus_error answered
    refine ⟨found, wrote.idle ⟨same, rfl⟩, untold.idle ⟨same, rfl⟩, ?_⟩
    -- The binding is still there, so only a failure set before can have refused the status.
    rcases reason with left | gone
    · exact Nat.lt_of_lt_of_le left (wrote.failures _)
    · have absent := gone _ wrote.placed
      rw [untold.bindings, sound.placed found, found] at absent
      exact nomatch absent
  | noted | counted | timed => exact h.idle (idle_answer _ w rfl)

theorem run_alone (lane : Lane) (w : World) (sound : w.cluster.Sound)
    (parsed : Key.parse? key = some k) : ∃ p,
      Alone lane w k p (World.run (lane.pass key) w).2 ∧
      Phase.Ends key lane p (World.run (lane.pass key) w).1 :=
  (Pass.leads_pass lane).run
    (fun h taken => alone_step sound parsed h rfl taken) (Idle.refl w)

theorem sound_run (p : Pass α) {w : World} (sound : w.cluster.Sound) :
    (World.run p w).2.cluster.Sound := by
  unfold World.run
  generalize p.run = program
  induction program generalizing w with
  | done a => exact sound
  | ask q next ih => exact ih _ (sound.grows (World.grows_answer q w))

/-- What a whole pass over a stored binding comes to. A poll that writes nothing and is content has
found the digest of the value in the status. -/
inductive Upshot (lane : Lane) (w₀ : World) (k : Key) (b : Binding) (w : World)
    (result : Except PassError Unit) : Prop
  | idle : Idle w₀ w → (lane = .poll → result = .ok () →
      ∃ v, w₀.vault.value? b = some v ∧ b.observedHash = contentHash v) →
      Upshot lane w₀ k b w result
  | told (v : String) : Wrote lane w₀ b v w → Told lane w₀ k b v w → Upshot lane w₀ k b w result
  | untold (v : String) : Wrote lane w₀ b v w → Untold lane w₀ b w →
      0 < w₀.cluster.failures .updateStatus → result ≠ .ok () → Upshot lane w₀ k b w result

theorem run_upshot (lane : Lane) {w : World} {b : Binding} (sound : w.cluster.Sound)
    (parsed : Key.parse? key = some k) (found : w.cluster.bindings.get? k = some b) :
    Upshot lane w k b (World.run (lane.pass key) w).2 (World.run (lane.pass key) w).1 := by
  obtain ⟨p, alone, ends⟩ := run_alone lane w sound parsed
  generalize (World.run (lane.pass key) w).1 = result at ends ⊢
  generalize (World.run (lane.pass key) w).2 = w' at alone ⊢
  cases ends with
  | invalid unparsed => exact nomatch unparsed.symm.trans parsed
  | gone => exact nomatch alone.2.symm.trans found
  | nameless | anonymous | present => exact .idle alone.1 (nofun)
  | current hash =>
    obtain ⟨idle, found', value⟩ := alone
    cases found'.symm.trans found
    exact .idle idle fun _ _ => ⟨_, value, hash⟩
  | pollNameless | pollAnonymous => exact .idle alone.1 fun _ ok => (nomatch ok)
  | created | updated =>
    obtain ⟨found', wrote, told⟩ := alone
    cases found'.symm.trans found
    exact .told _ wrote told
  | unrecorded =>
    obtain ⟨found', wrote, untold, left⟩ := alone
    cases found'.symm.trans found
    exact .untold _ wrote untold left (nofun)
  | failed => exact .idle alone fun _ ok => (nomatch ok)

end SecretSync
