import SecretSync.Proofs.Store.Versions

/-!
The worlds that can come about: an empty cluster, edited from outside and called by any clients, in
any order and with any failures.
-/
namespace SecretSync

/-- What can happen to a world beside the calls of a pass. -/
inductive Edit where
  | insertBinding (b : Binding)
  | removeBinding (k : Key)
  | insertSecret (s : Secret)
  | removeSecret (k : Key)
  | failNext (op : Operation) (times : Nat)
  | clearJournal
  /-- A call of another client. -/
  | request (q : Request)
  | vault (v : Vault)
  | clock (now : Moment)

namespace World

def edit (w : World) : Edit → World
  | .insertBinding b => { w with cluster := (w.cluster.insertBinding b).2 }
  | .removeBinding k => { w with cluster := (w.cluster.removeBinding k).2 }
  | .insertSecret s => { w with cluster := (w.cluster.insertSecret s).2 }
  | .removeSecret k => { w with cluster := (w.cluster.removeSecret k).2 }
  | .failNext op times => { w with cluster := w.cluster.failNext op times }
  | .clearJournal => { w with cluster := w.cluster.clearJournal }
  | .request q => (answer q w).2
  | .vault v => { w with vault := v }
  | .clock now => { w with clock := now }

section Frame

theorem secrets_answer {q : Request} (w : World) (create : ∀ s, q ≠ .createSecret s)
    (update : ∀ s, q ≠ .updateSecret s) :
    (answer q w).2.cluster.secrets = w.cluster.secrets := by
  cases q with
  | getBinding k => exact (w.cluster.getBinding_same k).secrets
  | getSecret k => exact (w.cluster.getSecret_same k).secrets
  | createSecret s => exact absurd rfl (create s)
  | updateSecret s => exact absurd rfl (update s)
  | updateStatus b =>
    rcases Cluster.updateStatus_cases w.cluster b with ⟨_, same, _⟩ | ⟨_, _, _, _, call⟩
    · exact same.secrets
    · exact congrArg (fun r => r.2.secrets) call
  | _ => rfl

theorem bindings_answer {q : Request} (w : World) (status : ∀ b, q ≠ .updateStatus b) :
    (answer q w).2.cluster.bindings = w.cluster.bindings := by
  cases q with
  | getBinding k => exact (w.cluster.getBinding_same k).bindings
  | getSecret k => exact (w.cluster.getSecret_same k).bindings
  | createSecret s =>
    rcases Cluster.createSecret_cases w.cluster s with ⟨_, same⟩ | ⟨_, _, _, call⟩
    · exact same.bindings
    · exact congrArg (fun r => r.2.bindings) call
  | updateSecret s =>
    rcases Cluster.updateSecret_cases w.cluster s with ⟨_, same⟩ | ⟨_, _, _, _, _, call⟩
    · exact same.bindings
    · exact congrArg (fun r => r.2.bindings) call
  | updateStatus b => exact absurd rfl (status b)
  | _ => rfl

end Frame

/-- A world that came about from an empty cluster. -/
def Reachable (w : World) : Prop :=
  ∃ (clock : Moment) (edits : List Edit), edits.foldl edit (start clock) = w

theorem grows_edit (w : World) (e : Edit) : w.cluster.Grows (w.edit e).cluster := by
  cases e with
  | insertBinding b => exact Cluster.grows_insertBinding w.cluster b
  | removeBinding k => exact Cluster.grows_removeBinding w.cluster k
  | insertSecret s => exact Cluster.grows_insertSecret w.cluster s
  | removeSecret k => exact Cluster.grows_removeSecret w.cluster k
  | failNext op times => exact Cluster.grows_removed rfl id id
  | clearJournal => exact Cluster.grows_removed rfl id id
  | request q => exact grows_answer q w
  | vault v => exact .refl w.cluster
  | clock now => exact .refl w.cluster

theorem sound_edits {w : World} (h : w.cluster.Sound) (edits : List Edit) :
    (edits.foldl edit w).cluster.Sound := by
  induction edits generalizing w with
  | nil => exact h
  | cons e edits ih => exact ih (h.grows (grows_edit w e))

theorem Reachable.sound {w : World} (h : w.Reachable) : w.cluster.Sound := by
  obtain ⟨clock, edits, rfl⟩ := h
  exact sound_edits Cluster.sound_empty edits

theorem Reachable.edit {w : World} (h : w.Reachable) (e : Edit) : (w.edit e).Reachable := by
  obtain ⟨clock, edits, rfl⟩ := h
  exact ⟨clock, edits ++ [e], List.foldl_append⟩

theorem Reachable.run {w : World} (h : w.Reachable) (p : Pass α) :
    (World.run p w).2.Reachable := by
  unfold World.run
  generalize p.run = program
  induction program generalizing w with
  | done a => exact h
  | ask q next ih => exact ih _ (h.edit (.request q))

end World

/-- A binding of an object of a vault to a key of a Secret, as runs below start with. -/
def Binding.sample : Binding where
  metadata :=
    { Meta.empty with
      name := some "db-cred"
      space := some "default"
      uid := some "u1"
      resourceVersion := some "1" }
  spec := ⟨⟨"kv1", "db-pass", .secret⟩, ⟨"db-secret", "password", "Opaque"⟩⟩
  status := none

def Vault.sample (value : String) : Vault := Vault.empty.set "kv1" "db-pass" value

def World.sample (value : String) : World :=
  [.insertBinding .sample, .vault (.sample value)].foldl World.edit (World.start ⟨0, 0⟩)

theorem World.sample_binding (value : String) :
    (World.sample value).cluster.bindings.get? ⟨"default", "db-cred"⟩ = some .sample := rfl

theorem World.sample_reachable (value : String) : (World.sample value).Reachable :=
  ⟨⟨0, 0⟩, _, rfl⟩

theorem ok_of_isOk {r : Except ε Unit} (h : r.isOk = true) : r = .ok () := by
  cases r with
  | ok => rfl
  | error => exact nomatch h

end SecretSync
