import SecretSync.Pass.World
import SecretSync.Proofs.Store.Writes

/-!
Resource versions are never used twice: every write takes the next one, and removing an object gives
none back. So a Secret that still has the version under which it was read is still what was read,
however often its name was deleted and taken again in between.
-/
namespace SecretSync

theorem version_inj {m n : Nat} (h : toString m = toString n) : m = n := by
  have digits : m.repr.toList = n.repr.toList := congrArg String.toList h
  rw [Nat.toList_repr, Nat.toList_repr] at digits
  simpa using congrArg (fun cs => Nat.ofDigitChars 10 cs 0) digits

namespace Cluster

def Issued (c : Cluster) (m : Meta) : Prop :=
  ∃ n, n ≤ c.versions ∧ m.resourceVersion = some (toString n)

/-- What holds of every cluster that came about by its own calls. -/
structure Sound (c : Cluster) : Prop where
  issued : ∀ {k s}, c.secrets.get? k = some s → c.Issued s.metadata
  placed : ∀ {k b}, c.bindings.get? k = some b → b.metadata.key = k

/-- What a call or an edit can do to a cluster: what it stores has a version that was never given
out, and stands under its own key. -/
structure Grows (c d : Cluster) : Prop where
  versions : c.versions ≤ d.versions
  secrets : ∀ {k s}, d.secrets.get? k = some s → c.secrets.get? k = some s ∨
    ∃ n, c.versions < n ∧ n ≤ d.versions ∧ s.metadata.resourceVersion = some (toString n)
  bindings : ∀ {k b}, d.bindings.get? k = some b → b.metadata.key = k ∨
    ∃ old, c.bindings.get? k = some old ∧ b.metadata.key = old.metadata.key

/-- A Secret that was read under a key: the one there now is the same or has another version. -/
def Sighted (c : Cluster) (k : Key) (e : Secret) : Prop :=
  c.Issued e.metadata ∧ ∀ s, c.secrets.get? k = some s →
    s.metadata.resourceVersion = e.metadata.resourceVersion → s = e

theorem sound_empty : Sound empty := ⟨fun h => (nomatch h), fun h => (nomatch h)⟩

theorem Issued.grows {c d : Cluster} {m : Meta} (h : c.Issued m) (g : Grows c d) : d.Issued m := by
  obtain ⟨n, le, rv⟩ := h
  exact ⟨n, Nat.le_trans le g.versions, rv⟩

theorem Sound.grows {c d : Cluster} (h : Sound c) (g : Grows c d) : Sound d where
  issued stored := by
    rcases g.secrets stored with before | ⟨n, _, le, rv⟩
    · exact (h.issued before).grows g
    · exact ⟨n, le, rv⟩
  placed stored := by
    rcases g.bindings stored with own | ⟨old, before, same⟩
    · exact own
    · exact same.trans (h.placed before)

theorem Sound.sighted {c : Cluster} (h : Sound c) {k : Key} {e : Secret}
    (found : c.secrets.get? k = some e) : c.Sighted k e :=
  ⟨h.issued found, fun _ there _ => Option.some.inj (there.symm.trans found)⟩

theorem Sighted.grows {c d : Cluster} {k : Key} {e : Secret} (h : c.Sighted k e)
    (g : Grows c d) : d.Sighted k e := by
  refine ⟨h.1.grows g, fun s there same => ?_⟩
  rcases g.secrets there with before | ⟨n, gt, _, rv⟩
  · exact h.2 s before same
  · obtain ⟨m, le, rv'⟩ := h.1
    rw [rv, rv'] at same
    have : n = m := version_inj (Option.some.inj same)
    omega

theorem Sighted.met {c : Cluster} {k : Key} {e existing s : Secret} (h : c.Sighted k e)
    (there : c.secrets.get? k = some existing)
    (named : s.metadata.resourceVersion = e.metadata.resourceVersion)
    (accepted : fresh s existing = true) : existing = e := by
  obtain ⟨⟨n, _, rv⟩, alone⟩ := h
  simp only [fresh, named, rv, decide_eq_true_eq] at accepted
  exact alone existing there (accepted.trans rv.symm)

theorem Same.grows {c d : Cluster} (h : Same c d) : Grows c d where
  versions := Nat.le_of_eq h.versions.symm
  secrets there := .inl (h.secrets ▸ there)
  bindings there := .inr ⟨_, h.bindings ▸ there, rfl⟩

theorem Grows.refl (c : Cluster) : Grows c c := (Same.refl c).grows

section Calls

theorem grows_insert {c d : Cluster} {k : Key} {s : Secret}
    (versions : d.versions = c.versions + 1) (secrets : d.secrets = c.secrets.insert k s)
    (bindings : d.bindings = c.bindings) (rv : s.metadata.resourceVersion = some c.nextVersion) :
    Grows c d where
  versions := by omega
  secrets {j t} there := by
    rw [secrets, Table.get?_insert] at there
    by_cases h : k = j
    · rw [if_pos h] at there
      cases there
      exact .inr ⟨c.versions + 1, Nat.lt_succ_self _, Nat.le_of_eq versions.symm, rv⟩
    · exact .inl (by rwa [if_neg h] at there)
  bindings there := .inr ⟨_, bindings ▸ there, rfl⟩

theorem grows_removed {c d : Cluster} (versions : d.versions = c.versions)
    (secrets : ∀ {k s}, d.secrets.get? k = some s → c.secrets.get? k = some s)
    (bindings : ∀ {k b}, d.bindings.get? k = some b → c.bindings.get? k = some b) :
    Grows c d where
  versions := Nat.le_of_eq versions.symm
  secrets there := .inl (secrets there)
  bindings there := .inr ⟨_, bindings there, rfl⟩

theorem grows_insert_binding {c d : Cluster} {k : Key} {b : Binding}
    (versions : c.versions ≤ d.versions) (secrets : d.secrets = c.secrets)
    (bindings : d.bindings = c.bindings.insert k b)
    (own : b.metadata.key = k ∨
      ∃ old, c.bindings.get? k = some old ∧ b.metadata.key = old.metadata.key) :
    Grows c d where
  versions := versions
  secrets there := .inl (secrets ▸ there)
  bindings {j e} there := by
    rw [bindings, Table.get?_insert] at there
    by_cases h : k = j
    · rw [if_pos h] at there
      cases there
      exact h ▸ own
    · exact .inr ⟨e, by rwa [if_neg h] at there, rfl⟩

theorem grows_createSecret (c : Cluster) (s : Secret) : Grows c (c.createSecret s).2 := by
  rcases createSecret_cases c s with ⟨_, same⟩ | ⟨k, _, _, call⟩
  · exact same.grows
  · rw [call]
    exact grows_insert rfl rfl rfl rfl

theorem grows_updateSecret (c : Cluster) (s : Secret) : Grows c (c.updateSecret s).2 := by
  rcases updateSecret_cases c s with ⟨_, same⟩ | ⟨k, existing, _, _, _, call⟩
  · exact same.grows
  · rw [call]
    exact grows_insert rfl rfl rfl rfl

theorem grows_updateStatus (c : Cluster) (b : Binding) : Grows c (c.updateStatus b).2 := by
  rcases updateStatus_cases c b with ⟨_, same, _⟩ | ⟨k, existing, _, there, call⟩
  · exact same.grows
  · rw [call]
    exact grows_insert_binding (Nat.le_succ _) rfl rfl (.inr ⟨existing, there, rfl⟩)

theorem grows_insertBinding (c : Cluster) (b : Binding) : Grows c (c.insertBinding b).2 :=
  grows_insert_binding (Nat.le_succ _) rfl rfl (.inl rfl)

theorem grows_insertSecret (c : Cluster) (s : Secret) : Grows c (c.insertSecret s).2 :=
  grows_insert rfl rfl rfl rfl

theorem grows_removeBinding (c : Cluster) (k : Key) : Grows c (c.removeBinding k).2 := by
  refine grows_removed rfl id fun {j b} there => ?_
  simp only [removeBinding, Table.get?_erase] at there
  split at there
  · exact nomatch there
  · exact there

theorem grows_removeSecret (c : Cluster) (k : Key) : Grows c (c.removeSecret k).2 := by
  refine grows_removed rfl (fun {j s} there => ?_) id
  simp only [removeSecret, Table.get?_erase] at there
  split at there
  · exact nomatch there
  · exact there

end Calls

end Cluster

theorem World.grows_answer (q : Request) (w : World) :
    w.cluster.Grows (World.answer q w).2.cluster := by
  cases q with
  | getBinding k => exact (Cluster.getBinding_same w.cluster k).grows
  | getSecret k => exact (Cluster.getSecret_same w.cluster k).grows
  | createSecret s => exact Cluster.grows_createSecret w.cluster s
  | updateSecret s => exact Cluster.grows_updateSecret w.cluster s
  | updateStatus b => exact Cluster.grows_updateStatus w.cluster b
  | readVault b => exact .refl w.cluster
  | record b e => exact .refl w.cluster
  | count c => exact .refl w.cluster
  | now => exact .refl w.cluster

end SecretSync
