import SecretSync.Proofs.Pass.Evaluation
import SecretSync.Proofs.Resource.KeyText

namespace SecretSync

namespace Key

theorem parse?_isSome_iff (text : String) : (∃ k, parse? text = some k) ↔
    text.toList.count '/' ≤ 1 ∧ [] ∉ text.toList.splitOn '/' := by
  rw [← parts_eq_splitOn]
  have length := length_parts text.toList
  unfold parse?
  generalize parts text.toList = split at length ⊢
  match split with
  | [] => cases length
  | [name] =>
    have single : text.toList.count '/' ≤ 1 := by
      rw [List.length_singleton] at length
      omega
    by_cases empty : name = [] <;> simp [empty, single, eq_comm]
  | [space, name] =>
    have double : text.toList.count '/' ≤ 1 := by
      rw [List.length_cons, List.length_singleton] at length
      omega
    by_cases empty : space = [] ∨ name = [] <;> simp_all [eq_comm]
  | _ :: _ :: _ :: rest =>
    have many : ¬ text.toList.count '/' ≤ 1 := by
      simp only [List.length_cons] at length
      omega
    simp [many]

end Key

/-- A binding with a name, in which there is no slash, as there is none in its namespace. -/
structure Binding.Keyed (b : Binding) : Prop where
  named : b.metadata.name.getD "" ≠ ""
  name : '/' ∉ (b.metadata.name.getD "").toList
  space : '/' ∉ (b.metadata.space.getD "").toList

namespace Binding.Keyed

variable {a b : Binding}

theorem parse_key (keyed : b.Keyed) :
    Key.parse? b.key = some ⟨b.metadata.space.getD "", b.metadata.name.getD ""⟩ :=
  Key.parse?_render keyed.named keyed.space keyed.name

theorem name_eq (keyed : b.Keyed) : b.metadata.name = some (b.metadata.name.getD "") := by
  cases given : b.metadata.name with
  | none => exact absurd (given ▸ rfl) keyed.named
  | some name => rfl

theorem key_eq_iff (first : a.Keyed) (second : b.Keyed) : a.key = b.key ↔
    a.metadata.space.getD "" = b.metadata.space.getD "" ∧ a.metadata.name = b.metadata.name := by
  constructor
  · intro same
    have read := first.parse_key
    rw [same, second.parse_key, Option.some.injEq, Key.mk.injEq] at read
    exact ⟨read.1.symm, by rw [first.name_eq, second.name_eq, read.2]⟩
  · rintro ⟨space, name⟩
    rw [Binding.key, Binding.key, Meta.key, Meta.key, space, name]

end Binding.Keyed

namespace Cluster

def insertBindings (c : Cluster) (bs : List Binding) : Cluster :=
  bs.foldl (fun c b => (c.insertBinding b).2) c

theorem get?_insertBinding (c : Cluster) (b : Binding) :
    (c.insertBinding b).2.bindings.get? b.metadata.key = some (c.insertBinding b).1 :=
  Table.get?_insert_self ..

theorem get?_insertBinding_of_ne (c : Cluster) {b : Binding} {k : Key}
    (apart : b.metadata.key ≠ k) : (c.insertBinding b).2.bindings.get? k = c.bindings.get? k :=
  Table.get?_insert_of_ne _ _ apart

theorem get?_insertBindings_of_ne (c : Cluster) {k : Key} (bs : List Binding)
    (apart : ∀ b ∈ bs, b.metadata.key ≠ k) :
    (c.insertBindings bs).bindings.get? k = c.bindings.get? k := by
  induction bs generalizing c with
  | nil => rfl
  | cons b rest ih =>
    obtain ⟨here, later⟩ := List.forall_mem_cons.1 apart
    exact (ih (c.insertBinding b).2 later).trans (c.get?_insertBinding_of_ne here)

end Cluster

/-- What a pass asks first is the binding of the key that it reads. -/
theorem Lane.looks_up (lane : Lane) {key : String} {k : Key} (parsed : Key.parse? key = some k) :
    ∃ next, (lane.pass key).run = .ask (.getBinding k) next := by
  cases lane with
  | spec =>
    rw [Lane.pass, Pass.specSync, Pass.parseKey, parsed]
    exact ⟨_, rfl⟩
  | poll =>
    rw [Lane.pass, Pass.vaultPoll, Pass.parseKey, parsed]
    exact ⟨_, rfl⟩

theorem World.answer_getBinding {w : World} (calm : w.cluster.failures .getBinding = 0) (k : Key) :
    w.answer (.getBinding k) = (.ok (w.cluster.bindings.get? k), w) := by
  change w.call (fun c => c.getBinding k) = _
  rw [World.call, Cluster.getBinding, Cluster.attempt_calm calm]
  rfl

/-- A text is a key exactly if it has at most one slash and no empty part, and a binding named by
the parts has that key. The key of a binding with plain names is read as its namespace, empty if
there is none, and its name, and so it is the key of no binding of another namespace or name. Put
into a cluster and queued by its key, the binding is the one that both passes look up, whatever
bindings with other keys are put in later. -/
theorem keys_identify_bindings :
    (∀ text, (∃ k, Key.parse? text = some k) ↔
      text.toList.count '/' ≤ 1 ∧ [] ∉ text.toList.splitOn '/') ∧
    (∀ text k, Key.parse? text = some k → k.render = text ∧
      ∀ b : Binding, b.metadata.key = k → b.key = text) ∧
    (∀ b : Binding, b.Keyed →
      Key.parse? b.key = some ⟨b.metadata.space.getD "", b.metadata.name.getD ""⟩) ∧
    (∀ a b : Binding, a.Keyed → b.Keyed → (a.key = b.key ↔
      a.metadata.space.getD "" = b.metadata.space.getD "" ∧ a.metadata.name = b.metadata.name)) ∧
    ∀ (c : Cluster) (b : Binding), b.Keyed → ∀ later : List Binding, (∀ a ∈ later, a.key ≠ b.key) →
      ∀ (w : World) (lane : Lane), w.cluster = (c.insertBinding b).2.insertBindings later →
        w.cluster.failures .getBinding = 0 →
        let stored := (c.insertBinding b).1
        ∃ k next, (lane.pass stored.key).run = .ask (.getBinding k) next ∧
          w.answer (.getBinding k) = (.ok (some stored), w) := by
  refine ⟨Key.parse?_isSome_iff, fun text k parsed => ?_, fun b keyed => keyed.parse_key,
    fun a b first second => first.key_eq_iff second, ?_⟩
  · have whole := Key.render_of_parse? parsed
    exact ⟨whole, fun b same => by rw [Binding.key, same, whole]⟩
  · intro c b keyed later apart w lane there calm stored
    have own : Key.parse? stored.key = some b.metadata.key := keyed.parse_key
    obtain ⟨next, asks⟩ := lane.looks_up own
    have kept : w.cluster.bindings.get? b.metadata.key = some stored := by
      have others : ∀ a ∈ later, a.metadata.key ≠ b.metadata.key := fun a inside same =>
        apart a inside (by rw [Binding.key, Binding.key, same])
      rw [there, Cluster.get?_insertBindings_of_ne _ later others, Cluster.get?_insertBinding]
    exact ⟨b.metadata.key, next, asks, by rw [World.answer_getBinding calm, kept]⟩

def Binding.bare : Binding :=
  { Binding.sample with metadata := { Binding.sample.metadata with space := none } }

theorem Binding.keyed_sample : Binding.sample.Keyed := ⟨by decide, by decide, by decide⟩

theorem Binding.keyed_bare : Binding.bare.Keyed := ⟨by decide, by decide, by decide⟩

/-- A cluster with both bindings, under the keys "default/db-cred" and "db-cred". -/
def World.named : World :=
  { World.start ⟨0, 0⟩ with
    cluster := (Cluster.empty.insertBinding .sample).2.insertBindings [.bare] }

theorem sample_found_beside_bare :
    (∃ k, Key.parse? "default/db-cred" = some k) ∧ (¬ ∃ k, Key.parse? "/db-cred" = some k) ∧
    Binding.sample.key = "default/db-cred" ∧ Binding.bare.key = "db-cred" ∧
    Binding.sample.key ≠ Binding.bare.key ∧
    ∃ k next, (Lane.poll.pass "default/db-cred").run = .ask (.getBinding k) next ∧
      World.named.answer (.getBinding k) =
        (.ok (some (Cluster.empty.insertBinding .sample).1), World.named) := by
  obtain ⟨accepted, rebuilt, split, apart, found⟩ := keys_identify_bindings
  have distinct : Binding.sample.key ≠ Binding.bare.key := fun same =>
    absurd ((apart .sample .bare Binding.keyed_sample Binding.keyed_bare).1 same).1 (by decide)
  have whole : Key.parse? "default/db-cred" = some ⟨"default", "db-cred"⟩ :=
    split .sample Binding.keyed_sample
  refine ⟨(accepted _).2 (by decide), fun read => absurd ((accepted _).1 read).2 (by decide),
    (rebuilt _ _ whole).2 .sample rfl, rfl, distinct, ?_⟩
  exact found .empty .sample Binding.keyed_sample [.bare]
    (fun a inside => List.mem_singleton.1 inside ▸ distinct.symm) .named .poll rfl rfl

end SecretSync
