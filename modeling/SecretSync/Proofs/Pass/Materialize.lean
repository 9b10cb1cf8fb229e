import SecretSync.Proofs.Pass.Evaluation

namespace SecretSync

open Digest (contentHash)

theorem Text.Utf8.encode_eq_toUTF8 (s : String) : encode s = s.toUTF8.data.toList := by
  rw [encode, String.toUTF8, ← String.utf8Encode_toList, List.utf8Encode, List.data_toByteArray]

/-- A Secret to be written over one of a version, or over any. -/
def Secret.over (s : Secret) (version : Option String) : Secret :=
  { s with metadata := { s.metadata with resourceVersion := version } }

namespace Binding

/-- A Secret holds a value for a binding and holds nothing else: the bytes of the value are its only
entry, they read as the value, and the binding controls it and observes that value in it. -/
structure Materializes (b : Binding) (v : String) (s : Secret) : Prop where
  texts : s.stringData = none
  data : s.data = some (Table.empty.insert b.spec.output.keyName v.toUTF8.data.toList)
  value : s.value? b.spec.output.keyName = some v
  controlled : s.metadata.controlledBy b = true
  observed : ∀ now, (b.observe s now).secretHash = some (contentHash v)

variable {b : Binding} {owner : OwnerReference} {v : String}

theorem materializes_of_data {s : Secret} (owned : b.ownerReference? = some owner)
    (owners : s.metadata.owners = some [owner]) (texts : s.stringData = none)
    (data : s.data = some (Table.empty.insert b.spec.output.keyName (Text.Utf8.encode v))) :
    b.Materializes v s := by
  have holds : b.HoldsFor v s := by
    refine ⟨?_, (controlledBy_of_owners owned owners).2⟩
    rw [data]
    exact Table.get?_insert_self ..
  rw [Text.Utf8.encode_eq_toUTF8] at data
  exact ⟨texts, data, holds.value, holds.controlled, holds.observe⟩

theorem materializes_created (c : Cluster) (owned : b.ownerReference? = some owner) :
    b.Materializes v (c.created (b.desired owner v)) :=
  materializes_of_data owned rfl rfl rfl

theorem materializes_replaced (c : Cluster) (version : Option String) (existing : Secret)
    (owned : b.ownerReference? = some owner) :
    b.Materializes v (c.replaced ((b.desired owner v).over version) existing) :=
  materializes_of_data owned rfl rfl rfl

theorem writeKey_output_of_space {space : String} (spaced : b.metadata.space = some space)
    (owner : OwnerReference) (v : String) :
    (b.desired owner v).metadata.writeKey = .ok b.outputKey :=
  Meta.writeKey_of_parts spaced rfl

theorem owner_of_parts {name uid : String} (named : b.metadata.name = some name)
    (identified : b.metadata.uid = some uid) : ∃ owner, b.ownerReference? = some owner := by
  rw [ownerReference?, named, identified]
  exact ⟨_, rfl⟩

end Binding

namespace Cluster

variable {c : Cluster} {k : Key} {s existing : Secret}

theorem createSecret_free (calm : c.failures .createSecret = 0)
    (ready : s.metadata.writeKey = .ok k) (free : c.secrets.get? k = none) :
    c.createSecret s = (.ok (c.created s), c.withCreated k s) := by
  rw [createSecret_calm calm ready, free]

theorem fresh_over {version : Option String}
    (current : version = none ∨ version = existing.metadata.resourceVersion) :
    fresh (s.over version) existing = true := by
  unfold fresh Secret.over
  cases version with
  | none => rfl
  | some version =>
    have same := current.resolve_left (Option.some_ne_none version)
    exact decide_eq_true same.symm

theorem updateSecret_there {version : Option String} (calm : c.failures .updateSecret = 0)
    (ready : s.metadata.writeKey = .ok k) (there : c.secrets.get? k = some existing)
    (current : version = none ∨ version = existing.metadata.resourceVersion) :
    c.updateSecret (s.over version) =
      (.ok (c.replaced (s.over version) existing), c.withReplaced k (s.over version) existing) := by
  have ready' : (s.over version).metadata.writeKey = .ok k := ready
  rw [updateSecret_calm calm ready', there]
  exact if_pos (fresh_over current)

end Cluster

namespace Pass

variable {σ : Type} {b : Binding} {owner : OwnerReference} {v : String}

theorem run_compose_given (answer : (q : Request) → σ → q.Answer × σ) (t : σ)
    (output : b.spec.output.name ≠ "") (owned : b.ownerReference? = some owner) :
    Program.run answer (compose b (some v)).run t = (.ok (b.desired owner v), t) := by
  unfold compose
  rw [if_neg output, owned]
  rfl

theorem run_compose_supplied {answer : (q : Request) → σ → q.Answer × σ} {t : σ}
    (output : b.spec.output.name ≠ "") (owned : b.ownerReference? = some owner)
    (supplied : (answer (.readVault b) t).1 = .ok v) :
    Program.run answer (compose b none).run t =
      (.ok (b.desired owner v), (answer (.readVault b) t).2) := by
  unfold compose
  rw [if_neg output, owned]
  change Program.run answer (ExceptT.run (readVault b >>= _)) t = _
  rw [run_bind]
  have read : Program.run answer (readVault b).run t =
      (.ok (.ok v), (answer (.readVault b) t).2) := by
    rw [← supplied]
    rfl
  rw [read]
  rfl

end Pass

/-- Every binding that names itself and its output has one Secret for a value. It is composed when
the value is at hand, and when the vault is read and returns it. A cluster in which it is created
and one in which it is written over another, whatever that one held, store the same but for the
identity and the version: the value under the key of the binding and nothing else, from which the
value is read back as it was. -/
theorem both_paths_store_one_secret {b : Binding} {name space uid : String}
    (named : b.metadata.name = some name) (spaced : b.metadata.space = some space)
    (identified : b.metadata.uid = some uid) (output : b.spec.output.name ≠ "") (v : String) :
    ∃ s : Secret,
      (∀ (σ : Type) (answer : (q : Request) → σ → q.Answer × σ) (t : σ),
        Program.run answer (Pass.compose b (some v)).run t = (.ok s, t) ∧
        ((answer (.readVault b) t).1 = .ok v →
          Program.run answer (Pass.compose b none).run t =
            (.ok s, (answer (.readVault b) t).2))) ∧
      ∀ (c d : Cluster) (existing : Secret) (version : Option String),
        c.failures .createSecret = 0 → c.secrets.get? b.outputKey = none →
        d.failures .updateSecret = 0 → d.secrets.get? b.outputKey = some existing →
        (version = none ∨ version = existing.metadata.resourceVersion) →
        ∃ made kept,
          (c.createSecret s).1 = .ok made ∧
          (c.createSecret s).2.secrets.get? b.outputKey = some made ∧
          (d.updateSecret (s.over version)).1 = .ok kept ∧
          (d.updateSecret (s.over version)).2.secrets.get? b.outputKey = some kept ∧
          kept = { made with
            metadata := { made.metadata with
              uid := kept.metadata.uid
              resourceVersion := kept.metadata.resourceVersion } } ∧
          b.Materializes v made ∧ b.Materializes v kept := by
  obtain ⟨owner, owned⟩ := Binding.owner_of_parts named identified
  refine ⟨b.desired owner v, fun σ answer t => ⟨Pass.run_compose_given answer t output owned,
    Pass.run_compose_supplied output owned⟩, ?_⟩
  intro c d existing version calm free calm' there current
  have ready := Binding.writeKey_output_of_space spaced owner v
  have create := Cluster.createSecret_free calm ready free
  have update := Cluster.updateSecret_there calm' ready there current
  refine ⟨_, _, congrArg Prod.fst create, ?_, congrArg Prod.fst update, ?_, rfl,
    Binding.materializes_created c owned, Binding.materializes_replaced d version existing owned⟩
  · rw [create]
    exact Table.get?_insert_self ..
  · rw [update]
    exact Table.get?_insert_self ..

/-- A text of more than one alphabet, created and written over a Secret with other entries. -/
theorem sample_secret_stored_both_ways :
    let other : Secret :=
      { Secret.empty with
        metadata := { Meta.empty with name := some "db-secret", space := some "default" }
        data := some (Table.empty.insert "other" [0, 255])
        stringData := some (Table.empty.insert "password" "old") }
    let d := (Cluster.empty.insertSecret other).2
    ∃ s made kept, World.run (Pass.compose .sample (some "größe 尺")) (World.sample "") =
        (.ok s, World.sample "") ∧
      (Cluster.empty.createSecret s).1 = .ok made ∧ (d.updateSecret (s.over none)).1 = .ok kept ∧
      kept.data = made.data ∧ kept.value? "password" = some "größe 尺" ∧
      kept.metadata.controlledBy .sample = true := by
  intro other d
  obtain ⟨s, composed, stored⟩ :=
    both_paths_store_one_secret (b := .sample) rfl rfl rfl (by decide) "größe 尺"
  obtain ⟨made, kept, create, -, update, -, -, first, second⟩ :=
    stored Cluster.empty d _ none rfl rfl rfl rfl (.inl rfl)
  exact ⟨s, made, kept, (composed World World.answer (World.sample "")).1, create, update,
    second.data.trans first.data.symm, second.value, second.controlled⟩

end SecretSync
