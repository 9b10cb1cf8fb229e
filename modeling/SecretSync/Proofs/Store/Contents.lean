import SecretSync.Proofs.Store.Writes
import SecretSync.Proofs.Text.Encoding

namespace SecretSync

theorem Digest.contentHash_ne_empty (value : String) : contentHash value ≠ "" := by
  intro h
  have digits := congrArg String.toList h
  simp only [contentHash, Md5.digest, String.toList_ofList, List.flatMap_cons] at digits
  exact absurd digits (by simp [Md5.toBytes, List.range, List.range.loop, hexByte])

namespace Binding

/-- Whether a Secret holds a value for a binding, as bytes that read as the value, and is
controlled by it. -/
structure HoldsFor (b : Binding) (v : String) (s : Secret) : Prop where
  bytes : s.data.bind (fun d => d.get? b.spec.output.keyName) = some (Text.Utf8.encode v)
  controlled : s.metadata.controlledBy b = true

theorem HoldsFor.value {b : Binding} {v : String} {s : Secret} (h : b.HoldsFor v s) :
    s.value? b.spec.output.keyName = some v := by
  simp only [Secret.value?, h.bytes, Text.Utf8.decodeLossy_encode]

theorem HoldsFor.observe {b : Binding} {v : String} {s : Secret} (h : b.HoldsFor v s)
    (now : Moment) : (b.observe s now).secretHash = some (Digest.contentHash v) := by
  simp only [Binding.observe, h.value, Option.getD_some]

theorem ownerReference_eq_some {b : Binding} {owner : OwnerReference}
    (h : b.ownerReference? = some owner) :
    b.metadata.name = some owner.name ∧ b.metadata.uid = some owner.uid ∧
      owner.controller = some true := by
  simp only [ownerReference?, Option.pure_def, Option.bind_eq_bind, Option.bind_eq_some_iff] at h
  obtain ⟨name, hn, uid, hu, rest⟩ := h
  cases Option.some.inj rest
  exact ⟨hn, hu, rfl⟩

theorem controlledBy_of_owners {b : Binding} {owner : OwnerReference} {m : Meta}
    (h : b.ownerReference? = some owner) (sole : m.owners = some [owner]) :
    m.controller? = some owner ∧ m.controlledBy b = true := by
  obtain ⟨_, uid, controls⟩ := ownerReference_eq_some h
  have found : m.controller? = some owner := by
    simp [Meta.controller?, sole, controls]
  refine ⟨found, ?_⟩
  simp only [Meta.controlledBy, found, uid, decide_true]

theorem writeKey_output {b : Binding} {m : Meta} {k : Key} (h : m.writeKey = .ok k)
    (space : m.space = b.metadata.space) (name : m.name = some b.spec.output.name) :
    k = b.outputKey := by
  obtain ⟨hs, hn⟩ := Meta.writeKey_ok h
  have space : b.metadata.space = some k.space := space.symm.trans hs
  have name : k.name = b.spec.output.name := Option.some.inj (hn.symm.trans name)
  rw [outputKey, space, Option.getD_some, ← name]

theorem writeKey_own {b : Binding} {owner : OwnerReference} {m : Meta} {k : Key}
    (h : m.writeKey = .ok k) (space : m.space = b.metadata.space)
    (owned : b.ownerReference? = some owner) : b.metadata.writeKey = .ok b.metadata.key :=
  Meta.writeKey_of_parts (space.symm.trans (Meta.writeKey_ok h).1) (ownerReference_eq_some owned).1

theorem folded_desired_data (b : Binding) (owner : OwnerReference) (v : String) :
    (b.desired owner v).folded.data.bind (fun d => d.get? b.spec.output.keyName) =
      some (Text.Utf8.encode v) := by
  simp [Secret.folded, desired, Table.insert, Table.place, Table.empty, Table.get?, Table.lookup]

theorem holdsFor_created (c : Cluster) {b : Binding} {owner : OwnerReference} (v : String)
    (h : b.ownerReference? = some owner) : b.HoldsFor v (c.created (b.desired owner v)) where
  bytes := folded_desired_data b owner v
  controlled := (controlledBy_of_owners h rfl).2

/-- The Secret to write over one that was read: the new content at the version of the old. -/
def desiredOver (b : Binding) (owner : OwnerReference) (v : String) (existing : Secret) : Secret :=
  { b.desired owner v with
    metadata :=
      { (b.desired owner v).metadata with
        resourceVersion := existing.metadata.resourceVersion } }

theorem holdsFor_replaced (c : Cluster) {b : Binding} {owner : OwnerReference} (v : String)
    (read existing : Secret) (h : b.ownerReference? = some owner) :
    b.HoldsFor v (c.replaced (b.desiredOver owner v read) existing) where
  bytes := folded_desired_data b owner v
  controlled := (controlledBy_of_owners h rfl).2

end Binding

namespace Cluster

/-- A Secret write for a binding went through: the Secret that came back holds the value and is what
stands under the output key now, and the journal tells of the write. -/
structure Placed (b : Binding) (v : String) (s : Secret) (write : Write) (c d : Cluster) :
    Prop where
  holds : b.HoldsFor v s
  named : b.metadata.writeKey = .ok b.metadata.key
  secrets : d.secrets = c.secrets.insert b.outputKey s
  bindings : d.bindings = c.bindings
  failures : d.failures = c.failures
  journal : d.journal = c.journal ++ [write]

theorem Placed.get? {b : Binding} {v : String} {s : Secret} {write : Write} {c d : Cluster}
    (h : Placed b v s write c d) : d.secrets.get? b.outputKey = some s := by
  rw [h.secrets]
  exact Table.get?_insert_self ..

variable {c : Cluster} {b : Binding} {owner : OwnerReference} {v : String} {s : Secret}

theorem placed_created (owned : b.ownerReference? = some owner)
    (answered : (c.createSecret (b.desired owner v)).1 = .ok s) :
    c.secrets.get? b.outputKey = none ∧
      Placed b v s (.createSecret b.outputKey) c (c.createSecret (b.desired owner v)).2 := by
  obtain ⟨k, named, free, rfl, after⟩ := createSecret_ok answered
  obtain rfl : k = b.outputKey := Binding.writeKey_output named rfl rfl
  have holds := b.holdsFor_created c v owned
  have own := Binding.writeKey_own named rfl owned
  rw [after]
  exact ⟨free, holds, own, rfl, rfl, rfl, rfl⟩

theorem placed_updated {read : Secret} (owned : b.ownerReference? = some owner)
    (answered : (c.updateSecret (b.desiredOver owner v read)).1 = .ok s) :
    (∃ existing, c.secrets.get? b.outputKey = some existing) ∧
      Placed b v s (.updateSecret b.outputKey) c
        (c.updateSecret (b.desiredOver owner v read)).2 := by
  obtain ⟨k, existing, named, there, _, rfl, after⟩ := updateSecret_ok answered
  obtain rfl : k = b.outputKey := Binding.writeKey_output named rfl rfl
  have holds := b.holdsFor_replaced c v read existing owned
  have own := Binding.writeKey_own named rfl owned
  rw [after]
  exact ⟨⟨existing, there⟩, holds, own, rfl, rfl, rfl, rfl⟩

end Cluster

end SecretSync
