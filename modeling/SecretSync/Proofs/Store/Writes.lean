import SecretSync.Store.Cluster

namespace SecretSync

theorem Meta.writeKey_ok {m : Meta} {k : Key} (h : m.writeKey = .ok k) :
    m.space = some k.space ∧ m.name = some k.name := by
  unfold writeKey at h
  split at h
  · exact nomatch h
  · exact nomatch h
  · rename_i space name hs hn
    cases h
    exact ⟨hs, hn⟩

theorem Meta.writeKey_of_parts {m : Meta} {space name : String} (hs : m.space = some space)
    (hn : m.name = some name) : m.writeKey = .ok m.key := by
  simp [writeKey, key, hs, hn]

theorem Meta.key_of_writeKey {m : Meta} {k : Key} (h : m.writeKey = .ok k) : m.key = k := by
  obtain ⟨space, name⟩ := writeKey_ok h
  rw [key, space, name]
  rfl

namespace Cluster

/-- Two clusters that differ at most in failures used up. -/
structure Same (c d : Cluster) : Prop where
  secrets : d.secrets = c.secrets
  bindings : d.bindings = c.bindings
  journal : d.journal = c.journal
  versions : d.versions = c.versions
  identities : d.identities = c.identities
  failures : ∀ op, d.failures op ≤ c.failures op

theorem Same.refl (c : Cluster) : Same c c := ⟨rfl, rfl, rfl, rfl, rfl, fun _ => Nat.le_refl _⟩

theorem Same.trans {c d e : Cluster} (h : Same c d) (k : Same d e) : Same c e where
  secrets := k.secrets.trans h.secrets
  bindings := k.bindings.trans h.bindings
  journal := k.journal.trans h.journal
  versions := k.versions.trans h.versions
  identities := k.identities.trans h.identities
  failures op := Nat.le_trans (k.failures op) (h.failures op)

theorem same_failNext (c : Cluster) {op : Operation} {times : Nat}
    (fewer : times ≤ c.failures op) : Same c (c.failNext op times) := by
  refine ⟨rfl, rfl, rfl, rfl, rfl, fun o => ?_⟩
  by_cases h : o = op
  · subst h
    simpa only [failNext, if_pos] using fewer
  · simp only [failNext, if_neg h, Nat.le_refl]

/-- A call fails because a failure was left, or it answers as if there were none. -/
theorem attempt_cases (c : Cluster) (op : Operation) (call : Answer α) :
    (0 < c.failures op ∧ (∃ e, (c.attempt op call).1 = .error e) ∧
      Same c (c.attempt op call).2) ∨ c.attempt op call = call := by
  unfold attempt
  by_cases h : 0 < c.failures op
  · rw [if_pos h]
    exact .inl ⟨h, ⟨_, rfl⟩, same_failNext c (Nat.sub_le _ _)⟩
  · exact .inr (if_neg h)

theorem attempt_refused (α : Type) (c : Cluster) (op : Operation) (e : StoreError) :
    (∃ e', (c.attempt op ((.error e, c) : Answer α)).1 = .error e') ∧
      Same c (c.attempt op ((.error e, c) : Answer α)).2 := by
  rcases attempt_cases c op ((.error e, c) : Answer α) with ⟨_, failed, same⟩ | call
  · exact ⟨failed, same⟩
  · rw [call]
    exact ⟨⟨e, rfl⟩, .refl c⟩

section Reads

theorem getSecret_same (c : Cluster) (k : Key) : Same c (c.getSecret k).2 := by
  rcases attempt_cases c .getSecret (.ok (c.secrets.get? k), c) with ⟨_, _, h⟩ | h
  · exact h
  · rw [getSecret, h]
    exact .refl c

theorem getSecret_ok {c : Cluster} {k : Key} {found : Option Secret}
    (h : (c.getSecret k).1 = .ok found) : c.secrets.get? k = found := by
  rcases attempt_cases c .getSecret (.ok (c.secrets.get? k), c) with ⟨_, ⟨e, he⟩, _⟩ | call
  · exact nomatch he.symm.trans h
  · rw [getSecret, call] at h
    exact Except.ok.inj h

theorem getBinding_same (c : Cluster) (k : Key) : Same c (c.getBinding k).2 := by
  rcases attempt_cases c .getBinding (.ok (c.bindings.get? k), c) with ⟨_, _, h⟩ | h
  · exact h
  · rw [getBinding, h]
    exact .refl c

theorem getBinding_ok {c : Cluster} {k : Key} {found : Option Binding}
    (h : (c.getBinding k).1 = .ok found) : c.bindings.get? k = found := by
  rcases attempt_cases c .getBinding (.ok (c.bindings.get? k), c) with ⟨_, ⟨e, he⟩, _⟩ | call
  · exact nomatch he.symm.trans h
  · rw [getBinding, call] at h
    exact Except.ok.inj h

theorem listBindings_same (c : Cluster) : Same c c.listBindings.2 := by
  rcases attempt_cases c .listBindings (.ok c.bindings.values, c) with ⟨_, _, h⟩ | h
  · exact h
  · rw [listBindings, h]
    exact .refl c

theorem listBindings_ok {c : Cluster} {found : List Binding} (h : c.listBindings.1 = .ok found) :
    c.bindings.values = found := by
  rcases attempt_cases c .listBindings (.ok c.bindings.values, c) with ⟨_, ⟨e, he⟩, _⟩ | call
  · exact nomatch he.symm.trans h
  · rw [listBindings, call] at h
    exact Except.ok.inj h

end Reads

section Create

def withCreated (c : Cluster) (k : Key) (s : Secret) : Cluster :=
  { c with
    secrets := c.secrets.insert k (c.created s)
    versions := c.versions + 1
    identities := c.identities + 1
    journal := c.journal ++ [.createSecret k] }

theorem createSecret_cases (c : Cluster) (s : Secret) :
    ((∃ e, (c.createSecret s).1 = .error e) ∧ Same c (c.createSecret s).2) ∨
    ∃ k, s.metadata.writeKey = .ok k ∧ c.secrets.get? k = none ∧
      c.createSecret s = (.ok (c.created s), c.withCreated k s) := by
  unfold createSecret
  cases hk : s.metadata.writeKey with
  | error e => exact .inl ⟨⟨e, rfl⟩, .refl c⟩
  | ok k =>
    dsimp only
    cases hs : c.secrets.get? k with
    | some t => exact .inl (attempt_refused Secret c .createSecret _)
    | none =>
      rcases attempt_cases c .createSecret
        ((.ok (c.created s), c.withCreated k s) : Answer Secret) with ⟨_, he, same⟩ | call
      · exact .inl ⟨he, same⟩
      · exact .inr ⟨k, rfl, hs, call⟩

theorem createSecret_ok {c : Cluster} {s t : Secret} (h : (c.createSecret s).1 = .ok t) :
    ∃ k, s.metadata.writeKey = .ok k ∧ c.secrets.get? k = none ∧ t = c.created s ∧
      (c.createSecret s).2 = c.withCreated k s := by
  rcases createSecret_cases c s with ⟨⟨e, he⟩, _⟩ | ⟨k, hk, free, call⟩
  · exact nomatch he.symm.trans h
  · rw [call] at h
    exact ⟨k, hk, free, (Except.ok.inj h).symm, congrArg Prod.snd call⟩

theorem createSecret_error {c : Cluster} {s : Secret} {e : StoreError}
    (h : (c.createSecret s).1 = .error e) : Same c (c.createSecret s).2 := by
  rcases createSecret_cases c s with ⟨_, same⟩ | ⟨k, _, _, call⟩
  · exact same
  · rw [call] at h
    exact nomatch h

end Create

section Update

def withReplaced (c : Cluster) (k : Key) (s existing : Secret) : Cluster :=
  { c with
    secrets := c.secrets.insert k (c.replaced s existing)
    versions := c.versions + 1
    journal := c.journal ++ [.updateSecret k] }

theorem updateSecret_cases (c : Cluster) (s : Secret) :
    ((∃ e, (c.updateSecret s).1 = .error e) ∧ Same c (c.updateSecret s).2) ∨
    ∃ k existing, s.metadata.writeKey = .ok k ∧ c.secrets.get? k = some existing ∧
      fresh s existing = true ∧
      c.updateSecret s = (.ok (c.replaced s existing), c.withReplaced k s existing) := by
  unfold updateSecret
  cases hk : s.metadata.writeKey with
  | error e => exact .inl ⟨⟨e, rfl⟩, .refl c⟩
  | ok k =>
    dsimp only
    cases hs : c.secrets.get? k with
    | none => exact .inl (attempt_refused Secret c .updateSecret _)
    | some existing =>
      dsimp only
      by_cases hf : fresh s existing = true
      · rw [if_pos hf]
        rcases attempt_cases c .updateSecret
          ((.ok (c.replaced s existing), c.withReplaced k s existing) : Answer Secret)
          with ⟨_, he, same⟩ | call
        · exact .inl ⟨he, same⟩
        · exact .inr ⟨k, existing, rfl, hs, hf, call⟩
      · rw [if_neg hf]
        exact .inl (attempt_refused Secret c .updateSecret _)

theorem updateSecret_ok {c : Cluster} {s t : Secret} (h : (c.updateSecret s).1 = .ok t) :
    ∃ k existing, s.metadata.writeKey = .ok k ∧ c.secrets.get? k = some existing ∧
      fresh s existing = true ∧ t = c.replaced s existing ∧
      (c.updateSecret s).2 = c.withReplaced k s existing := by
  rcases updateSecret_cases c s with ⟨⟨e, he⟩, _⟩ | ⟨k, existing, hk, there, hf, call⟩
  · exact nomatch he.symm.trans h
  · rw [call] at h
    exact ⟨k, existing, hk, there, hf, (Except.ok.inj h).symm, congrArg Prod.snd call⟩

theorem updateSecret_error {c : Cluster} {s : Secret} {e : StoreError}
    (h : (c.updateSecret s).1 = .error e) : Same c (c.updateSecret s).2 := by
  rcases updateSecret_cases c s with ⟨_, same⟩ | ⟨k, _, _, _, _, call⟩
  · exact same
  · rw [call] at h
    exact nomatch h

end Update

section Status

def withRestated (c : Cluster) (k : Key) (b existing : Binding) : Cluster :=
  { c with
    bindings := c.bindings.insert k (c.restated b existing)
    versions := c.versions + 1
    journal := c.journal ++ [.updateStatus k (b.status.bind Binding.Status.secretHash)] }

theorem updateStatus_cases (c : Cluster) (b : Binding) :
    ((∃ e, (c.updateStatus b).1 = .error e) ∧ Same c (c.updateStatus b).2 ∧
      (0 < c.failures .updateStatus ∨
        ∀ k, b.metadata.writeKey = .ok k → c.bindings.get? k = none)) ∨
    ∃ k existing, b.metadata.writeKey = .ok k ∧ c.bindings.get? k = some existing ∧
      c.updateStatus b = (.ok (c.restated b existing), c.withRestated k b existing) := by
  unfold updateStatus
  cases hk : b.metadata.writeKey with
  | error e => exact .inl ⟨⟨e, rfl⟩, .refl c, .inr fun _ h => nomatch h⟩
  | ok k =>
    dsimp only
    cases hb : c.bindings.get? k with
    | none =>
      obtain ⟨failed, same⟩ := attempt_refused Binding c .updateStatus _
      exact .inl ⟨failed, same, .inr fun j hj => Except.ok.inj hj ▸ hb⟩
    | some existing =>
      rcases attempt_cases c .updateStatus
        ((.ok (c.restated b existing), c.withRestated k b existing) : Answer Binding)
        with ⟨left, he, same⟩ | call
      · exact .inl ⟨he, same, .inl left⟩
      · exact .inr ⟨k, existing, rfl, hb, call⟩

theorem updateStatus_ok {c : Cluster} {b d : Binding} (h : (c.updateStatus b).1 = .ok d) :
    ∃ k existing, b.metadata.writeKey = .ok k ∧ c.bindings.get? k = some existing ∧
      d = c.restated b existing ∧ (c.updateStatus b).2 = c.withRestated k b existing := by
  rcases updateStatus_cases c b with ⟨⟨e, he⟩, _⟩ | ⟨k, existing, hk, there, call⟩
  · exact nomatch he.symm.trans h
  · rw [call] at h
    exact ⟨k, existing, hk, there, (Except.ok.inj h).symm, congrArg Prod.snd call⟩

theorem updateStatus_error {c : Cluster} {b : Binding} {e : StoreError}
    (h : (c.updateStatus b).1 = .error e) :
    Same c (c.updateStatus b).2 ∧ (0 < c.failures .updateStatus ∨
      ∀ k, b.metadata.writeKey = .ok k → c.bindings.get? k = none) := by
  rcases updateStatus_cases c b with ⟨_, refused⟩ | ⟨k, _, _, _, call⟩
  · exact refused
  · rw [call] at h
    exact nomatch h

end Status

section Elsewhere

variable {c : Cluster} {s : Secret} {b : Binding} {k : Key}

theorem createSecret_elsewhere (apart : ∀ target, s.metadata.writeKey = .ok target → target ≠ k) :
    (c.createSecret s).2.secrets.get? k = c.secrets.get? k := by
  rcases createSecret_cases c s with ⟨-, same⟩ | ⟨target, named, -, call⟩
  · rw [same.secrets]
  · rw [call, withCreated, Table.get?_insert_of_ne _ _ (apart target named)]

theorem updateSecret_elsewhere (apart : ∀ target, s.metadata.writeKey = .ok target → target ≠ k) :
    (c.updateSecret s).2.secrets.get? k = c.secrets.get? k := by
  rcases updateSecret_cases c s with ⟨-, same⟩ | ⟨target, existing, named, -, -, call⟩
  · rw [same.secrets]
  · rw [call, withReplaced, Table.get?_insert_of_ne _ _ (apart target named)]

theorem updateStatus_elsewhere (apart : ∀ target, b.metadata.writeKey = .ok target → target ≠ k) :
    (c.updateStatus b).2.bindings.get? k = c.bindings.get? k := by
  rcases updateStatus_cases c b with ⟨-, same, -⟩ | ⟨target, existing, named, -, call⟩
  · rw [same.bindings]
  · rw [call, withRestated, Table.get?_insert_of_ne _ _ (apart target named)]

end Elsewhere

end Cluster

end SecretSync
