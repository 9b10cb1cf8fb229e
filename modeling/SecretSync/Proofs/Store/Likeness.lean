import SecretSync.Proofs.Store.Contents
import Mathlib.Data.Option.Defs
import Mathlib.Data.List.Forall2

namespace SecretSync

/-- Two answers: both are results that fit, or both are errors that fit. -/
inductive Agrees (errors : ε → ε → Prop) (results : α → β → Prop) :
    Except ε α → Except ε β → Prop
  | ok {a : α} {b : β} (h : results a b) : Agrees errors results (.ok a) (.ok b)
  | error {e e' : ε} (h : errors e e') : Agrees errors results (.error e) (.error e')

/-- Two Secrets that differ at most in the bytes under a key. -/
structure Secret.SameBut (keyName : String) (s t : Secret) : Prop where
  metadata : s.metadata = t.metadata
  texts : s.stringData = t.stringData
  type : s.type = t.type
  immutable : s.immutable = t.immutable
  data : Option.Rel (fun d e => (∀ j, j ≠ keyName → d.get? j = e.get? j) ∧
    d.contains keyName = e.contains keyName) s.data t.data

theorem Secret.SameBut.refl (keyName : String) (s : Secret) : s.SameBut keyName s where
  metadata := rfl
  texts := rfl
  type := rfl
  immutable := rfl
  data := by
    cases s.data with
    | none => exact .none
    | some d => exact .some ⟨fun _ _ => rfl, rfl⟩

structure Binding.SameBut (b c : Binding) : Prop where
  metadata : b.metadata = c.metadata
  spec : b.spec = c.spec
  status : b.status.map Status.lastUpdate = c.status.map Status.lastUpdate

theorem Binding.SameBut.refl (b : Binding) : b.SameBut b := ⟨rfl, rfl, rfl⟩

/-- The Secrets under a key are the same, or they are those of the binding and differ at most in
the bytes that it binds. -/
def Secret.Twin (b? : Option Binding) (k : Key) (s t : Secret) : Prop :=
  s = t ∨ ∃ b ∈ b?, k = b.outputKey ∧ s.SameBut b.spec.output.keyName t

def Binding.Twin (b? : Option Binding) (k : Key) (c d : Binding) : Prop :=
  c = d ∨ ∃ b ∈ b?, k = b.metadata.key ∧ c.SameBut d

def Write.Twin (b? : Option Binding) (x y : Write) : Prop :=
  x = y ∨ ∃ b ∈ b?, ∃ h h', x = .updateStatus b.metadata.key h ∧ y = .updateStatus b.metadata.key h'

namespace Cluster

/-- Two clusters that went on from the same journal: the same writes to the same objects, and a
difference at most in the bytes that the binding binds and in the digest in its status. -/
structure Twin (b? : Option Binding) (journal : List Write) (c d : Cluster) : Prop where
  secrets : ∀ k, Option.Rel (Secret.Twin b? k) (c.secrets.get? k) (d.secrets.get? k)
  bindings : ∀ k, Option.Rel (Binding.Twin b? k) (c.bindings.get? k) (d.bindings.get? k)
  journal : ∃ writes writes', c.journal = journal ++ writes ∧ d.journal = journal ++ writes' ∧
    List.Forall₂ (Write.Twin b?) writes writes'
  failures : c.failures = d.failures
  versions : c.versions = d.versions
  identities : c.identities = d.identities

theorem Twin.refl (b? : Option Binding) (c : Cluster) : c.Twin b? c.journal c where
  secrets := by
    intro k
    cases c.secrets.get? k with
    | none => exact .none
    | some s => exact .some (.inl rfl)
  bindings := by
    intro k
    cases c.bindings.get? k with
    | none => exact .none
    | some b => exact .some (.inl rfl)
  journal := ⟨[], [], by simp, by simp, .nil⟩
  failures := rfl
  versions := rfl
  identities := rfl

variable {journal : List Write} {c d : Cluster}

theorem Twin.failNext {b? : Option Binding} (alike : c.Twin b? journal d) (op : Operation)
    (times : Nat) : (c.failNext op times).Twin b? journal (d.failNext op times) :=
  { alike with
    failures := by
      unfold Cluster.failNext
      dsimp only
      rw [alike.failures] }

theorem Twin.attempt {b? : Option Binding} {results : α → β → Prop} {op : Operation}
    {call : Answer α} {call' : Answer β} (alike : c.Twin b? journal d)
    (answers : Agrees Eq results call.1 call'.1) (after : call.2.Twin b? journal call'.2) :
    Agrees Eq results (c.attempt op call).1 (d.attempt op call').1 ∧
      (c.attempt op call).2.Twin b? journal (d.attempt op call').2 := by
  unfold Cluster.attempt
  rw [← alike.failures]
  split_ifs
  · exact ⟨.error rfl, alike.failNext op _⟩
  · exact ⟨answers, after⟩

theorem Twin.getSecret {b? : Option Binding} (alike : c.Twin b? journal d) (k : Key) :
    Agrees Eq (Option.Rel (Secret.Twin b? k)) (c.getSecret k).1 (d.getSecret k).1 ∧
      (c.getSecret k).2.Twin b? journal (d.getSecret k).2 :=
  alike.attempt (.ok (alike.secrets k)) alike

/-- The journals after one more write to each. -/
theorem Twin.write {b? : Option Binding} (alike : c.Twin b? journal d) {x y : Write}
    (same : Write.Twin b? x y) :
    ∃ writes writes', c.journal ++ [x] = journal ++ writes ∧ d.journal ++ [y] = journal ++ writes' ∧
      List.Forall₂ (Write.Twin b?) writes writes' := by
  obtain ⟨writes, writes', left, right, all⟩ := alike.journal
  refine ⟨writes ++ [x], writes' ++ [y], ?_, ?_, List.rel_append all (.cons same .nil)⟩
  · rw [left, List.append_assoc]
  · rw [right, List.append_assoc]

theorem rel_insert {κ : Type} [DecidableEq κ] [KeyOrder κ] {t u : Table κ α}
    {rel : κ → α → α → Prop} (all : ∀ j, Option.Rel (rel j) (t.get? j) (u.get? j)) {k : κ} {x y : α}
    (new : rel k x y) (j : κ) :
    Option.Rel (rel j) ((t.insert k x).get? j) ((u.insert k y).get? j) := by
  rw [Table.get?_insert, Table.get?_insert]
  split_ifs with same
  · exact .some (same ▸ new)
  · exact all j

end Cluster

namespace Binding

theorem data_desired (b : Binding) (owner : OwnerReference) (v : String) :
    (b.desired owner v).folded.data =
      some (Table.empty.insert b.spec.output.keyName (Text.Utf8.encode v)) := rfl

theorem sameBut_desired (b : Binding) (owner : OwnerReference) (v v' : String) (m : Meta) :
    ({ (b.desired owner v).folded with metadata := m } : Secret).SameBut b.spec.output.keyName
      { (b.desired owner v').folded with metadata := m } where
  metadata := rfl
  texts := rfl
  type := rfl
  immutable := rfl
  data := by
    rw [data_desired, data_desired]
    refine .some ⟨fun j other => ?_, ?_⟩
    · rw [Table.get?_insert_of_ne _ _ other.symm, Table.get?_insert_of_ne _ _ other.symm]
    · rw [Table.contains, Table.contains, Table.get?_insert_self, Table.get?_insert_self]
      rfl

end Binding

namespace Cluster

variable {b : Binding} {journal : List Write} {c d : Cluster} {owner : OwnerReference}

theorem Twin.createSecret (alike : c.Twin (some b) journal d) (v v' : String) :
    Agrees Eq (Secret.SameBut b.spec.output.keyName) (c.createSecret (b.desired owner v)).1
        (d.createSecret (b.desired owner v')).1 ∧
      (c.createSecret (b.desired owner v)).2.Twin (some b) journal
        (d.createSecret (b.desired owner v')).2 := by
  have named : (b.desired owner v').metadata.writeKey = (b.desired owner v).metadata.writeKey := rfl
  unfold Cluster.createSecret
  rw [named]
  cases key : (b.desired owner v).metadata.writeKey with
  | error e => exact ⟨.error rfl, alike⟩
  | ok k =>
    obtain rfl : k = b.outputKey := Binding.writeKey_output key rfl rfl
    have there := alike.secrets b.outputKey
    dsimp only
    generalize c.secrets.get? b.outputKey = found, d.secrets.get? b.outputKey = found' at there
    cases there with
    | some => exact alike.attempt (.error rfl) alike
    | none =>
      have same : (c.created (b.desired owner v)).SameBut b.spec.output.keyName
          (d.created (b.desired owner v')) := by
        unfold created nextVersion nextIdentity
        rw [← alike.versions, ← alike.identities]
        exact b.sameBut_desired owner v v' _
      refine alike.attempt (.ok same) ?_
      exact
        { secrets := rel_insert alike.secrets (.inr ⟨b, rfl, rfl, same⟩)
          bindings := alike.bindings
          journal := alike.write (.inl rfl)
          failures := alike.failures
          versions := congrArg (· + 1) alike.versions
          identities := congrArg (· + 1) alike.identities }

/-- A Secret that was read tells nothing of the value to the update over it. -/
theorem Twin.updateSecret (alike : c.Twin (some b) journal d) {e e' : Secret}
    (read : e.metadata = e'.metadata) (v v' : String) :
    Agrees Eq (Secret.SameBut b.spec.output.keyName)
        (c.updateSecret (b.desiredOver owner v e)).1 (d.updateSecret (b.desiredOver owner v' e')).1 ∧
      (c.updateSecret (b.desiredOver owner v e)).2.Twin (some b) journal
        (d.updateSecret (b.desiredOver owner v' e')).2 := by
  have drafts : (b.desiredOver owner v' e').metadata = (b.desiredOver owner v e).metadata := by
    unfold Binding.desiredOver
    rw [read]
    rfl
  unfold Cluster.updateSecret
  rw [drafts]
  cases key : (b.desiredOver owner v e).metadata.writeKey with
  | error e => exact ⟨.error rfl, alike⟩
  | ok k =>
    obtain rfl : k = b.outputKey := Binding.writeKey_output key rfl rfl
    have there := alike.secrets b.outputKey
    dsimp only
    generalize c.secrets.get? b.outputKey = found, d.secrets.get? b.outputKey = found' at there
    cases there with
    | none => exact alike.attempt (.error rfl) alike
    | @some x x' likeness =>
      have noted : x.metadata = x'.metadata := by
        rcases likeness with rfl | ⟨_, _, _, same⟩
        · rfl
        · exact same.metadata
      have fresh : Cluster.fresh (b.desiredOver owner v' e') x' =
          Cluster.fresh (b.desiredOver owner v e) x := by
        unfold Cluster.fresh
        rw [drafts, noted]
      dsimp only
      rw [fresh]
      split_ifs
      · have same : (c.replaced (b.desiredOver owner v e) x).SameBut b.spec.output.keyName
            (d.replaced (b.desiredOver owner v' e') x') := by
          unfold replaced nextVersion
          rw [← alike.versions, drafts, noted]
          exact b.sameBut_desired owner v v' _
        refine alike.attempt (.ok same) ?_
        exact
          { secrets := rel_insert alike.secrets (.inr ⟨b, rfl, rfl, same⟩)
            bindings := alike.bindings
            journal := alike.write (.inl rfl)
            failures := alike.failures
            versions := congrArg (· + 1) alike.versions
            identities := alike.identities }
      · exact alike.attempt (.error rfl) alike

theorem Twin.updateStatus (alike : c.Twin (some b) journal d) {s s' : Binding.Status}
    (time : s.lastUpdate = s'.lastUpdate) :
    Agrees Eq (fun _ _ => True) (c.updateStatus { b with status := some s }).1
        (d.updateStatus { b with status := some s' }).1 ∧
      (c.updateStatus { b with status := some s }).2.Twin (some b) journal
        (d.updateStatus { b with status := some s' }).2 := by
  unfold Cluster.updateStatus
  dsimp only
  cases key : b.metadata.writeKey with
  | error e => exact ⟨.error rfl, alike⟩
  | ok k =>
    obtain rfl : b.metadata.key = k := Meta.key_of_writeKey key
    have there := alike.bindings b.metadata.key
    dsimp only
    generalize c.bindings.get? b.metadata.key = found, d.bindings.get? b.metadata.key = found'
      at there
    cases there with
    | none => exact alike.attempt (.error rfl) alike
    | @some x x' likeness =>
      have same : x.SameBut x' := by
        rcases likeness with rfl | ⟨_, _, _, same⟩
        · exact .refl x
        · exact same
      have restated : (c.restated { b with status := some s } x).SameBut
          (d.restated { b with status := some s' } x') := by
        unfold Cluster.restated nextVersion
        rw [← alike.versions, same.metadata, same.spec]
        exact ⟨rfl, rfl, congrArg some time⟩
      refine alike.attempt (.ok trivial) ?_
      exact
        { secrets := alike.secrets
          bindings := rel_insert alike.bindings (.inr ⟨b, rfl, rfl, restated⟩)
          journal := alike.write (.inr ⟨b, rfl, _, _, rfl, rfl⟩)
          failures := alike.failures
          versions := congrArg (· + 1) alike.versions
          identities := alike.identities }

end Cluster

end SecretSync
