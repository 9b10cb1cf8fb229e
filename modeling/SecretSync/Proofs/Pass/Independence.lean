import SecretSync.Proofs.Pass.Course
import SecretSync.Proofs.Pass.Marked
import SecretSync.Proofs.Resource.KeyText
import Mathlib.Data.Option.Defs
import Mathlib.Logic.Equiv.Defs

namespace SecretSync

section Numbers

/-- Two blocks of numbers after `n`, one of length `a` and one of length `b`, change places. -/
def swapBlocks (n a b m : Nat) : Nat :=
  if m ≤ n then m
  else if m ≤ n + a then m + b
  else if m ≤ n + a + b then m - a
  else m

theorem swapBlocks_swapBlocks (n a b m : Nat) : swapBlocks n b a (swapBlocks n a b m) = m := by
  unfold swapBlocks
  split_ifs <;> omega

def blockSwap (n a b : Nat) : Equiv.Perm Nat where
  toFun := swapBlocks n a b
  invFun := swapBlocks n b a
  left_inv := swapBlocks_swapBlocks n a b
  right_inv := swapBlocks_swapBlocks n b a

theorem blockSwap_old {n m : Nat} (old : m ≤ n) (a b : Nat) : blockSwap n a b m = m :=
  if_pos old

theorem blockSwap_first {n a b i : Nat} (pos : 0 < i) (inside : i ≤ a) :
    blockSwap n a b (n + i) = n + b + i := by
  change swapBlocks n a b (n + i) = n + b + i
  unfold swapBlocks
  split_ifs <;> omega

theorem blockSwap_second {n a b i : Nat} (pos : 0 < i) (inside : i ≤ b) :
    blockSwap n a b (n + a + i) = n + i := by
  change swapBlocks n a b (n + a + i) = n + i
  unfold swapBlocks
  split_ifs <;> omega

end Numbers

/-- Two Secrets that differ at most in the numbers of their versions and of identities given out
after `n`. -/
structure Secret.Renumbered (n : Nat) (ρ σ : Equiv.Perm Nat) (s t : Secret) : Prop where
  content : t = { s with
    metadata := { s.metadata with
      resourceVersion := t.metadata.resourceVersion, uid := t.metadata.uid } }
  version : ∃ m, s.metadata.resourceVersion = some (toString m) ∧
    t.metadata.resourceVersion = some (toString (ρ m))
  identity : t.metadata.uid = s.metadata.uid ∨ ∃ m, n < m ∧
    s.metadata.uid = some ("uid-" ++ toString m) ∧ t.metadata.uid = some ("uid-" ++ toString (σ m))

structure Binding.Renumbered (ρ : Equiv.Perm Nat) (b d : Binding) : Prop where
  content : d = { b with
    metadata := { b.metadata with resourceVersion := d.metadata.resourceVersion } }
  version : ∃ m, b.metadata.resourceVersion = some (toString m) ∧
    d.metadata.resourceVersion = some (toString (ρ m))

/-- Two clusters that came from one and differ at most in the numbers given out since. -/
structure Cluster.Renumbered (c d e : Cluster) (ρ σ : Equiv.Perm Nat) : Prop where
  oldVersions : ∀ n ≤ c.versions, ρ n = n
  oldIdentities : ∀ n ≤ c.identities, σ n = n
  versions : e.versions = d.versions
  identities : e.identities = d.identities
  secrets : ∀ k, Option.Rel (Secret.Renumbered c.identities ρ σ) (d.secrets.get? k)
    (e.secrets.get? k)
  bindings : ∀ k, Option.Rel (Binding.Renumbered ρ) (d.bindings.get? k) (e.bindings.get? k)

variable {n : Nat} {ρ σ : Equiv.Perm Nat}

theorem Deed.renumbered_secret (d : Deed) {i j i' j' : Nat} (version : ρ i = i')
    (identity : d.before = none → n < j ∧ σ j = j') :
    Secret.Renumbered n ρ σ (d.secret i j) (d.secret i' j') := by
  refine ⟨rfl, ⟨i, rfl, by rw [version]; rfl⟩, ?_⟩
  unfold Deed.secret
  cases before : d.before with
  | some e => exact .inl rfl
  | none =>
    obtain ⟨new, same⟩ := identity before
    exact .inr ⟨j, new, rfl, by rw [same]⟩

theorem Deed.renumbered_told (d : Deed) {i i' : Nat} (version : ρ i = i') :
    Binding.Renumbered ρ (d.told i) (d.told i') :=
  ⟨rfl, i, rfl, by rw [version]; rfl⟩

namespace Cluster

variable {c : Cluster}

theorem Issued.renumbered_secret {s : Secret} (issued : c.Issued s.metadata)
    (old : ∀ n ≤ c.versions, ρ n = n) : Secret.Renumbered n ρ σ s s := by
  obtain ⟨m, atMost, version⟩ := issued
  exact ⟨rfl, ⟨m, version, by rw [old m atMost, version]⟩, .inl rfl⟩

theorem Issued.renumbered_binding {b : Binding} (issued : c.Issued b.metadata)
    (old : ∀ n ≤ c.versions, ρ n = n) : Binding.Renumbered ρ b b := by
  obtain ⟨m, atMost, version⟩ := issued
  exact ⟨rfl, m, version, by rw [old m atMost, version]⟩

def taken : Option Deed → Nat × Nat
  | none => (0, 0)
  | some d => (2, d.identities)

theorem versions_follow (c : Cluster) (d? : Option Deed) :
    (c.follow d?).versions = c.versions + (taken d?).1 := by
  cases d? <;> rfl

theorem identities_follow (c : Cluster) (d? : Option Deed) :
    (c.follow d?).identities = c.identities + (taken d?).2 := by
  cases d? <;> rfl

theorem secrets_follow_of_ne (c : Cluster) {d? : Option Deed} {k : Key}
    (apart : ∀ d, d? = some d → d.binding.outputKey ≠ k) :
    (c.follow d?).secrets.get? k = c.secrets.get? k := by
  cases d? with
  | none => rfl
  | some d => exact Table.get?_insert_of_ne _ _ (apart d rfl)

theorem bindings_follow_of_ne (c : Cluster) {d? : Option Deed} {k : Key}
    (apart : ∀ d, d? = some d → d.binding.metadata.key ≠ k) :
    (c.follow d?).bindings.get? k = c.bindings.get? k := by
  cases d? with
  | none => rfl
  | some d => exact Table.get?_insert_of_ne _ _ (apart d rfl)

theorem secrets_follow_self (c : Cluster) (d : Deed) :
    (c.follow (some d)).secrets.get? d.binding.outputKey =
      some (d.secret (c.versions + 1) (c.identities + 1)) :=
  Table.get?_insert_self ..

theorem bindings_follow_self (c : Cluster) (d : Deed) :
    (c.follow (some d)).bindings.get? d.binding.metadata.key = some (d.told (c.versions + 2)) :=
  Table.get?_insert_self ..

section Commute

variable {d₁ d₂ : Option Deed}

/-- The first block of numbers went to the first pass in one order and to the second in the other. -/
theorem secrets_commute (issued : ∀ k s, c.secrets.get? k = some s → c.Issued s.metadata)
    (outputs : ∀ x y, d₁ = some x → d₂ = some y → x.binding.outputKey ≠ y.binding.outputKey)
    (k : Key) :
    Option.Rel (Secret.Renumbered c.identities (blockSwap c.versions (taken d₁).1 (taken d₂).1)
        (blockSwap c.identities (taken d₁).2 (taken d₂).2))
      (((c.follow d₁).follow d₂).secrets.get? k) (((c.follow d₂).follow d₁).secrets.get? k) := by
  by_cases first : ∃ d, d₁ = some d ∧ d.binding.outputKey = k
  · obtain ⟨d, rfl, rfl⟩ := first
    rw [secrets_follow_of_ne _ fun y hy => (outputs d y rfl hy).symm, secrets_follow_self,
      secrets_follow_self, versions_follow, identities_follow]
    refine .some (d.renumbered_secret (blockSwap_first (by omega) (Nat.le_succ 1)) fun new => ?_)
    have one : (taken (some d)).2 = 1 := by simp [taken, Deed.identities, new]
    rw [one]
    exact ⟨Nat.lt_succ_self _, blockSwap_first (by omega) (Nat.le_refl 1)⟩
  by_cases second : ∃ d, d₂ = some d ∧ d.binding.outputKey = k
  · obtain ⟨d, rfl, rfl⟩ := second
    rw [secrets_follow_self, secrets_follow_of_ne _ fun x hx => outputs x d hx rfl,
      secrets_follow_self, versions_follow, identities_follow]
    refine .some (d.renumbered_secret (blockSwap_second (by omega) (Nat.le_succ 1)) fun new => ?_)
    have one : (taken (some d)).2 = 1 := by simp [taken, Deed.identities, new]
    rw [one]
    exact ⟨by omega, blockSwap_second (by omega) (Nat.le_refl 1)⟩
  have same₁ : ∀ d, d₁ = some d → d.binding.outputKey ≠ k := fun d hd hit => first ⟨d, hd, hit⟩
  have same₂ : ∀ d, d₂ = some d → d.binding.outputKey ≠ k := fun d hd hit => second ⟨d, hd, hit⟩
  rw [secrets_follow_of_ne _ same₂, secrets_follow_of_ne _ same₁, secrets_follow_of_ne _ same₁,
    secrets_follow_of_ne _ same₂]
  cases there : c.secrets.get? k with
  | none => exact .none
  | some s => exact .some ((issued k s there).renumbered_secret fun n old => blockSwap_old old _ _)

theorem bindings_commute (issued : ∀ k b, c.bindings.get? k = some b → c.Issued b.metadata)
    (keys : ∀ x y, d₁ = some x → d₂ = some y →
      x.binding.metadata.key ≠ y.binding.metadata.key) (k : Key) :
    Option.Rel (Binding.Renumbered (blockSwap c.versions (taken d₁).1 (taken d₂).1))
      (((c.follow d₁).follow d₂).bindings.get? k) (((c.follow d₂).follow d₁).bindings.get? k) := by
  by_cases first : ∃ d, d₁ = some d ∧ d.binding.metadata.key = k
  · obtain ⟨d, rfl, rfl⟩ := first
    rw [bindings_follow_of_ne _ fun y hy => (keys d y rfl hy).symm, bindings_follow_self,
      bindings_follow_self, versions_follow]
    exact .some (d.renumbered_told (blockSwap_first (by omega) (Nat.le_refl 2)))
  by_cases second : ∃ d, d₂ = some d ∧ d.binding.metadata.key = k
  · obtain ⟨d, rfl, rfl⟩ := second
    rw [bindings_follow_self, bindings_follow_of_ne _ fun x hx => keys x d hx rfl,
      bindings_follow_self, versions_follow]
    exact .some (d.renumbered_told (blockSwap_second (by omega) (Nat.le_refl 2)))
  have same₁ : ∀ d, d₁ = some d → d.binding.metadata.key ≠ k := fun d hd hit => first ⟨d, hd, hit⟩
  have same₂ : ∀ d, d₂ = some d → d.binding.metadata.key ≠ k := fun d hd hit => second ⟨d, hd, hit⟩
  rw [bindings_follow_of_ne _ same₂, bindings_follow_of_ne _ same₁, bindings_follow_of_ne _ same₁,
    bindings_follow_of_ne _ same₂]
  cases there : c.bindings.get? k with
  | none => exact .none
  | some b => exact .some ((issued k b there).renumbered_binding fun n old => blockSwap_old old _ _)

/-- The writes of two passes at different places can change places. -/
theorem follow_commute
    (secrets : ∀ k s, c.secrets.get? k = some s → c.Issued s.metadata)
    (bindings : ∀ k b, c.bindings.get? k = some b → c.Issued b.metadata)
    (outputs : ∀ x y, d₁ = some x → d₂ = some y → x.binding.outputKey ≠ y.binding.outputKey)
    (keys : ∀ x y, d₁ = some x → d₂ = some y →
      x.binding.metadata.key ≠ y.binding.metadata.key) :
    Renumbered c ((c.follow d₁).follow d₂) ((c.follow d₂).follow d₁)
      (blockSwap c.versions (taken d₁).1 (taken d₂).1)
      (blockSwap c.identities (taken d₁).2 (taken d₂).2) where
  oldVersions := fun _ old => blockSwap_old old _ _
  oldIdentities := fun _ old => blockSwap_old old _ _
  versions := by
    simp only [versions_follow]
    omega
  identities := by
    simp only [identities_follow]
    omega
  secrets := secrets_commute secrets outputs
  bindings := bindings_commute bindings keys

end Commute

end Cluster

namespace World

variable {w : World} {lane₁ lane₂ : Lane} {key₁ key₂ : String} {k₁ k₂ : Key}

/-- After a pass over one binding, a pass over another goes the course it would have gone. -/
theorem Went.course {r : Except PassError Unit × World}
    (went : Went w k₁ (.of lane₁ key₁ k₁ w) r) (sound : w.cluster.Sound) (apart : k₁ ≠ k₂)
    (outputs : ∀ b₁ b₂, w.cluster.bindings.get? k₁ = some b₁ → w.cluster.bindings.get? k₂ = some b₂ →
      b₁.outputKey ≠ b₂.outputKey) :
    Course.of lane₂ key₂ k₂ r.2 = Course.of lane₂ key₂ k₂ w := by
  apply Course.of_congr
  · rw [went.cluster]
    apply Cluster.bindings_follow_of_ne
    intro d writes
    rw [sound.placed (Course.of_deed writes).1]
    exact apart
  · intro b found
    rw [went.cluster]
    apply Cluster.secrets_follow_of_ne
    intro d writes
    exact outputs _ b (Course.of_deed writes).1 found
  · exact went.values
  · exact went.failures
  · exact went.clock

theorem Went.journal {c : Course} {r : Except PassError Unit × World} (went : Went w k₁ c r) :
    r.2.cluster.journal = w.cluster.journal ++ (c.deed.map Deed.writes).getD [] := by
  rw [went.cluster]
  cases c.deed with
  | none => exact (List.append_nil _).symm
  | some d => rfl

theorem Went.calm {c : Course} {r : Except PassError Unit × World} (went : Went w k₁ c r)
    (calm : w.Calm) : r.2.Calm := by
  refine ⟨fun op => ?_, went.failures.trans calm.vault⟩
  rw [went.cluster, ← calm.cluster op]
  cases c.deed <;> rfl

/-- Two passes for different keys, whose bindings have different outputs, in one order and in the
other, while nothing fails: each pass ends and records as it would alone, the journals tell of the
same writes, and what is stored differs only in the numbers given out on the way. -/
theorem independent_passes_commute (lane₁ lane₂ : Lane) (reachable : w.Reachable) (calm : w.Calm)
    (parsed₁ : Key.parse? key₁ = some k₁) (parsed₂ : Key.parse? key₂ = some k₂)
    (apart : key₁ ≠ key₂)
    (outputs : ∀ b₁ b₂, w.cluster.bindings.get? k₁ = some b₁ → w.cluster.bindings.get? k₂ = some b₂ →
      b₁.outputKey ≠ b₂.outputKey) :
    let first := run (lane₁.pass key₁) w
    let thenSecond := run (lane₂.pass key₂) first.2
    let second := run (lane₂.pass key₂) w
    let thenFirst := run (lane₁.pass key₁) second.2
    thenFirst.1 = first.1 ∧ thenSecond.1 = second.1 ∧
    (∃ e₁ e₂, first.2.events = w.events ++ e₁ ∧ thenSecond.2.events = w.events ++ e₁ ++ e₂ ∧
      second.2.events = w.events ++ e₂ ∧ thenFirst.2.events = w.events ++ e₂ ++ e₁) ∧
    (∃ j₁ j₂, first.2.cluster.journal = w.cluster.journal ++ j₁ ∧
      thenSecond.2.cluster.journal = w.cluster.journal ++ j₁ ++ j₂ ∧
      second.2.cluster.journal = w.cluster.journal ++ j₂ ∧
      thenFirst.2.cluster.journal = w.cluster.journal ++ j₂ ++ j₁) ∧
    ∃ ρ σ, w.cluster.Renumbered thenSecond.2.cluster thenFirst.2.cluster ρ σ := by
  intro first thenSecond second thenFirst
  have sound := reachable.sound
  have keys : k₁ ≠ k₂ := Key.parse?_injective parsed₁ parsed₂ apart
  have went₁ : Went w k₁ _ first := went lane₁ calm sound parsed₁
  have went₂ : Went w k₂ _ second := went lane₂ calm sound parsed₂
  have sound₁ : first.2.cluster.Sound := sound_run _ sound
  have sound₂ : second.2.cluster.Sound := sound_run _ sound
  have later₂ : Went first.2 k₂ _ thenSecond := went lane₂ (went₁.calm calm) sound₁ parsed₂
  have later₁ : Went second.2 k₁ _ thenFirst := went lane₁ (went₂.calm calm) sound₂ parsed₁
  -- in either order the second pass goes the course that it would have gone first
  rw [went₁.course sound keys outputs] at later₂
  rw [went₂.course sound keys.symm fun b₂ b₁ h₂ h₁ => (outputs b₁ b₂ h₁ h₂).symm] at later₁
  refine ⟨later₁.result.trans went₁.result.symm, later₂.result.trans went₂.result.symm,
    ⟨_, _, went₁.events, ?_, went₂.events, ?_⟩, ⟨_, _, went₁.journal, ?_, went₂.journal, ?_⟩, ?_⟩
  · rw [later₂.events, went₁.events]
  · rw [later₁.events, went₂.events]
  · rw [later₂.journal, went₁.journal]
  · rw [later₁.journal, went₂.journal]
  · rw [later₂.cluster, went₁.cluster, later₁.cluster, went₂.cluster]
    refine ⟨_, _, Cluster.follow_commute (fun _ _ there => sound.issued there)
      (fun k b there => (reachable.marked k b there).1) ?_ ?_⟩
    · exact fun x y hx hy =>
        outputs x.binding y.binding (Course.of_deed hx).1 (Course.of_deed hy).1
    · intro x y hx hy
      rw [sound.placed (Course.of_deed hx).1, sound.placed (Course.of_deed hy).1]
      exact keys

def neighbour : Binding :=
  { Binding.sample with
    metadata := { Binding.sample.metadata with space := some "other", uid := some "u2" } }

def pair : World := (World.sample "old").edit (.insertBinding neighbour)

theorem pair_commutes :
    let db := run (Pass.specSync "default/db-cred") pair
    let dbThenOther := run (Pass.specSync "other/db-cred") db.2
    let other := run (Pass.specSync "other/db-cred") pair
    let otherThenDb := run (Pass.specSync "default/db-cred") other.2
    otherThenDb.1 = .ok () ∧ dbThenOther.1 = .ok () ∧
    (dbThenOther.2.cluster.secrets.get? ⟨"default", "db-secret"⟩).bind
      (fun s => s.metadata.resourceVersion) = some "3" ∧
    (otherThenDb.2.cluster.secrets.get? ⟨"default", "db-secret"⟩).bind
      (fun s => s.metadata.resourceVersion) = some "5" ∧
    ∃ ρ σ, pair.cluster.Renumbered dbThenOther.2.cluster otherThenDb.2.cluster ρ σ := by
  intro db dbThenOther other otherThenDb
  have calm : pair.Calm := ⟨fun _ => rfl, rfl⟩
  have parsed₁ : Key.parse? "default/db-cred" = some ⟨"default", "db-cred"⟩ := rfl
  have parsed₂ : Key.parse? "other/db-cred" = some ⟨"other", "db-cred"⟩ := rfl
  have found₁ : (pair.cluster.bindings.get? ⟨"default", "db-cred"⟩).map Binding.outputKey =
      some ⟨"default", "db-secret"⟩ := by decide +kernel
  have found₂ : (pair.cluster.bindings.get? ⟨"other", "db-cred"⟩).map Binding.outputKey =
      some ⟨"other", "db-secret"⟩ := by decide +kernel
  have outputs : ∀ b₁ b₂, pair.cluster.bindings.get? ⟨"default", "db-cred"⟩ = some b₁ →
      pair.cluster.bindings.get? ⟨"other", "db-cred"⟩ = some b₂ → b₁.outputKey ≠ b₂.outputKey := by
    intro b₁ b₂ there₁ there₂
    rw [there₁] at found₁
    rw [there₂] at found₂
    rw [Option.some.inj found₁, Option.some.inj found₂]
    decide
  obtain ⟨sameDb, sameOther, -, -, renumbered⟩ := independent_passes_commute .spec .spec
    ((World.sample_reachable "old").edit (.insertBinding neighbour)) calm parsed₁ parsed₂
    (by decide) outputs
  have okDb : db.1 = .ok () := ok_of_isOk (by decide +kernel)
  have okOther : other.1 = .ok () := ok_of_isOk (by decide +kernel)
  exact ⟨sameDb.trans okDb, sameOther.trans okOther, by decide +kernel, by decide +kernel,
    renumbered⟩

end World

end SecretSync
