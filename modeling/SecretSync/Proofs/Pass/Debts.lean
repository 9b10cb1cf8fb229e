import SecretSync.Proofs.Pass.Protocol

namespace SecretSync

def Request.due? : (q : Request) → q.Answer → Option Counter
  | .createSecret _, (r : Except StoreError Secret) => if r.isOk then some .created else none
  | .updateSecret _, (r : Except StoreError Secret) => if r.isOk then some .updated else none
  | _, _ => none

def Request.isCount : Request → Bool
  | .count _ => true
  | _ => false

theorem Request.exists_answer (q : Request) : ∃ r : q.Answer, q.due? r = none :=
  match q with
  | .getBinding _ | .getSecret _ => ⟨.ok none, rfl⟩
  | .readVault _ => ⟨.ok "", rfl⟩
  | .createSecret _ | .updateSecret _ | .updateStatus _ => ⟨.error .transport, rfl⟩
  | .record .. | .count _ => ⟨(), rfl⟩
  | .now => ⟨⟨0, 0⟩, rfl⟩

namespace Debt

/-- What a pass may ask while it owes a count, or owes none. -/
inductive Step : Steps (Option Counter)
  | asked {q r} (other : q.isCount = false) : Step none q r (q.due? r)
  | paid {c r} (stored : c = .created ∨ c = .updated) : Step (some c) (.count c) r none

/-- A program that pays what it owes, and owes nothing in the end. -/
def Pays (owed : Option Counter) (p : Program α) : Prop :=
  Program.Leads Step owed p fun left _ => left = none

def next? : Program α → Option Counter
  | .ask (.count c) _ => some c
  | _ => none

theorem Pays.next {owed : Option Counter} {p : Program α} (pays : Pays owed p) :
    next? p = owed := by
  cases p with
  | done a => exact Eq.symm pays
  | ask q next =>
    obtain ⟨r, -⟩ := q.exists_answer
    obtain ⟨left, taken, -⟩ := pays r
    cases taken with
    | paid => rfl
    | asked other => cases q <;> first | rfl | exact nomatch other

open Pass Program
open Digest (contentHash)

section Leads

variable {b : Binding} {key : String} {lane : Lane}

theorem leads_ask_other {q : Request} {ends : Option Counter → Except PassError q.Answer → Prop}
    (other : q.isCount = false) (h : ∀ r, ends (q.due? r) (.ok r)) :
    Leads Step none (Pass.ask q).run ends :=
  leads_ask fun r => ⟨_, .asked other, h r⟩

theorem leads_count {c : Counter} (stored : c = .created ∨ c = .updated)
    {ends : Option Counter → Except PassError Unit → Prop} (h : ends none (.ok ())) :
    Leads Step (some c) (count c).run ends :=
  leads_ask fun _ => ⟨_, .paid stored, h⟩

theorem leads_writeStatus (b : Binding) (s : Secret)
    {ends : Option Counter → Except PassError Binding → Prop} (h : ∀ r, ends none r) :
    Leads Step none (writeStatus b s).run ends := by
  refine leads_bind (leads_ask_other rfl fun moment => leads_store (leads_ask_other rfl ?_))
  rintro (e | d)
  · exact h _
  · exact h _

theorem leads_compose (b : Binding) (value : Option String)
    {ends : Option Counter → Except PassError Secret → Prop} (h : ∀ r, ends none r) :
    Leads Step none (compose b value).run ends := by
  unfold compose
  by_cases named : b.spec.output.name = ""
  · rw [if_pos named]
    exact h _
  rw [if_neg named]
  cases b.ownerReference? with
  | none => exact h _
  | some owner =>
    cases value with
    | some v => exact h _
    | none =>
      refine leads_bind (leads_ask_other rfl ?_)
      rintro (e | v)
      · exact h _
      · exact h _

theorem leads_noteVaultFailure (b : Binding) (e : PassError)
    {ends : Option Counter → Except PassError Secret → Prop} (h : ∀ r, ends none r) :
    Leads Step none (noteVaultFailure b e).run ends := by
  cases e with
  | vaultFetch => exact leads_bind (leads_ask_other rfl fun _ => h _)
  | _ => exact h _

theorem leads_create {ends : Option Counter → Except PassError Secret → Prop}
    (h : ∀ r, ends none r) (s : Secret) :
    Leads Step none
      (do
        let created ← createSecret s
        count .created
        let _ ← writeStatus b created
        pure created : Pass Secret).run ends := by
  refine leads_bind (leads_store (leads_ask_other rfl ?_))
  rintro (e | created)
  · exact h _
  · refine leads_bind (leads_count (.inl rfl) (leads_bind (leads_writeStatus b created ?_)))
    rintro (e | d)
    · exact h _
    · exact h _

theorem leads_ensureSecret (b : Binding)
    {ends : Option Counter → Except PassError Secret → Prop} (h : ∀ r, ends none r) :
    Leads Step none (ensureSecret b).run ends := by
  unfold ensureSecret
  by_cases named : b.spec.output.name = ""
  · rw [if_pos named]
    exact h _
  rw [if_neg named]
  refine leads_bind (leads_store (leads_ask_other rfl ?_))
  rintro (e | _ | s)
  · exact h _
  · refine leads_bind (leads_tryCatch (leads_compose b none ?_))
    rintro (e | s)
    · refine leads_noteVaultFailure b e ?_
      rintro (e | s)
      · exact h _
      · exact leads_create h s
    · exact leads_create h s
  · exact h _

theorem leads_lookup {f : Key → Option Binding → Pass Unit}
    (found : ∀ k b, Leads Step none (f k b).run fun left _ => left = none) :
    Pays none
      (do
        let k ← parseKey key
        f k (← getBinding k) : Pass Unit).run := by
  unfold parseKey
  cases Key.parse? key with
  | none => rfl
  | some k =>
    refine leads_bind (p := pure k) (leads_bind (leads_store (leads_ask_other rfl ?_)))
    rintro (e | b)
    · rfl
    · exact found k b

theorem leads_refuse {secret : String} : Pays none (refuse key b secret).run :=
  leads_bind (leads_ask_other rfl fun _ => rfl)

theorem leads_specSync : Pays none (specSync key).run := by
  refine leads_lookup fun k found => ?_
  cases found with
  | none => rfl
  | some b =>
    refine leads_bind (leads_ensureSecret b ?_)
    rintro (e | s)
    · rfl
    change Leads _ _ (ExceptT.run (ite _ _ _)) _
    by_cases owned : s.metadata.controlledBy b = true
    · rw [if_pos owned]
      exact leads_ask_other rfl fun _ => rfl
    · rw [if_neg owned]
      exact leads_refuse

theorem leads_refresh (k : Key) (v : String) : Pays none (refresh key k b v).run := by
  refine leads_bind (leads_compose b (some v) ?_)
  rintro (e | desired)
  · rfl
  refine leads_bind (leads_store (leads_ask_other rfl ?_))
  rintro (e | _ | s)
  · rfl
  · rfl
  change Leads _ _ (ExceptT.run (ite _ _ _)) _
  by_cases mine : s.metadata.controlledBy b = true
  · rw [if_pos mine]
    refine leads_bind (leads_store (leads_ask_other rfl ?_))
    rintro (e | written)
    · rfl
    · refine leads_bind (leads_count (.inr rfl) (leads_bind (leads_writeStatus b written ?_)))
      rintro (e | d)
      · rfl
      · exact leads_ask_other rfl fun _ => rfl
  · rw [if_neg mine]
    exact leads_refuse

theorem leads_vaultPoll : Pays none (vaultPoll key).run := by
  refine leads_lookup fun k found => ?_
  cases found with
  | none => rfl
  | some b =>
    refine leads_bind (leads_ask_other rfl ?_)
    rintro (e | v)
    · exact leads_bind (leads_ask_other rfl fun _ => rfl)
    change Leads _ _ (ExceptT.run (ite _ _ _)) _
    by_cases current : b.observedHash = contentHash v
    · rw [if_pos current]
      rfl
    · rw [if_neg current]
      exact leads_refresh k v

theorem pays_pass (lane : Lane) (key : String) : Pays none (lane.pass key).run := by
  cases lane with
  | spec => exact leads_specSync
  | poll => exact leads_vaultPoll

end Leads

end Debt

end SecretSync
