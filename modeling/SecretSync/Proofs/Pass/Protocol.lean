import SecretSync.Controller.Basic
import SecretSync.Proofs.Store.Contents

/-!
The protocol of the two passes: which call may follow which answer. A pass is followed through
phases that tell what it has read and written; both passes keep to the protocol whatever comes back,
so what is proved of the phases holds of every pass in any company.
-/
namespace SecretSync

/-- A relation on states that says where an answer to a request may lead. -/
abbrev Steps (σ : Type) := σ → (q : Request) → q.Answer → σ → Prop

namespace Program

/-- Whatever comes back, each request has a step, and the result fits the state at the end. -/
def Leads (step : Steps σ) : σ → Program α → (σ → α → Prop) → Prop
  | s, .done a, ends => ends s a
  | s, .ask q next, ends => ∀ r, ∃ t, step s q r t ∧ Leads step t (next r) ends

theorem Leads.bind {step : Steps σ} {s : σ} {p : Program α} {f : α → Program β}
    {ends : σ → β → Prop} (h : Leads step s p fun t a => Leads step t (f a) ends) :
    Leads step s (p.bind f) ends := by
  induction p generalizing s with
  | done a => exact h
  | ask q next ih =>
    intro r
    obtain ⟨t, taken, rest⟩ := h r
    exact ⟨t, taken, ih r rest⟩

theorem Leads.mono {step : Steps σ} {s : σ} {p : Program α} {ends out : σ → α → Prop}
    (h : Leads step s p ends) (weaker : ∀ t a, ends t a → out t a) : Leads step s p out := by
  induction p generalizing s with
  | done a => exact weaker s a h
  | ask q next ih =>
    intro r
    obtain ⟨t, taken, rest⟩ := h r
    exact ⟨t, taken, ih r rest⟩

/-- A run of a program that keeps to the steps takes an invariant of the steps to its end. -/
theorem Leads.run {step : Steps σ} {ends : σ → α → Prop} {answer : (q : Request) → τ → q.Answer × τ}
    {inv : σ → τ → Prop}
    (keep : ∀ {s q w t}, inv s w → step s q (answer q w).1 t → inv t (answer q w).2)
    {s : σ} {p : Program α} {w : τ} (h : Leads step s p ends) (start : inv s w) :
    ∃ t, inv t (Program.run answer p w).2 ∧ ends t (Program.run answer p w).1 := by
  induction p generalizing s w with
  | done a => exact ⟨s, start, h⟩
  | ask q next ih =>
    obtain ⟨t, taken, rest⟩ := h (answer q w).1
    exact ih _ rest (keep start taken)

end Program

namespace Pass

/-- What the rest of a pass needs, if it goes on after a result. -/
def Goes (step : Steps σ) (f : α → Pass β) (ends : σ → Except PassError β → Prop) (s : σ) :
    Except PassError α → Prop
  | .ok a => Program.Leads step s (f a).run ends
  | .error e => ends s (.error e)

theorem leads_bind {step : Steps σ} {s : σ} {p : Pass α} {f : α → Pass β}
    {ends : σ → Except PassError β → Prop} (h : Program.Leads step s p.run (Goes step f ends)) :
    Program.Leads step s (p >>= f).run ends := by
  refine Program.Leads.bind (f := ExceptT.bindCont f) (h.mono ?_)
  rintro t (e | a) goes
  · exact goes
  · exact goes

theorem leads_ask {step : Steps σ} {s : σ} {q : Request}
    {ends : σ → Except PassError q.Answer → Prop} (h : ∀ r, ∃ t, step s q r t ∧ ends t (.ok r)) :
    Program.Leads step s (ask q).run ends := h

theorem leads_store {step : Steps σ} {s : σ} {p : Pass (Except StoreError α)}
    {ends : σ → Except PassError α → Prop}
    (h : Program.Leads step s p.run fun t r => ends t (r.bind (Except.mapError .store))) :
    Program.Leads step s (do ofStore (← p)).run ends := by
  refine leads_bind (h.mono ?_)
  rintro t (e | e | a) goes
  · exact goes
  · exact goes
  · exact goes

def Handles (step : Steps σ) (handle : PassError → Pass α) (ends : σ → Except PassError α → Prop)
    (s : σ) : Except PassError α → Prop
  | .ok a => ends s (.ok a)
  | .error e => Program.Leads step s (handle e).run ends

theorem leads_tryCatch {step : Steps σ} {s : σ} {p : Pass α} {handle : PassError → Pass α}
    {ends : σ → Except PassError α → Prop}
    (h : Program.Leads step s p.run (Handles step handle ends)) :
    Program.Leads step s (tryCatch p handle).run ends := by
  change Program.Leads step s (Program.bind p.run _) ends
  refine Program.Leads.bind (h.mono ?_)
  rintro t (e | a) goes
  · exact goes
  · exact goes

end Pass

open Digest (contentHash)

/-- What a pass has found and done so far. -/
inductive Phase where
  | start
  | gone
  | found (b : Binding)
  /-- The spec sync found the output Secret. -/
  | present (b : Binding) (e : Secret)
  /-- The spec sync found no output Secret. -/
  | vacant (b : Binding)
  | fetched (b : Binding) (v : String)
  /-- The poll found the output Secret, and it belongs to the binding. -/
  | claimed (b : Binding) (v : String) (e : Secret)
  | written (b : Binding) (v : String) (s : Secret)
  | recorded (b : Binding) (v : String) (s : Secret)
  /-- The Secret was written, but not the status. -/
  | unrecorded (b : Binding) (v : String) (s : Secret) (e : StoreError)
  | failed (e : PassError)

namespace Phase

def verdict (key : String) (b : Binding) (s : Secret) : Except PassError Unit :=
  if s.metadata.controlledBy b then .ok ()
  else .error (.resourceConflict key (s.metadata.name.getD ""))

/-- What the passes ask, and where the answers lead them. -/
inductive Step (key : String) : Lane → Steps Phase
  | gone {lane k} : Key.parse? key = some k →
      Step key lane .start (.getBinding k) (.ok none) .gone
  | found {lane k b} : Key.parse? key = some k →
      Step key lane .start (.getBinding k) (.ok (some b)) (.found b)
  | lookupFailed {lane k e} : Key.parse? key = some k →
      Step key lane .start (.getBinding k) (.error e) (.failed (.store e))
  | present {b e} : b.spec.output.name ≠ "" →
      Step key .spec (.found b) (.getSecret b.outputKey) (.ok (some e)) (.present b e)
  | vacant {b} : b.spec.output.name ≠ "" →
      Step key .spec (.found b) (.getSecret b.outputKey) (.ok none) (.vacant b)
  | searchFailed {b e} : b.spec.output.name ≠ "" →
      Step key .spec (.found b) (.getSecret b.outputKey) (.error e) (.failed (.store e))
  | supplied {b owner v} : b.ownerReference? = some owner →
      Step key .spec (.vacant b) (.readVault b) (.ok v) (.fetched b v)
  | supplyFailed {b owner e} : b.ownerReference? = some owner →
      Step key .spec (.vacant b) (.readVault b) (.error e)
        (.failed (.vaultFetch (b.metadata.name.getD "") b.spec.vault.name e))
  | created {b owner v s} : b.ownerReference? = some owner →
      Step key .spec (.fetched b v) (.createSecret (b.desired owner v)) (.ok s) (.written b v s)
  | createFailed {b owner v e} : b.ownerReference? = some owner →
      Step key .spec (.fetched b v) (.createSecret (b.desired owner v)) (.error e)
        (.failed (.store e))
  | fetched {b v} : Step key .poll (.found b) (.readVault b) (.ok v) (.fetched b v)
  | fetchFailed {k b e} : Key.parse? key = some k →
      Step key .poll (.found b) (.readVault b) (.error e)
        (.failed (.vaultFetch k.name b.spec.vault.name e))
  | claimed {k b v e} : Key.parse? key = some k → b.observedHash ≠ contentHash v →
      e.metadata.controlledBy b = true →
      Step key .poll (.fetched b v) (.getSecret ⟨k.space, b.spec.output.name⟩) (.ok (some e))
        (.claimed b v e)
  | foreign {k b v e} : Key.parse? key = some k → b.observedHash ≠ contentHash v →
      e.metadata.controlledBy b = false →
      Step key .poll (.fetched b v) (.getSecret ⟨k.space, b.spec.output.name⟩) (.ok (some e))
        (.failed (.resourceConflict key b.spec.output.name))
  | missing {k b v} : Key.parse? key = some k → b.observedHash ≠ contentHash v →
      Step key .poll (.fetched b v) (.getSecret ⟨k.space, b.spec.output.name⟩) (.ok none)
        (.failed (.secretMissing key b.spec.output.name))
  | pollSearchFailed {k b v e} : Key.parse? key = some k → b.observedHash ≠ contentHash v →
      Step key .poll (.fetched b v) (.getSecret ⟨k.space, b.spec.output.name⟩) (.error e)
        (.failed (.store e))
  | updated {b owner v e s} : b.ownerReference? = some owner →
      Step key .poll (.claimed b v e) (.updateSecret (b.desiredOver owner v e)) (.ok s)
        (.written b v s)
  | updateFailed {b owner v e x} : b.ownerReference? = some owner →
      Step key .poll (.claimed b v e) (.updateSecret (b.desiredOver owner v e)) (.error x)
        (.failed (.store x))
  | recorded {lane b v s m d} :
      Step key lane (.written b v s) (.updateStatus { b with status := some (b.observe s m) })
        (.ok d) (.recorded b v s)
  | unrecorded {lane b v s m e} :
      Step key lane (.written b v s) (.updateStatus { b with status := some (b.observe s m) })
        (.error e) (.unrecorded b v s e)
  | noted {lane p b e r} : Step key lane p (.record b e) r p
  | counted {lane p c r} : Step key lane p (.count c) r p
  | timed {lane p m} : Step key lane p .now m p

inductive Ends (key : String) : Lane → Phase → Except PassError Unit → Prop
  | invalid {lane} : Key.parse? key = none → Ends key lane .start (.error (.invalidKey key))
  | gone {lane} : Ends key lane .gone (.ok ())
  | nameless {b} : b.spec.output.name = "" →
      Ends key .spec (.found b) (.error (.missingOutputName b.key))
  | anonymous {b} : b.ownerReference? = none →
      Ends key .spec (.vacant b) (.error (.missingOwnerIdentity b.key))
  | present {b e} : Ends key .spec (.present b e) (verdict key b e)
  | created {b v s} : Ends key .spec (.recorded b v s) (verdict key b s)
  | current {b v} : b.observedHash = contentHash v → Ends key .poll (.fetched b v) (.ok ())
  | pollNameless {b v} : b.observedHash ≠ contentHash v → b.spec.output.name = "" →
      Ends key .poll (.fetched b v) (.error (.missingOutputName b.key))
  | pollAnonymous {b v} : b.observedHash ≠ contentHash v → b.ownerReference? = none →
      Ends key .poll (.fetched b v) (.error (.missingOwnerIdentity b.key))
  | updated {b v s} : Ends key .poll (.recorded b v s) (.ok ())
  | unrecorded {lane b v s e} : Ends key lane (.unrecorded b v s e) (.error (.store e))
  | failed {lane e} : Ends key lane (.failed e) (.error e)

end Phase

namespace Pass

open Phase

variable {key : String}

theorem leads_note {lane : Lane} {p : Phase} {q : Request} {f : q.Answer → Pass α}
    {ends : Phase → Except PassError α → Prop} (quiet : ∀ r, Step key lane p q r p)
    (h : ∀ r, Program.Leads (Step key lane) p (f r).run ends) :
    Program.Leads (Step key lane) p (ask q >>= f).run ends :=
  leads_bind (leads_ask fun r => ⟨p, quiet r, h r⟩)

theorem leads_refuse {lane : Lane} {p : Phase} {b : Binding} {secret : String}
    {ends : Phase → Except PassError Unit → Prop}
    (h : ends p (.error (.resourceConflict key secret))) :
    Program.Leads (Step key lane) p (refuse key b secret).run ends :=
  leads_note (fun _ => .noted) fun _ => h

theorem leads_writeStatus {lane : Lane} {b : Binding} {v : String} {s : Secret}
    {ends : Phase → Except PassError Binding → Prop}
    (done : ∀ d, ends (.recorded b v s) (.ok d))
    (stuck : ∀ e, ends (.unrecorded b v s e) (.error (.store e))) :
    Program.Leads (Step key lane) (.written b v s) (writeStatus b s).run ends := by
  refine leads_note (fun _ => .timed) fun moment => leads_store (leads_ask ?_)
  rintro (e | d)
  · exact ⟨_, .unrecorded, stuck e⟩
  · exact ⟨_, .recorded, done d⟩

/-- Making the Secret of a spec sync: it needs an owner and the value, or it fails. -/
theorem leads_compose {b : Binding} {ends : Phase → Except PassError Secret → Prop}
    (named : b.spec.output.name ≠ "")
    (anonymous : b.ownerReference? = none →
      ends (.vacant b) (.error (.missingOwnerIdentity b.key)))
    (unread : ∀ e, ends (.failed (.vaultFetch (b.metadata.name.getD "") b.spec.vault.name e))
      (.error (.vaultFetch (b.metadata.name.getD "") b.spec.vault.name e)))
    (made : ∀ owner v, b.ownerReference? = some owner →
      ends (.fetched b v) (.ok (b.desired owner v))) :
    Program.Leads (Step key .spec) (.vacant b) (compose b none).run ends := by
  unfold compose
  rw [if_neg named]
  cases owned : b.ownerReference? with
  | none => exact anonymous owned
  | some owner =>
    refine leads_bind (leads_ask ?_)
    rintro (e | v)
    · exact ⟨_, .supplyFailed owned, unread e⟩
    · exact ⟨_, .supplied owned, made owner v owned⟩

/-- A spec sync finds the output Secret, or makes it and records that. -/
theorem leads_ensureSecret {b : Binding} {ends : Phase → Except PassError Secret → Prop}
    (nameless : b.spec.output.name = "" → ends (.found b) (.error (.missingOutputName b.key)))
    (anonymous : b.ownerReference? = none →
      ends (.vacant b) (.error (.missingOwnerIdentity b.key)))
    (failed : ∀ e, ends (.failed e) (.error e))
    (present : ∀ s, ends (.present b s) (.ok s))
    (recorded : ∀ v s, ends (.recorded b v s) (.ok s))
    (unrecorded : ∀ v s e, ends (.unrecorded b v s e) (.error (.store e))) :
    Program.Leads (Step key .spec) (.found b) (ensureSecret b).run ends := by
  unfold ensureSecret
  by_cases named : b.spec.output.name = ""
  · rw [if_pos named]
    exact nameless named
  rw [if_neg named]
  refine leads_bind (leads_store (leads_ask ?_))
  rintro (e | _ | s)
  · exact ⟨_, .searchFailed named, failed (.store e)⟩
  · refine ⟨_, .vacant named, leads_bind (leads_tryCatch ?_)⟩
    refine leads_compose named anonymous (fun e => ?_) fun owner v owned => ?_
    · exact leads_note (fun _ => .noted) fun _ => failed _
    · refine leads_bind (leads_store (leads_ask ?_))
      rintro (e | s)
      · exact ⟨_, .createFailed owned, failed (.store e)⟩
      · refine ⟨_, .created owned, leads_note (fun _ => .counted) fun _ => leads_bind ?_⟩
        exact leads_writeStatus (fun _ => recorded v s) (unrecorded v s)
  · exact ⟨_, .present named, present s⟩

theorem leads_verdict {p : Phase} {b : Binding} {s : Secret}
    (h : Ends key .spec p (verdict key b s)) :
    Program.Leads (Step key .spec) p
      (if s.metadata.controlledBy b then record b Event.synced
        else refuse key b (s.metadata.name.getD "") : Pass Unit).run (Ends key .spec) := by
  unfold verdict at h
  by_cases owned : s.metadata.controlledBy b = true
  · rw [if_pos owned] at h ⊢
    exact leads_ask fun _ => ⟨p, .noted, h⟩
  · rw [if_neg owned] at h ⊢
    exact leads_refuse h

theorem leads_lookup {lane : Lane} {f : Key → Option Binding → Pass Unit}
    (gone : ∀ k, Key.parse? key = some k →
      Program.Leads (Step key lane) .gone (f k none).run (Ends key lane))
    (found : ∀ k b, Key.parse? key = some k →
      Program.Leads (Step key lane) (.found b) (f k (some b)).run (Ends key lane)) :
    Program.Leads (Step key lane) .start
      (do
        let k ← parseKey key
        f k (← getBinding k)).run (Ends key lane) := by
  unfold parseKey
  cases parsed : Key.parse? key with
  | none => exact .invalid parsed
  | some k =>
    refine leads_bind (p := pure k) (leads_bind (leads_store (leads_ask ?_)))
    rintro (e | _ | b)
    · exact ⟨_, .lookupFailed parsed, .failed⟩
    · exact ⟨_, .gone parsed, gone k parsed⟩
    · exact ⟨_, .found parsed, found k b parsed⟩

theorem leads_specSync :
    Program.Leads (Step key .spec) .start (specSync key).run (Ends key .spec) := by
  refine leads_lookup (fun k parsed => .gone) fun k b parsed => leads_bind ?_
  exact leads_ensureSecret .nameless .anonymous (fun _ => .failed)
    (fun s => leads_verdict .present) (fun v s => leads_verdict .created)
    fun v s e => .unrecorded

/-- A poll writes over the Secret it claimed, and then the status. -/
theorem leads_overwrite {b : Binding} {owner : OwnerReference} {v : String} {e : Secret}
    (owned : b.ownerReference? = some owner) :
    Program.Leads (Step key .poll) (.claimed b v e)
      (do
        let updated ← updateSecret (b.desiredOver owner v e)
        count .updated
        let _ ← writeStatus b updated
        record b Event.updated).run (Ends key .poll) := by
  refine leads_bind (leads_store (leads_ask ?_))
  rintro (x | s)
  · exact ⟨_, .updateFailed owned, .failed⟩
  · refine ⟨_, .updated owned, leads_note (fun _ => .counted) fun _ => leads_bind ?_⟩
    refine leads_writeStatus (fun _ => ?_) fun _ => .unrecorded
    exact leads_ask fun _ => ⟨_, .noted, .updated⟩

/-- A poll that found another digest claims the output Secret and writes over it. -/
theorem leads_refresh {k : Key} {b : Binding} {v : String} (parsed : Key.parse? key = some k)
    (changed : b.observedHash ≠ contentHash v) :
    Program.Leads (Step key .poll) (.fetched b v) (refresh key k b v).run (Ends key .poll) := by
  unfold refresh compose
  by_cases named : b.spec.output.name = ""
  · rw [if_pos named]
    exact .pollNameless changed named
  rw [if_neg named]
  cases owned : b.ownerReference? with
  | none => exact .pollAnonymous changed owned
  | some owner =>
    refine leads_bind (p := pure (b.desired owner v)) (leads_bind (leads_store (leads_ask ?_)))
    rintro (e | _ | s)
    · exact ⟨_, .pollSearchFailed parsed changed, .failed⟩
    · exact ⟨_, .missing parsed changed, .failed⟩
    · by_cases mine : s.metadata.controlledBy b = true
      · refine ⟨_, .claimed parsed changed mine, ?_⟩
        change Program.Leads _ _ (ExceptT.run (ite _ _ _)) _
        rw [if_pos mine]
        exact leads_overwrite owned
      · refine ⟨_, .foreign parsed changed (Bool.eq_false_iff.2 mine), ?_⟩
        change Program.Leads _ _ (ExceptT.run (ite _ _ _)) _
        rw [if_neg mine]
        exact leads_refuse .failed

theorem leads_vaultPoll :
    Program.Leads (Step key .poll) .start (vaultPoll key).run (Ends key .poll) := by
  refine leads_lookup (fun k parsed => .gone) fun k b parsed => leads_bind (leads_ask ?_)
  rintro (e | v)
  · exact ⟨_, .fetchFailed parsed, leads_note (fun _ => .noted) fun _ => .failed⟩
  · refine ⟨_, .fetched, ?_⟩
    change Program.Leads _ _ (ExceptT.run (ite _ _ _)) _
    by_cases current : b.observedHash = contentHash v
    · rw [if_pos current]
      exact .current current
    · rw [if_neg current]
      exact leads_refresh parsed current

/-- Both passes keep to the protocol, whatever comes back. -/
theorem leads_pass (lane : Lane) :
    Program.Leads (Step key lane) .start (lane.pass key).run (Ends key lane) := by
  cases lane with
  | spec => exact leads_specSync
  | poll => exact leads_vaultPoll

end Pass

end SecretSync
