import SecretSync.Proofs.Pass.Quiescence
import SecretSync.Proofs.Race.Path

namespace SecretSync

open Digest (contentHash)

def Program.calls : Program α → World → List Call
  | .done _, _ => []
  | .ask q next, w =>
    w.callBy 0 q :: calls (next (World.answer q w).1) (World.answer q w).2

namespace World

def calls (w : World) (p : Pass α) : List Call := Program.calls p.run w

end World

def Call.statusRefused (c : Call) : Bool :=
  match c.request, c.answer with
  | .updateStatus _, .error _ => true
  | _, _ => false

theorem Program.Leads.calls {step : Steps σ} {ends : σ → α → Prop}
    {inv : σ → World → List Call → Prop}
    (keep : ∀ {s q w log t}, inv s w log → step s q (World.answer q w).1 t →
      inv t (World.answer q w).2 (log ++ [w.callBy 0 q]))
    {s : σ} {p : Program α} {w : World} {log : List Call} (h : Leads step s p ends)
    (start : inv s w log) :
    ∃ t, inv t (Program.run World.answer p w).2 (log ++ p.calls w) ∧
      ends t (Program.run World.answer p w).1 := by
  induction p generalizing s w log with
  | done a => exact ⟨s, (List.append_nil log).symm ▸ start, h⟩
  | ask q next ih =>
    obtain ⟨t, taken, rest⟩ := h (World.answer q w).1
    obtain ⟨u, kept, ended⟩ := ih _ rest (keep start taken)
    refine ⟨u, ?_, ended⟩
    rw [List.append_assoc] at kept
    exact kept

namespace Phase

def stuck : Phase → Bool
  | .unrecorded .. => true
  | _ => false

theorem stuck_step {key : String} {lane : Lane} {p t : Phase} {q : Request} {w : World}
    (taken : Step key lane p q (World.answer q w).1 t) :
    t.stuck = (p.stuck || (w.callBy 0 q).statusRefused) := by
  unfold Call.statusRefused World.callBy
  generalize (World.answer q w).1 = r at taken ⊢
  cases taken with
  | noted | counted | timed => exact (Bool.or_false _).symm
  | _ => rfl

end Phase

/-- What a pass knows of the Secret once it has written one: it is what is stored, of the type that
the binding names, and a spec sync found none where a poll found one. -/
def Deposited (lane : Lane) (w₀ : World) (p : Phase) (w : World) : Prop :=
  match p with
  | .written b _ s | .recorded b _ s | .unrecorded b _ s _ =>
    w.cluster.secrets.get? b.outputKey = some s ∧ s.type = some b.spec.output.type ∧
      (lane = .poll → ∃ old, w₀.cluster.secrets.get? b.outputKey = some old)
  | _ => True

section Steps

variable {lane : Lane} {w₀ w : World} {key : String} {k : Key}

theorem Deposited.same {p : Phase} {w' : World} (h : Deposited lane w₀ p w)
    (same : w'.cluster.secrets = w.cluster.secrets) : Deposited lane w₀ p w' := by
  unfold Deposited at h ⊢
  rwa [same]

theorem deposited_created {b : Binding} {owner : OwnerReference} {v : String} {s : Secret}
    (owned : b.ownerReference? = some owner)
    (answered : (World.answer (.createSecret (b.desired owner v)) w).1 = .ok s) :
    Deposited .spec w₀ (.written b v s) (World.answer (.createSecret (b.desired owner v)) w).2 := by
  obtain ⟨-, placed⟩ := Cluster.placed_created owned answered
  obtain ⟨_, _, _, rfl, _⟩ := Cluster.createSecret_ok answered
  exact ⟨placed.get?, rfl, nofun⟩

theorem deposited_updated {b : Binding} {owner : OwnerReference} {v : String} {e s : Secret}
    (idle : Idle w₀ w) (owned : b.ownerReference? = some owner)
    (answered : (World.answer (.updateSecret (b.desiredOver owner v e)) w).1 = .ok s) :
    Deposited .poll w₀ (.written b v s)
      (World.answer (.updateSecret (b.desiredOver owner v e)) w).2 := by
  obtain ⟨there, placed⟩ := Cluster.placed_updated owned answered
  obtain ⟨_, _, _, _, _, rfl, _⟩ := Cluster.updateSecret_ok answered
  rw [idle.cluster.secrets] at there
  exact ⟨placed.get?, rfl, fun _ => there⟩

theorem deposited_step {p t : Phase} {q : Request} {r : q.Answer} (alone : Alone lane w₀ k p w)
    (h : Deposited lane w₀ p w) (answered : (World.answer q w).1 = r)
    (taken : Phase.Step key lane p q r t) : Deposited lane w₀ t (World.answer q w).2 := by
  cases taken with
  | created owned => exact deposited_created owned answered
  | updated owned => exact deposited_updated alone.1 owned answered
  | recorded | unrecorded | noted | counted | timed =>
    exact h.same (World.secrets_answer w (by simp) (by simp))
  | _ => exact trivial

/-- What holds in the course of a whole pass: what it has done to the world, what it has stored, and
whether its calls tell of a refused status. -/
structure Coursing (lane : Lane) (w₀ : World) (k : Key) (p : Phase) (w : World)
    (log : List Call) : Prop where
  alone : Alone lane w₀ k p w
  deposited : Deposited lane w₀ p w
  refused : log.any Call.statusRefused = p.stuck

theorem coursing_step {p t : Phase} {q : Request} {log : List Call} (sound : w₀.cluster.Sound)
    (parsed : Key.parse? key = some k) (h : Coursing lane w₀ k p w log)
    (taken : Phase.Step key lane p q (World.answer q w).1 t) :
    Coursing lane w₀ k t (World.answer q w).2 (log ++ [w.callBy 0 q]) where
  alone := alone_step sound parsed h.alone rfl taken
  deposited := deposited_step h.alone h.deposited rfl taken
  refused := by
    rw [List.any_append, h.refused, Phase.stuck_step taken]
    simp

theorem run_coursing (lane : Lane) (w : World) (sound : w.cluster.Sound)
    (parsed : Key.parse? key = some k) : ∃ p,
      Coursing lane w k p (World.run (lane.pass key) w).2 (w.calls (lane.pass key)) ∧
      Phase.Ends key lane p (World.run (lane.pass key) w).1 := by
  have start : Coursing lane w k .start w [] := ⟨Idle.refl w, trivial, rfl⟩
  exact (Pass.leads_pass lane).calls (fun h taken => coursing_step sound parsed h taken) start

end Steps

/-- The Secret of a binding was written for the value in the vault, and nothing else was. A spec
sync has made it, and a poll has written over the one that was there. -/
structure Halfway (lane : Lane) (w : World) (b : Binding) (v : String) (s : Secret) (w' : World) :
    Prop where
  value : w.vault.value? b = some v
  holds : b.HoldsFor v s
  type : s.type = some b.spec.output.type
  before : match lane with
    | .spec => w.cluster.secrets.get? b.outputKey = none
    | .poll => ∃ old, w.cluster.secrets.get? b.outputKey = some old
  secrets : w'.cluster.secrets = w.cluster.secrets.insert b.outputKey s
  bindings : w'.cluster.bindings = w.cluster.bindings
  journal : w'.cluster.journal = w.cluster.journal ++ [lane.write b.outputKey]

section Results

variable {lane : Lane} {w w' : World} {key : String} {k : Key} {b : Binding} {v : String}
  {s : Secret} {log : List Call}

/-- The Secret that a pass has stored is the one it wrote. -/
theorem Wrote.stored_eq (wrote : Wrote lane w b v w')
    (there : w'.cluster.secrets.get? b.outputKey = some s) :
    b.HoldsFor v s ∧ w'.cluster.secrets = w.cluster.secrets.insert b.outputKey s := by
  obtain ⟨s', holds, secrets⟩ := wrote.secret
  rw [secrets, Table.get?_insert_self] at there
  cases there
  exact ⟨holds, secrets⟩

theorem Coursing.halfway {e : StoreError} (h : Coursing lane w k (.unrecorded b v s e) w' log) :
    w.cluster.bindings.get? k = some b ∧ Halfway lane w b v s w' := by
  obtain ⟨found, wrote, untold, -⟩ := h.alone
  obtain ⟨there, type, replaced⟩ := h.deposited
  obtain ⟨holds, secrets⟩ := wrote.stored_eq there
  refine ⟨found, wrote.value, holds, type, ?_, secrets, untold.bindings, untold.journal⟩
  cases lane with
  | spec => exact wrote.free rfl
  | poll => exact replaced rfl

theorem run_getBinding_failing (left : 0 < w.cluster.failures .getBinding) (k : Key) :
    ∃ e w', World.run (Pass.getBinding k) w = (.error e, w') := by
  have asked : World.run (Pass.ask (.getBinding k)) w =
      (.ok (w.cluster.getBinding k).1, { w with cluster := (w.cluster.getBinding k).2 }) := rfl
  rw [Cluster.getBinding, Cluster.attempt, if_pos left] at asked
  exact ⟨_, _, (World.run_bind_of_ok asked).trans rfl⟩

theorem run_lookup_failing (lane : Lane) (parsed : Key.parse? key = some k)
    (left : 0 < w.cluster.failures .getBinding) :
    ∃ e, (World.run (lane.pass key) w).1 = .error e := by
  obtain ⟨e, w', failed⟩ := run_getBinding_failing left k
  refine ⟨e, ?_⟩
  cases lane with
  | spec =>
    change (World.run (Pass.specSync key) w).1 = _
    unfold Pass.specSync
    rw [World.run_bind_of_ok (World.run_parseKey parsed w), World.run_bind_of_error failed]
  | poll =>
    change (World.run (Pass.vaultPoll key) w).1 = _
    unfold Pass.vaultPoll
    rw [World.run_bind_of_ok (World.run_parseKey parsed w), World.run_bind_of_error failed]

/-- A pass that finds no binding and has no error has changed nothing at all. -/
theorem run_gone_of_ok (lane : Lane) (parsed : Key.parse? key = some k)
    (gone : w.cluster.bindings.get? k = none)
    (ok : (World.run (lane.pass key) w).1 = .ok ()) : (World.run (lane.pass key) w).2 = w := by
  by_cases calm : w.cluster.failures .getBinding = 0
  · rw [World.run_gone lane calm parsed gone]
  · obtain ⟨e, failed⟩ := run_lookup_failing lane parsed (Nat.pos_of_ne_zero calm)
    exact nomatch failed.symm.trans ok

/-- A spec sync without an error leaves a Secret that the binding controls. It changed nothing if
the Secret was there, and otherwise it made it and told of it in the status. -/
theorem specSync_leaves (sound : w.cluster.Sound) (parsed : Key.parse? key = some k)
    (found : w.cluster.bindings.get? k = some b)
    (ok : (World.run (Pass.specSync key) w).1 = .ok ()) :
    ∃ s, (World.run (Pass.specSync key) w).2.cluster.secrets.get? b.outputKey = some s ∧
      s.metadata.controlledBy b = true ∧
      ((∃ old, w.cluster.secrets.get? b.outputKey = some old) →
        w.cluster.Same (World.run (Pass.specSync key) w).2.cluster) ∧
      (w.cluster.secrets.get? b.outputKey = none →
        ∃ v d, w.vault.value? b = some v ∧ b.HoldsFor v s ∧ s.type = some b.spec.output.type ∧
          (World.run (Pass.specSync key) w).2.cluster.bindings.get? k = some d ∧ b.Alike d ∧
          d.observedHash = contentHash v) := by
  obtain ⟨s, there, owned⟩ := owned_of_specSync sound parsed found ok
  obtain ⟨p, coursing, ends⟩ := run_coursing .spec w sound parsed
  change (World.run (Pass.specSync key) w).2.cluster.secrets.get? _ = _ at there
  change Coursing _ _ _ _ (World.run (Pass.specSync key) w).2 _ at coursing
  change Phase.Ends _ _ _ (World.run (Pass.specSync key) w).1 at ends
  generalize (World.run (Pass.specSync key) w).1 = result at ok ends
  generalize (World.run (Pass.specSync key) w).2 = w' at there coursing ⊢
  refine ⟨s, there, owned, ?_⟩
  have alone := coursing.alone
  cases ends with
  | gone => exact nomatch alone.2.symm.trans found
  | present =>
    obtain ⟨idle, -⟩ := alone
    refine ⟨fun _ => idle.cluster, fun free => ?_⟩
    rw [idle.cluster.secrets, free] at there
    exact nomatch there
  | created =>
    obtain ⟨found', wrote, told⟩ := alone
    cases found'.symm.trans found
    have free := wrote.free rfl
    refine ⟨fun ⟨old, was⟩ => absurd (free.symm.trans was) nofun, fun _ => ?_⟩
    obtain ⟨stored, type, -⟩ := coursing.deposited
    cases stored.symm.trans there
    obtain ⟨d, alike, hash, bindings⟩ := told.binding
    have now := Table.get?_insert_self w.cluster.bindings k d
    rw [← bindings] at now
    exact ⟨_, d, wrote.value, (wrote.stored_eq there).1, type, now, alike, hash⟩
  | _ => exact nomatch ok

theorem calls_invalid (lane : Lane) (unparsed : Key.parse? key = none) :
    w.calls (lane.pass key) = [] := by
  cases lane with
  | spec =>
    change w.calls (Pass.specSync key) = []
    unfold Pass.specSync Pass.parseKey
    rw [unparsed]
    rfl
  | poll =>
    change w.calls (Pass.vaultPoll key) = []
    unfold Pass.vaultPoll Pass.parseKey
    rw [unparsed]
    rfl

/-- A pass that fails was refused the status after it had written the Secret, or it has changed
nothing. -/
theorem failed_leaves {e : PassError} (sound : w.cluster.Sound)
    (failed : (World.run (lane.pass key) w).1 = .error e) :
    ((w.calls (lane.pass key)).any Call.statusRefused = false ∧
      w.cluster.Same (World.run (lane.pass key) w).2.cluster) ∨
    ((w.calls (lane.pass key)).any Call.statusRefused = true ∧
      ∃ k b v s, Key.parse? key = some k ∧ w.cluster.bindings.get? k = some b ∧
        Halfway lane w b v s (World.run (lane.pass key) w).2) := by
  cases parsed : Key.parse? key with
  | none =>
    rw [calls_invalid lane parsed, World.run_invalid lane parsed]
    exact .inl ⟨rfl, .refl _⟩
  | some k =>
    obtain ⟨p, coursing, ends⟩ := run_coursing lane w sound parsed
    generalize (World.run (lane.pass key) w).1 = result at failed ends
    generalize (World.run (lane.pass key) w).2 = w' at coursing ⊢
    have alone := coursing.alone
    rw [coursing.refused]
    cases ends with
    | invalid => exact .inl ⟨rfl, Idle.cluster alone⟩
    | failed => exact .inl ⟨rfl, Idle.cluster alone⟩
    | nameless | anonymous | present | pollNameless | pollAnonymous =>
      exact .inl ⟨rfl, alone.1.cluster⟩
    | created =>
      -- the Secret just made is not refused
      obtain ⟨-, wrote, -⟩ := alone
      obtain ⟨there, -⟩ := coursing.deposited
      rw [Phase.verdict, if_pos (wrote.stored_eq there).1.controlled] at failed
      exact nomatch failed
    | unrecorded => exact .inr ⟨rfl, k, _, _, _, rfl, coursing.halfway⟩
    | _ => exact nomatch failed

end Results

/-- The result of a whole pass tells what became of the cluster. A spec sync without an error found
no binding and changed nothing, or the output Secret is there and the binding controls it; if there
was none before, it holds the value in the vault under the key of the binding and is of the type
that the binding names, and the status tells of that value. A pass that fails leaves the cluster as
it was, unless its status write was refused: then its Secret is written, and nothing else. -/
theorem result_tells_state {w : World} (reachable : w.Reachable) (key : String) :
    ((World.run (Pass.specSync key) w).1 = .ok () → ∃ k, Key.parse? key = some k ∧
      (w.cluster.bindings.get? k = none ∧ (World.run (Pass.specSync key) w).2 = w ∨
        ∃ b s, w.cluster.bindings.get? k = some b ∧
          (World.run (Pass.specSync key) w).2.cluster.secrets.get? b.outputKey = some s ∧
          s.metadata.controlledBy b = true ∧
          ((∃ old, w.cluster.secrets.get? b.outputKey = some old) →
            w.cluster.Same (World.run (Pass.specSync key) w).2.cluster) ∧
          (w.cluster.secrets.get? b.outputKey = none →
            ∃ v d, w.vault.value? b = some v ∧ b.HoldsFor v s ∧
              s.type = some b.spec.output.type ∧
              (World.run (Pass.specSync key) w).2.cluster.bindings.get? k = some d ∧ b.Alike d ∧
              d.observedHash = contentHash v))) ∧
    ∀ lane e, (World.run (Lane.pass key lane) w).1 = .error e →
      ((w.calls (lane.pass key)).any Call.statusRefused = false →
        w.cluster.Same (World.run (lane.pass key) w).2.cluster) ∧
      ((w.calls (lane.pass key)).any Call.statusRefused = true →
        ∃ k b v s, Key.parse? key = some k ∧ w.cluster.bindings.get? k = some b ∧
          Halfway lane w b v s (World.run (lane.pass key) w).2) := by
  constructor
  · intro ok
    have synced : (World.run (Lane.spec.pass key) w).1 = .ok () := ok
    obtain ⟨k, parsed⟩ := parsed_of_ok synced
    refine ⟨k, parsed, ?_⟩
    cases found : w.cluster.bindings.get? k with
    | none => exact .inl ⟨rfl, run_gone_of_ok .spec parsed found ok⟩
    | some b =>
      obtain ⟨s, leaves⟩ := specSync_leaves reachable.sound parsed found ok
      exact .inr ⟨b, s, rfl, leaves⟩
  · intro lane e failed
    rcases failed_leaves reachable.sound failed with ⟨unrefused, same⟩ | ⟨refused, halfway⟩
    · exact ⟨fun _ => same, fun refused => absurd (unrefused.symm.trans refused) nofun⟩
    · exact ⟨fun unrefused => absurd (refused.symm.trans unrefused) nofun, fun _ => halfway⟩

theorem error_of_isOk {r : Except ε α} (h : r.isOk = false) : ∃ e, r = .error e := by
  cases r with
  | ok => exact nomatch h
  | error e => exact ⟨e, rfl⟩

theorem refused_status_leaves_secret :
    let w := (World.sample "old").edit (.failNext .updateStatus 1)
    let w' := (World.run (Pass.specSync "default/db-cred") w).2
    (∃ e, (World.run (Pass.specSync "default/db-cred") w).1 = .error e) ∧
    (w.calls (Pass.specSync "default/db-cred")).any Call.statusRefused = true ∧
    (∃ s, w'.cluster.secrets.get? ⟨"default", "db-secret"⟩ = some s ∧
      s.value? "password" = some "old" ∧ s.type = some "Opaque") ∧
    w'.cluster.bindings = w.cluster.bindings ∧
    w'.cluster.journal = [.createSecret ⟨"default", "db-secret"⟩] := by
  intro w w'
  have refused : (w.calls (Pass.specSync "default/db-cred")).any Call.statusRefused = true := by
    decide +kernel
  obtain ⟨e, failed⟩ := error_of_isOk (r := (World.run (Pass.specSync "default/db-cred") w).1)
    (by decide +kernel)
  obtain ⟨-, tells⟩ := result_tells_state
    ((World.sample_reachable "old").edit (.failNext .updateStatus 1)) "default/db-cred"
  obtain ⟨k, b, v, s, parsed, found, halfway⟩ := (tells .spec e failed).2 refused
  have own : Key.parse? "default/db-cred" = some ⟨"default", "db-cred"⟩ := by decide +kernel
  cases own.symm.trans parsed
  cases (World.sample_binding "old").symm.trans found
  have value : w.vault.value? .sample = some "old" := rfl
  cases value.symm.trans halfway.value
  have stored := Table.get?_insert_self w.cluster.secrets Binding.sample.outputKey s
  rw [← halfway.secrets] at stored
  exact ⟨⟨e, failed⟩, refused, ⟨s, stored, halfway.holds.value, halfway.type⟩, halfway.bindings,
    halfway.journal⟩

end SecretSync
