import SecretSync.Proofs.Pass.Aftermath
import SecretSync.Proofs.Pass.Independence

namespace SecretSync

def PassError.notes : PassError → List Event
  | .vaultFetch resource vault _ => [Event.vaultFailed resource vault]
  | .resourceConflict _ secret => [Event.nameTaken secret]
  | _ => []

namespace Event

def Sole (severity : Severity) (reason : String) (notes : List Event) : Prop :=
  ∃ message, notes = [⟨severity, reason, message⟩]

variable {severity : Severity} {reason : String} {e : Event}

@[simp] theorem not_sole_nil : ¬ Sole severity reason [] := by
  rintro ⟨_, told⟩
  exact nomatch told

@[simp] theorem sole_singleton :
    Sole severity reason [e] ↔ e.severity = severity ∧ e.reason = reason := by
  constructor
  · rintro ⟨_, told⟩
    cases told
    exact ⟨rfl, rfl⟩
  · rintro ⟨rfl, rfl⟩
    exact ⟨e.message, rfl⟩

end Event

/-- A pass so far: what it found when it looked for the binding, whether it has stored a Secret, and
what it has told. -/
structure Account where
  found : Option (Option Binding)
  stored : Bool
  notes : List Event

namespace Account

def blank : Account := ⟨none, false, []⟩

def about (b : Binding) (stored : Bool) : Account := ⟨some (some b), stored, []⟩

/-- What the requests of a pass do to its account. The binding is looked for once, before its status
is written, and nothing is told of any other binding. -/
inductive Step (key : String) : Steps Account
  | looked {k} {r : Except StoreError (Option Binding)} : Key.parse? key = some k →
      Step key blank (.getBinding k) r ⟨r.toOption, false, []⟩
  | searched {a k r} : Step key a (.getSecret k) r a
  | read {a b r} : Step key a (.readVault b) r a
  | created {a s} {r : Except StoreError Secret} :
      Step key a (.createSecret s) r { a with stored := a.stored || r.isOk }
  | updated {a s} {r : Except StoreError Secret} :
      Step key a (.updateSecret s) r { a with stored := a.stored || r.isOk }
  | told {a f b r} : a.found = some f → Step key a (.updateStatus b) r a
  | noted {a b e r} : a.found = some (some b) →
      Step key a (.record b e) r { a with notes := a.notes ++ [e] }
  | counted {a c r} : Step key a (.count c) r a
  | timed {a m} : Step key a .now m a

inductive Ends : Lane → Account → Except PassError Unit → Prop
  | failed {lane a e} : a.notes = e.notes → Ends lane a (.error e)
  | gone {lane} : Ends lane ⟨some none, false, []⟩ (.ok ())
  | synced {b stored} : Ends .spec ⟨some (some b), stored, [Event.synced]⟩ (.ok ())
  | current {b} : Ends .poll (about b false) (.ok ())
  | updated {b} : Ends .poll ⟨some (some b), true, [Event.updated]⟩ (.ok ())

section Leads

open Pass Program
open Digest (contentHash)

variable {key : String} {lane : Lane} {b : Binding} {stored : Bool}

theorem leads_writeStatus (b : Binding) (stored : Bool) {s : Secret}
    {ends : Account → Except PassError Binding → Prop}
    (done : ∀ d, ends (about b stored) (.ok d))
    (stuck : ∀ e, ends (about b stored) (.error (.store e))) :
    Leads (Step key) (about b stored) (writeStatus b s).run ends := by
  refine leads_bind (leads_ask fun moment => ⟨_, .timed, leads_store (leads_ask ?_)⟩)
  rintro (e | d)
  · exact ⟨_, .told rfl, stuck e⟩
  · exact ⟨_, .told rfl, done d⟩

theorem leads_refuse {secret : String} :
    Leads (Step key) (about b stored) (refuse key b secret).run (Ends lane) :=
  leads_bind (leads_ask fun _ => ⟨_, .noted rfl, .failed rfl⟩)

/-- A Secret that cannot be made for want of the value is warned of, and for other reasons not. -/
theorem leads_supply {ends : Account → Except PassError Secret → Prop}
    (failed : ∀ a e, a.notes = e.notes → ends a (.error e))
    (made : ∀ s, ends (about b false) (.ok s)) :
    Leads (Step key) (about b false) (tryCatch (compose b none) (noteVaultFailure b)).run ends := by
  refine leads_tryCatch ?_
  unfold compose
  by_cases named : b.spec.output.name = ""
  · rw [if_pos named]
    exact failed _ _ rfl
  rw [if_neg named]
  cases b.ownerReference? with
  | none => exact failed _ _ rfl
  | some owner =>
    refine leads_bind (leads_ask ?_)
    rintro (e | v)
    -- only this error is noted by the handler before it goes on
    · exact ⟨_, .read, leads_bind (leads_ask fun _ => ⟨_, .noted rfl, failed _ _ rfl⟩)⟩
    · exact ⟨_, .read, made _⟩

theorem leads_ensureSecret {ends : Account → Except PassError Secret → Prop}
    (failed : ∀ a e, a.notes = e.notes → ends a (.error e))
    (there : ∀ s stored, ends (about b stored) (.ok s)) :
    Leads (Step key) (about b false) (ensureSecret b).run ends := by
  unfold ensureSecret
  by_cases named : b.spec.output.name = ""
  · rw [if_pos named]
    exact failed _ _ rfl
  rw [if_neg named]
  refine leads_bind (leads_store (leads_ask ?_))
  rintro (e | _ | s)
  · exact ⟨_, .searched, failed _ _ rfl⟩
  · refine ⟨_, .searched, leads_bind (leads_supply failed fun s => ?_)⟩
    refine leads_bind (leads_store (leads_ask ?_))
    rintro (e | made)
    · exact ⟨_, .created, failed _ _ rfl⟩
    · refine ⟨_, .created, leads_bind (leads_ask fun _ => ⟨_, .counted, leads_bind ?_⟩)⟩
      exact leads_writeStatus b true (fun _ => there made true) fun e => failed _ _ rfl
  · exact ⟨_, .searched, there s false⟩

theorem leads_lookup {f : Key → Option Binding → Pass Unit}
    (gone : ∀ k, Leads (Step key) ⟨some none, false, []⟩ (f k none).run (Ends lane))
    (found : ∀ k b, Leads (Step key) (about b false) (f k (some b)).run (Ends lane)) :
    Leads (Step key) blank
      (do
        let k ← parseKey key
        f k (← getBinding k)).run (Ends lane) := by
  unfold parseKey
  cases parsed : Key.parse? key with
  | none => exact .failed rfl
  | some k =>
    refine leads_bind (p := pure k) (leads_bind (leads_store (leads_ask ?_)))
    rintro (e | _ | b)
    · exact ⟨_, .looked parsed, .failed rfl⟩
    · exact ⟨_, .looked parsed, gone k⟩
    · exact ⟨_, .looked parsed, found k b⟩

theorem leads_specSync : Leads (Step key) blank (specSync key).run (Ends .spec) := by
  refine leads_lookup (fun k => .gone) fun k b => leads_bind ?_
  refine leads_ensureSecret (fun a e noted => .failed noted) fun s stored => ?_
  by_cases owned : s.metadata.controlledBy b = true
  · change Leads _ _ (ExceptT.run (ite _ _ _)) _
    rw [if_pos owned]
    exact leads_ask fun _ => ⟨_, .noted rfl, .synced⟩
  · change Leads _ _ (ExceptT.run (ite _ _ _)) _
    rw [if_neg owned]
    exact leads_refuse

theorem leads_refresh (k : Key) (v : String) :
    Leads (Step key) (about b false) (refresh key k b v).run (Ends .poll) := by
  unfold refresh compose
  by_cases named : b.spec.output.name = ""
  · rw [if_pos named]
    exact .failed rfl
  rw [if_neg named]
  cases b.ownerReference? with
  | none => exact .failed rfl
  | some owner =>
    refine leads_bind (p := pure (b.desired owner v)) (leads_bind (leads_store (leads_ask ?_)))
    rintro (e | _ | s)
    · exact ⟨_, .searched, .failed rfl⟩
    · exact ⟨_, .searched, .failed rfl⟩
    · refine ⟨_, .searched, ?_⟩
      change Leads _ _ (ExceptT.run (ite _ _ _)) _
      by_cases mine : s.metadata.controlledBy b = true
      · rw [if_pos mine]
        refine leads_bind (leads_store (leads_ask ?_))
        rintro (e | written)
        · exact ⟨_, .updated, .failed rfl⟩
        · refine ⟨_, .updated, leads_bind (leads_ask fun _ => ⟨_, .counted, leads_bind ?_⟩)⟩
          refine leads_writeStatus b true (fun _ => ?_) fun e => .failed rfl
          exact leads_ask fun _ => ⟨_, .noted rfl, .updated⟩
      · rw [if_neg mine]
        exact leads_refuse

theorem leads_vaultPoll : Leads (Step key) blank (vaultPoll key).run (Ends .poll) := by
  refine leads_lookup (fun k => .gone) fun k b => leads_bind (leads_ask ?_)
  rintro (e | v)
  · exact ⟨_, .read, leads_bind (leads_ask fun _ => ⟨_, .noted rfl, .failed rfl⟩)⟩
  · refine ⟨_, .read, ?_⟩
    change Leads _ _ (ExceptT.run (ite _ _ _)) _
    by_cases current : b.observedHash = contentHash v
    · rw [if_pos current]
      exact .current
    · rw [if_neg current]
      exact leads_refresh k v

theorem leads_pass (lane : Lane) : Leads (Step key) blank (lane.pass key).run (Ends lane) := by
  cases lane with
  | spec => exact leads_specSync
  | poll => exact leads_vaultPoll

end Leads

def Knows (key : String) (w₀ w : World) : Option (Option Binding) → Prop
  | none => w.cluster.bindings = w₀.cluster.bindings
  | some found => ∃ k, Key.parse? key = some k ∧ w₀.cluster.bindings.get? k = found

/-- The account of a pass is true of the world and of the calls so far. -/
structure Kept (key : String) (w₀ : World) (a : Account) (w : World) (log : List Call) :
    Prop where
  events : w.events = w₀.events ++ a.notes.map (RecordedEvent.mk key)
  stored : a.stored = log.any fun c => c.stored?.isSome
  found : Knows key w₀ w a.found

section Run

variable {key : String} {w₀ w : World} {a t : Account} {q : Request} {log : List Call}

theorem Knows.after {w' : World} {found : Option (Option Binding)} (h : Knows key w₀ w found)
    (kept : found = none → w'.cluster.bindings = w.cluster.bindings) : Knows key w₀ w' found := by
  cases found with
  | none => exact (kept rfl).trans h
  | some found => exact h

theorem knows_step (h : Knows key w₀ w a.found) (taken : Step key a q (World.answer q w).1 t) :
    Knows key w₀ (World.answer q w).2 t.found := by
  generalize answered : (World.answer q w).1 = r at taken
  cases taken with
  | @looked k r parsed =>
    have before : w.cluster.bindings = w₀.cluster.bindings := h
    cases r with
    | error e =>
      have same := World.bindings_answer (q := .getBinding k) w (by simp)
      exact same.trans before
    | ok found =>
      have there := Cluster.getBinding_ok answered
      rw [before] at there
      exact ⟨k, parsed, there⟩
  -- the one request that writes a binding comes after the look
  | told found => exact h.after fun untold => absurd (untold.symm.trans found) nofun
  | _ => exact h.after fun _ => World.bindings_answer w (by simp)

theorem stored_step (taken : Step key a q (World.answer q w).1 t) :
    t.stored = (a.stored || (w.callBy 0 q).stored?.isSome) := by
  unfold Call.stored? World.callBy
  generalize (World.answer q w).1 = r at taken ⊢
  cases taken with
  | @created a s r => cases r <;> rfl
  | @updated a s r => cases r <;> rfl
  | _ => exact (Bool.or_false _).symm

theorem key_of_found {b : Binding} (sound : w₀.cluster.Sound) (h : Knows key w₀ w a.found)
    (found : a.found = some (some b)) : b.key = key := by
  rw [found] at h
  obtain ⟨k, parsed, stored⟩ := h
  rw [Binding.key, sound.placed stored, Key.render_of_parse? parsed]

theorem events_step (sound : w₀.cluster.Sound) (h : Kept key w₀ a w log)
    (taken : Step key a q (World.answer q w).1 t) :
    (World.answer q w).2.events = w₀.events ++ t.notes.map (RecordedEvent.mk key) := by
  have events := h.events
  cases taken with
  | noted found =>
    rw [List.map_append, ← List.append_assoc, ← events, ← key_of_found sound h.found found]
    rfl
  | _ => exact events

theorem kept_step (sound : w₀.cluster.Sound) (h : Kept key w₀ a w log)
    (taken : Step key a q (World.answer q w).1 t) :
    Kept key w₀ t (World.answer q w).2 (log ++ [w.callBy 0 q]) where
  events := events_step sound h taken
  stored := by
    rw [List.any_append, ← h.stored, stored_step taken]
    simp
  found := knows_step h.found taken

theorem run_kept (lane : Lane) (sound : w.cluster.Sound) (key : String) : ∃ a,
    Kept key w a (World.run (lane.pass key) w).2 (w.calls (lane.pass key)) ∧
      Ends lane a (World.run (lane.pass key) w).1 := by
  have start : Kept key w blank w [] := ⟨(List.append_nil _).symm, rfl, rfl⟩
  exact (leads_pass lane).calls (fun h taken => kept_step sound h taken) start

end Run

section Results

open Event

variable {lane : Lane} {a : Account} {result : Except PassError Unit}

theorem Ends.told (ends : Ends lane a result) : a.notes = [] ∨ Sole .warning vaultReason a.notes ∨
    Sole .warning existsReason a.notes ∨ Sole .normal syncedReason a.notes := by
  cases ends with
  | @failed lane a e noted =>
    rw [noted]
    cases e with
    | vaultFetch => exact .inr (.inl ⟨_, rfl⟩)
    | resourceConflict => exact .inr (.inr (.inl ⟨_, rfl⟩))
    | _ => exact .inl rfl
  | gone | current => exact .inl rfl
  | synced | updated => exact .inr (.inr (.inr ⟨_, rfl⟩))

theorem Ends.vault_iff (ends : Ends lane a result) : Sole .warning vaultReason a.notes ↔
    ∃ resource vault source, result = .error (.vaultFetch resource vault source) := by
  cases ends with
  | @failed lane a e noted =>
    rw [noted]
    cases e <;> simp [PassError.notes, vaultFailed, nameTaken, vaultReason, existsReason]
  | _ => simp [Event.synced, Event.updated, about]

theorem Ends.exists_iff (ends : Ends lane a result) : Sole .warning existsReason a.notes ↔
    ∃ resource secret, result = .error (.resourceConflict resource secret) := by
  cases ends with
  | @failed lane a e noted =>
    rw [noted]
    cases e <;> simp [PassError.notes, vaultFailed, nameTaken, vaultReason, existsReason]
  | _ => simp [Event.synced, Event.updated, about]

theorem Ends.synced_iff (ends : Ends lane a result) : Sole .normal syncedReason a.notes ↔
    result = .ok () ∧ match lane with
      | .spec => ∃ b, a.found = some (some b)
      | .poll => a.stored = true := by
  cases ends with
  | @failed lane a e noted =>
    rw [noted]
    cases e <;> simp [PassError.notes, vaultFailed, nameTaken]
  | @gone lane => cases lane <;> simp
  | _ => simp [Event.synced, Event.updated, about]

theorem Ends.noted {e : PassError} (ends : Ends lane a (.error e)) : a.notes = e.notes := by
  cases ends with
  | failed noted => exact noted

theorem Ends.looked (ends : Ends lane a (.ok ())) : a.found ≠ none := by
  cases ends <;> exact Option.some_ne_none _

theorem found_iff {key : String} {w₀ w : World} (h : Knows key w₀ w a.found)
    (looked : a.found ≠ none) : (∃ b, a.found = some (some b)) ↔
      ∃ k b, Key.parse? key = some k ∧ w₀.cluster.bindings.get? k = some b := by
  generalize a.found = found at h looked
  cases found with
  | none => exact absurd rfl looked
  | some found =>
    obtain ⟨k, parsed, there⟩ := h
    constructor
    · rintro ⟨b, same⟩
      cases same
      exact ⟨k, b, parsed, there⟩
    · rintro ⟨k', b, parsed', there'⟩
      cases parsed.symm.trans parsed'
      exact ⟨b, congrArg some (there.symm.trans there')⟩

end Results

end Account

/-- A pass tells at most one thing, and of no other binding than that of its key. It warns of the
vault if it fails because the value cannot be read, and of a name that is taken if it fails for
that. A spec sync is told of if it has no error and the binding was there, a poll if it has no error
and has stored a Secret. -/
theorem notices_match_results {w : World} (reachable : w.Reachable) (key : String) (lane : Lane) :
    ∃ notes,
      (World.run (lane.pass key) w).2.events = w.events ++ notes.map (RecordedEvent.mk key) ∧
      (notes = [] ∨ Event.Sole .warning Event.vaultReason notes ∨
        Event.Sole .warning Event.existsReason notes ∨
        Event.Sole .normal Event.syncedReason notes) ∧
      (∀ e, (World.run (lane.pass key) w).1 = .error e → notes = e.notes) ∧
      (Event.Sole .warning Event.vaultReason notes ↔ ∃ resource vault source,
        (World.run (lane.pass key) w).1 = .error (.vaultFetch resource vault source)) ∧
      (Event.Sole .warning Event.existsReason notes ↔ ∃ resource secret,
        (World.run (lane.pass key) w).1 = .error (.resourceConflict resource secret)) ∧
      (Event.Sole .normal Event.syncedReason notes ↔
        (World.run (lane.pass key) w).1 = .ok () ∧ match lane with
          | .spec => ∃ k b, Key.parse? key = some k ∧ w.cluster.bindings.get? k = some b
          | .poll => ∃ c ∈ w.calls (lane.pass key), c.stored?.isSome = true) := by
  obtain ⟨a, kept, ends⟩ := Account.run_kept lane reachable.sound key
  refine ⟨a.notes, kept.events, ends.told, fun e failed => (failed ▸ ends).noted, ends.vault_iff,
    ends.exists_iff, ends.synced_iff.trans ?_⟩
  refine and_congr_right fun ok => ?_
  rw [ok] at ends
  cases lane with
  | spec => exact Account.found_iff kept.found ends.looked
  | poll =>
    change a.stored = true ↔ _
    rw [kept.stored, List.any_eq_true]

/-- A poll that writes a new value tells of that, and one that finds the value unchanged tells of
nothing. -/
theorem poll_tells_of_new_value :
    let fresh := (World.run (Pass.specSync "default/db-cred") (World.sample "old")).2
    let stale := fresh.edit (.vault (.sample "new"))
    (∃ message, (World.run (Lane.poll.pass "default/db-cred") stale).2.events =
      stale.events ++ [⟨"default/db-cred", .normal, "Synced", message⟩]) ∧
    (World.run (Lane.poll.pass "default/db-cred") fresh).2.events = fresh.events := by
  intro fresh stale
  have reachable := (World.sample_reachable "old").run (Pass.specSync "default/db-cred")
  constructor
  · obtain ⟨notes, events, -, -, -, -, synced⟩ := notices_match_results (w := stale)
      (reachable.edit (.vault (.sample "new"))) "default/db-cred" .poll
    have ok : (World.run (Lane.poll.pass "default/db-cred") stale).1 = .ok () :=
      ok_of_isOk (by decide +kernel)
    have wrote : (stale.calls (Lane.poll.pass "default/db-cred")).any
        (fun c => c.stored?.isSome) = true := by decide +kernel
    obtain ⟨message, rfl⟩ := synced.2 ⟨ok, List.any_eq_true.1 wrote⟩
    rw [List.map_singleton] at events
    exact ⟨message, events⟩
  · obtain ⟨notes, events, told, -, vault, taken, synced⟩ :=
      notices_match_results (w := fresh) reachable "default/db-cred" .poll
    have ok : (World.run (Lane.poll.pass "default/db-cred") fresh).1 = .ok () :=
      ok_of_isOk (by decide +kernel)
    have idle : (fresh.calls (Lane.poll.pass "default/db-cred")).any
        (fun c => c.stored?.isSome) = false := by decide +kernel
    rcases told with rfl | warned | warned | praised
    · rwa [List.map_nil, List.append_nil] at events
    · obtain ⟨_, _, _, failed⟩ := vault.1 warned
      exact nomatch ok.symm.trans failed
    · obtain ⟨_, _, failed⟩ := taken.1 warned
      exact nomatch ok.symm.trans failed
    · exact absurd (List.any_eq_true.2 (synced.1 praised).2) (Bool.eq_false_iff.1 idle)

end SecretSync
