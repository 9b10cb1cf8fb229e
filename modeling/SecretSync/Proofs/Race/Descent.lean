import SecretSync.Proofs.Race.Ownership
import SecretSync.Proofs.Controller.Calm

namespace SecretSync

section Named

/-- A request that may be made at any time, but for writing a Secret with an empty name. -/
def Naming : Steps Unit := fun _ q _ _ =>
  match q with
  | .createSecret s => s.metadata.name ≠ some ""
  | .updateSecret s => s.metadata.name ≠ some ""
  | _ => True

def Anyhow (_ : Unit) (_ : Except PassError α) : Prop := True

variable {b : Binding} {key : String}

theorem naming_writeStatus (b : Binding) (s : Secret) {f : Binding → Pass α}
    (rest : ∀ d, Program.Leads Naming () (f d).run Anyhow) :
    Program.Leads Naming () (Pass.writeStatus b s >>= f).run Anyhow := by
  refine Pass.leads_bind (Pass.leads_bind (Pass.leads_ask fun now => ⟨(), trivial, ?_⟩))
  refine Pass.leads_store (Pass.leads_ask fun r => ⟨(), trivial, ?_⟩)
  cases r with
  | error e => trivial
  | ok d => exact rest d

theorem naming_compose (b : Binding) (value : Option String) :
    Program.Leads Naming () (Pass.compose b value).run fun _ r =>
      ∀ s, r = .ok s → s.metadata.name ≠ some "" := by
  unfold Pass.compose
  by_cases nameless : b.spec.output.name = ""
  · rw [if_pos nameless]
    exact fun s made => nomatch made
  rw [if_neg nameless]
  have named : ∀ owner v s, (.ok (b.desired owner v) : Except PassError Secret) = .ok s →
      s.metadata.name ≠ some "" := by
    rintro owner v s made empty
    cases made
    exact nameless (Option.some.inj empty)
  cases b.ownerReference? with
  | none => exact fun s made => nomatch made
  | some owner =>
    cases value with
    | some v => exact named owner v
    | none =>
      refine Pass.leads_bind (Pass.leads_ask fun r => ⟨(), trivial, ?_⟩)
      cases r with
      | error e => exact fun s made => nomatch made
      | ok v => exact named owner v

theorem naming_ensureSecret (b : Binding) :
    Program.Leads Naming () (Pass.ensureSecret b).run Anyhow := by
  unfold Pass.ensureSecret
  by_cases nameless : b.spec.output.name = ""
  · rw [if_pos nameless]
    trivial
  rw [if_neg nameless]
  refine Pass.leads_bind (Pass.leads_store (Pass.leads_ask fun r => ⟨(), trivial, ?_⟩))
  rcases r with e | _ | s
  · trivial
  · refine Pass.leads_bind (Pass.leads_tryCatch ((naming_compose b none).mono ?_))
    rintro ⟨⟩ (e | s) named
    · cases e with
      | vaultFetch => exact Pass.leads_bind (Pass.leads_ask fun _ => ⟨(), trivial, trivial⟩)
      | _ => trivial
    · refine Pass.leads_bind (Pass.leads_store (Pass.leads_ask fun r => ⟨(), named s rfl, ?_⟩))
      cases r with
      | error e => trivial
      | ok created =>
        refine Pass.leads_bind (Pass.leads_ask fun r => ⟨(), trivial, ?_⟩)
        exact naming_writeStatus b created fun d => trivial
  · trivial

theorem naming_refuse (key : String) (b : Binding) (secret : String) :
    Program.Leads Naming () (Pass.refuse key b secret).run Anyhow :=
  Pass.leads_bind (Pass.leads_ask fun _ => ⟨(), trivial, trivial⟩)

theorem naming_refresh (key : String) (k : Key) (b : Binding) (value : String) :
    Program.Leads Naming () (Pass.refresh key k b value).run Anyhow := by
  refine Pass.leads_bind ((naming_compose b (some value)).mono ?_)
  rintro ⟨⟩ (e | desired) named
  · trivial
  refine Pass.leads_bind (Pass.leads_store (Pass.leads_ask fun r => ⟨(), trivial, ?_⟩))
  rcases r with e | _ | existing
  · trivial
  · trivial
  · change Program.Leads Naming () (ExceptT.run (ite _ _ _)) Anyhow
    by_cases mine : existing.metadata.controlledBy b = true
    · rw [if_pos mine]
      refine Pass.leads_bind (Pass.leads_store (Pass.leads_ask fun r =>
        ⟨(), named desired rfl, ?_⟩))
      cases r with
      | error e => trivial
      | ok updated =>
        refine Pass.leads_bind (Pass.leads_ask fun r => ⟨(), trivial, ?_⟩)
        exact naming_writeStatus b updated fun d => Pass.leads_ask fun r => ⟨(), trivial, trivial⟩
    · rw [if_neg mine]
      exact naming_refuse key b b.spec.output.name

theorem naming_lookup {key : String} {f : Key → Option Binding → Pass Unit}
    (rest : ∀ k found, Program.Leads Naming () (f k found).run Anyhow) :
    Program.Leads Naming ()
      (do
        let k ← Pass.parseKey key
        f k (← Pass.getBinding k)).run Anyhow := by
  unfold Pass.parseKey
  cases Key.parse? key with
  | none => trivial
  | some k =>
    refine Pass.leads_bind (p := pure k) (Pass.leads_bind (Pass.leads_store
      (Pass.leads_ask fun r => ⟨(), trivial, ?_⟩)))
    cases r with
    | error e => trivial
    | ok found => exact rest k found

/-- No pass ever writes a Secret without a name. -/
theorem naming_pass (lane : Lane) (key : String) :
    Program.Leads Naming () (lane.pass key).run Anyhow := by
  cases lane with
  | spec =>
    refine naming_lookup fun k found => ?_
    cases found with
    | none => trivial
    | some b =>
      refine Pass.leads_bind ((naming_ensureSecret b).mono ?_)
      rintro ⟨⟩ (e | s) -
      · trivial
      · change Program.Leads Naming () (ExceptT.run (ite _ _ _)) Anyhow
        by_cases mine : s.metadata.controlledBy b = true
        · rw [if_pos mine]
          exact Pass.leads_ask fun r => ⟨(), trivial, trivial⟩
        · rw [if_neg mine]
          exact naming_refuse key b _
  | poll =>
    refine naming_lookup fun k found => ?_
    cases found with
    | none => trivial
    | some b =>
      refine Pass.leads_bind (Pass.leads_ask fun r => ⟨(), trivial, ?_⟩)
      rcases r with e | v
      · exact Pass.leads_bind (Pass.leads_ask fun r => ⟨(), trivial, trivial⟩)
      · change Program.Leads Naming () (ExceptT.run (ite _ _ _)) Anyhow
        by_cases current : b.observedHash = Digest.contentHash v
        · rw [if_pos current]
          trivial
        · rw [if_neg current]
          exact naming_refresh key k b v

end Named

namespace Scene

structure WellNamed (s : Scene) : Prop where
  past : ∀ c ∈ s.history, Naming () c.request c.answer ()
  future : ∀ rest ∈ s.rest, Program.Leads Naming () rest Anyhow

theorem wellNamed_start (w : World) (jobs : List Job) : (start w jobs).WellNamed where
  past := fun _ none => nomatch none
  future := by
    intro rest inside
    obtain ⟨j, -, rfl⟩ := List.mem_map.1 inside
    exact naming_pass j.lane j.key

theorem WellNamed.call {s : Scene} (h : s.WellNamed) (i : Nat) : (s.call i).WellNamed := by
  rcases call_cases s i with idle | ⟨q, next, asks⟩
  · rw [idle]
    exact h
  · obtain ⟨⟨⟩, named, onward⟩ := h.future _ (List.mem_of_getElem? asks) (World.answer q s.world).1
    rw [call_ask asks]
    constructor
    · intro c made
      rcases List.mem_append.1 made with old | new
      · exact h.past c old
      · cases List.mem_singleton.1 new
        exact named
    · intro rest inside
      rcases List.mem_or_eq_of_mem_set inside with old | rfl
      · exact h.future rest old
      · exact onward

theorem WellNamed.run {s : Scene} (h : s.WellNamed) (moves : List Move) :
    (s.run moves).WellNamed := by
  induction moves generalizing s with
  | nil => exact h
  | cons m moves ih =>
    cases m with
    | edit e => exact ih ⟨h.past, h.future⟩
    | call i => exact ih (h.call i)

end Scene

/-- What a Secret tells of the binding that it was written for. -/
structure Descends (b : Binding) (s : Secret) : Prop where
  named : b.spec.output.name ≠ ""
  name : s.metadata.name = some b.spec.output.name
  parent : s.parent? = some b.metadata.key

theorem parent?_of_owners {b : Binding} {owner : OwnerReference} {s : Secret}
    (owned : b.ownerReference? = some owner) (space : s.metadata.space = b.metadata.space)
    (sole : s.metadata.owners = some [owner]) : s.parent? = some b.metadata.key := by
  have found := (Binding.controlledBy_of_owners owned sole).1
  have name := (Binding.ownerReference_eq_some owned).1
  have kind : owner.kind = Binding.kind := by
    simp only [Binding.ownerReference?, Option.pure_def, Option.bind_eq_bind,
      Option.bind_eq_some_iff] at owned
    obtain ⟨_, _, _, _, made⟩ := owned
    cases made
    rfl
  simp only [Secret.parent?, found, kind, if_true, space, Meta.key, name, Option.getD_some]

variable {key : String} {lane : Lane} {p t : Phase} {c : Call} {s : Secret}

theorem step_descends (honest : c.Honest) (taken : Phase.Step key lane p c.request c.answer t)
    (naming : Naming () c.request c.answer ()) (stored : c.stored? = some s) :
    ∃ b, p.binding? = some b ∧ Descends b s := by
  obtain ⟨w, i, q, _, rfl⟩ := honest
  -- the answer is what it is, but a step can only be told apart by a variable
  generalize answered : (w.callBy i q).answer = r at taken naming
  have told : (⟨i, q, r, w.cluster, (World.answer q w).2.cluster⟩ : Call).stored? = some s := by
    rw [← answered]
    exact stored
  change (World.answer q w).1 = r at answered
  change Phase.Step key lane p q r t at taken
  cases taken with
  | created owned =>
    obtain ⟨k, -, -, rfl, -⟩ := Cluster.createSecret_ok answered
    cases told
    exact ⟨_, rfl, fun empty => naming (congrArg some empty), rfl, parent?_of_owners owned rfl rfl⟩
  | updated owned =>
    obtain ⟨k, existing, -, -, -, rfl, -⟩ := Cluster.updateSecret_ok answered
    cases told
    exact ⟨_, rfl, fun empty => naming (congrArg some empty), rfl, parent?_of_owners owned rfl rfl⟩
  | _ => exact nomatch told

namespace Scene

/-- Whatever passes and edits there were, a Secret that a pass created or wrote over descends from
the binding that the pass read. -/
theorem stored_descends {w : World} (reachable : w.Reachable) (jobs : List Job)
    (moves : List Move) {i : Nat} {j : Job} (job : jobs[i]? = some j) {b : Binding}
    (made : c ∈ ((start w jobs).run moves).log i) (stored : c.stored? = some s)
    (read : snapshot (((start w jobs).run moves).log i) = some b) : Descends b s := by
  obtain ⟨phases, follows⟩ := follows_moves reachable.sound jobs moves
  have past : c ∈ ((start w jobs).run moves).history := (List.mem_filter.1 made).1
  have naming := ((wellNamed_start w jobs).run moves).past c past
  obtain ⟨before, after, parts⟩ := List.append_of_mem made
  obtain ⟨p, t, path, taken, -⟩ :=
    (follows.path job).cut (fun _ => True) (fun _ _ => trivial) parts
  obtain ⟨b', goesBy, descends⟩ := step_descends (follows.honest c past) taken naming stored
  rw [parts] at read
  cases (snapshot_append (path.read.2 b' goesBy) (c :: after)).symm.trans read
  exact descends

end Scene

end SecretSync
