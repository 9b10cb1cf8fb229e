import SecretSync.Proofs.Race.Scene

/-!
The order of the writes of a pass. Each pass reads the vault once, writes one Secret and then one
status, and the status speaks of the value it read: the digest is taken from what the store gave
back, which still is that value. A pass that was stopped before writes no status.
-/
namespace SecretSync

open Digest (contentHash)

namespace Phase

/-- How often a pass has read the vault at most. -/
def reads : Phase → Nat
  | .start | .gone | .found _ | .present _ _ | .vacant _ => 0
  | _ => 1

def stores : Phase → Nat
  | .written .. | .recorded .. | .unrecorded .. => 1
  | _ => 0

def tells : Phase → Nat
  | .recorded .. | .unrecorded .. => 1
  | _ => 0

def Stopped : Phase → Prop
  | .gone | .present _ _ | .failed _ => True
  | _ => False

variable {key : String} {lane : Lane} {p t : Phase}

theorem reads_step {c : Call} (taken : Step key lane p c.request c.answer t) :
    p.reads + (if c.readsVault then 1 else 0) ≤ t.reads := by
  obtain ⟨i, q, r, before, after⟩ := c
  cases taken <;> simp [reads, Call.readsVault]

theorem stores_step {c : Call} (taken : Step key lane p c.request c.answer t) :
    p.stores + (if c.stored?.isSome then 1 else 0) ≤ t.stores := by
  obtain ⟨i, q, r, before, after⟩ := c
  cases taken <;> simp [stores, Call.stored?]

theorem tells_step {c : Call} (taken : Step key lane p c.request c.answer t) :
    p.tells + (if c.told?.isSome then 1 else 0) ≤ t.tells := by
  obtain ⟨i, q, r, before, after⟩ := c
  cases taken <;> simp [tells, Call.told?]

theorem reads_le (p : Phase) : p.reads ≤ 1 := by cases p <;> simp [reads]

theorem stores_le (p : Phase) : p.stores ≤ 1 := by cases p <;> simp [stores]

theorem tells_le (p : Phase) : p.tells ≤ 1 := by cases p <;> simp [tells]

theorem lane_of_create {s : Secret} {r : (Request.createSecret s).Answer}
    (taken : Step key lane p (.createSecret s) r t) : lane = .spec := by
  cases taken <;> rfl

theorem lane_of_update {s : Secret} {r : (Request.updateSecret s).Answer}
    (taken : Step key lane p (.updateSecret s) r t) : lane = .poll := by
  cases taken <;> rfl

theorem stopped_step {q : Request} {r : q.Answer} (taken : Step key lane p q r t)
    (h : p.Stopped) : t.Stopped := by
  cases taken <;> first | exact h | exact trivial

end Phase

namespace Call

/-- A call by which a pass learns that it must stop: the binding is not there, or the Secret of a
poll, or the Secret that is there is not controlled by the binding that was read, or the store or
the vault refuses. -/
def Fails (lane : Lane) (b? : Option Binding) (c : Call) : Prop :=
  match c.request, c.answer with
  | .getBinding _, r => ∀ b, r ≠ .ok (some b)
  | .getSecret _, .ok (some s) => ∃ b, b? = some b ∧ s.metadata.controlledBy b = false
  | .getSecret _, .ok none => lane = .poll
  | .getSecret _, .error _ => True
  | .readVault _, .error _ => True
  | .createSecret _, .error _ => True
  | .updateSecret _, .error _ => True
  | _, _ => False

structure Stores (b : Binding) (v : String) (s : Secret) (c : Call) : Prop where
  stored : c.stored? = some s
  there : c.after.secrets.get? b.outputKey = some s
  holds : b.HoldsFor v s

end Call

/-- The calls that a phase owes its value and its Secret to. -/
def Phase.Backed (log : List Call) : Phase → Prop
  | .fetched _ v | .claimed _ v _ => ∃ c ∈ log, c.fetched? = some v
  | .written b v s | .recorded b v s | .unrecorded b v s _ =>
    (∃ c ∈ log, c.fetched? = some v) ∧ (∃ c ∈ log, c.Stores b v s) ∧
      b.metadata.writeKey = .ok b.metadata.key
  | _ => True

variable {key : String} {lane : Lane} {log : List Call} {p t : Phase}

theorem Phase.Backed.append (h : p.Backed log) (c : Call) : p.Backed (log ++ [c]) := by
  have more : ∀ {P : Call → Prop}, (∃ c ∈ log, P c) → ∃ d ∈ log ++ [c], P d := by
    rintro P ⟨d, made, holds⟩
    exact ⟨d, List.mem_append_left _ made, holds⟩
  cases p with
  | fetched b v => exact more h
  | claimed b v e => exact more h
  | written b v s => exact ⟨more h.1, more h.2.1, h.2.2⟩
  | recorded b v s => exact ⟨more h.1, more h.2.1, h.2.2⟩
  | unrecorded b v s e => exact ⟨more h.1, more h.2.1, h.2.2⟩
  | _ => trivial

theorem Call.stores_placed {c : Call} {b : Binding} {v : String} {s : Secret} {write : Write}
    (stored : c.stored? = some s) (placed : Cluster.Placed b v s write c.before c.after) :
    c.Stores b v s := ⟨stored, placed.get?, placed.holds⟩

theorem Path.backed (h : Path key lane log p) (honest : ∀ c ∈ log, c.Honest) : p.Backed log := by
  induction h with
  | nil => trivial
  | snoc path taken ih =>
    rename_i log p c t
    obtain ⟨w, i, q, _, rfl⟩ := honest c (List.mem_append_right _ List.mem_cons_self)
    have before := ih fun d made => honest d (List.mem_append_left _ made)
    have newest : w.callBy i q ∈ log ++ [w.callBy i q] :=
      List.mem_append_right _ List.mem_cons_self
    generalize answered : (w.callBy i q).answer = r at taken
    change (World.answer q w).1 = r at answered
    change Phase.Step key lane p q r t at taken
    cases taken with
    | supplied | fetched =>
      exact ⟨_, newest, by simp only [World.callBy, Call.fetched?, answered]⟩
    | created owned =>
      rename_i b owner v s
      obtain ⟨_, placed⟩ := Cluster.placed_created owned answered
      have stored : (w.callBy i (.createSecret (b.desired owner v))).stored? = some s := by
        simp only [World.callBy, Call.stored?, answered]
      exact ⟨before.append _, ⟨_, newest, Call.stores_placed stored placed⟩, placed.named⟩
    | updated owned =>
      rename_i b owner v e s
      obtain ⟨_, placed⟩ := Cluster.placed_updated owned answered
      have stored : (w.callBy i (.updateSecret (b.desiredOver owner v e))).stored? = some s := by
        simp only [World.callBy, Call.stored?, answered]
      exact ⟨before.append _, ⟨_, newest, Call.stores_placed stored placed⟩, placed.named⟩
    | claimed | recorded | unrecorded | noted | counted | timed => exact before.append _
    | _ => trivial

/-- A pass that learns that it must stop has nothing left to write. -/
theorem stopped_of_fails {c : Call} {b? : Option Binding}
    (taken : Phase.Step key lane p c.request c.answer t) (failed : c.Fails lane b?)
    (reads : ∀ b, p.binding? = some b → b? = some b) : t.Stopped := by
  obtain ⟨i, q, r, before, after⟩ := c
  cases taken with
  | found parsed => exact (failed _ rfl).elim
  | claimed parsed changed mine =>
    obtain ⟨b', read, foreign⟩ := failed
    cases (reads _ rfl).symm.trans read
    exact nomatch mine.symm.trans foreign
  | vacant => exact nomatch failed
  | supplied | created | fetched | updated | recorded | unrecorded => exact failed.elim
  | noted | counted | timed => exact failed.elim
  | _ => trivial

theorem untold_of_stopped (path : Path key lane log p) (honest : ∀ c ∈ log, c.Honest)
    (h : p.Stopped) : ∀ c ∈ log, c.told? = none ∧ c.after.bindings = c.before.bindings := by
  intro c made
  have none : p.tells = 0 := by
    cases p <;> first | rfl | exact h.elim
  -- A pass that stopped owes no status write, and the rank of its phase bounds their number.
  have told : log.countP (fun c => c.told?.isSome) = 0 := by
    have := path.count Phase.tells_step
    omega
  have silent : c.told? = .none := by
    simpa using List.countP_eq_zero.1 told c made
  refine ⟨silent, ?_⟩
  obtain ⟨w, i, q, _, rfl⟩ := honest c made
  refine World.bindings_answer w fun b same => ?_
  subst same
  exact nomatch silent

/-- The order that a pass keeps: it reads the vault once and writes one Secret, a new one or over
another by its lane, then at most one status, with the digest of the value it read and stored. If it
had to stop, or was refused the Secret, it writes no status and changes no binding. -/
structure Orderly (lane : Lane) (log : List Call) (rest : Program (Except PassError Unit)) :
    Prop where
  reads : log.countP Call.readsVault ≤ 1
  stores : log.countP (fun c => c.stored?.isSome) ≤ 1
  creates : ∀ c ∈ log, ∀ s, c.request = .createSecret s → lane = .spec
  updates : ∀ c ∈ log, ∀ s, c.request = .updateSecret s → lane = .poll
  tells : log.countP (fun c => c.told?.isSome) ≤ 1
  backed : ∀ {before after c b}, log = before ++ c :: after → c.told? = some b →
    ∃ v s, (∃ read ∈ before, read.fetched? = some v) ∧ (∃ write ∈ before, write.Stores b v s) ∧
      b.status.bind Binding.Status.secretHash = some (contentHash v)
  stopped : (∃ c ∈ log, c.Fails lane (snapshot log)) ∨
      (∃ resource secret, rest = .done (.error (.resourceConflict resource secret))) →
    ∀ c ∈ log, c.told? = none ∧ c.after.bindings = c.before.bindings

theorem told_backed (path : Path key lane log p) (honest : ∀ c ∈ log, c.Honest)
    {before after : List Call} {c : Call} {b : Binding} (parts : log = before ++ c :: after)
    (told : c.told? = some b) :
    ∃ v s, (∃ read ∈ before, read.fetched? = some v) ∧ (∃ write ∈ before, write.Stores b v s) ∧
      b.status.bind Binding.Status.secretHash = some (contentHash v) := by
  obtain ⟨s, t, path, taken, _⟩ := path.cut (fun _ => True) (fun _ _ => trivial) parts
  have backed := path.backed fun d made => honest d (parts ▸ List.mem_append_left _ made)
  obtain ⟨i, q, r, _, _⟩ := c
  cases taken with
  | recorded | unrecorded =>
    rename_i b' v s m _
    cases told
    obtain ⟨read, ⟨write, made, stored⟩, _⟩ := backed
    exact ⟨v, s, read, ⟨write, made, stored.stored, stored.there, stored.holds.bytes,
      stored.holds.controlled⟩, stored.holds.observe m⟩
  | _ => exact nomatch told

/-- A pass that is refused the Secret has not written its status: what it stored itself belongs to
its binding. -/
theorem stopped_of_refused (path : Path key lane log p) (honest : ∀ c ∈ log, c.Honest)
    {resource secret : String}
    (ends : Phase.Ends key lane p (.error (.resourceConflict resource secret))) : p.Stopped := by
  have backed := path.backed honest
  generalize result : (Except.error (.resourceConflict resource secret) : Except PassError Unit) = e
    at ends
  cases ends with
  | created =>
    obtain ⟨_, ⟨write, _, stored⟩, _⟩ := backed
    rw [Phase.verdict, if_pos stored.holds.controlled] at result
    exact nomatch result
  | present | failed => trivial
  | _ => exact nomatch result

namespace Scene

/-- Every pass keeps the order, whatever came before and whatever the others do. -/
theorem passes_orderly {w : World} (h : w.Reachable) (jobs : List Job) (moves : List Move)
    {i : Nat} {j : Job} (job : jobs[i]? = some j) :
    ∃ rest, ((start w jobs).run moves).rest[i]? = some rest ∧
      Orderly j.lane (((start w jobs).run moves).log i) rest := by
  obtain ⟨phases, follows⟩ := follows_moves h.sound jobs moves
  obtain ⟨rest, there, leads⟩ := follows.leads job
  have path := follows.path job
  have honest : ∀ c ∈ ((start w jobs).run moves).log i, c.Honest := fun c made =>
    follows.honest c (List.mem_filter.1 made |>.1)
  refine ⟨rest, there, ?_, ?_, ?_, ?_, ?_, told_backed path honest, ?_⟩
  · exact Nat.le_trans (path.count Phase.reads_step) (phases i).reads_le
  · exact Nat.le_trans (path.count Phase.stores_step) (phases i).stores_le
  · intro c made s asked
    obtain ⟨_, _, taken⟩ := path.mem made
    obtain ⟨_, q, _, _, _⟩ := c
    subst asked
    exact Phase.lane_of_create taken
  · intro c made s asked
    obtain ⟨_, _, taken⟩ := path.mem made
    obtain ⟨_, q, _, _, _⟩ := c
    subst asked
    exact Phase.lane_of_update taken
  · exact Nat.le_trans (path.count Phase.tells_step) (phases i).tells_le
  · rintro (⟨c, made, failed⟩ | ⟨resource, secret, refused⟩)
    · obtain ⟨before, after, parts⟩ := List.append_of_mem made
      obtain ⟨s, t, first, taken, on⟩ := path.cut Phase.Stopped Phase.stopped_step parts
      refine untold_of_stopped path honest (on (stopped_of_fails taken failed fun b goes => ?_))
      rw [parts]
      exact snapshot_append (first.read.2 b goes) _
    · subst refused
      exact untold_of_stopped path honest (stopped_of_refused path honest leads)

theorem changed_value_orderly : ∃ rest,
    ((start (.sample "old") (bothPasses "default/db-cred")).run (sampleMoves 8)).rest[1]? =
      some rest ∧
    Orderly .poll
      (((start (.sample "old") (bothPasses "default/db-cred")).run (sampleMoves 8)).log 1) rest ∧
    (((start (.sample "old") (bothPasses "default/db-cred")).run (sampleMoves 8)).log 1).countP
      (fun c => c.told?.isSome) = 1 := by
  obtain ⟨rest, there, orderly⟩ := passes_orderly (World.sample_reachable "old")
    (bothPasses "default/db-cred") (sampleMoves 8) (i := 1) (j := ⟨.poll, "default/db-cred"⟩) rfl
  exact ⟨rest, there, orderly, by decide +kernel⟩

end Scene

end SecretSync
