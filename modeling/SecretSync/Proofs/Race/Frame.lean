import SecretSync.Proofs.Queue.Delivery
import SecretSync.Proofs.Race.Ownership

namespace SecretSync

/-- A binding but for what a status write changes. -/
def Binding.lasting (b : Binding) : Binding :=
  { b with status := none, metadata := { b.metadata with resourceVersion := none } }

namespace Cluster

/-- No binding came, went or changed, unless in its status and its version. -/
def Abides (c d : Cluster) : Prop :=
  ∀ k, (d.bindings.get? k).map Binding.lasting = (c.bindings.get? k).map Binding.lasting

theorem abides_of_eq {c d : Cluster} (same : d.bindings = c.bindings) : c.Abides d := by
  intro k
  rw [same]

theorem abides_updateStatus (c : Cluster) (b : Binding) : c.Abides (c.updateStatus b).2 := by
  rcases updateStatus_cases c b with ⟨-, same, -⟩ | ⟨target, existing, -, there, call⟩
  · exact abides_of_eq same.bindings
  · intro k
    rw [call]
    by_cases hit : target = k
    · subst hit
      rw [there, withRestated, Table.get?_insert_self]
      rfl
    · rw [withRestated, Table.get?_insert_of_ne _ _ hit]

end Cluster

theorem World.abides_answer (q : Request) (w : World) :
    w.cluster.Abides (World.answer q w).2.cluster := by
  cases q with
  | updateStatus b => exact w.cluster.abides_updateStatus b
  | _ => exact Cluster.abides_of_eq (World.bindings_answer w fun b => by simp)

theorem Path.parsed {key : String} {lane : Lane} {log : List Call} {p : Phase} {b : Binding}
    (path : Path key lane log p) (goesBy : p.binding? = some b) : ∃ k, Key.parse? key = some k := by
  induction path with
  | nil => exact nomatch goesBy
  | snoc _ taken ih =>
    rename_i c t _
    obtain ⟨i, q, r, before, after⟩ := c
    cases taken with
    | found parsed => exact ⟨_, parsed⟩
    | noted | counted | timed => exact ih goesBy
    | _ =>
      first
      | exact ih goesBy
      | cases goesBy

section Step

variable {key : String} {lane : Lane} {p t : Phase} {w : World} {q : Request} {r : q.Answer}
  {k : Key}

theorem step_own_secret (taken : Phase.Step key lane p q r t)
    (changed : (World.answer q w).2.cluster.secrets.get? k ≠ w.cluster.secrets.get? k) :
    ∃ b, p.binding? = some b ∧ b.outputKey = k := by
  cases taken with
  | created | createFailed =>
    refine ⟨_, rfl, ?_⟩
    by_contra apart
    exact changed (Cluster.createSecret_elsewhere fun target named =>
      Binding.writeKey_output named rfl rfl ▸ apart)
  | updated | updateFailed =>
    refine ⟨_, rfl, ?_⟩
    by_contra apart
    exact changed (Cluster.updateSecret_elsewhere fun target named =>
      Binding.writeKey_output named rfl rfl ▸ apart)
  | _ =>
    rw [World.secrets_answer w (fun _ => by simp) (fun _ => by simp)] at changed
    exact absurd rfl changed

theorem step_own_binding (taken : Phase.Step key lane p q r t)
    (changed : (World.answer q w).2.cluster.bindings.get? k ≠ w.cluster.bindings.get? k) :
    ∃ b, p.binding? = some b ∧ b.metadata.key = k := by
  cases taken with
  | recorded | unrecorded =>
    refine ⟨_, rfl, ?_⟩
    by_contra apart
    exact changed (Cluster.updateStatus_elsewhere fun target named =>
      Meta.key_of_writeKey named ▸ apart)
  | _ =>
    rw [World.bindings_answer w fun _ => by simp] at changed
    exact absurd rfl changed

end Step

namespace Scene

def edited? (k : Key) (s : Scene) : Move → Option (Option Binding)
  | .edit (.insertBinding b) =>
    let inserted := (s.world.cluster.insertBinding b).1
    if inserted.metadata.key = k then some (some inserted) else none
  | .edit (.removeBinding removed) => if removed = k then some none else none
  | _ => none

/-- The binding under a key as it was inserted last, or as it was found if it was not edited. -/
def latest (k : Key) (s : Scene) (moves : List Move) : Option Binding :=
  (collect move (edited? k) s moves).getLast?.getD (s.world.cluster.bindings.get? k)

theorem lasting_move (k : Key) (s : Scene) (m : Move) :
    ((s.move m).world.cluster.bindings.get? k).map Binding.lasting =
      ((s.edited? k m).getD (s.world.cluster.bindings.get? k)).map Binding.lasting := by
  cases m with
  | call i =>
    rcases call_cases s i with idle | ⟨q, next, asks⟩
    · simp only [move, idle, edited?, Option.getD_none]
    · simp only [move, call_ask asks, edited?, Option.getD_none]
      exact World.abides_answer q s.world k
  | edit e =>
    cases e with
    | insertBinding b =>
      have stored : (s.world.cluster.insertBinding b).2.bindings =
          s.world.cluster.bindings.insert (s.world.cluster.insertBinding b).1.metadata.key
            (s.world.cluster.insertBinding b).1 := rfl
      simp only [move, World.edit, edited?, stored, Table.get?_insert]
      split_ifs with hit <;> rfl
    | removeBinding removed =>
      simp only [move, World.edit, Cluster.removeBinding, edited?, Table.get?_erase]
      split_ifs with hit <;> rfl
    | request q => exact World.abides_answer q s.world k
    | _ => rfl

/-- Up to status and version, a binding is at any time what the latest edit made of it. -/
theorem lasting_run (k : Key) (s : Scene) (moves : List Move) :
    ((s.run moves).world.cluster.bindings.get? k).map Binding.lasting =
      (latest k s moves).map Binding.lasting := by
  suffices from_same : ∀ b : Option Binding,
      b.map Binding.lasting = (s.world.cluster.bindings.get? k).map Binding.lasting →
      ((s.run moves).world.cluster.bindings.get? k).map Binding.lasting =
        ((collect move (edited? k) s moves).getLast?.getD b).map Binding.lasting from
    from_same _ rfl
  -- a status write between two edits makes the binding at hand another one, alike but not the same
  induction moves generalizing s with
  | nil => exact fun b same => same.symm
  | cons m moves ih =>
    intro b same
    have next : ((s.edited? k m).getD b).map Binding.lasting =
        ((s.move m).world.cluster.bindings.get? k).map Binding.lasting := by
      rw [lasting_move]
      cases s.edited? k m with
      | none => exact same
      | some made => rfl
    have last : (collect move (edited? k) s (m :: moves)).getLast?.getD b =
        (collect move (edited? k) (s.move m) moves).getLast?.getD ((s.edited? k m).getD b) := by
      rw [collect, List.getLast?_append]
      cases (collect move (edited? k) (s.move m) moves).getLast? with
      | none => cases s.edited? k m <;> rfl
      | some later => rfl
    rw [last]
    exact ih (s.move m) _ next

/-- Whatever passes and edits came before, in any order: a call of a pass changes no Secret but the
output of the binding that the pass read, and no binding but the one under its key. Bindings that
are there stay, removed ones stay away, and but for status and version they stay as they were, which
is as the latest insertion left them. -/
theorem call_touches_own_objects {w : World} (h : w.Reachable) (jobs : List Job)
    (moves : List Move) (i : Nat) :
    let s := (start w jobs).run moves
    (∀ k, (s.call i).world.cluster.secrets.get? k ≠ s.world.cluster.secrets.get? k →
      ∃ j own b, jobs[i]? = some j ∧ Key.parse? j.key = some own ∧
        snapshot (s.log i) = some b ∧ k = ⟨own.space, b.spec.output.name⟩) ∧
    (∀ k, (s.call i).world.cluster.bindings.get? k ≠ s.world.cluster.bindings.get? k →
      ∃ j, jobs[i]? = some j ∧ Key.parse? j.key = some k) ∧
    (∀ k, ((s.call i).world.cluster.bindings.get? k).map Binding.lasting =
      (s.world.cluster.bindings.get? k).map Binding.lasting) ∧
    ∀ k, ((s.call i).world.cluster.bindings.get? k).map Binding.lasting =
      (latest k (start w jobs) moves).map Binding.lasting := by
  intro s
  have abides : ∀ k, ((s.call i).world.cluster.bindings.get? k).map Binding.lasting =
      (s.world.cluster.bindings.get? k).map Binding.lasting := by
    intro k
    exact lasting_move k s (.call i)
  obtain ⟨phases, follows, informed⟩ := informed_run h jobs moves
  have writes : ∀ {β : Type} (field : Cluster → Table Key β) (k : Key),
      (field (s.call i).world.cluster).get? k ≠ (field s.world.cluster).get? k →
      ∃ j q r t, jobs[i]? = some j ∧ Phase.Step j.key j.lane (phases i) q r t ∧
        (s.call i).world = (World.answer q s.world).2 := by
    intro β field k changed
    rcases call_cases s i with idle | ⟨q, next, asks⟩
    · rw [idle] at changed
      exact absurd rfl changed
    · obtain ⟨j, job⟩ := follows.job asks
      obtain ⟨rest, same, leads⟩ := follows.leads job
      cases same.symm.trans asks
      obtain ⟨p, taken, -⟩ := leads (World.answer q s.world).1
      exact ⟨j, q, _, p, job, taken, by rw [call_ask asks]⟩
  refine ⟨?_, ?_, abides, fun k => (abides k).trans (lasting_run k (start w jobs) moves)⟩
  · intro k changed
    obtain ⟨j, q, r, t, job, taken, after⟩ := writes Cluster.secrets k changed
    rw [after] at changed
    obtain ⟨b, goesBy, rfl⟩ := step_own_secret taken changed
    have path := follows.path job
    obtain ⟨own, parsed⟩ := path.parsed goesBy
    exact ⟨j, own, b, job, parsed, path.read.2 b goesBy,
      outputKey_of_placed ((informed i j job).placed b own goesBy parsed)⟩
  · intro k changed
    obtain ⟨j, q, r, t, job, taken, after⟩ := writes Cluster.bindings k changed
    rw [after] at changed
    obtain ⟨b, goesBy, rfl⟩ := step_own_binding taken changed
    obtain ⟨own, parsed⟩ := (follows.path job).parsed goesBy
    rw [(informed i j job).placed b own goesBy parsed]
    exact ⟨j, job, parsed⟩

def respecified : Binding :=
  { Binding.sample with
    spec := { Binding.sample.spec with
      output := { Binding.sample.spec.output with keyName := "token" } } }

/-- A spec sync has made the Secret when its binding is edited, and then writes the status. -/
def editBeforeStatus : List Move :=
  List.replicate 6 (.call 0) ++ [.edit (.insertBinding respecified)]

theorem status_written_after_edit : ∃ b,
    (((start (.sample "old") [⟨.spec, "default/db-cred"⟩]).run editBeforeStatus).call
      0).world.cluster.bindings.get? ⟨"default", "db-cred"⟩ = some b ∧
    b.status.isSome = true ∧ b.spec = respecified.spec := by
  have stands : ((((start (.sample "old") [⟨.spec, "default/db-cred"⟩]).run editBeforeStatus).call
      0).world.cluster.bindings.get? ⟨"default", "db-cred"⟩).map
        (fun b => b.status.isSome) = some true := by
    decide +kernel
  have edited : (latest ⟨"default", "db-cred"⟩ (start (.sample "old")
      [⟨.spec, "default/db-cred"⟩]) editBeforeStatus).map Binding.lasting =
        some respecified.lasting := by
    decide +kernel
  obtain ⟨b, there, told⟩ := Option.map_eq_some_iff.1 stands
  obtain ⟨-, -, -, kept⟩ := call_touches_own_objects (World.sample_reachable "old")
    [⟨.spec, "default/db-cred"⟩] editBeforeStatus 0
  have same := (kept ⟨"default", "db-cred"⟩).trans edited
  rw [there, Option.map_some] at same
  have spec : b.lasting.spec = respecified.lasting.spec := by rw [Option.some.inj same]
  exact ⟨b, there, told, spec⟩

end Scene

end SecretSync
