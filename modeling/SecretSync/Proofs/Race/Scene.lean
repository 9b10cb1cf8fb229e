import SecretSync.Proofs.Race.Path

/-!
Scenes: passes that run at the same time over one world. Each move is one call of one pass, or an
edit from outside, so every interleaving is a list of moves. The phases of the passes go along with
the moves, and what a move preserves holds after all of them.
-/
namespace SecretSync

structure Job where
  lane : Lane
  key : String

/-- What each pass has still to do, and all calls so far. -/
structure Scene where
  world : World
  rest : List (Program (Except PassError Unit))
  history : List Call

inductive Move where
  | call (pass : Nat)
  | edit (e : Edit)

def callsOf (pass : Nat) (history : List Call) : List Call :=
  history.filter fun c => c.pass = pass

namespace Scene

def start (w : World) (jobs : List Job) : Scene :=
  ⟨w, jobs.map fun j => (j.lane.pass j.key).run, []⟩

def call (s : Scene) (i : Nat) : Scene :=
  match s.rest[i]? with
  | some (.ask q next) =>
    ⟨(World.answer q s.world).2, s.rest.set i (next (World.answer q s.world).1),
      s.history ++ [s.world.callBy i q]⟩
  | _ => s

def move (s : Scene) : Move → Scene
  | .call i => s.call i
  | .edit e => { s with world := s.world.edit e }

def run (s : Scene) (moves : List Move) : Scene := moves.foldl move s

def returned (s : Scene) : Bool :=
  s.rest.all fun
    | .done _ => true
    | .ask .. => false

def log (s : Scene) (i : Nat) : List Call := callsOf i s.history

end Scene

def moved (phases : Nat → Phase) (i : Nat) (p : Phase) : Nat → Phase :=
  fun n => if n = i then p else phases n

@[simp] theorem moved_self (phases : Nat → Phase) (i : Nat) (p : Phase) :
    moved phases i p i = p := if_pos rfl

theorem moved_of_ne (phases : Nat → Phase) {i n : Nat} (p : Phase) (h : n ≠ i) :
    moved phases i p n = phases n := if_neg h

@[simp] theorem callsOf_callBy (history : List Call) (w : World) (i : Nat) (q : Request) :
    callsOf i (history ++ [w.callBy i q]) = callsOf i history ++ [w.callBy i q] := by
  simp [callsOf, World.callBy]

theorem callsOf_callBy_of_ne (history : List Call) (w : World) {i n : Nat} (q : Request)
    (h : n ≠ i) : callsOf n (history ++ [w.callBy i q]) = callsOf n history := by
  simp [callsOf, World.callBy, Ne.symm h]

namespace Scene

/-- Every pass of a scene keeps to the protocol, in the phase it is in. -/
structure Follows (jobs : List Job) (s : Scene) (phases : Nat → Phase) : Prop where
  sound : s.world.cluster.Sound
  honest : ∀ c ∈ s.history, c.Honest
  path : ∀ {i j}, jobs[i]? = some j → Path j.key j.lane (s.log i) (phases i)
  leads : ∀ {i j}, jobs[i]? = some j → ∃ rest, s.rest[i]? = some rest ∧
    Program.Leads (Phase.Step j.key j.lane) (phases i) rest (Phase.Ends j.key j.lane)
  jobs : s.rest.length = jobs.length

variable {jobs : List Job} {s : Scene} {phases : Nat → Phase}

theorem follows_start {w : World} (h : w.cluster.Sound) (jobs : List Job) :
    Follows jobs (start w jobs) fun _ => .start where
  sound := h
  honest _ h := nomatch h
  path _ := .nil
  leads {i j} h := ⟨(j.lane.pass j.key).run, by simp [start, h], Pass.leads_pass j.lane⟩
  jobs := List.length_map _

theorem call_ask {i : Nat} {q : Request} {next : q.Answer → Program (Except PassError Unit)}
    (h : s.rest[i]? = some (.ask q next)) :
    s.call i = ⟨(World.answer q s.world).2, s.rest.set i (next (World.answer q s.world).1),
      s.history ++ [s.world.callBy i q]⟩ := by
  simp only [call, h]

theorem call_cases (s : Scene) (i : Nat) :
    s.call i = s ∨ ∃ q next, s.rest[i]? = some (.ask q next) := by
  unfold call
  split
  · rename_i q next h
    exact .inr ⟨q, next, h⟩
  · exact .inl rfl

theorem Follows.job {i : Nat} {rest : Program (Except PassError Unit)}
    (h : Follows jobs s phases) (there : s.rest[i]? = some rest) : ∃ j, jobs[i]? = some j := by
  have inside : i < jobs.length := h.jobs ▸ (List.getElem?_eq_some_iff.1 there).1
  exact ⟨jobs[i], List.getElem?_eq_getElem inside⟩

theorem Follows.ends {i : Nat} {j : Job} (h : Follows jobs s phases) (done : s.returned = true)
    (job : jobs[i]? = some j) : ∃ r, Phase.Ends j.key j.lane (phases i) r := by
  obtain ⟨rest, there, leads⟩ := h.leads job
  have finished := List.all_eq_true.1 done rest (List.mem_of_getElem? there)
  cases rest with
  | done r => exact ⟨r, leads⟩
  | ask => exact nomatch finished

theorem follows_call {i : Nat} {j : Job} {q : Request} {p : Phase}
    {next : q.Answer → Program (Except PassError Unit)} (h : Follows jobs s phases)
    (job : jobs[i]? = some j) (asks : s.rest[i]? = some (.ask q next))
    (taken : Phase.Step j.key j.lane (phases i) q (World.answer q s.world).1 p)
    (rest : Program.Leads (Phase.Step j.key j.lane) p (next (World.answer q s.world).1)
      (Phase.Ends j.key j.lane)) : Follows jobs (s.call i) (moved phases i p) := by
  have inside : i < s.rest.length := (List.getElem?_eq_some_iff.1 asks).1
  rw [call_ask asks]
  refine ⟨h.sound.grows (World.grows_answer q s.world), fun c hc => ?_, fun {n j'} job' => ?_,
    fun {n j'} job' => ?_, (List.length_set).trans h.jobs⟩
  · rcases List.mem_append.1 hc with old | new
    · exact h.honest c old
    · exact ⟨s.world, i, q, h.sound, List.mem_singleton.1 new⟩
  · by_cases same : n = i
    · subst same
      cases job.symm.trans job'
      simp only [log, callsOf_callBy, moved_self]
      exact .snoc (h.path job) taken
    · simp only [log, callsOf_callBy_of_ne _ _ _ same, moved_of_ne _ _ same]
      exact h.path job'
  · by_cases same : n = i
    · subst same
      cases job.symm.trans job'
      rw [moved_self]
      exact ⟨_, List.getElem?_set_self inside, rest⟩
    · rw [moved_of_ne _ _ same]
      obtain ⟨others, there, leads⟩ := h.leads job'
      exact ⟨others, (List.getElem?_set_ne (Ne.symm same)).trans there, leads⟩

theorem follows_edit (h : Follows jobs s phases) (e : Edit) :
    Follows jobs (s.move (.edit e)) phases :=
  ⟨h.sound.grows (World.grows_edit s.world e), h.honest, h.path, h.leads, h.jobs⟩

/-- What one call of any pass and one allowed edit preserve holds after any moves. -/
theorem follows_run (allowed : Edit → Prop) (inv : World → List Call → (Nat → Phase) → Prop)
    (call : ∀ {w history phases i j q p}, w.cluster.Sound → jobs[i]? = some j →
      (∀ c ∈ history, c.Honest) → Path j.key j.lane (callsOf i history) (phases i) →
      Phase.Step j.key j.lane (phases i) q (World.answer q w).1 p → inv w history phases →
      inv (World.answer q w).2 (history ++ [w.callBy i q]) (moved phases i p))
    (edit : ∀ {w history phases e}, w.cluster.Sound → allowed e → inv w history phases →
      inv (w.edit e) history phases)
    {s : Scene} {phases : Nat → Phase} (h : Follows jobs s phases)
    (holds : inv s.world s.history phases) (moves : List Move)
    (permitted : ∀ e, Move.edit e ∈ moves → allowed e) :
    ∃ phases, Follows jobs (s.run moves) phases ∧
      inv (s.run moves).world (s.run moves).history phases := by
  induction moves generalizing s phases with
  | nil => exact ⟨phases, h, holds⟩
  | cons m moves ih =>
    have later : ∀ e, Move.edit e ∈ moves → allowed e := fun e he =>
      permitted e (List.mem_cons_of_mem m he)
    cases m with
    | edit e =>
      exact ih (follows_edit h e) (edit h.sound (permitted e List.mem_cons_self) holds) later
    | call i =>
      rcases call_cases s i with idle | ⟨q, next, asks⟩
      · change ∃ phases, Follows jobs ((s.call i).run moves) phases ∧
          inv ((s.call i).run moves).world ((s.call i).run moves).history phases
        rw [idle]
        exact ih h holds later
      · obtain ⟨j, job⟩ := h.job asks
        obtain ⟨rest, there, leads⟩ := h.leads job
        cases there.symm.trans asks
        obtain ⟨p, taken, leads⟩ := leads (World.answer q s.world).1
        refine ih (follows_call h job asks taken leads) ?_ later
        change inv (s.call i).world (s.call i).history (moved phases i p)
        rw [call_ask asks]
        exact call h.sound job h.honest (h.path job) taken holds

theorem follows_moves {w : World} (sound : w.cluster.Sound) (jobs : List Job)
    (moves : List Move) : ∃ phases, Follows jobs ((start w jobs).run moves) phases := by
  obtain ⟨phases, follows, _⟩ := follows_run (fun _ => True) (fun _ _ _ => True)
    (fun _ _ _ _ _ _ => trivial) (fun _ _ _ => trivial) (follows_start sound jobs) trivial moves
    fun _ _ => trivial
  exact ⟨phases, follows⟩

def bothPasses (key : String) : List Job := [⟨.spec, key⟩, ⟨.poll, key⟩]

/-- The spec sync makes the Secret, the value in the vault changes, and the poll makes some of its
calls. -/
def sampleMoves (calls : Nat) : List Move :=
  List.replicate 8 (.call 0) ++ .edit (.vault (.sample "new")) :: List.replicate calls (.call 1)

end Scene

end SecretSync
