import SecretSync.Proofs.Pass.Protocol
import SecretSync.Proofs.Queue.Delivery
import SecretSync.Proofs.Watch.Intake

/-!
The watch of the bindings and the workers of the spec syncs, at the same time over one copy: each
move is one effect of one of them. A look-up of a binding that is due stays due until it is made.
-/
namespace SecretSync

structure Flight where
  key : String
  rest : Program (Except PassError Unit)

/-- The key that a pass looks up with its next call. -/
def Flight.wants : Flight → Option Key
  | ⟨_, .ask (.getBinding k) _⟩ => some k
  | _ => none

/-- No phase leads back to the start, which only a look-up leaves. -/
theorem Phase.Step.onward {key : String} {lane : Lane} {p t : Phase} {q : Request} {r : q.Answer}
    (step : Step key lane p q r t) (leaves : p ≠ .start ∨ ∃ k, q = .getBinding k) :
    t ≠ .start := by
  cases step with
  | noted => exact leaves.resolve_right (by simp)
  | counted => exact leaves.resolve_right (by simp)
  | timed => exact leaves.resolve_right (by simp)
  | _ => simp

/-- The pass has made its look-up. -/
def Flight.Begun (f : Flight) : Prop :=
  ∃ p, p ≠ .start ∧ Program.Leads (Phase.Step f.key .spec) p f.rest (Phase.Ends f.key .spec)

/-- The pass is the one for its key, and has done nothing yet or made its look-up. -/
def Flight.OnCourse (f : Flight) : Prop := f.rest = (Lane.spec.pass f.key).run ∨ f.Begun

theorem Flight.Begun.unwanting {f : Flight} (begun : f.Begun) : f.wants = none := by
  obtain ⟨p, later, leads⟩ := begun
  match f with
  | ⟨key, .done r⟩ => rfl
  | ⟨key, .ask q next⟩ =>
    cases q with
    | getBinding k =>
      obtain ⟨t, step, -⟩ := leads (.ok none)
      cases step
      exact absurd rfl later
    | _ => rfl

theorem Flight.wants_begun (key : String) :
    Flight.wants ⟨key, (Lane.spec.pass key).run⟩ = Key.parse? key := by
  change Flight.wants ⟨key, (Pass.specSync key).run⟩ = _
  unfold Pass.specSync Pass.parseKey
  cases Key.parse? key <;> rfl

theorem Flight.first_call {key : String} {q : Request}
    {next : q.Answer → Program (Except PassError Unit)}
    (fresh : .ask q next = (Lane.spec.pass key).run) : ∃ k, q = .getBinding k := by
  change .ask q next = (Pass.specSync key).run at fresh
  unfold Pass.specSync Pass.parseKey at fresh
  cases parsed : Key.parse? key with
  | none =>
    rw [parsed] at fresh
    exact nomatch fresh
  | some k =>
    rw [parsed] at fresh
    exact ⟨k, (Program.ask.inj fresh).1⟩

theorem Flight.OnCourse.begun {key : String} {q : Request}
    {next : q.Answer → Program (Except PassError Unit)}
    (course : Flight.OnCourse ⟨key, .ask q next⟩) (r : q.Answer) :
    Flight.Begun ⟨key, next r⟩ := by
  rcases course with fresh | ⟨p, later, leads⟩
  · have leads : Program.Leads (Phase.Step key .spec) .start (Lane.spec.pass key).run
      (Phase.Ends key .spec) := Pass.leads_pass .spec
    change Program.ask q next = (Lane.spec.pass key).run at fresh
    rw [← fresh] at leads
    obtain ⟨t, step, rest⟩ := leads r
    exact ⟨t, step.onward (.inr (Flight.first_call fresh)), rest⟩
  · obtain ⟨t, step, rest⟩ := leads r
    exact ⟨t, step.onward (.inl later), rest⟩

/-- The controller, the copy of the bindings, the event that has changed the copy and is not handed
on yet, and the passes of the workers. -/
structure Feeding where
  controller : Controller
  copy : Reflector Binding
  news : Option (WatchEvent Binding)
  flights : List Flight

/-- The watch hears an event, which changes the copy, and hands it on. A key is added for any other
reason. A worker takes a key, makes the next call of its pass, or finishes. -/
inductive FeedingMove where
  | hear (e : WatchEvent Binding)
  | handOn
  | add (key : String)
  | take
  | call (flight : Nat) (reply : (q : Request) → q.Answer)
  | finish (flight : Nat)

namespace Feeding

def start (c : Controller) : Feeding := ⟨c, .empty, none, []⟩

/-- Bindings are read from the copy, and everything else is answered by somebody else. -/
def answer (s : Feeding) (reply : (q : Request) → q.Answer) : (q : Request) → q.Answer
  | .getBinding k => .ok (s.copy.get? k)
  | q => reply q

def move (s : Feeding) : FeedingMove → Feeding
  | .hear e =>
    match s.news with
    | none => { s with copy := s.copy.see Binding.metadata e, news := some e }
    | some _ => s
  | .handOn =>
    match s.news with
    | none => s
    | some e => { s with controller := s.controller.onBinding e, news := none }
  | .add key => { s with controller := s.controller.add .spec key }
  | .take =>
    match s.controller.take? .spec with
    | none => s
    | some (key, c) =>
      { s with controller := c, flights := s.flights ++ [⟨key, (Lane.spec.pass key).run⟩] }
  | .call i reply =>
    match s.flights[i]? with
    | some ⟨key, .ask q next⟩ =>
      { s with flights := s.flights.set i ⟨key, next (s.answer reply q)⟩ }
    | _ => s
  | .finish i =>
    match s.flights[i]? with
    | some ⟨key, .done r⟩ =>
      { s with
        controller := (s.controller.finish .spec key r).2
        flights := s.flights.eraseIdx i }
    | _ => s

def run (s : Feeding) (ms : List FeedingMove) : Feeding := ms.foldl move s

def looked? (s : Feeding) : FeedingMove → Option Key
  | .call i _ => s.flights[i]?.bind Flight.wants
  | _ => none

/-- The text of the key that a move puts into the queue, or on the way there. -/
def text? (s : Feeding) : FeedingMove → Option String
  | .hear e => if s.news.isNone then e.brought?.map Binding.key else none
  | .add key => some key
  | .finish i =>
    match s.flights[i]? with
    | some ⟨key, .done r⟩ => s.controller.putBack? key r
    | _ => none
  | _ => none

def queued? (s : Feeding) (m : FeedingMove) : Option Key := (s.text? m).bind Key.parse?

/-- A look-up of a key is still to come: the queue expects the key, a pass is about to look it up,
or the watch is about to queue it. -/
def Due (s : Feeding) (k : Key) : Prop :=
  (∃ key, s.controller.specs.queue.Expects key ∧ Key.parse? key = some k) ∨
  (∃ f ∈ s.flights, f.wants = some k) ∨
  ∃ b, s.news.bind WatchEvent.brought? = some b ∧ Key.parse? b.key = some k

instance (s : Feeding) (k : Key) : Decidable (s.Due k) :=
  let q := s.controller.specs.queue
  decidable_of_iff
    ((∃ key ∈ q.waiting ++ q.dirty, Key.parse? key = some k) ∨
      (∃ f ∈ s.flights, f.wants = some k) ∨
      ∃ b ∈ (s.news.bind WatchEvent.brought?).toList, Key.parse? b.key = some k)
    (by simp only [Due, WorkQueue.Expects, List.mem_append, Option.mem_toList, q])

def Open (s : Feeding) : Prop := s.controller.specs.queue.closed = false

variable {s : Feeding} {m : FeedingMove} {k : Key}

theorem due_hear (e : WatchEvent Binding) :
    (s.move (.hear e)).Due k ↔ s.Due k ∨ s.queued? (.hear e) = some k := by
  rw [queued?, Option.bind_eq_some_iff]
  cases news : s.news with
  | none =>
    simp only [Due, move, text?, news, Option.bind_some, Option.bind_none, Option.isNone_none,
      if_true, Option.map_eq_some_iff]
    constructor
    · rintro (queued | flying | ⟨b, brought, parsed⟩)
      · exact .inl (.inl queued)
      · exact .inl (.inr (.inl flying))
      · exact .inr ⟨b.key, ⟨b, brought, rfl⟩, parsed⟩
    · rintro ((queued | flying | ⟨_, none, _⟩) | ⟨_, ⟨b, brought, rfl⟩, parsed⟩)
      · exact .inl queued
      · exact .inr (.inl flying)
      · exact nomatch none
      · exact .inr (.inr ⟨b, brought, parsed⟩)
  | some _ => simp [move, text?, news]

theorem due_handOn (isOpen : s.Open) : (s.move .handOn).Due k ↔ s.Due k := by
  cases news : s.news with
  | none => simp [move, news]
  | some e =>
    simp only [Due, move, news, Option.bind_some, Option.bind_none, Controller.queue_onBinding]
    cases e.brought? with
    | none => simp
    | some b =>
      simp only [WorkQueue.expects_add isOpen]
      constructor
      · rintro (⟨key, expected | rfl, parsed⟩ | flying | ⟨_, none, _⟩)
        · exact .inl ⟨key, expected, parsed⟩
        · exact .inr (.inr ⟨b, rfl, parsed⟩)
        · exact .inr (.inl flying)
        · exact nomatch none
      · rintro (⟨key, expected, parsed⟩ | flying | ⟨_, same, parsed⟩)
        · exact .inl ⟨key, .inl expected, parsed⟩
        · exact .inr (.inl flying)
        · cases same
          exact .inl ⟨b.key, .inr rfl, parsed⟩

theorem due_add (isOpen : s.Open) (key : String) :
    (s.move (.add key)).Due k ↔ s.Due k ∨ Key.parse? key = some k := by
  simp only [Due, move, Controller.queue_add, WorkQueue.expects_add isOpen]
  constructor
  · rintro (⟨other, expected | rfl, parsed⟩ | flying | brought)
    · exact .inl (.inl ⟨other, expected, parsed⟩)
    · exact .inr parsed
    · exact .inl (.inr (.inl flying))
    · exact .inl (.inr (.inr brought))
  · rintro ((⟨other, expected, parsed⟩ | flying | brought) | parsed)
    · exact .inl ⟨other, .inl expected, parsed⟩
    · exact .inr (.inl flying)
    · exact .inr (.inr brought)
    · exact .inl ⟨key, .inr rfl, parsed⟩

/-- A key that is handed out is due by the pass that begins, as it was by the queue. -/
theorem due_take : (s.move .take).Due k ↔ s.Due k := by
  cases taken : s.controller.take? .spec with
  | none => simp [move, taken]
  | some handed =>
    obtain ⟨key, c⟩ := handed
    obtain ⟨-, expected, before, after⟩ := WorkQueue.expects_take (Controller.take?_cases taken)
    simp only [Due, move, taken, List.mem_append, List.mem_singleton]
    constructor
    · rintro (⟨other, later, parsed⟩ | ⟨f, there | rfl, wants⟩ | brought)
      · exact .inl ⟨other, before other later, parsed⟩
      · exact .inr (.inl ⟨f, there, wants⟩)
      · exact .inl ⟨key, expected, (Flight.wants_begun key).symm.trans wants⟩
      · exact .inr (.inr brought)
    · rintro (⟨other, early, parsed⟩ | ⟨f, there, wants⟩ | brought)
      · rcases after other early with rfl | later
        · exact .inr (.inl ⟨_, .inr rfl, (Flight.wants_begun other).trans parsed⟩)
        · exact .inl ⟨other, later, parsed⟩
      · exact .inr (.inl ⟨f, .inl there, wants⟩)
      · exact .inr (.inr brought)

theorem wanted_eraseIdx {fs : List Flight} {i : Nat} {f : Flight} (there : fs[i]? = some f)
    (unwanting : f.wants = none) :
    (∃ g ∈ fs.eraseIdx i, g.wants = some k) ↔ ∃ g ∈ fs, g.wants = some k := by
  constructor
  · rintro ⟨g, stays, wants⟩
    exact ⟨g, List.mem_of_mem_eraseIdx stays, wants⟩
  · rintro ⟨g, present, wants⟩
    obtain ⟨j, place⟩ := List.getElem?_of_mem present
    refine ⟨g, List.mem_eraseIdx_iff_getElem?.2 ⟨j, ?_, place⟩, wants⟩
    rintro rfl
    rw [there] at place
    cases place
    rw [unwanting] at wants
    exact nomatch wants

/-- A finished pass looks nothing up any more. Its key is due again if it is put back at once. -/
theorem due_finish (isOpen : s.Open) (i : Nat) :
    (s.move (.finish i)).Due k ↔ s.Due k ∨ s.queued? (.finish i) = some k := by
  rw [queued?, Option.bind_eq_some_iff]
  match flight : s.flights[i]? with
  | none => simp [move, text?, flight]
  | some ⟨key, .ask q next⟩ => simp [move, text?, flight]
  | some ⟨key, .done r⟩ =>
    simp only [Due, move, text?, flight, Controller.expects_finish isOpen,
      wanted_eraseIdx flight rfl]
    constructor
    · rintro (⟨other, expected | back, parsed⟩ | rest)
      · exact .inl (.inl ⟨other, expected, parsed⟩)
      · exact .inr ⟨other, back, parsed⟩
      · exact .inl (.inr rest)
    · rintro ((⟨other, expected, parsed⟩ | rest) | ⟨other, back, parsed⟩)
      · exact .inl ⟨other, .inl expected, parsed⟩
      · exact .inr rest
      · exact .inl ⟨other, .inr back, parsed⟩

def OnCourse (s : Feeding) : Prop := ∀ f ∈ s.flights, f.OnCourse

theorem onCourse_start (c : Controller) : (start c).OnCourse := fun _ none => nomatch none

theorem onCourse_move (course : s.OnCourse) (m : FeedingMove) : (s.move m).OnCourse := by
  cases m with
  | hear e =>
    simp only [move]
    split
    · exact course
    · exact course
  | handOn =>
    simp only [move]
    split
    · exact course
    · exact course
  | add key => exact course
  | take =>
    simp only [move]
    split
    · exact course
    · intro f there
      rcases List.mem_append.1 there with before | new
      · exact course f before
      · obtain rfl := List.mem_singleton.1 new
        exact .inl rfl
  | call i reply =>
    simp only [move]
    split
    · rename_i key q next flight
      intro f there
      rcases List.mem_or_eq_of_mem_set there with before | rfl
      · exact course f before
      · exact .inr ((course _ (List.mem_of_getElem? flight)).begun _)
    · exact course
  | finish i =>
    simp only [move]
    split
    · intro f there
      exact course f (List.mem_of_mem_eraseIdx there)
    · exact course

theorem open_move (isOpen : s.Open) (m : FeedingMove) : (s.move m).Open := by
  cases m with
  | hear e =>
    simp only [move]
    split
    · exact isOpen
    · exact isOpen
  | handOn =>
    simp only [move]
    split
    · exact isOpen
    · rename_i e _
      rw [Open, Controller.queue_onBinding]
      split
      · exact isOpen
      · exact (WorkQueue.closed_add _ _).trans isOpen
  | add key =>
    rw [Open, move, Controller.queue_add]
    exact (WorkQueue.closed_add _ _).trans isOpen
  | take =>
    simp only [move]
    split
    · exact isOpen
    · rename_i key c taken
      exact (WorkQueue.expects_take (Controller.take?_cases taken)).1.trans isOpen
  | call i reply =>
    simp only [move]
    split
    · exact isOpen
    · exact isOpen
  | finish i =>
    simp only [move]
    split
    · exact (Controller.closed_finish _ _ _).trans isOpen
    · exact isOpen

/-- After a call nothing is due that was not before, since a pass makes one look-up only. -/
theorem due_of_due_call (course : s.OnCourse) {i : Nat} {reply : (q : Request) → q.Answer}
    (due : (s.move (.call i reply)).Due k) : s.Due k := by
  match flight : s.flights[i]? with
  | none => simpa [move, flight] using due
  | some ⟨key, .done r⟩ => simpa [move, flight] using due
  | some ⟨key, .ask q next⟩ =>
    simp only [Due, move, flight] at due
    rcases due with queued | ⟨f, there, wants⟩ | brought
    · exact .inl queued
    · rcases List.mem_or_eq_of_mem_set there with before | rfl
      · exact .inr (.inl ⟨f, before, wants⟩)
      · have begun := (course _ (List.mem_of_getElem? flight)).begun (s.answer reply q)
        rw [begun.unwanting] at wants
        exact nomatch wants
    · exact .inr (.inr brought)

theorem due_call (due : s.Due k) (i : Nat) (reply : (q : Request) → q.Answer) :
    s.looked? (.call i reply) = some k ∨ (s.move (.call i reply)).Due k := by
  match flight : s.flights[i]? with
  | none => exact .inr (by simpa [move, flight] using due)
  | some ⟨key, .done r⟩ => exact .inr (by simpa [move, flight] using due)
  | some ⟨key, .ask q next⟩ =>
    simp only [Due, move, looked?, flight, Option.bind_some]
    rcases due with queued | ⟨f, there, wants⟩ | brought
    · exact .inr (.inl queued)
    · obtain ⟨j, place⟩ := List.getElem?_of_mem there
      by_cases same : i = j
      · subst same
        rw [flight] at place
        cases place
        exact .inl wants
      · have kept : f ∈ s.flights.set i ⟨key, next (s.answer reply q)⟩ := by
          apply List.mem_of_getElem? (i := j)
          rw [List.getElem?_set_ne same]
          exact place
        exact .inr (.inr (.inl ⟨f, kept, wants⟩))
    · exact .inr (.inr (.inr brought))

theorem due_of_looked (looked : s.looked? m = some k) : s.Due k := by
  cases m with
  | call i reply =>
    obtain ⟨f, flight, wants⟩ := Option.bind_eq_some_iff.1 looked
    exact .inr (.inl ⟨f, List.mem_of_getElem? flight, wants⟩)
  | _ => exact nomatch looked

/-- A look-up that is due is made by a move or stays due, and it becomes due only when a move queues
its key. -/
theorem noticed_move (course : s.OnCourse) (isOpen : s.Open) (k : Key) (m : FeedingMove) :
    s.looked? m = some k ∨ (s.move m).Due k ↔ s.Due k ∨ s.queued? m = some k := by
  cases m with
  | hear e => simp only [due_hear, looked?, reduceCtorEq, false_or]
  | handOn => simp [due_handOn isOpen, looked?, queued?, text?]
  | add key => simp [due_add isOpen, looked?, queued?, text?]
  | take => simp [due_take, looked?, queued?, text?]
  | call i reply =>
    constructor
    · rintro (looked | due)
      · exact .inl (due_of_looked looked)
      · exact .inl (due_of_due_call course due)
    · rintro (due | none)
      · exact due_call due i reply
      · exact nomatch none
  | finish i => simp only [due_finish isOpen, looked?, reduceCtorEq, false_or]

theorem run_append (s : Feeding) (before after : List FeedingMove) :
    s.run (before ++ after) = (s.run before).run after :=
  List.foldl_append

theorem onCourse_run (course : s.OnCourse) (ms : List FeedingMove) : (s.run ms).OnCourse := by
  induction ms generalizing s with
  | nil => exact course
  | cons m rest ih => exact ih (onCourse_move course m)

theorem open_run (isOpen : s.Open) (ms : List FeedingMove) : (s.run ms).Open := by
  induction ms generalizing s with
  | nil => exact isOpen
  | cons m rest ih => exact ih (open_move isOpen m)

/-- A look-up is made in a run or due at its end if it was due before or its key is queued in the
run, and only then. -/
theorem noticed_run (course : s.OnCourse) (isOpen : s.Open) (k : Key) (ms : List FeedingMove) :
    k ∈ collect move looked? s ms ∨ (s.run ms).Due k ↔
      s.Due k ∨ k ∈ collect move queued? s ms := by
  induction ms generalizing s with
  | nil => simp [collect, run]
  | cons m rest ih =>
    have later := ih (onCourse_move course m) (open_move isOpen m)
    simp only [collect, List.mem_append, Option.mem_toList]
    calc (s.looked? m = some k ∨ k ∈ collect move looked? (s.move m) rest) ∨
          ((s.move m).run rest).Due k
        ↔ (s.looked? m = some k ∨ (s.move m).Due k) ∨
            k ∈ collect move queued? (s.move m) rest := by rw [or_assoc, later, or_assoc]
      _ ↔ s.Due k ∨ s.queued? m = some k ∨ k ∈ collect move queued? (s.move m) rest := by
          rw [noticed_move course isOpen, or_assoc]

end Feeding

end SecretSync
