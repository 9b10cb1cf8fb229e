import SecretSync.Proofs.Queue.Delivery
import SecretSync.Queue.Doorbell
import Mathlib.Data.List.Nodup

/-!
Every lock of the queue and every use of its bell is a step of its own here, and anybody may come in
between: a key is put in line before the bell is rung for it, and a worker listens before it looks.
While a worker sleeps, the keys in line are not more than the rings that are still to come, the
workers that were woken and those of them that have not looked since.
-/
namespace SecretSync

namespace Doorbell

variable {d : Doorbell} {worker w : Nat}

def listeners (d : Doorbell) : List Nat := d.sleepers ++ d.woken

/-- A worker does not listen any more. A ring that was meant for it is used up. -/
def drop (d : Doorbell) (worker : Nat) : Doorbell :=
  { d with
    sleepers := d.sleepers.filter fun w => decide (w ≠ worker)
    woken := d.woken.filter fun w => decide (w ≠ worker) }

theorem ring_cases (d : Doorbell) :
    (d.sleepers = [] ∧ d.ring = { d with permit := true }) ∨
    ∃ w rest, d.sleepers = w :: rest ∧
      d.ring = { d with sleepers := rest, woken := d.woken ++ [w] } := by
  unfold ring
  cases sleepers : d.sleepers with
  | nil => exact .inl ⟨rfl, rfl⟩
  | cons w rest => exact .inr ⟨w, rest, rfl, rfl⟩

theorem listeners_ring (d : Doorbell) : d.ring.listeners.Perm d.listeners := by
  rcases d.ring_cases with ⟨-, rung⟩ | ⟨w, rest, sleepers, rung⟩
  · rw [rung]
    exact .refl _
  · rw [rung, listeners, listeners, sleepers, ← List.append_assoc]
    exact List.perm_append_singleton w (rest ++ d.woken)

theorem listeners_ringAll (d : Doorbell) : d.ringAll.listeners.Perm d.listeners := by
  change (d.woken ++ d.sleepers).Perm (d.sleepers ++ d.woken)
  exact List.perm_append_comm

theorem sleepers_ring (h : w ∈ d.ring.sleepers) : w ∈ d.sleepers := by
  rcases d.ring_cases with ⟨-, rung⟩ | ⟨first, rest, sleepers, rung⟩
  · rwa [rung] at h
  · rw [rung] at h
    rw [sleepers]
    exact List.mem_cons_of_mem first h

theorem woken_ring (h : w ∈ d.sleepers) : d.ring.woken.length = d.woken.length + 1 := by
  rcases d.ring_cases with ⟨none, -⟩ | ⟨first, rest, -, rung⟩
  · rw [none] at h
    exact nomatch h
  · rw [rung]
    simp

/-- What is remembered is a ring that nobody heard. -/
theorem silent_ring (silent : d.permit = true → d.sleepers = []) :
    d.ring.permit = true → d.ring.sleepers = [] := by
  intro remembered
  rcases d.ring_cases with ⟨none, rung⟩ | ⟨first, rest, sleepers, rung⟩
  · rwa [rung]
  · rw [rung] at remembered
    rw [silent remembered] at sleepers
    exact nomatch sleepers

theorem listen_cases (d : Doorbell) (worker : Nat) :
    (d.permit = true ∧ (d.listen worker).2 = { d with permit := false }) ∨
    (d.permit = false ∧ (d.listen worker).2 = { d with sleepers := d.sleepers ++ [worker] }) := by
  unfold listen
  cases d.permit with
  | true => exact .inl ⟨rfl, rfl⟩
  | false => exact .inr ⟨rfl, rfl⟩

theorem woken_listen (d : Doorbell) (worker : Nat) : (d.listen worker).2.woken = d.woken := by
  rcases d.listen_cases worker with ⟨-, after⟩ | ⟨-, after⟩
  · rw [after]
  · rw [after]

theorem permit_listen (d : Doorbell) (worker : Nat) : (d.listen worker).2.permit = false := by
  rcases d.listen_cases worker with ⟨-, after⟩ | ⟨unset, after⟩
  · rw [after]
  · rw [after, unset]

theorem sleepers_listen (h : w ∈ (d.listen worker).2.sleepers) (other : w ≠ worker) :
    w ∈ d.sleepers := by
  rcases d.listen_cases worker with ⟨-, after⟩ | ⟨-, after⟩
  · rwa [after] at h
  · rw [after] at h
    exact (List.mem_append.1 h).resolve_right (mt List.mem_singleton.1 other)

theorem listeners_listen (d : Doorbell) (worker : Nat) :
    (d.listen worker).2.listeners = d.listeners ∨
    (d.listen worker).2.listeners.Perm (worker :: d.listeners) := by
  rcases d.listen_cases worker with ⟨-, after⟩ | ⟨-, after⟩
  · left
    rw [after, listeners, listeners]
  · right
    rw [after, listeners, listeners, List.append_assoc, List.singleton_append]
    exact List.perm_middle

theorem listeners_drop (d : Doorbell) (worker : Nat) :
    (d.drop worker).listeners = d.listeners.filter fun w => decide (w ≠ worker) := by
  rw [listeners, listeners, List.filter_append, drop]

theorem woken_drop (nodup : d.listeners.Nodup) (worker : Nat) :
    (d.drop worker).woken.length =
      if worker ∈ d.woken then d.woken.length - 1 else d.woken.length := by
  have once : d.woken.Nodup := (List.nodup_append.1 nodup).2.1
  have same : (d.drop worker).woken = d.woken.erase worker := by
    rw [once.erase_eq_filter, drop]
    exact List.filter_congr fun w _ => by simp [bne, beq_eq_decide]
  rw [same, List.length_erase]

theorem filter_absent {l : List Nat} (absent : worker ∉ l) :
    l.filter (fun w => decide (w ≠ worker)) = l := by
  apply List.filter_eq_self.2
  rintro w inside
  exact decide_eq_true fun same => absent (same ▸ inside)

/-- A worker that leaves hands on the ring that was meant for it. -/
theorem leave_eq (nodup : d.listeners.Nodup) (worker : Nat) :
    d.leave worker = if worker ∈ d.woken then (d.drop worker).ring else d.drop worker := by
  obtain ⟨-, -, apart⟩ := List.nodup_append.1 nodup
  unfold leave drop
  split_ifs with sleeps woken woken
  · exact absurd rfl (apart worker sleeps worker woken)
  · rw [filter_absent woken]
  · rw [filter_absent sleeps]
  · rw [filter_absent sleeps, filter_absent woken]

theorem filter_snoc {l : List Nat} (absent : worker ∉ l) :
    (l ++ [worker]).filter (fun w => decide (w ≠ worker)) = l := by
  rw [List.filter_append, filter_absent absent, List.filter_cons_of_neg (by simp)]
  exact List.append_nil l

theorem drop_listen (absent : worker ∉ d.listeners) :
    (d.listen worker).2.drop worker = { d with permit := false } := by
  obtain ⟨sleeps, woken⟩ := not_or.1 (mt List.mem_append.2 absent)
  rcases d.listen_cases worker with ⟨-, after⟩ | ⟨unset, after⟩
  · rw [after, drop, filter_absent sleeps, filter_absent woken]
  · rw [after, drop, filter_snoc sleeps, filter_absent woken, unset]

theorem leave_listen (absent : worker ∉ d.listeners) :
    (d.listen worker).2.leave worker = { d with permit := false } := by
  obtain ⟨sleeps, woken⟩ := not_or.1 (mt List.mem_append.2 absent)
  rcases d.listen_cases worker with ⟨-, after⟩ | ⟨unset, after⟩
  · rw [after, leave, if_neg sleeps, if_neg woken]
  · rw [after, leave, if_pos (by simp), filter_snoc sleeps, unset]

end Doorbell

inductive Post where
  | away
  /-- It listens and has not looked. The flag tells that it was woken before. -/
  | listening (again : Bool)
  /-- It looked in vain. -/
  | waiting
  /-- Its wait is over and it will listen again. -/
  | roused
  /-- It has its answer and still listens. -/
  | leaving (found : Option String)
  deriving DecidableEq

namespace Post

def listens : Post → Bool
  | .away | .roused => false
  | _ => true

def inHand : Post → Option String
  | .leaving found => found
  | _ => none

/-- The worker was woken and has not looked since. -/
def again : Post → Bool
  | .roused => true
  | .listening again => again
  | _ => false

end Post

/-- A queue with its bell as its workers meet it. `rings` are to be given for keys that were put in
line, `alarms` for closings, and `dismissed` are those that an alarm woke. -/
structure Lobby where
  queue : WorkQueue
  bell : Doorbell
  rings : Nat
  alarms : Nat
  dismissed : List Nat
  posts : List Post

/-- Whatever brings a key, a timer too, adds it. -/
inductive LobbyMove where
  | add (key : String)
  | finish (key : String)
  | close
  | ring
  | ringAll
  | listen (worker : Nat)
  | look (worker : Nat)
  | rise (worker : Nat)
  | leave (worker : Nat)
  deriving DecidableEq

namespace Lobby

def start (workers : Nat) : Lobby :=
  ⟨WorkQueue.empty, Doorbell.silent, 0, 0, [], List.replicate workers .away⟩

def update (s : Lobby) (q : WorkQueue) : Lobby :=
  { s with
    queue := q
    rings := s.rings + if s.queue.length < q.length then 1 else 0 }

def put (s : Lobby) (worker : Nat) (p : Post) : Lobby :=
  { s with posts := s.posts.set worker p }

def ring (s : Lobby) : Lobby := { s with rings := s.rings - 1, bell := s.bell.ring }

def ringAll (s : Lobby) : Lobby :=
  { s with
    alarms := s.alarms - 1
    bell := s.bell.ringAll
    dismissed := s.dismissed ++ s.bell.sleepers }

def listen (s : Lobby) (worker : Nat) (again : Bool) : Lobby :=
  { s.put worker (.listening again) with bell := (s.bell.listen worker).2 }

def look (s : Lobby) (worker : Nat) : Lobby :=
  if s.queue.closed then s.put worker (.leaving none)
  else
    match s.queue.take? with
    | none => s.put worker .waiting
    | some (key, q) => { s.put worker (.leaving (some key)) with queue := q }

def depart (s : Lobby) (worker : Nat) (bell : Doorbell) (p : Post) : Lobby :=
  { s.put worker p with
    bell := bell
    dismissed := s.dismissed.filter fun w => decide (w ≠ worker) }

/-- A worker leaves. What it was woken for goes to the next, unless all were woken. -/
def leave (s : Lobby) (worker : Nat) : Lobby :=
  s.depart worker
    (if worker ∈ s.dismissed then s.bell.drop worker else s.bell.leave worker) .away

/-- A step. One that is not its worker's next, or a ring that nobody has to give, is none. -/
def move (s : Lobby) : LobbyMove → Lobby
  | .add key => s.update (s.queue.add key)
  | .finish key => s.update (s.queue.finish key)
  | .close => { s with queue := s.queue.close, alarms := s.alarms + 1 }
  | .ring => if s.rings = 0 then s else s.ring
  | .ringAll => if s.alarms = 0 then s else s.ringAll
  | .listen worker =>
    match s.posts[worker]? with
    | some .away => s.listen worker false
    | some .roused => s.listen worker true
    | _ => s
  | .look worker =>
    match s.posts[worker]? with
    | some (.listening _) => s.look worker
    | _ => s
  | .rise worker =>
    if s.posts[worker]? = some .waiting ∧ worker ∉ s.bell.sleepers then
      s.depart worker (s.bell.drop worker) .roused
    else s
  | .leave worker =>
    match s.posts[worker]? with
    | some (.leaving _) => s.leave worker
    | _ => s

def moves (s : Lobby) (ms : List LobbyMove) : Lobby := ms.foldl move s

def Sleeps (s : Lobby) (worker : Nat) : Prop :=
  worker ∈ s.bell.sleepers ∧ s.posts[worker]? = some .waiting

/-- How many keys in line somebody is on the way to, at least. -/
def attention (s : Lobby) : Nat := s.rings + s.bell.woken.length + s.posts.countP Post.again

/-- Nobody sleeps beside work: a sleeper is outnumbered by nothing that is in line, and does not
miss that the queue is closed. -/
structure Attentive (s : Lobby) : Prop where
  nodup : s.bell.listeners.Nodup
  inside : ∀ i ∈ s.bell.listeners, ∃ p, s.posts[i]? = some p ∧ p.listens = true
  silent : s.bell.permit = true → s.bell.sleepers = []
  dismissed : s.dismissed ≠ [] → s.queue.closed = true
  closing : 0 < s.alarms → s.queue.closed = true
  served : ∀ i, s.Sleeps i → s.queue.closed = false → s.queue.length ≤ s.attention
  alarmed : ∀ i, s.Sleeps i → s.queue.closed = true → 0 < s.alarms

variable {s : Lobby} {worker : Nat}

theorem attentive_start (workers : Nat) : (start workers).Attentive where
  nodup := List.nodup_nil
  inside := fun _ none => nomatch none
  silent := fun _ => rfl
  dismissed := fun some => absurd rfl some
  closing := fun some => nomatch some
  served := fun _ sleeps => nomatch sleeps.1
  alarmed := fun _ sleeps => nomatch sleeps.1

theorem posts_put {p q : Post} {i : Nat} (there : (s.put worker p).posts[i]? = some q) :
    i = worker ∧ q = p ∨ i ≠ worker ∧ s.posts[i]? = some q := by
  simp only [put, List.getElem?_set] at there
  split_ifs at there with same inside
  · exact .inl ⟨same.symm, (Option.some.inj there).symm⟩
  · exact .inr ⟨Ne.symm same, there⟩

theorem posts_put_of_ne {i : Nat} (other : i ≠ worker) (p : Post) :
    (s.put worker p).posts[i]? = s.posts[i]? :=
  List.getElem?_set_ne (Ne.symm other)

theorem posts_put_self {p : Post} (there : s.posts[worker]? = some p) (next : Post) :
    (s.put worker next).posts[worker]? = some next :=
  List.getElem?_set_self (List.getElem?_eq_some_iff.1 there).1

theorem countP_put {p : Post} (there : s.posts[worker]? = some p) (next : Post) :
    (s.put worker next).posts.countP Post.again + p.again.toNat =
      s.posts.countP Post.again + next.again.toNat := by
  obtain ⟨inside, found⟩ := List.getElem?_eq_some_iff.1 there
  have counted : p.again = true → 0 < s.posts.countP Post.again := fun again =>
    List.countP_pos_iff.2 ⟨p, List.mem_of_getElem? there, again⟩
  rw [put, List.countP_set inside, found]
  cases woken : p.again with
  | true =>
    have some := counted woken
    cases next.again <;> simp <;> omega
  | false => cases next.again <;> simp

theorem length_add_le (q : WorkQueue) (key : String) : (q.add key).length ≤ q.length + 1 := by
  unfold WorkQueue.add WorkQueue.length
  split_ifs <;> simp

theorem length_finish_le (q : WorkQueue) (key : String) :
    (q.finish key).length ≤ q.length + 1 := by
  unfold WorkQueue.finish WorkQueue.length
  dsimp only
  split_ifs <;> simp

theorem length_take {q q' : WorkQueue} {key : String} (taken : q.take? = some (key, q')) :
    q'.length + 1 = q.length := by
  obtain ⟨-, rest, line, after⟩ := WorkQueue.take?_eq_some taken
  rw [after, WorkQueue.length, WorkQueue.length, line, List.length_cons]

theorem length_of_take_none {q : WorkQueue} (isOpen : q.closed = false) (none : q.take? = none) :
    q.length = 0 := by
  cases line : q.waiting with
  | nil => rw [WorkQueue.length, line, List.length_nil]
  | cons key rest => simp [WorkQueue.take?, isOpen, line] at none

theorem take?_of_closed {q : WorkQueue} (closed : q.closed = true) : q.take? = none := by
  rw [WorkQueue.take?, if_pos closed]

theorem Attentive.update {q : WorkQueue} (a : s.Attentive) (closed : q.closed = s.queue.closed)
    (atMost : q.length ≤ s.queue.length + 1) : (s.update q).Attentive where
  nodup := a.nodup
  inside := a.inside
  silent := a.silent
  dismissed := fun some => closed.trans (a.dismissed some)
  closing := fun some => closed.trans (a.closing some)
  served := by
    intro i sleeps isOpen
    have before := a.served i sleeps (closed.symm.trans isOpen)
    simp only [attention, Lobby.update] at before ⊢
    split_ifs <;> omega
  alarmed := fun i sleeps shut => a.alarmed i sleeps (closed.symm.trans shut)

theorem Attentive.close (a : s.Attentive) : (s.move .close).Attentive where
  nodup := a.nodup
  inside := a.inside
  silent := a.silent
  dismissed := fun _ => rfl
  closing := fun _ => rfl
  served := fun _ _ isOpen => nomatch isOpen
  alarmed := fun _ _ _ => Nat.succ_pos _

theorem Attentive.ring (a : s.Attentive) : s.ring.Attentive := by
  have slept : ∀ i, s.ring.Sleeps i → s.Sleeps i := fun i sleeps =>
    ⟨Doorbell.sleepers_ring sleeps.1, sleeps.2⟩
  constructor
  · exact s.bell.listeners_ring.nodup_iff.2 a.nodup
  · intro i listens
    exact a.inside i (s.bell.listeners_ring.mem_iff.1 listens)
  · exact Doorbell.silent_ring a.silent
  · exact a.dismissed
  · exact a.closing
  · intro i sleeps isOpen
    have before := a.served i (slept i sleeps) isOpen
    have woken := Doorbell.woken_ring (slept i sleeps).1
    simp only [attention, Lobby.ring] at before ⊢
    omega
  · intro i sleeps
    exact a.alarmed i (slept i sleeps)

theorem Attentive.ringAll (a : s.Attentive) (due : s.alarms ≠ 0) : s.ringAll.Attentive := by
  have closed : s.queue.closed = true := a.closing (Nat.pos_of_ne_zero due)
  constructor
  · exact s.bell.listeners_ringAll.nodup_iff.2 a.nodup
  · intro i listens
    exact a.inside i (s.bell.listeners_ringAll.mem_iff.1 listens)
  · exact fun _ => rfl
  · exact fun _ => closed
  · exact fun _ => closed
  · exact fun _ sleeps => nomatch sleeps.1
  · exact fun _ sleeps => nomatch sleeps.1

theorem Sleeps.before {t : Lobby} {p : Post} {i : Nat} (sleeps : t.Sleeps i) (other : p ≠ .waiting)
    (posts : t.posts = (s.put worker p).posts)
    (bell : ∀ i ∈ t.bell.sleepers, i ≠ worker → i ∈ s.bell.sleepers) : s.Sleeps i := by
  obtain ⟨inside, waits⟩ := sleeps
  rw [posts] at waits
  rcases posts_put waits with ⟨-, same⟩ | ⟨apart, waits⟩
  · exact absurd same.symm other
  · exact ⟨bell i inside apart, waits⟩

theorem Attentive.absent {p : Post} (a : s.Attentive) (there : s.posts[worker]? = some p)
    (idle : p.listens = false) : worker ∉ s.bell.listeners := by
  intro listens
  obtain ⟨q, found, hears⟩ := a.inside worker listens
  cases there.symm.trans found
  rw [idle] at hears
  exact nomatch hears

/-- Those who listen are where they can be woken, when one more begins to listen or listens on. -/
theorem Attentive.inside_put {p q : Post} {i : Nat} (a : s.Attentive)
    (there : s.posts[worker]? = some q) (hears : p.listens = true)
    (listens : i = worker ∨ i ∈ s.bell.listeners) :
    ∃ q, (s.put worker p).posts[i]? = some q ∧ q.listens = true := by
  by_cases own : i = worker
  · subst own
    exact ⟨p, posts_put_self there p, hears⟩
  · obtain ⟨q, found, hears⟩ := a.inside i (listens.resolve_left own)
    exact ⟨q, (posts_put_of_ne own p).trans found, hears⟩

theorem Attentive.listen {p : Post} {again : Bool} (a : s.Attentive)
    (there : s.posts[worker]? = some p) (idle : p.listens = false) (woken : p.again = again) :
    (s.listen worker again).Attentive := by
  have slept : ∀ i, (s.listen worker again).Sleeps i → s.Sleeps i := fun i sleeps =>
    sleeps.before (p := .listening again) (by simp) rfl fun _ => Doorbell.sleepers_listen
  constructor
  · rcases s.bell.listeners_listen worker with same | joined
    · exact same ▸ a.nodup
    · exact joined.nodup_iff.2 (List.nodup_cons.2 ⟨a.absent there idle, a.nodup⟩)
  · intro i listens
    refine a.inside_put there rfl ?_
    rcases s.bell.listeners_listen worker with same | joined
    · exact .inr (same ▸ listens)
    · exact List.mem_cons.1 (joined.mem_iff.1 listens)
  · intro remembered
    exact nomatch remembered.symm.trans (s.bell.permit_listen worker)
  · exact a.dismissed
  · exact a.closing
  · intro i sleeps isOpen
    have before := a.served i (slept i sleeps) isOpen
    have count := countP_put there (.listening again)
    have same := s.bell.woken_listen worker
    rw [woken] at count
    simp only [attention, Lobby.listen, put, same, Post.again] at before count ⊢
    omega
  · exact fun i sleeps => a.alarmed i (slept i sleeps)

theorem Attentive.look {again : Bool} (a : s.Attentive)
    (there : s.posts[worker]? = some (.listening again)) : (s.look worker).Attentive := by
  have inside : ∀ p : Post, p.listens = true → ∀ i ∈ s.bell.listeners,
      ∃ q, (s.put worker p).posts[i]? = some q ∧ q.listens = true :=
    fun _ hears _ listens => a.inside_put there hears (.inr listens)
  unfold Lobby.look
  split_ifs with closed
  · have slept : ∀ i, (s.put worker (.leaving none)).Sleeps i → s.Sleeps i := fun i sleeps =>
      sleeps.before (by simp) rfl fun _ inside _ => inside
    refine ⟨a.nodup, inside _ rfl, a.silent, a.dismissed, a.closing, ?_, ?_⟩
    · exact fun _ _ isOpen => nomatch isOpen.symm.trans closed
    · exact fun i sleeps => a.alarmed i (slept i sleeps)
  · have isOpen : s.queue.closed = false := by simpa using closed
    cases taken : s.queue.take? with
    | none =>
      -- nothing is in line, so whoever sleeps now sleeps rightly
      have nothing := length_of_take_none isOpen taken
      refine ⟨a.nodup, inside _ rfl, a.silent, a.dismissed, a.closing, ?_, ?_⟩
      · intro i _ _
        change s.queue.length ≤ _
        omega
      · exact fun _ _ closed => nomatch isOpen.symm.trans closed
    | some handed =>
      obtain ⟨key, q⟩ := handed
      have still : q.closed = false := by
        obtain ⟨-, rest, -, after⟩ := WorkQueue.take?_eq_some taken
        rw [after, isOpen]
      have shorter := length_take taken
      have count := countP_put there (.leaving (some key))
      refine ⟨a.nodup, inside _ rfl, a.silent, ?_, ?_, ?_, ?_⟩
      · exact fun some => nomatch isOpen.symm.trans (a.dismissed some)
      · exact fun some => nomatch isOpen.symm.trans (a.closing some)
      · intro i sleeps _
        have slept : s.Sleeps i := sleeps.before (p := .leaving (some key)) (by simp) rfl
          fun _ inside _ => inside
        have before := a.served i slept isOpen
        -- it may have been counted, but then it takes a key out of the line
        have atMost : again.toNat ≤ 1 := Bool.toNat_le again
        simp only [attention, put, Post.again, Bool.toNat_false] at before count ⊢
        omega
      · exact fun _ _ closed => nomatch still.symm.trans closed

/-- A worker stops listening. If it was woken it goes round again, or its ring goes on. -/
theorem Attentive.depart {p q : Post} {bell : Doorbell} (a : s.Attentive)
    (there : s.posts[worker]? = some q) (quiet : q.again = false) (other : p ≠ .waiting)
    (bells : bell = s.bell.drop worker ∧ (p.again = true ∨ worker ∉ s.bell.woken ∨
        s.queue.closed = true) ∨
      worker ∈ s.bell.woken ∧ bell = (s.bell.drop worker).ring) :
    (s.depart worker bell p).Attentive := by
  have listeners : bell.listeners.Perm (s.bell.listeners.filter fun w => decide (w ≠ worker)) := by
    rw [← Doorbell.listeners_drop]
    rcases bells with ⟨rfl, -⟩ | ⟨-, rfl⟩
    · exact .refl _
    · exact Doorbell.listeners_ring _
  have sleepers : ∀ i ∈ bell.sleepers, i ∈ (s.bell.drop worker).sleepers := by
    rcases bells with ⟨rfl, -⟩ | ⟨-, rfl⟩
    · exact fun i inside => inside
    · exact fun i inside => Doorbell.sleepers_ring inside
  have slept : ∀ i, (s.depart worker bell p).Sleeps i → s.Sleeps i := fun i sleeps =>
    sleeps.before other rfl fun i inside _ => (List.mem_filter.1 (sleepers i inside)).1
  have silent : (s.bell.drop worker).permit = true → (s.bell.drop worker).sleepers = [] := by
    intro remembered
    rw [Doorbell.drop, a.silent remembered, List.filter_nil]
  constructor
  · exact listeners.nodup_iff.2 (a.nodup.filter _)
  · intro i listens
    obtain ⟨before, apart⟩ := List.mem_filter.1 (listeners.mem_iff.1 listens)
    obtain ⟨q, found, hears⟩ := a.inside i before
    exact ⟨q, (posts_put_of_ne (of_decide_eq_true apart) p).trans found, hears⟩
  · rcases bells with ⟨rfl, -⟩ | ⟨-, rfl⟩
    · exact silent
    · exact Doorbell.silent_ring silent
  · intro some
    refine a.dismissed fun none => some ?_
    rw [Lobby.depart, none, List.filter_nil]
  · exact a.closing
  · intro i sleeps isOpen
    have before := a.served i (slept i sleeps) isOpen
    have count := countP_put there p
    have woken := s.bell.woken_drop a.nodup worker
    rw [quiet] at count
    simp only [attention, Lobby.depart, put, Bool.toNat_false] at before count ⊢
    -- one less is woken: either this worker looks again, or the next sleeper is woken for it
    rcases bells with ⟨rfl, reason⟩ | ⟨inside, rfl⟩
    · rcases reason with again | none | closed
      · rw [again, Bool.toNat_true] at count
        split_ifs at woken <;> omega
      · rw [if_neg none] at woken
        omega
      · exact nomatch isOpen.symm.trans closed
    · have rung := Doorbell.woken_ring (sleepers i sleeps.1)
      have one : 0 < s.bell.woken.length := List.length_pos_of_mem inside
      rw [if_pos inside] at woken
      omega
  · exact fun i sleeps => a.alarmed i (slept i sleeps)

theorem Attentive.leave {found : Option String} (a : s.Attentive)
    (there : s.posts[worker]? = some (.leaving found)) : (s.leave worker).Attentive := by
  refine a.depart there rfl (by simp) ?_
  split_ifs with all
  · exact .inl ⟨rfl, .inr (.inr (a.dismissed (List.ne_nil_of_mem all)))⟩
  · rw [Doorbell.leave_eq a.nodup]
    split_ifs with woken
    · exact .inr ⟨woken, rfl⟩
    · exact .inl ⟨rfl, .inr (.inl woken)⟩

theorem Attentive.move (a : s.Attentive) (m : LobbyMove) : (s.move m).Attentive := by
  fun_cases Lobby.move s m with
  | case1 key => exact a.update (s.queue.closed_add key) (length_add_le s.queue key)
  | case2 key => exact a.update (s.queue.closed_finish key) (length_finish_le s.queue key)
  | case3 => exact a.close
  | case4 => exact a
  | case5 => exact a.ring
  | case6 => exact a
  | case7 due => exact a.ringAll due
  | case8 worker there => exact a.listen there rfl rfl
  | case9 worker there => exact a.listen there rfl rfl
  | case10 => exact a
  | case11 worker again there => exact a.look there
  | case12 => exact a
  | case13 worker rises =>
    exact a.depart rises.1 rfl (by simp) (.inl ⟨rfl, .inl rfl⟩)
  | case14 => exact a
  | case15 worker found there => exact a.leave there
  | case16 => exact a

theorem Attentive.moves (a : s.Attentive) (ms : List LobbyMove) : (s.moves ms).Attentive := by
  induction ms generalizing s with
  | nil => exact a
  | cons m rest ih => exact ih (a.move m)

end Lobby

end SecretSync
