import SecretSync.Proofs.Queue.Uninterrupted

namespace SecretSync

namespace Lobby

variable {s : Lobby} {worker : Nat}

/-- Every worker that was woken has run until it found a key or looked in vain. -/
structure Rested (s : Lobby) : Prop where
  woken : s.bell.woken = []
  again : ∀ p ∈ s.posts, p.again = false
  waiting : ∀ i, s.posts[i]? = some .waiting → i ∈ s.bell.sleepers

theorem Attentive.rested (a : s.Attentive) (rested : s.Rested)
    (waits : s.posts[worker]? = some .waiting) :
    (s.queue.closed = false → s.queue.waiting.length ≤ s.rings) ∧
    (s.queue.closed = true → 0 < s.alarms) := by
  have sleeps : s.Sleeps worker := ⟨rested.waiting worker waits, waits⟩
  have none : s.posts.countP Post.again = 0 := by
    rw [List.countP_eq_zero]
    intro p inside
    simp [rested.again p inside]
  constructor
  · intro isOpen
    have served := a.served worker sleeps isOpen
    rw [attention, rested.woken, none] at served
    exact served
  · exact a.alarmed worker sleeps

/-- However workers, those that bring keys and those that close the queue come in between one
another: once every woken worker has run, a worker waits only while the keys in line are not more
than the rings to come, so that none is in line when every call that adds is over, and only while
the queue is not closed or its alarm is to come. Every key that came in line was handed to one
worker, in the order of the line, or is in line, and a worker has returned what it was handed but
for what it has in hand. A call with nobody in between is the call of the station. -/
theorem no_wakeup_lost (workers : Nat) (ms : List LobbyMove) :
    let s := (start workers).moves ms
    (s.Rested → ∀ worker : Nat, s.posts[worker]? = some .waiting →
      (s.queue.closed = false → s.queue.waiting.length ≤ s.rings) ∧
      (s.queue.closed = true → 0 < s.alarms) ∧
      (s.rings = 0 → s.alarms = 0 → s.queue.waiting = [] ∧ s.queue.closed = false)) ∧
    collect move entered? (start workers) ms =
      (collect move handed? (start workers) ms).map Prod.snd ++ s.queue.waiting ∧
    (∀ worker, keysOf worker (collect move handed? (start workers) ms) =
      keysOf worker (collect move returned? (start workers) ms) ++ (s.inHand worker).toList) ∧
    ∀ t, s.Shows t → s.Performs t := by
  intro s
  have attentive : s.Attentive := (attentive_start workers).moves ms
  refine ⟨?_, ?_, ?_, fun t shows => shows.performs attentive⟩
  · intro rested worker waits
    obtain ⟨few, alarm⟩ := attentive.rested rested waits
    refine ⟨few, alarm, fun rung alarmed => ?_⟩
    have isOpen : s.queue.closed = false := by
      by_contra closed
      have due := alarm (by simpa using closed)
      omega
    have none := few isOpen
    rw [rung] at none
    exact ⟨List.length_eq_zero_iff.1 (Nat.le_zero.1 none), isOpen⟩
  · exact (start workers).line_moves ms
  · intro worker
    have free : (start workers).inHand worker = none := by
      rw [inHand, start]
      cases there : (List.replicate workers Post.away)[worker]? with
      | none => rfl
      | some p =>
        obtain rfl : p = .away := List.eq_of_mem_replicate (List.mem_of_getElem? there)
        rfl
    have given := (start workers).keysOf_moves ms worker
    rw [free] at given
    exact given

/-- Two keys are added before anybody comes and only one ring is remembered. Of a third key the
sleeper is told when a newcomer has it already. -/
def keyTakenByNewcomer : List LobbyMove :=
  [.add "default/a", .ring, .add "default/b", .ring,
    .listen 0, .look 0, .leave 0, .listen 1, .look 1, .leave 1, .listen 0, .look 0,
    .add "default/c", .listen 1, .look 1, .leave 1, .ring, .rise 0, .listen 0, .look 0]

theorem sleeper_of_keyTakenByNewcomer :
    let s := (start 2).moves keyTakenByNewcomer
    s.Rested ∧ s.posts[0]? = some .waiting ∧ s.queue.waiting = [] ∧ s.queue.closed = false ∧
    collect move entered? (start 2) keyTakenByNewcomer = ["default/a", "default/b", "default/c"] ∧
    keysOf 0 (collect move returned? (start 2) keyTakenByNewcomer) = ["default/a"] ∧
    keysOf 1 (collect move returned? (start 2) keyTakenByNewcomer) =
      ["default/b", "default/c"] := by
  have posts : ((start 2).moves keyTakenByNewcomer).posts = [.waiting, .away] := by
    decide +kernel
  have sleepers : ((start 2).moves keyTakenByNewcomer).bell.sleepers = [0] := by decide +kernel
  have handed : collect move handed? (start 2) keyTakenByNewcomer =
      [(0, "default/a"), (1, "default/b"), (1, "default/c")] := by decide +kernel
  have rested : ((start 2).moves keyTakenByNewcomer).Rested := by
    refine ⟨by decide +kernel, ?_, ?_⟩
    · rw [posts]
      decide
    · rw [posts, sleepers]
      intro i waits
      match i with
      | 0 => exact List.mem_singleton_self 0
      | 1 => exact nomatch waits
  have waits : ((start 2).moves keyTakenByNewcomer).posts[0]? = some .waiting := by
    rw [posts]
    rfl
  obtain ⟨asleep, line, given, -⟩ := no_wakeup_lost 2 keyTakenByNewcomer
  obtain ⟨-, -, idle⟩ := asleep rested 0 waits
  obtain ⟨nothing, isOpen⟩ := idle (by decide +kernel) (by decide +kernel)
  rw [handed, nothing] at line
  have first := given 0
  have second := given 1
  rw [handed, inHand, posts] at first second
  exact ⟨rested, waits, nothing, isOpen, line, (first.trans (List.append_nil _)).symm,
    (second.trans (List.append_nil _)).symm⟩

end Lobby

end SecretSync
