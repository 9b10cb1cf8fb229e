import SecretSync.Proofs.Queue.Line
import SecretSync.Queue.Station

namespace SecretSync

namespace Lobby

variable {s : Lobby} {worker : Nat}

/-- A queue with its bell between two calls, as the station of that name has it. -/
structure Shows (s : Lobby) (t : Station) : Prop where
  queue : s.queue = t.queue
  bell : s.bell = t.bell
  rings : s.rings = 0
  alarms : s.alarms = 0

variable {t : Station} {m : Metrics}

/-- Adding a key and ringing for it, with nothing in between, is the call of the station. -/
theorem Shows.add (shows : s.Shows t) (key : String) :
    (s.moves [.add key, .ring]).Shows (t.add key m).1 := by
  obtain ⟨queue, bell, rings, alarms⟩ := shows
  by_cases longer : t.queue.length < (t.queue.add key).length
  · constructor <;>
      simp [moves, move, update, ring, Station.add, Station.update, queue, bell, rings, alarms,
        longer]
  · constructor <;>
      simp [moves, move, update, Station.add, Station.update, queue, bell, rings, alarms, longer]

theorem Shows.finish (shows : s.Shows t) (key : String) :
    (s.moves [.finish key, .ring]).Shows (t.finish key m).1 := by
  obtain ⟨queue, bell, rings, alarms⟩ := shows
  by_cases longer : t.queue.length < (t.queue.finish key).length
  · constructor <;>
      simp [moves, move, update, ring, Station.finish, Station.update, queue, bell, rings, alarms,
        longer]
  · constructor <;>
      simp [moves, move, update, Station.finish, Station.update, queue, bell, rings, alarms, longer]

theorem Shows.close (shows : s.Shows t) : (s.moves [.close, .ringAll]).Shows t.close := by
  obtain ⟨queue, bell, rings, alarms⟩ := shows
  constructor <;> simp [moves, move, ringAll, Station.close, queue, bell, rings, alarms]

theorem Shows.rise {bell : Doorbell} (shows : s.Shows t) (a : s.Attentive)
    (waits : s.posts[worker]? = some .waiting) (woken : t.bell.rise? = some (worker, bell)) :
    (s.move (.rise worker)).Shows { t with bell := bell } ∧
      (s.move (.rise worker)).posts[worker]? = some .roused := by
  have nodup := a.nodup
  rw [shows.bell] at nodup
  obtain ⟨rest, first, after⟩ : ∃ rest, t.bell.woken = worker :: rest ∧
      bell = { t.bell with woken := rest } := by
    unfold Doorbell.rise? at woken
    split at woken
    · exact nomatch woken
    · rename_i w rest first
      cases woken
      exact ⟨rest, first, rfl⟩
  rw [Doorbell.listeners, first] at nodup
  obtain ⟨-, once, apart⟩ := List.nodup_append.1 nodup
  have awake : worker ∉ t.bell.sleepers := fun sleeps =>
    apart worker sleeps worker List.mem_cons_self rfl
  have rises : s.move (.rise worker) = s.depart worker (s.bell.drop worker) .roused := by
    rw [move, if_pos ⟨waits, shows.bell ▸ awake⟩]
  rw [rises]
  refine ⟨⟨shows.queue, ?_, shows.rings, shows.alarms⟩, posts_put_self waits _⟩
  change s.bell.drop worker = bell
  rw [shows.bell, after, Doorbell.drop, first]
  congr 1
  · exact Doorbell.filter_absent awake
  · rw [List.filter_cons_of_neg (by simp)]
    exact Doorbell.filter_absent (List.nodup_cons.1 once).1

section Wait

variable {p : Post}

theorem move_listen (there : s.posts[worker]? = some p) (idle : p.listens = false) :
    s.move (.listen worker) = s.listen worker p.again := by
  cases p with
  | away | roused => simp only [move, there, Post.again]
  | _ => simp [Post.listens] at idle

theorem move_look {again : Bool} (there : s.posts[worker]? = some (.listening again)) :
    s.move (.look worker) = s.look worker := by
  simp only [move, there]

theorem answered {q : WorkQueue} {found : Option String} (a : s.Attentive)
    (there : s.posts[worker]? = some p) (idle : p.listens = false)
    (looks : (s.listen worker p.again).look worker =
      { (s.listen worker p.again).put worker (.leaving found) with queue := q }) :
    let ms := [.listen worker, .look worker, .leave worker]
    (s.moves ms).queue = q ∧ (s.moves ms).bell = { s.bell with permit := false } ∧
    (s.moves ms).rings = s.rings ∧ (s.moves ms).alarms = s.alarms ∧
    (s.moves ms).posts[worker]? = some .away ∧
    collect move returned? s ms = (found.map fun key => (worker, key)).toList := by
  have absent := a.absent there idle
  have heard : (s.listen worker p.again).posts[worker]? = some (.listening p.again) :=
    posts_put_self there _
  have settled := posts_put_self heard (.leaving found)
  set u := { (s.listen worker p.again).put worker (.leaving found) with queue := q } with u_eq
  have looked : s.moves [.listen worker, .look worker] = u := by
    simp only [moves, List.foldl, move_listen there idle, move_look heard, looks]
  have left : u.move (.leave worker) = u.leave worker := by
    have settled : u.posts[worker]? = some (.leaving found) := settled
    simp only [move, settled]
  have gone : s.moves [.listen worker, .look worker, .leave worker] = u.leave worker := by
    rw [← left, ← looked]
    rfl
  have bell : (u.leave worker).bell = { s.bell with permit := false } := by
    change (if worker ∈ s.dismissed then (s.bell.listen worker).2.drop worker
      else (s.bell.listen worker).2.leave worker) = _
    rw [Doorbell.drop_listen absent, Doorbell.leave_listen absent, ite_self]
  simp only [gone]
  refine ⟨rfl, bell, rfl, rfl, posts_put_self settled _, ?_⟩
  have last : u.returned? (.leave worker) = found.map fun key => (worker, key) := by
    have hand : u.inHand worker = found := by
      have settled : u.posts[worker]? = some (.leaving found) := settled
      rw [inHand, settled]
      rfl
    rw [returned?, hand]
  simp only [collect, move_listen there idle, move_look heard, looks]
  rw [last, List.append_nil]
  rfl

theorem looked_in_vain (there : s.posts[worker]? = some p) (idle : p.listens = false)
    (isOpen : s.queue.closed = false) (nothing : s.queue.take? = none) :
    s.moves [.listen worker, .look worker] =
      (s.listen worker p.again).put worker .waiting := by
  have heard : (s.listen worker p.again).posts[worker]? = some (.listening p.again) :=
    posts_put_self there _
  have still : (s.listen worker p.again).queue = s.queue := rfl
  have looked : (s.listen worker p.again).look worker =
      (s.listen worker p.again).put worker .waiting := by
    rw [look, still, isOpen, nothing]
    rfl
  simp only [moves, List.foldl, move_listen there idle, move_look heard, looked]

/-- A worker that finds nothing. It comes back once if a ring was remembered. -/
theorem fallen_asleep (a : s.Attentive) (there : s.posts[worker]? = some p)
    (idle : p.listens = false) (isOpen : s.queue.closed = false) (nothing : s.queue.take? = none) :
    ∃ ms : List LobbyMove, (∀ m ∈ ms, m ∈ [.listen worker, .look worker, .rise worker]) ∧
      (s.moves ms).queue = s.queue ∧
      (s.moves ms).bell = (Doorbell.listen { s.bell with permit := false } worker).2 ∧
      (s.moves ms).rings = s.rings ∧ (s.moves ms).alarms = s.alarms ∧
      (s.moves ms).posts[worker]? = some .waiting ∧ collect move returned? s ms = [] := by
  have heard : (s.listen worker p.again).posts[worker]? = some (.listening p.again) :=
    posts_put_self there _
  have first := looked_in_vain there idle isOpen nothing
  set u := (s.listen worker p.again).put worker .waiting with u_eq
  have waits : u.posts[worker]? = some .waiting := posts_put_self heard _
  rcases s.bell.listen_cases worker with ⟨-, rung⟩ | ⟨unset, -⟩
  · have absent := a.absent there idle
    have awake : worker ∉ u.bell.sleepers := by
      change worker ∉ (s.bell.listen worker).2.sleepers
      rw [rung]
      exact fun sleeps => absent (List.mem_append_left _ sleeps)
    set v := u.depart worker (u.bell.drop worker) .roused with v_eq
    have bell : v.bell = { s.bell with permit := false } := Doorbell.drop_listen absent
    have rises : u.move (.rise worker) = v := by rw [move, if_pos ⟨waits, awake⟩]
    have roused : v.posts[worker]? = some .roused := posts_put_self waits _
    have second : v.moves [.listen worker, .look worker] =
        (v.listen worker true).put worker .waiting := looked_in_vain roused rfl isOpen nothing
    have heard : (v.listen worker true).posts[worker]? = some (.listening true) :=
      posts_put_self roused _
    have whole : s.moves [.listen worker, .look worker, .rise worker, .listen worker,
        .look worker] = (v.listen worker true).put worker .waiting := by
      rw [← second, ← rises, ← first]
      rfl
    refine ⟨[.listen worker, .look worker, .rise worker, .listen worker, .look worker],
      by simp, ?_⟩
    rw [whole]
    refine ⟨rfl, ?_, rfl, rfl, posts_put_self heard _, rfl⟩
    change (v.bell.listen worker).2 = _
    rw [bell]
  · refine ⟨[.listen worker, .look worker], by simp, ?_⟩
    rw [first]
    refine ⟨rfl, ?_, rfl, rfl, waits, rfl⟩
    change (s.bell.listen worker).2 = _
    rw [← unset]

/-- Some steps of a worker, with nothing in between, are its wait at the station: it is away with
what the station gives it, or waits if that is nothing. -/
def WaitsAs (s : Lobby) (t : Station) (worker : Nat) (m : Metrics) : Prop :=
  ∃ ms : List LobbyMove,
    (∀ m ∈ ms, m ∈ [.listen worker, .look worker, .rise worker, .leave worker]) ∧
    (s.moves ms).Shows (t.wait worker m).2.1 ∧
    match (t.wait worker m).1 with
    | .key k => (s.moves ms).posts[worker]? = some .away ∧
        collect move returned? s ms = [(worker, k)]
    | .closed => (s.moves ms).posts[worker]? = some .away ∧ collect move returned? s ms = []
    | .nothing => (s.moves ms).posts[worker]? = some .waiting ∧ collect move returned? s ms = []

theorem Shows.wait {p : Post} (shows : s.Shows t) (a : s.Attentive)
    (there : s.posts[worker]? = some p) (idle : p.listens = false) : s.WaitsAs t worker m := by
  obtain ⟨queue, bell, rings, alarms⟩ := shows
  unfold WaitsAs
  cases closed : t.queue.closed with
  | true =>
    have waited : t.wait worker m =
        (.closed, { t with bell := { t.bell with permit := false } }, m) := by
      simp [Station.wait, Station.look, closed]
    have looks : (s.listen worker p.again).look worker =
        (s.listen worker p.again).put worker (.leaving none) := by
      rw [look, if_pos (queue ▸ closed)]
    obtain ⟨queue', bell', rings', alarms', away, returned⟩ :=
      answered (q := s.queue) a there idle looks
    refine ⟨[.listen worker, .look worker, .leave worker], by simp, ?_⟩
    rw [waited]
    exact ⟨⟨queue'.trans queue, by rw [bell', bell], rings'.trans rings, alarms'.trans alarms⟩,
      away, returned⟩
  | false =>
    cases taken : t.queue.take? with
    | some handed =>
      obtain ⟨key, q⟩ := handed
      have shorter : ¬ t.queue.length < q.length := by
        have one := length_take taken
        omega
      have waited : ∃ m', t.wait worker m =
          (.key key, { t with queue := q, bell := { t.bell with permit := false } }, m') := by
        simp [Station.wait, Station.look, Station.take?, Station.update, closed, taken, shorter]
      obtain ⟨m', waited⟩ := waited
      have looks : (s.listen worker p.again).look worker =
          { (s.listen worker p.again).put worker (.leaving (some key)) with queue := q } := by
        have still : (s.listen worker p.again).queue = t.queue := queue
        rw [look, still, closed, taken]
        rfl
      obtain ⟨queue', bell', rings', alarms', away, returned⟩ := answered a there idle looks
      refine ⟨[.listen worker, .look worker, .leave worker], by simp, ?_⟩
      rw [waited]
      exact ⟨⟨queue', by rw [bell', bell], rings'.trans rings, alarms'.trans alarms⟩,
        away, returned⟩
    | none =>
      have waited : t.wait worker m = (.nothing,
          { t with bell := (Doorbell.listen { t.bell with permit := false } worker).2 }, m) := by
        simp [Station.wait, Station.look, Station.take?, closed, taken]
      obtain ⟨ms, steps, queue', bell', rings', alarms', waits, returned⟩ :=
        fallen_asleep a there idle (queue ▸ closed) (queue ▸ taken)
      refine ⟨ms, fun m inside => ?_, ?_⟩
      · have step := steps m inside
        simp only [List.mem_cons] at step ⊢
        tauto
      · rw [waited]
        exact ⟨⟨queue'.trans queue, by rw [bell', bell], rings'.trans rings,
          alarms'.trans alarms⟩, waits, returned⟩

end Wait

/-- The calls of the station, each as the steps that it takes when nobody comes in between. -/
structure Performs (s : Lobby) (t : Station) : Prop where
  add (key : String) (m : Metrics) : (s.moves [.add key, .ring]).Shows (t.add key m).1
  finish (key : String) (m : Metrics) : (s.moves [.finish key, .ring]).Shows (t.finish key m).1
  close : (s.moves [.close, .ringAll]).Shows t.close
  wait (worker : Nat) (p : Post) (m : Metrics) (there : s.posts[worker]? = some p)
    (idle : p.listens = false) : s.WaitsAs t worker m
  rise (worker : Nat) (bell : Doorbell) (waits : s.posts[worker]? = some .waiting)
    (woken : t.bell.rise? = some (worker, bell)) :
    (s.move (.rise worker)).Shows { t with bell := bell } ∧
      (s.move (.rise worker)).posts[worker]? = some .roused

theorem Shows.performs (shows : s.Shows t) (a : s.Attentive) : s.Performs t where
  add := fun key _ => shows.add key
  finish := fun key _ => shows.finish key
  close := shows.close
  wait := fun _ _ _ there idle => shows.wait a there idle
  rise := fun _ _ waits woken => shows.rise a waits woken

end Lobby

end SecretSync
