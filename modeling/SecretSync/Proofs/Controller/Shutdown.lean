import SecretSync.Proofs.Controller.Shift
import SecretSync.Proofs.Queue.Delivery

namespace SecretSync

namespace Shift

variable {u : Shift} {m : ShiftMove} {lane : Lane} {key : String}

/-- What the queues have down as worked on is what the workers have, each key once, and nobody is
left when the run has returned. -/
structure Manned (u : Shift) : Prop where
  tidy : ∀ lane, (u.queue lane).Tidy
  nodup : ∀ lane, (u.queue lane).processing.Nodup
  held : ∀ lane, (u.held lane).Perm (u.queue lane).processing
  staff : ∀ lane, (u.posts lane).length = u.controller.workers
  deserted : u.progress = .returned → u.deserted = true

theorem manned_start (s : Settings) (w : World) : (start s w).Manned where
  tidy := fun lane => by cases lane <;> exact WorkQueue.tidy_empty
  nodup := fun lane => by cases lane <;> exact List.nodup_nil
  held := by
    intro lane
    have nobody : (start s w).held lane = [] := by
      simp [Shift.held, start, Duty.key?]
    rw [nobody]
    cases lane <;> exact .refl _
  staff := fun lane => by simp [start]
  deserted := nofun

theorem manned_lane (manned : u.Manned) (m : ShiftMove) (lane : Lane) :
    ((u.move m).queue lane).Tidy ∧ ((u.move m).queue lane).processing.Nodup ∧
      ((u.move m).held lane).Perm ((u.move m).queue lane).processing := by
  have tidy := manned.tidy lane
  have nodup := manned.nodup lane
  have same := manned.held lane
  cases u.effect m lane with
  | kept queue held =>
    rw [queue.processing]
    exact ⟨queue.tidy tidy, nodup, held.trans same⟩
  | handed taken held =>
    obtain ⟨idle, works⟩ := tidy.take_processing taken
    rw [works]
    refine ⟨tidy.take taken, WorkQueue.nodup_snoc idle nodup, ?_⟩
    exact held.trans ((same.cons _).trans (List.perm_append_singleton _ _).symm)
  | @done key finished held =>
    have works : key ∈ (u.queue lane).processing :=
      (held.symm.trans same).subset List.mem_cons_self
    rw [finished, WorkQueue.processing_finish]
    refine ⟨tidy.finish works, nodup.filter _, ?_⟩
    have parted := (held.symm.trans same).trans (WorkQueue.perm_cons_without nodup works)
    exact parted.cons_inv

theorem progress_move (u : Shift) (m : ShiftMove) :
    (u.move m).progress = u.progress ∨ u.move m = u.advance := by
  have turn := u.turn m
  generalize u.move m = v at turn ⊢
  cases turn with
  | aside _ _ same => exact .inl same
  | run => exact .inr rfl
  | _ => exact .inl rfl

theorem deserted_of_returned (returned : (u.move m).progress = .returned) :
    u.progress = .returned ∨ u.deserted = true := by
  rcases u.progress_move m with same | run
  · exact .inl (same ▸ returned)
  · rw [run] at returned
    have stride := u.stride
    generalize u.advance = v at stride returned
    cases stride with
    | launch => cases returned
    | stop => cases returned
    | close => cases returned
    | join _ deserted => exact .inr deserted
    | stay => exact .inl returned

theorem Manned.move (manned : u.Manned) (m : ShiftMove) : (u.move m).Manned where
  tidy := fun lane => (manned_lane manned m lane).1
  nodup := fun lane => (manned_lane manned m lane).2.1
  held := fun lane => (manned_lane manned m lane).2.2
  staff := by
    intro lane
    rw [(u.staffed_move m).length, (u.staffed_move m).workers, manned.staff]
  deserted := by
    intro returned
    have before : u.deserted = true := (deserted_of_returned returned).elim manned.deserted id
    exact (u.staffed_move m).deserted before

theorem Manned.run (manned : u.Manned) (ms : List ShiftMove) : (u.run ms).Manned := by
  induction ms generalizing u with
  | nil => exact manned
  | cons m rest ih => exact ih (manned.move m)

theorem closed_move (closed : (u.queue lane).closed = true) (m : ShiftMove) :
    ((u.move m).queue lane).closed = true := by
  cases u.effect m lane with
  | kept queue => exact queue.closed closed
  | handed taken =>
    obtain ⟨isOpen, -⟩ := WorkQueue.take?_eq_some taken
    exact nomatch isOpen.symm.trans closed
  | done finished => rw [finished, WorkQueue.closed_finish, closed]

/-- What becomes of the lane of a closed queue while the workers are done with some keys. -/
structure Frozen (u v : Shift) (lane : Lane) (done : List String) : Prop where
  closed : (v.queue lane).closed = true
  waiting : (v.queue lane).waiting = (u.queue lane).waiting
  processing : (v.queue lane).processing.Sublist (u.queue lane).processing
  done : (done ++ (v.queue lane).processing).Perm (u.queue lane).processing

theorem Frozen.trans {v w : Shift} {done done' : List String} (h : u.Frozen v lane done)
    (k : v.Frozen w lane done') : u.Frozen w lane (done ++ done') where
  closed := k.closed
  waiting := k.waiting.trans h.waiting
  processing := k.processing.trans h.processing
  done := by
    rw [List.append_assoc]
    exact (k.done.append_left done).trans h.done

theorem frozen_move (manned : u.Manned) (closed : (u.queue lane).closed = true) (m : ShiftMove) :
    handed? lane u m = none ∧ u.Frozen (u.move m) lane (done? lane u m).toList := by
  have stays := closed_move closed m
  cases u.effect m lane with
  | kept queue held handed done =>
    refine ⟨handed, stays, queue.waiting closed, ?_, ?_⟩
    · rw [queue.processing]
    · rw [done, queue.processing]
      exact .refl _
  | handed taken =>
    obtain ⟨isOpen, -⟩ := WorkQueue.take?_eq_some taken
    exact nomatch isOpen.symm.trans closed
  | @done key finished held handed done =>
    have works : key ∈ (u.queue lane).processing :=
      (held.symm.trans (manned.held lane)).subset List.mem_cons_self
    refine ⟨handed, stays, ?_, ?_, ?_⟩
    · rw [finished, WorkQueue.waiting_finish_closed closed]
    · rw [finished, WorkQueue.processing_finish]
      exact List.filter_sublist
    · rw [done, finished, WorkQueue.processing_finish]
      exact (WorkQueue.perm_cons_without (manned.nodup lane) works).symm

theorem frozen_run (manned : u.Manned) (closed : (u.queue lane).closed = true)
    (ms : List ShiftMove) :
    collect move (handed? lane) u ms = [] ∧
      u.Frozen (u.run ms) lane (collect move (done? lane) u ms) := by
  induction ms generalizing u with
  | nil => exact ⟨rfl, closed, rfl, .refl _, .refl _⟩
  | cons m rest ih =>
    obtain ⟨nothing, first⟩ := frozen_move manned closed m
    obtain ⟨nothing', later⟩ := ih (manned.move m) first.closed
    refine ⟨?_, first.trans later⟩
    rw [collect, nothing, nothing']
    rfl

theorem Manned.processing_le (manned : u.Manned) (lane : Lane) :
    (u.queue lane).processing.length ≤ u.controller.workers := by
  rw [← (manned.held lane).length_eq, ← manned.staff lane]
  exact List.length_filterMap_le ..

theorem Manned.idle (manned : u.Manned) (returned : u.progress = .returned) (lane : Lane) :
    (u.queue lane).processing = [] := by
  have nobody := held_deserted (manned.deserted returned) lane
  exact List.nil_perm.1 (nobody ▸ manned.held lane)

structure Ending (u : Shift) : Prop where
  started : u.progress ≠ .planned
  told : u.told = true
  closed : ∀ lane, (u.queue lane).closed = true

theorem told_advance (u : Shift) : u.advance.told = u.told := by
  have stride := u.stride
  generalize u.advance = v at stride ⊢
  cases stride <;> rfl

theorem told_move (told : u.told = true) (m : ShiftMove) : (u.move m).told = true := by
  have turn := u.turn m
  generalize u.move m = v at turn ⊢
  cases turn with
  | aside _ _ _ still => exact still told
  | run => exact u.told_advance.trans told
  | _ => exact told

theorem started_move (started : u.progress ≠ .planned) (m : ShiftMove) :
    (u.move m).progress ≠ .planned := by
  rcases u.progress_move m with same | run
  · rwa [same]
  · rw [run]
    have stride := u.stride
    generalize u.advance = v at stride ⊢
    cases stride with
    | stay => exact started
    | _ => nofun

theorem Ending.move (ending : u.Ending) (m : ShiftMove) : (u.move m).Ending where
  started := started_move ending.started m
  told := told_move ending.told m
  closed := fun lane => closed_move (ending.closed lane) m

theorem Ending.run (ending : u.Ending) (ms : List ShiftMove) : (u.run ms).Ending := by
  induction ms generalizing u with
  | nil => exact ending
  | cons m rest ih => exact ih (ending.move m)

/-- With moves of its own a run comes to where something holds. -/
def Reaches (u : Shift) (goal : Shift → Prop) : Prop :=
  ∃ ms : List ShiftMove, (∀ m ∈ ms, m.own = true) ∧ goal (u.run ms)

theorem Reaches.refl {goal : Shift → Prop} (here : goal u) : u.Reaches goal := ⟨[], by simp, here⟩

theorem Reaches.step {goal : Shift → Prop} (own : m.own = true) (next : (u.move m).Reaches goal) :
    u.Reaches goal := by
  obtain ⟨ms, all, there⟩ := next
  exact ⟨m :: ms, List.forall_mem_cons.2 ⟨own, all⟩, there⟩

theorem gone_of_free (ending : u.Ending) {i : Nat} (free : u.post? lane i = some .free) :
    u.Reaches fun v => v.post? lane i = some .gone := by
  refine .step (m := .look lane i) rfl (.refl ?_)
  have looked := Station.look_closed (ending.closed lane) u.controller.world.metrics
  simp only [Shift.move, free, if_neg ending.started]
  rw [post?_put free, if_pos ⟨rfl, rfl⟩, looked]
  rfl

theorem gone_of_settled (ending : u.Ending) {i : Nat} (settled : u.post? lane i = some (.settled key)) :
    u.Reaches fun v => v.post? lane i = some .gone := by
  refine .step (m := .finish lane i) rfl (gone_of_free (ending.move _) ?_)
  simp only [Shift.move, settled]
  rw [post?_put settled, if_pos ⟨rfl, rfl⟩]

/-- A pass comes to its end whatever its calls give, and its worker finds the queue closed then. -/
theorem gone_of_busy (ending : u.Ending) {i : Nat} {rest : Program (Except PassError Unit)}
    (busy : u.post? lane i = some (.busy key rest)) :
    u.Reaches fun v => v.post? lane i = some .gone := by
  induction rest generalizing u with
  | done r =>
    have settled : (u.move (.settle lane i)).post? lane i = some (.settled key) := by
      simp only [Shift.move, busy]
      rw [post?_put busy, if_pos ⟨rfl, rfl⟩]
    exact .step rfl (gone_of_settled (ending.move _) settled)
  | ask q next ih =>
    refine .step (m := .call lane i) rfl (ih (World.answer q u.controller.world).1 (ending.move _) ?_)
    simp only [Shift.move, busy]
    rw [post?_put busy, if_pos ⟨rfl, rfl⟩]

theorem gone_of_post (ending : u.Ending) {i : Nat} {p : Duty} (there : u.post? lane i = some p) :
    u.Reaches fun v => v.post? lane i = some .gone := by
  cases p with
  | free => exact gone_of_free ending there
  | busy key rest => exact gone_of_busy ending there
  | settled key => exact gone_of_settled ending there
  | gone => exact .refl there

theorem Reaches.bind {goal next : Shift → Prop} (first : u.Reaches goal)
    (later : ∀ ms, goal (u.run ms) → (u.run ms).Reaches next) : u.Reaches next := by
  obtain ⟨ms, own, there⟩ := first
  obtain ⟨ms', own', there'⟩ := later ms there
  refine ⟨ms ++ ms', List.forall_mem_append.2 ⟨own, own'⟩, ?_⟩
  rw [run, List.foldl_append]
  exact there'

theorem gone_of_posts (ending : u.Ending) (posts : List (Lane × Nat))
    (there : ∀ p ∈ posts, p.2 < (u.posts p.1).length) :
    u.Reaches fun v => ∀ p ∈ posts, v.post? p.1 p.2 = some .gone := by
  induction posts generalizing u with
  | nil => exact .refl (by simp)
  | cons p rest ih =>
    obtain ⟨inside, others⟩ := List.forall_mem_cons.1 there
    have post : u.post? p.1 p.2 = some ((u.posts p.1)[p.2]) := List.getElem?_eq_getElem inside
    refine (gone_of_post ending post).bind fun ms gone => ?_
    have staffed := u.staffed_run ms
    refine (ih (ending.run ms) fun q later => staffed.length q.1 ▸ others q later).bind ?_
    intro ms' all
    exact .refl (List.forall_mem_cons.2 ⟨((u.run ms).staffed_run ms').gone _ _ gone, all⟩)

theorem reaches_deserted (ending : u.Ending) : u.Reaches fun v => v.deserted = true := by
  let posts (lane : Lane) := (List.range (u.posts lane).length).map (Prod.mk lane)
  refine (gone_of_posts ending (posts .spec ++ posts .poll) ?_).bind fun ms gone => .refl ?_
  · simp only [posts, List.mem_append, List.mem_map, List.mem_range]
    rintro p (⟨i, inside, rfl⟩ | ⟨i, inside, rfl⟩) <;> exact inside
  · rw [deserted_iff]
    intro lane p there
    obtain ⟨i, inside, rfl⟩ := List.mem_iff_getElem.1 there
    have before : i < (u.posts lane).length := (u.staffed_run ms).length lane ▸ inside
    have found : (lane, i) ∈ posts .spec ++ posts .poll := by
      cases lane <;> simp [posts, before]
    have there := gone (lane, i) found
    rw [post?, List.getElem?_eq_getElem inside] at there
    exact Option.some.inj there

theorem returns_of_deserted (ending : u.Ending) (deserted : u.deserted = true) :
    u.Reaches fun v => v.progress = .returned := by
  have joining {u : Shift} (deserted : u.deserted = true) (here : u.progress = .joining) :
      u.Reaches fun v => v.progress = .returned :=
    .step (m := .run) rfl (.refl (by simp [Shift.move, advance, here, deserted]))
  have closing {u : Shift} (deserted : u.deserted = true) (here : u.progress = .closing) :
      u.Reaches fun v => v.progress = .returned :=
    .step (m := .run) rfl
      (joining ((u.staffed_move .run).deserted deserted) (by simp [Shift.move, advance, here]))
  cases here : u.progress with
  | planned => exact absurd here ending.started
  | looping =>
    exact .step (m := .run) rfl
      (closing ((u.staffed_move .run).deserted deserted)
        (by simp [Shift.move, advance, here, ending.told]))
  | closing => exact closing deserted here
  | joining => exact joining deserted here
  | returned => exact .refl here

theorem Ending.returns (ending : u.Ending) : u.Reaches fun v => v.progress = .returned :=
  (reaches_deserted ending).bind fun ms gone => returns_of_deserted (ending.run ms) gone

theorem told_run (told : u.told = true) (ms : List ShiftMove) : (u.run ms).told = true := by
  induction ms generalizing u with
  | nil => exact told
  | cons m rest ih => exact ih (told_move told m)

theorem returns_of_closed (told : u.told = true)
    (closed : ∀ lane, (u.queue lane).closed = true) :
    u.Reaches fun v => v.progress = .returned := by
  by_cases planned : u.progress = .planned
  · have ending : (u.move .run).Ending :=
      ⟨by simp [Shift.move, advance, planned], told_move told .run,
        fun lane => closed_move (closed lane) .run⟩
    exact .step rfl ending.returns
  · exact Ending.returns ⟨planned, told, closed⟩

/-- Once a run has the word to stop and both queues are closed, whatever happens in whatever order:
the queues stay closed, no look and no hand-out gives a key, and nothing comes to wait. Every key
that was worked on is still worked on or was done, exactly once, and does not wait. When the run
has returned, nothing is worked on, and with nothing but its own moves it can always come to
that. -/
theorem closed_queues_run_dry (s : Settings) (w : World) (before after : List ShiftMove)
    (told : ((start s w).run before).told = true)
    (closed : ∀ lane, (((start s w).run before).queue lane).closed = true) :
    let u := (start s w).run before
    let v := u.run after
    (∀ lane,
      (v.queue lane).closed = true ∧
      (v.queue lane).take? = none ∧
      (∀ m, ((v.controller.station lane).look m).1 = .closed) ∧
      collect move (handed? lane) u after = [] ∧
      (v.queue lane).waiting = (u.queue lane).waiting ∧
      (v.queue lane).length = (u.queue lane).length ∧
      (v.queue lane).processing.Sublist (u.queue lane).processing ∧
      (u.queue lane).processing.length ≤ max s.workers.toNat 1 ∧
      ∀ key ∈ (u.queue lane).processing,
        (collect move (done? lane) u after).count key + (v.queue lane).processing.count key = 1 ∧
        key ∉ (v.queue lane).waiting) ∧
    (v.progress = .returned → ∀ lane, (v.queue lane).processing = []) ∧
    v.Reaches fun w => w.progress = .returned := by
  intro u v
  have manned : u.Manned := (manned_start s w).run before
  refine ⟨?_, fun returned => (manned.run after).idle returned, ?_⟩
  swap
  · refine returns_of_closed (told_run told after) fun lane => ?_
    exact (frozen_run manned (closed lane) after).2.closed
  intro lane
  obtain ⟨nothing, frozen⟩ := frozen_run manned (closed lane) after
  have staff : u.controller.workers = max s.workers.toNat 1 := ((start s w).staffed_run before).workers
  refine ⟨frozen.closed, if_pos frozen.closed, Station.look_closed frozen.closed, nothing,
    frozen.waiting, congrArg List.length frozen.waiting, frozen.processing,
    staff ▸ manned.processing_le lane, ?_⟩
  intro key works
  constructor
  · rw [← List.count_append, frozen.done.count_eq]
    exact List.count_eq_one_of_mem (manned.nodup lane) works
  · intro waits
    rw [frozen.waiting] at waits
    exact (manned.tidy lane).waiting_idle key waits works

/-- A worker is at a spec sync of a binding that was added again meanwhile, and a vault poll of it
waits, when the run stops. -/
def stopping : List ShiftMove :=
  [.run, .binding (.apply .sample), .look .spec 0, .add .spec "default/db-cred", .tell, .run, .run]

/-- The pass cannot read the vault. Its key is to come back, and its timer goes off before the worker
is done with it. -/
def ending : List ShiftMove :=
  [.edit (.vault ((Vault.sample "old").failNext 1)), .look .spec 1] ++
    List.replicate 6 (.call .spec 0) ++
    [.settle .spec 0, .tick, .wait 5, .ring 0, .finish .spec 0, .look .spec 0, .look .poll 0,
      .look .poll 1, .run]

abbrev stopped : Shift := (start .standard (.sample "old")).run stopping

abbrev ended : Shift := stopped.run ending

theorem stopped_closed (lane : Lane) : (stopped.queue lane).closed = true := by
  cases lane <;> decide +kernel

theorem stopped_run_returns :
    stopped.told = true ∧ (∀ lane, (stopped.queue lane).closed = true) ∧
    (stopped.queue .spec).processing = ["default/db-cred"] ∧
    "default/db-cred" ∈ (stopped.queue .spec).dirty ∧
    (stopped.queue .poll).waiting = ["default/db-cred"] ∧
    (ended.queue .spec).requeueCount "default/db-cred" = 1 ∧
    ended.progress = .returned ∧ (ended.queue .spec).waiting = [] ∧
    (collect move (done? .spec) stopped ending).count "default/db-cred" = 1 ∧
    (ended.queue .spec).processing = [] := by
  have told : stopped.told = true := by decide +kernel
  have works : (stopped.queue .spec).processing = ["default/db-cred"] := by decide +kernel
  have returned : ended.progress = .returned := by decide +kernel
  obtain ⟨lanes, empty, -⟩ :=
    closed_queues_run_dry .standard (.sample "old") stopping ending told stopped_closed
  obtain ⟨-, -, -, -, waiting, -, -, -, once⟩ := lanes .spec
  have done := (once "default/db-cred" (by rw [works]; exact List.mem_cons_self)).1
  have idle : (ended.queue .spec).processing = [] := empty returned .spec
  rw [idle, List.count_nil, Nat.add_zero] at done
  exact ⟨told, stopped_closed, works, by decide +kernel, by decide +kernel, by decide +kernel,
    returned, waiting.trans (by decide +kernel), done, idle⟩

end Shift

end SecretSync
