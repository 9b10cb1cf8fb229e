import SecretSync.Controller.Schedule
import Mathlib.Data.List.Induction

namespace SecretSync

/-- What came after the last of a kind, the latest first. -/
def since (stop : α → Bool) (log : List α) : List α := log.reverse.takeWhile fun e => !stop e

theorem since_snoc (stop : α → Bool) (log : List α) (e : α) :
    since stop (log ++ [e]) = if stop e then [] else e :: since stop log := by
  rw [since, List.reverse_append, List.reverse_singleton, List.singleton_append,
    List.takeWhile_cons]
  cases stop e <;> rfl

theorem since_append {stop : α → Bool} {before after : List α} {e : α} (here : stop e = false)
    (later : ∀ x ∈ after, stop x = false) :
    since stop (before ++ e :: after) = after.reverse ++ e :: since stop before := by
  rw [since, List.reverse_append, List.reverse_cons, List.append_assoc,
    List.takeWhile_append_of_pos, List.singleton_append, List.takeWhile_cons_of_pos, since]
  · rw [here]
    rfl
  · intro x there
    rw [later x (List.mem_reverse.1 there)]
    rfl

theorem since_append_stop {stop : α → Bool} {e : α} (here : stop e = true) (before after : List α) :
    since stop (before ++ e :: after) = since stop after := by
  induction after using List.reverseRecOn with
  | nil => rw [since_snoc, if_pos here, since, List.reverse_nil, List.takeWhile_nil]
  | append_singleton later x ih =>
    rw [← List.cons_append, ← List.append_assoc, since_snoc, since_snoc, ih]

theorem mem_of_mem_since {stop : α → Bool} {log : List α} {e : α} (there : e ∈ since stop log) :
    e ∈ log :=
  List.mem_reverse.1 ((List.takeWhile_sublist _).subset there)

namespace Schedule

/-- What a schedule is told or asked: how a poll ended, or which keys of a list are due. -/
inductive Query where
  | record (key : String) (success : Bool)
  | due (keys : List String) (now : Nat)

namespace Query

def Distinct : Query → Prop
  | .record .. => True
  | .due keys _ => keys.Nodup

def instant? : Query → Option Nat
  | .record .. => none
  | .due _ now => some now

end Query

inductive Entry where
  | recorded (key : String) (success : Bool)
  | swept (keys : List String) (now : Nat) (due : List String)
  deriving DecidableEq

namespace Entry

def drops (key : String) : Entry → Bool
  | .recorded .. => false
  | .swept keys .. => key ∉ keys

/-- The entry puts the failures of the key back to none. -/
def clears (key : String) : Entry → Bool
  | .recorded k success => k = key && success
  | .swept keys .. => key ∉ keys

def fails (key : String) : Entry → Bool
  | .recorded k success => k = key && !success
  | .swept .. => false

def given? (key : String) : Entry → Option Nat
  | .recorded .. => none
  | .swept _ now due => if key ∈ due then some now else none

end Entry

def ask (s : Schedule) : Query → Entry × Schedule
  | .record key success => (.recorded key success, s.record key success)
  | .due keys now => (.swept keys now (s.due keys now).1, (s.due keys now).2)

def after (s : Schedule) (qs : List Query) : Schedule := qs.foldl (fun s q => (s.ask q).2) s

def log (s : Schedule) : List Query → List Entry
  | [] => []
  | q :: rest => (s.ask q).1 :: log (s.ask q).2 rest

/-- How often the key has failed since it last succeeded or was not listed. -/
def failuresIn (log : List Entry) (key : String) : Nat :=
  (since (Entry.clears key) log).countP (Entry.fails key)

/-- When the key was last given out, if it was since it was last not listed. -/
def lastIn? (log : List Entry) (key : String) : Option Nat :=
  (since (Entry.drops key) log).findSome? (Entry.given? key)

/-- Whether a listed key is due after a log: nothing is slowed down, or it has failed less often
than it may, or it was not given out yet, or that is long enough ago. -/
def dueAfter (slow : Span) (patience : Nat) (log : List Entry) (now : Nat) (key : String) : Bool :=
  patience = 0 || failuresIn log key < patience ||
    match lastIn? log key with
    | none => true
    | some last => slow.nanos ≤ now - last

theorem failuresIn_snoc (log : List Entry) (e : Entry) (key : String) :
    failuresIn (log ++ [e]) key =
      if e.clears key then 0 else failuresIn log key + if e.fails key then 1 else 0 := by
  rw [failuresIn, since_snoc]
  split
  · rfl
  · rw [List.countP_cons, failuresIn]

theorem lastIn?_snoc (log : List Entry) (e : Entry) (key : String) :
    lastIn? (log ++ [e]) key =
      if e.drops key then none else (e.given? key).or (lastIn? log key) := by
  rw [lastIn?, since_snoc]
  split
  · rfl
  · rw [List.findSome?_cons, lastIn?]
    cases e.given? key <;> rfl

section Sweep

variable (s : Schedule) (now : Nat)

def stateOf (states : Table String PollState) (key : String) : PollState :=
  (states.get? key).getD .fresh

theorem stateOf_erase (states : Table String PollState) {key k : String} (apart : key ≠ k) :
    stateOf (states.erase key) k = stateOf states k := by
  rw [stateOf, Table.get?_erase_of_ne _ apart, stateOf]

theorem sweep_due {keys : List String} (distinct : keys.Nodup)
    (old current : Table String PollState) :
    (s.sweep now old current keys).1 = keys.filter fun k => s.isDue (stateOf old k) now := by
  induction keys generalizing old current with
  | nil => rfl
  | cons key rest ih =>
    obtain ⟨absent, distinct⟩ := List.nodup_cons.1 distinct
    have others : (rest.filter fun k => s.isDue (stateOf (old.erase key) k) now) =
        rest.filter fun k => s.isDue (stateOf old k) now := by
      refine List.filter_congr fun k there => ?_
      have apart : key ≠ k := fun same => absent (same.symm ▸ there)
      rw [stateOf_erase old apart]
    rw [List.filter_cons, ← others, ← ih distinct (old.erase key)]
    rfl

theorem sweep_states {keys : List String} (distinct : keys.Nodup)
    (old current : Table String PollState) (k : String) :
    (s.sweep now old current keys).2.get? k =
      if k ∈ keys then some (s.visit now (stateOf old k)) else current.get? k := by
  induction keys generalizing old current with
  | nil => rfl
  | cons key rest ih =>
    obtain ⟨absent, distinct⟩ := List.nodup_cons.1 distinct
    change (s.sweep now (old.erase key)
      (current.insert key (s.visit now (stateOf old key))) rest).2.get? k = _
    rw [ih distinct]
    by_cases same : key = k
    · subst same
      rw [if_neg absent, Table.get?_insert_self, if_pos List.mem_cons_self]
    · have listed : k ∈ key :: rest ↔ k ∈ rest := by simp [Ne.symm same]
      rw [stateOf_erase old same, Table.get?_insert_of_ne _ _ same]
      simp only [listed]

end Sweep

theorem after_snoc (s : Schedule) (qs : List Query) (q : Query) :
    s.after (qs ++ [q]) = ((s.after qs).ask q).2 :=
  List.foldl_append

theorem log_append (s : Schedule) (before after : List Query) :
    s.log (before ++ after) = s.log before ++ (s.after before).log after := by
  induction before generalizing s with
  | nil => rfl
  | cons q rest ih => exact congrArg ((s.ask q).1 :: ·) (ih (s.ask q).2)

theorem mem_log {s : Schedule} {qs : List Query} {e : Entry} (there : e ∈ s.log qs) :
    ∃ q ∈ qs, ∃ t : Schedule, e = (t.ask q).1 := by
  induction qs generalizing s with
  | nil => exact nomatch there
  | cons q rest ih =>
    rcases List.mem_cons.1 there with rfl | later
    · exact ⟨q, List.mem_cons_self, s, rfl⟩
    · obtain ⟨r, among, t, given⟩ := ih later
      exact ⟨r, List.mem_cons_of_mem q among, t, given⟩

theorem settings_after (s : Schedule) (qs : List Query) :
    (s.after qs).slow = s.slow ∧ (s.after qs).patience = s.patience := by
  induction qs generalizing s with
  | nil => exact ⟨rfl, rfl⟩
  | cons q rest ih =>
    obtain ⟨slow, patience⟩ := ih (s.ask q).2
    have same : (s.ask q).2.slow = s.slow ∧ (s.ask q).2.patience = s.patience := by
      cases q <;> exact ⟨rfl, rfl⟩
    exact ⟨slow.trans same.1, patience.trans same.2⟩

def recalled (log : List Entry) (key : String) : PollState :=
  ⟨min (failuresIn log key) (UInt32.size - 1), lastIn? log key⟩

theorem stateOf_record (s : Schedule) (key k : String) (success : Bool) :
    stateOf (s.record key success).states k =
      if key = k then
        { stateOf s.states k with
          failures :=
            if success then 0 else min ((stateOf s.states k).failures + 1) (UInt32.size - 1) }
      else stateOf s.states k := by
  by_cases same : key = k
  · subst same
    rw [if_pos rfl, stateOf, record, Table.adjust, Table.get?_insert_self]
    rfl
  · rw [if_neg same, stateOf, record, Table.adjust, Table.get?_insert_of_ne _ _ same]
    rfl

theorem stateOf_due (s : Schedule) {keys : List String} (distinct : keys.Nodup) (now : Nat)
    (k : String) :
    stateOf (s.due keys now).2.states k =
      if k ∈ keys then s.visit now (stateOf s.states k) else .fresh := by
  change ((s.sweep now s.states .empty keys).2.get? k).getD _ = _
  rw [sweep_states s now distinct]
  split_ifs <;> rfl

theorem recalled_record {s : Schedule} {log : List Entry} {k : String} (key : String)
    (success : Bool) (h : stateOf s.states k = recalled log k) :
    stateOf (s.record key success).states k = recalled (log ++ [.recorded key success]) k := by
  rw [stateOf_record, h, recalled, recalled, failuresIn_snoc, lastIn?_snoc]
  simp only [Entry.clears, Entry.fails, Entry.drops, Entry.given?, Option.none_or]
  by_cases same : key = k
  · cases success
    · simp only [same, decide_true, Bool.and_false, Bool.not_false, Bool.and_true, if_true]
      congr 1
      simp only [Bool.false_eq_true, if_false]
      omega
    · simp [same]
  · simp [same]

theorem recalled_due {s : Schedule} {log : List Entry} {k : String} {keys : List String} (now : Nat)
    (distinct : keys.Nodup) (h : stateOf s.states k = recalled log k) :
    stateOf (s.due keys now).2.states k =
      recalled (log ++ [.swept keys now (s.due keys now).1]) k := by
  have given : (s.due keys now).1 = keys.filter fun k => s.isDue (stateOf s.states k) now :=
    s.sweep_due now distinct s.states .empty
  rw [stateOf_due s distinct, h, recalled, recalled, failuresIn_snoc, lastIn?_snoc, given]
  simp only [Entry.clears, Entry.fails, Entry.drops, Entry.given?]
  by_cases listed : k ∈ keys
  · simp only [listed, not_true_eq_false, decide_false, if_true, Bool.false_eq_true, if_false,
      List.mem_filter, h, recalled, true_and, Nat.add_zero, visit]
    split_ifs <;> rfl
  · simp [listed, PollState.fresh]

theorem recalled_after {s : Schedule} {qs : List Query} (fresh : s.states = .empty)
    (distinct : ∀ q ∈ qs, q.Distinct) (k : String) :
    stateOf (s.after qs).states k = recalled (s.log qs) k := by
  induction qs using List.reverseRecOn with
  | nil =>
    change stateOf s.states k = recalled [] k
    rw [fresh]
    rfl
  | append_singleton before q ih =>
    have h := ih fun r there => distinct r (List.mem_append_left _ there)
    have own := distinct q (List.mem_append_right _ List.mem_cons_self)
    rw [after_snoc, log_append]
    cases q with
    | record key success => exact recalled_record key success h
    | due keys now => exact recalled_due now own h

theorem isDue_recalled {s : Schedule} (fits : s.patience < UInt32.size) (log : List Entry)
    (now : Nat) (k : String) :
    s.isDue (recalled log k) now = dueAfter s.slow s.patience log now k := by
  have slowed : s.slowed (recalled log k) =
      !(decide (s.patience = 0) || decide (failuresIn log k < s.patience)) := by
    have count : (recalled log k).failures = min (failuresIn log k) (UInt32.size - 1) := rfl
    rw [slowed, count, Bool.eq_iff_iff]
    simp only [Bool.and_eq_true, Bool.not_eq_true', Bool.or_eq_false_iff, decide_eq_true_eq,
      decide_eq_false_iff_not]
    omega
  have last : (recalled log k).lastPoll = lastIn? log k := rfl
  unfold isDue dueAfter
  rw [slowed, Bool.not_not, last]
  cases lastIn? log k with
  | none => exact (Bool.or_true _).symm
  | some last => rfl

section History

variable {s : Schedule} {qs : List Query} {k : String}

theorem due_after (fresh : s.states = .empty) (fits : s.patience < UInt32.size)
    (distinct : ∀ q ∈ qs, q.Distinct) {keys : List String} (once : keys.Nodup) (now : Nat) :
    ((s.after qs).due keys now).1 =
      keys.filter (dueAfter s.slow s.patience (s.log qs) now) := by
  obtain ⟨slow, patience⟩ := s.settings_after qs
  refine ((s.after qs).sweep_due now once _ .empty).trans (List.filter_congr fun k _ => ?_)
  rw [recalled_after fresh distinct, isDue_recalled (patience.symm ▸ fits), slow, patience]

theorem failures_after (fresh : s.states = .empty) (distinct : ∀ q ∈ qs, q.Distinct)
    (k : String) :
    (s.after qs).failures k = min (failuresIn (s.log qs) k) (UInt32.size - 1) := by
  have held := congrArg PollState.failures (recalled_after fresh distinct k)
  refine Eq.trans ?_ held
  rw [failures, stateOf]
  cases (s.after qs).states.get? k <;> rfl

theorem lastIn?_given {before after : List Query} {keys : List String} {start : Nat}
    (once : keys.Nodup) (given : k ∈ ((s.after before).due keys start).1)
    (listed : ∀ keys now, .due keys now ∈ after → k ∈ keys)
    (later : ∀ keys now, .due keys now ∈ after → start ≤ now) :
    ∃ last, lastIn? (s.log (before ++ .due keys start :: after)) k = some last ∧ start ≤ last := by
  have stays : ∀ e ∈ ((s.after before).due keys start).2.log after, e.drops k = false := by
    intro e there
    obtain ⟨q, among, t, rfl⟩ := mem_log there
    cases q with
    | record => rfl
    | due keys now => exact decide_eq_false (not_not_intro (listed keys now among))
  have own : Entry.drops k (.swept keys start ((s.after before).due keys start).1) = false := by
    have among := given
    rw [due, sweep_due _ _ once] at among
    exact decide_eq_false (not_not_intro (List.mem_filter.1 among).1)
  have split : s.log (before ++ .due keys start :: after) = s.log before ++
      .swept keys start ((s.after before).due keys start).1 ::
        ((s.after before).due keys start).2.log after := log_append ..
  rw [lastIn?, split, since_append own stays, List.findSome?_append]
  cases found : (((s.after before).due keys start).2.log after).reverse.findSome?
      (Entry.given? k) with
  | none =>
    refine ⟨start, ?_, Nat.le_refl start⟩
    rw [Option.none_or, List.findSome?_cons, Entry.given?, if_pos given]
  | some last =>
    refine ⟨last, rfl, ?_⟩
    obtain ⟨e, there, gave⟩ := List.exists_of_findSome?_eq_some found
    obtain ⟨q, among, t, rfl⟩ := mem_log (List.mem_reverse.1 there)
    cases q with
    | record => exact nomatch gave
    | due keys now =>
      have same : now = last := by
        change (if _ then some now else none) = some last at gave
        split at gave
        · exact Option.some.inj gave
        · exact nomatch gave
      exact same ▸ later keys now among

/-- A success since the last failure leaves no failure to count. -/
theorem failuresIn_success {before after : List Query} (since : .record k false ∉ after) :
    failuresIn (s.log (before ++ .record k true :: after)) k = 0 := by
  have split : s.log (before ++ .record k true :: after) = s.log before ++
      .recorded k true :: ((s.after before).record k true).log after := log_append ..
  have here : Entry.clears k (.recorded k true) = true := by simp [Entry.clears]
  rw [failuresIn, split, since_append_stop here, List.countP_eq_zero]
  intro e counted
  obtain ⟨q, among, t, rfl⟩ := mem_log (mem_of_mem_since counted)
  cases q with
  | due => exact nofun
  | record key success =>
    intro failed
    change (decide (key = k) && !success) = true at failed
    simp only [Bool.and_eq_true, decide_eq_true_eq, Bool.not_eq_true'] at failed
    obtain ⟨rfl, rfl⟩ := failed
    exact since among

end History

theorem start_le {before after : List Query} {keys later : List String} {start now : Nat}
    (ordered : ((before ++ .due keys start :: after).filterMap Query.instant?).Pairwise (· ≤ ·))
    (there : .due later now ∈ after) : start ≤ now := by
  rw [List.filterMap_append, List.filterMap_cons] at ordered
  have follow := (List.pairwise_cons.1 (List.pairwise_append.1 ordered).2.1).1
  exact follow now (List.mem_filterMap.2 ⟨_, there, rfl⟩)

/-- What a schedule answers follows from the log of all that it was told and asked. The keys due are
those of the list, in its order, that are not slowed down, were not given out yet or were so long
enough ago; the failures of a key are those since its last success or since it was last not listed,
as far as they can be counted. So while a key stays listed, and time does not run back, it is given
out slowed down only when the slow interval has passed since it was given out before; and a key that
succeeded and has not failed since is due. -/
theorem schedule_follows_history (normal slow : Span) (patience : UInt32) (qs : List Query)
    (distinct : ∀ q ∈ qs, q.Distinct) :
    let s := make normal slow patience.toNat
    (∀ keys now, keys.Nodup → ((s.after qs).due keys now).1 =
      keys.filter (dueAfter slow patience.toNat (s.log qs) now)) ∧
    (∀ k, (s.after qs).failures k = min (failuresIn (s.log qs) k) (UInt32.size - 1)) ∧
    (∀ before keys start after k, qs = before ++ .due keys start :: after →
      k ∈ ((s.after before).due keys start).1 →
      (∀ keys now, .due keys now ∈ after → k ∈ keys) →
      ∀ keys now, keys.Nodup →
        ((qs ++ [Query.due keys now]).filterMap Query.instant?).Pairwise (· ≤ ·) →
        patience ≠ 0 → patience.toNat ≤ failuresIn (s.log qs) k →
        k ∈ ((s.after qs).due keys now).1 → start + slow.nanos ≤ now) ∧
    ∀ before k after, qs = before ++ .record k true :: after → .record k false ∉ after →
      ∀ keys now, keys.Nodup → k ∈ keys → k ∈ ((s.after qs).due keys now).1 := by
  intro s
  have answer {keys : List String} (once : keys.Nodup) (now : Nat) :
      ((s.after qs).due keys now).1 = keys.filter (dueAfter slow patience.toNat (s.log qs) now) :=
    due_after rfl patience.toNat_lt_size distinct once now
  refine ⟨fun keys now once => answer once now, failures_after rfl distinct, ?_, ?_⟩
  · intro before keys start after k parts given listed later now once ordered slows failed there
    rw [answer once, List.mem_filter] at there
    obtain ⟨-, is⟩ := there
    subst parts
    rw [List.append_assoc, List.cons_append] at ordered
    obtain ⟨last, found, between⟩ := lastIn?_given
      (distinct _ (List.mem_append_right _ List.mem_cons_self)) given listed fun keys now among =>
        start_le ordered (List.mem_append_left _ among)
    have since : start ≤ now := start_le ordered (List.mem_append_right _ List.mem_cons_self)
    have positive : patience.toNat ≠ 0 := fun zero => slows (UInt32.toNat_inj.1 zero)
    have waited : slow.nanos ≤ now - last := by
      simpa [dueAfter, found, positive, Nat.not_lt.2 failed] using is
    omega
  · intro before k after parts since keys now once listed
    subst parts
    rw [answer once, List.mem_filter]
    refine ⟨listed, ?_⟩
    rw [dueAfter, failuresIn_success since]
    cases patience.toNat <;> simp

abbrev sampleKeys : List String := ["default/a", "default/b"]

/-- One of two keys fails twice, so that it waits at the next sweep, and the other succeeds. -/
def slowing : List Query :=
  [.due sampleKeys 0, .record "default/a" false, .record "default/a" false,
    .due sampleKeys 60000000000, .record "default/b" true]

theorem failing_key_slows_down :
    let s := make (.ofSeconds 60) (.ofSeconds 300) 2
    ((s.after slowing).due sampleKeys 60000000000).1 = ["default/b"] ∧
    (s.after slowing).failures "default/a" = 2 ∧
    "default/a" ∈ ((s.after slowing).due sampleKeys 300000000000).1 ∧
    0 + (Span.ofSeconds 300).nanos ≤ 300000000000 ∧
    "default/b" ∈ ((s.after slowing).due sampleKeys 300000000000).1 := by
  intro s
  obtain ⟨due, count, apart, again⟩ := schedule_follows_history (.ofSeconds 60) (.ofSeconds 300) 2
    slowing (by simp [slowing, Query.Distinct])
  have waited : "default/a" ∈ ((s.after slowing).due sampleKeys 300000000000).1 := by
    decide +kernel
  refine ⟨(due _ _ (by decide)).trans (by decide +kernel), (count _).trans (by decide +kernel),
    waited, ?_, ?_⟩
  · exact apart [] sampleKeys 0 _ "default/a" rfl (by decide +kernel)
      (by simp [sampleKeys]) sampleKeys 300000000000 (by decide) (by decide +kernel)
      (by decide) (by decide +kernel) waited
  · exact again (slowing.take 4) "default/b" [] rfl (by simp) sampleKeys 300000000000 (by decide)
      (by decide)

end Schedule

end SecretSync
