import SecretSync.Proofs.Controller.Schedule
import SecretSync.Proofs.Store.Snapshots

/-!
Calls that are refused. Every check comes before the first change, so a refused call uses up the
failure that was set for it, if it was that, and leaves everything else as it is. A failure that was
set is met by the next call of the operation that names its object, whatever comes in between. What
the journal tells of is what was accepted.
-/
namespace SecretSync

def StoreError.of? : Except StoreError α → Option StoreError
  | .error e => some e
  | .ok _ => none

namespace StoreCall

def operation? : StoreCall → Option Operation
  | .getSecret _ => some .getSecret
  | .getBinding _ => some .getBinding
  | .listBindings => some .listBindings
  | .createSecret _ => some .createSecret
  | .updateSecret _ => some .updateSecret
  | .updateStatus _ => some .updateStatus
  | _ => none

/-- Whether the object to be written, if there is one, names both parts of its key. -/
def complete : StoreCall → Bool
  | .createSecret s => s.metadata.writeKey.isOk
  | .updateSecret s => s.metadata.writeKey.isOk
  | .updateStatus b => b.metadata.writeKey.isOk
  | _ => true

/-- Whether a call of an operation comes so far as to meet a failure that was set for it. -/
def meets (op : Operation) (q : StoreCall) : Bool := decide (q.operation? = some op) && q.complete

end StoreCall

namespace Served

def error? : Served → Option StoreError
  | ⟨.getSecret _, r⟩ => StoreError.of? r
  | ⟨.getBinding _, r⟩ => StoreError.of? r
  | ⟨.listBindings, r⟩ => StoreError.of? r
  | ⟨.createSecret _, r⟩ => StoreError.of? r
  | ⟨.updateSecret _, r⟩ => StoreError.of? r
  | ⟨.updateStatus _, r⟩ => StoreError.of? r
  | _ => none

def write? : Served → Option Write
  | ⟨.createSecret s, r⟩ => r.toOption.bind fun _ => some (.createSecret s.metadata.key)
  | ⟨.updateSecret s, r⟩ => r.toOption.bind fun _ => some (.updateSecret s.metadata.key)
  | ⟨.updateStatus b, r⟩ => r.toOption.bind fun _ =>
      some (.updateStatus b.metadata.key (b.status.bind Binding.Status.secretHash))
  | _ => none

def meets (op : Operation) (e : Served) : Bool := e.call.meets op

def unavailable (e : Served) : Bool :=
  match e.error? with
  | some (.unavailable _) => true
  | _ => false

def clears : Served → Bool
  | ⟨.clearJournal, _⟩ => true
  | _ => false

end Served

namespace Cluster

/-- What becomes of a call of an operation: a failure that was set for it is used up, or it is
refused for a reason of its own, or it is answered and the journal tells of what it wrote. -/
inductive Fate (c : Cluster) (op : Operation) (complete : Bool) (error : Option StoreError)
    (write : Option Write) (d : Cluster) : Prop
  | failed (named : complete = true) (left : 0 < c.failures op)
      (error : error = some (.unavailable ("injected failure for " ++ op.name)))
      (write : write = none) (state : d = c.failNext op (c.failures op - 1))
  | refused (e : StoreError) (calm : complete = true → c.failures op = 0)
      (own : ∀ text, e ≠ .unavailable text) (error : error = some e) (write : write = none)
      (state : d = c)
  | answered (named : complete = true) (calm : c.failures op = 0) (error : error = none)
      (failures : d.failures = c.failures) (journal : d.journal = c.journal ++ write.toList)

section Call

variable (c : Cluster) {op : Operation}

theorem fate_attempt {call : Answer α} {write : α → Option Write}
    (calmly : c.failures op = 0 → Fate c op true (StoreError.of? call.1)
      (call.1.toOption.bind write) call.2) :
    Fate c op true (StoreError.of? (c.attempt op call).1)
      ((c.attempt op call).1.toOption.bind write) (c.attempt op call).2 := by
  unfold attempt
  by_cases left : 0 < c.failures op
  · rw [if_pos left]
    exact .failed rfl left rfl rfl rfl
  · rw [if_neg left]
    exact calmly (by omega)

theorem fate_read (op : Operation) (found : α) :
    Fate c op true (StoreError.of? (c.attempt op (.ok found, c)).1) none
      (c.attempt op (.ok found, c)).2 := by
  have answered (calm : c.failures op = 0) : Fate c op true none none c :=
    .answered rfl calm rfl rfl (List.append_nil _).symm
  have fate : Fate c op true _ ((c.attempt op (.ok found, c)).1.toOption.bind fun _ => none) _ :=
    fate_attempt c answered
  rwa [Option.bind_fun_none] at fate

theorem own_of_writeKey {m : Meta} {e : StoreError} (incomplete : m.writeKey = .error e)
    (text : String) : e ≠ .unavailable text := by
  rintro rfl
  unfold Meta.writeKey at incomplete
  split at incomplete <;> cases incomplete

theorem fate_createSecret (s : Secret) :
    Fate c .createSecret s.metadata.writeKey.isOk (StoreError.of? (c.createSecret s).1)
      ((c.createSecret s).1.toOption.bind fun _ => some (.createSecret s.metadata.key))
      (c.createSecret s).2 := by
  unfold createSecret
  cases named : s.metadata.writeKey with
  | error e => exact .refused e nofun (own_of_writeKey named) rfl rfl rfl
  | ok k =>
    refine fate_attempt c fun calm => ?_
    cases c.secrets.get? k with
    | some existing => exact .refused _ (fun _ => calm) (by nofun) rfl rfl rfl
    | none => exact .answered rfl calm rfl rfl (Meta.key_of_writeKey named ▸ rfl)

theorem fate_updateSecret (s : Secret) :
    Fate c .updateSecret s.metadata.writeKey.isOk (StoreError.of? (c.updateSecret s).1)
      ((c.updateSecret s).1.toOption.bind fun _ => some (.updateSecret s.metadata.key))
      (c.updateSecret s).2 := by
  unfold updateSecret
  cases named : s.metadata.writeKey with
  | error e => exact .refused e nofun (own_of_writeKey named) rfl rfl rfl
  | ok k =>
    refine fate_attempt c fun calm => ?_
    cases c.secrets.get? k with
    | none => exact .refused _ (fun _ => calm) (by nofun) rfl rfl rfl
    | some existing =>
      dsimp only
      split
      · exact .answered rfl calm rfl rfl (Meta.key_of_writeKey named ▸ rfl)
      · exact .refused _ (fun _ => calm) (by nofun) rfl rfl rfl

theorem fate_updateStatus (b : Binding) :
    Fate c .updateStatus b.metadata.writeKey.isOk (StoreError.of? (c.updateStatus b).1)
      ((c.updateStatus b).1.toOption.bind fun _ =>
        some (.updateStatus b.metadata.key (b.status.bind Binding.Status.secretHash)))
      (c.updateStatus b).2 := by
  unfold updateStatus
  cases named : b.metadata.writeKey with
  | error e => exact .refused e nofun (own_of_writeKey named) rfl rfl rfl
  | ok k =>
    refine fate_attempt c fun calm => ?_
    cases c.bindings.get? k with
    | none => exact .refused _ (fun _ => calm) (by nofun) rfl rfl rfl
    | some existing => exact .answered rfl calm rfl rfl (Meta.key_of_writeKey named ▸ rfl)

end Call

end Cluster

namespace SharedCluster

section Call

variable (c : SharedCluster) {op : Operation}

theorem fate_serve {q : StoreCall} (of : q.operation? = some op) :
    ∃ d, (c.serve q).2 = { c with cluster := d } ∧
      Cluster.Fate c.cluster op q.complete (c.served q).error? (c.served q).write? d := by
  cases q with
  | getSecret k =>
    cases of
    exact ⟨_, rfl, Cluster.fate_read c.cluster .getSecret (c.cluster.secrets.get? k)⟩
  | getBinding k =>
    cases of
    exact ⟨_, rfl, Cluster.fate_read c.cluster .getBinding (c.cluster.bindings.get? k)⟩
  | listBindings =>
    cases of
    exact ⟨_, rfl, Cluster.fate_read c.cluster .listBindings c.cluster.bindings.values⟩
  | createSecret s =>
    cases of
    exact ⟨_, rfl, Cluster.fate_createSecret c.cluster s⟩
  | updateSecret s =>
    cases of
    exact ⟨_, rfl, Cluster.fate_updateSecret c.cluster s⟩
  | updateStatus b =>
    cases of
    exact ⟨_, rfl, Cluster.fate_updateStatus c.cluster b⟩
  | _ => cases of

theorem goOn_quiet (i : Nat) : (c.goOn i).2.cluster.failures = c.cluster.failures ∧
    (c.goOn i).2.cluster.journal = c.cluster.journal := by
  unfold goOn
  split
  · exact ⟨rfl, rfl⟩
  · rename_i x there
    cases x <;> exact ⟨rfl, rfl⟩

theorem operation_of_error {q : StoreCall} {e : StoreError}
    (failed : (c.served q).error? = some e) : ∃ op, q.operation? = some op := by
  cases q with
  | getSecret | getBinding | listBindings | createSecret | updateSecret | updateStatus =>
    exact ⟨_, rfl⟩
  | _ => cases failed

/-- A call that fails has used up a failure that was set for it, or it has done nothing. -/
theorem failed_leaves_cluster {q : StoreCall} {e : StoreError}
    (failed : (c.served q).error? = some e) : ∃ op, q.operation? = some op ∧
      (e = .unavailable ("injected failure for " ++ op.name) ∧ 0 < c.cluster.failures op ∧
          (c.serve q).2 =
            { c with cluster := c.cluster.failNext op (c.cluster.failures op - 1) } ∨
        (∀ text, e ≠ .unavailable text) ∧ (c.serve q).2 = c) := by
  obtain ⟨op, of⟩ := operation_of_error c failed
  obtain ⟨d, after, fate⟩ := fate_serve c of
  refine ⟨op, of, ?_⟩
  rw [after]
  cases fate with
  | failed _ left error _ state =>
    exact .inl ⟨Option.some.inj (failed.symm.trans error), left, by rw [state]⟩
  | refused x _ own error _ state =>
    cases failed.symm.trans error
    exact .inr ⟨own, by rw [state]⟩
  | answered _ _ error => exact nomatch failed.symm.trans error

end Call

section Failures

variable {c : SharedCluster} {op : Operation} {q : StoreCall}

theorem unavailable_of_own {e : Served} {x : StoreError} (error : e.error? = some x)
    (own : ∀ text, x ≠ .unavailable text) : e.unavailable = false := by
  unfold Served.unavailable
  rw [error]
  cases x with
  | unavailable text => exact absurd rfl (own text)
  | _ => rfl

theorem served_meeting (meets : q.meets op = true) :
    (c.served q).unavailable = decide (0 < c.cluster.failures op) ∧
      (c.serve q).2.cluster.failures op = c.cluster.failures op - 1 := by
  rw [StoreCall.meets, Bool.and_eq_true, decide_eq_true_eq] at meets
  obtain ⟨of, complete⟩ := meets
  obtain ⟨d, after, fate⟩ := fate_serve c of
  rw [after]
  cases fate with
  | failed _ left error _ state =>
    rw [state, Served.unavailable, error, decide_eq_true left]
    exact ⟨rfl, if_pos rfl⟩
  | refused x calm own error _ state =>
    rw [state, unavailable_of_own error own, calm complete]
    exact ⟨rfl, rfl⟩
  | answered _ calm error failures =>
    rw [Served.unavailable, error, failures, calm]
    exact ⟨rfl, rfl⟩

theorem failures_kept (apart : q.meets op = false) (unset : ∀ times, q ≠ .failNext op times) :
    (c.serve q).2.cluster.failures op = c.cluster.failures op := by
  cases of : q.operation? with
  | some other =>
    obtain ⟨d, after, fate⟩ := fate_serve c of
    rw [after]
    cases fate with
    | failed named _ _ _ state =>
      have ne : op ≠ other := by
        rintro rfl
        rw [StoreCall.meets, of, named, decide_eq_true rfl] at apart
        exact nomatch apart
      rw [state]
      exact if_neg ne
    | refused _ _ _ _ _ state => rw [state]
    | answered _ _ _ failures => rw [failures]
  | none =>
    cases q with
    | failNext other times =>
      have ne : op ≠ other := by
        rintro rfl
        exact unset times rfl
      exact if_neg ne
    | goOn i => exact congrFun (c.goOn_quiet i).1 op
    | getSecret | getBinding | listBindings | createSecret | updateSecret | updateStatus => cases of
    | _ => rfl

/-- A write that does not name its object fails for that, whatever was set. -/
theorem available_of_incomplete (incomplete : q.complete = false) :
    (c.served q).unavailable = false := by
  cases of : q.operation? with
  | some op =>
    obtain ⟨d, -, fate⟩ := fate_serve c of
    cases fate with
    | failed named => exact nomatch incomplete.symm.trans named
    | refused x _ own error => exact unavailable_of_own error own
    | answered _ _ error => rw [Served.unavailable, error]
  | none =>
    cases q with
    | getSecret | getBinding | listBindings | createSecret | updateSecret | updateStatus => cases of
    | _ => cases incomplete

/-- Of the calls in a run that meet a failure, the first ones fail by it, as many as were set. -/
theorem unavailable_iff_lt {calls : List StoreCall} (unset : ∀ times, .failNext op times ∉ calls)
    {i : Nat} {e : Served} (there : ((c.transcript calls).filter (Served.meets op))[i]? = some e) :
    e.unavailable = true ↔ i < c.cluster.failures op := by
  induction calls generalizing c i with
  | nil => exact nomatch there
  | cons q rest ih =>
    have later : ∀ times, .failNext op times ∉ rest := fun times among =>
      unset times (List.mem_cons_of_mem _ among)
    rw [transcript] at there
    cases meets : (c.served q).meets op with
    | true =>
      -- one failure is used up and one meeting call is passed, so the index stays below what is left
      obtain ⟨fails, left⟩ := served_meeting (c := c) (q := q) meets
      rw [List.filter_cons_of_pos meets] at there
      cases i with
      | zero =>
        cases there
        rw [fails, decide_eq_true_eq]
      | succ i =>
        rw [ih later there, left]
        omega
    | false =>
      rw [List.filter_cons_of_neg (Bool.eq_false_iff.1 meets)] at there
      rw [ih later there, failures_kept (q := q) meets]
      rintro times rfl
      exact unset times List.mem_cons_self

theorem complete_of_unavailable {calls : List StoreCall} {e : Served}
    (among : e ∈ c.transcript calls) (fails : e.unavailable = true) : e.call.complete = true := by
  induction calls generalizing c with
  | nil => exact nomatch among
  | cons q rest ih =>
    rcases List.mem_cons.1 among with rfl | later
    · cases complete : q.complete with
      | true => exact complete
      | false => exact nomatch (available_of_incomplete (c := c) complete).symm.trans fails
    · exact ih later

end Failures

section Journal

/-- What the journal is to tell of a run: the accepted writes since it was last cleared. -/
def told (log : List Served) : List Write :=
  (since Served.clears log).reverse.filterMap Served.write?

theorem told_snoc (log : List Served) (e : Served) :
    told (log ++ [e]) = if e.clears then [] else told log ++ e.write?.toList := by
  unfold told
  rw [since_snoc]
  split
  · rfl
  · rw [List.reverse_cons, List.filterMap_append, List.filterMap_cons, List.filterMap_nil]
    cases e.write? <;> rfl

theorem journal_serve (c : SharedCluster) (q : StoreCall) : (c.serve q).2.cluster.journal =
    if (c.served q).clears then [] else c.cluster.journal ++ (c.served q).write?.toList := by
  cases of : q.operation? with
  | some op =>
    have stays : (c.served q).clears = false := by
      cases q <;> first | rfl | cases of
    obtain ⟨d, after, fate⟩ := fate_serve c of
    rw [stays, if_neg Bool.false_ne_true, after]
    cases fate with
    | failed _ _ _ write state =>
      rw [state, write]
      exact (List.append_nil _).symm
    | refused _ _ _ _ write state =>
      rw [state, write]
      exact (List.append_nil _).symm
    | answered _ _ _ _ journal => exact journal
  | none =>
    cases q with
    | getSecret | getBinding | listBindings | createSecret | updateSecret | updateStatus => cases of
    | clearJournal => rfl
    | goOn i => exact (c.goOn_quiet i).2.trans (List.append_nil _).symm
    | _ => exact (List.append_nil _).symm

theorem journal_after (calls : List StoreCall) :
    (start.after calls).cluster.journal = told (start.transcript calls) := by
  induction calls using List.reverseRecOn with
  | nil => rfl
  | append_singleton calls q ih =>
    rw [transcript_snoc, told_snoc, after_append, ← ih]
    exact journal_serve _ q

end Journal

end SharedCluster

/-- A call that fails changes nothing, but that a failure set for its operation is one less, if that
is why it failed. Of the calls that name their object, the first ones fail by the failures set for
their operation, and no others, whatever else is called in between. And the journal of a cluster
tells of the accepted writes since it was last cleared, in their order. -/
theorem failed_calls_leave_no_trace :
    (∀ (c : SharedCluster) q e, (c.served q).error? = some e → ∃ op, q.operation? = some op ∧
      (e = .unavailable ("injected failure for " ++ op.name) ∧ 0 < c.cluster.failures op ∧
          (c.serve q).2 =
            { c with
              cluster :=
                { c.cluster with
                  failures := fun o =>
                    if o = op then c.cluster.failures op - 1 else c.cluster.failures o } } ∨
        (∀ text, e ≠ .unavailable text) ∧ (c.serve q).2 = c)) ∧
    (∀ (c : SharedCluster) op n calls, (∀ times, .failNext op times ∉ calls) →
      let run := (c.serve (.failNext op n)).2.transcript calls
      (∀ i e, (run.filter (Served.meets op))[i]? = some e → (e.unavailable = true ↔ i < n)) ∧
      ∀ e ∈ run, e.call.operation? = some op → e.unavailable = true → e.meets op = true) ∧
    ∀ calls, (SharedCluster.start.after calls).cluster.journal =
      SharedCluster.told (SharedCluster.start.transcript calls) := by
  refine ⟨fun c q e failed => c.failed_leaves_cluster failed, fun c op n calls unset => ⟨?_, ?_⟩,
    SharedCluster.journal_after⟩
  · intro i e there
    have set : (c.serve (.failNext op n)).2.cluster.failures op = n := if_pos rfl
    rw [SharedCluster.unavailable_iff_lt unset there, set]
  · intro e among of fails
    rw [Served.meets, StoreCall.meets, of, SharedCluster.complete_of_unavailable among fails,
      decide_eq_true rfl]
    rfl

/-- A failure set for creating a Secret is not met by one without a name, nor by a look at a
binding, but by the next Secret that has one, and by no other after that. -/
theorem set_failure_refuses_one_write :
    let c := (SharedCluster.start.serve (.failNext .createSecret 1)).2
    let q := StoreCall.createSecret .bare
    let calls := [.createSecret .empty, .getBinding ⟨"default", "db-cred"⟩, q, q]
    let run := c.transcript calls
    (c.served q).error? = some (.unavailable "injected failure for CreateSecret") ∧
    (c.serve q).2 = (c.serve (.failNext .createSecret 0)).2 ∧
    (∃ e, (run.filter (Served.meets .createSecret))[0]? = some e ∧ e.unavailable = true) ∧
    (∃ e, (run.filter (Served.meets .createSecret))[1]? = some e ∧ ¬ e.unavailable = true) ∧
    (c.after calls).cluster.journal = [.createSecret ⟨"default", "db-secret"⟩] := by
  intro c q calls run
  obtain ⟨fails, meeting, _⟩ := failed_calls_leave_no_trace
  have failed : (c.served q).error? = some (.unavailable "injected failure for CreateSecret") := rfl
  have unset : ∀ times, StoreCall.failNext .createSecret times ∉ calls := by simp [calls, q]
  have first := (meeting SharedCluster.start .createSecret 1 calls unset).1
  refine ⟨failed, ?_, ⟨_, rfl, (first 0 _ rfl).2 Nat.one_pos⟩,
    ⟨_, rfl, fun hit => absurd ((first 1 _ rfl).1 hit) (Nat.lt_irrefl 1)⟩, rfl⟩
  obtain ⟨op, of, ⟨-, -, after⟩ | ⟨own, -⟩⟩ := fails c q _ failed
  · cases of
    exact after
  · exact absurd rfl (own _)

end SecretSync
