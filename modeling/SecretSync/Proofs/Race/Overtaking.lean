import SecretSync.Proofs.Pass.Recovery
import SecretSync.Proofs.Race.Order

/-!
A spec sync and a poll of one binding at the same time. Each writes the Secret and then the status,
and the poll can overtake the spec sync between its two writes: then the late status tells of the
value of the spec sync while the Secret holds that of the poll. If the vault has gone back to the
value in the status, no poll looks at the Secret again. In every other order the polls make good.
-/
namespace SecretSync

open Digest (contentHash)

/-- The status that a call wrote: the pass, and the digest that it told. -/
def Call.landed? (c : Call) : Option (Nat × String) :=
  match c.request, c.answer with
  | .updateStatus b, .ok _ => (b.status.bind Binding.Status.secretHash).map fun h => (c.pass, h)
  | _, _ => none

def landed (history : List Call) : List (Nat × String) := history.filterMap Call.landed?

theorem landed_append (history : List Call) (c : Call) :
    landed (history ++ [c]) = landed history ++ c.landed?.toList := by
  cases h : c.landed? <;> simp [landed, h]

theorem landed_silent (history : List Call) {c : Call} (silent : c.landed? = none) :
    landed (history ++ [c]) = landed history := by
  rw [landed_append, silent, Option.toList_none, List.append_nil]

/-- Edits from outside that leave the binding and its Secret alone and let no call fail. -/
structure Edit.Spares (k out : Key) (e : Edit) : Prop where
  secret : ∀ w, (World.edit w e).cluster.secrets.get? out = w.cluster.secrets.get? out
  binding : ∀ w, (World.edit w e).cluster.bindings.get? k = w.cluster.bindings.get? k
  failures : ∀ w op, w.cluster.failures op = 0 → (World.edit w e).cluster.failures op = 0

theorem Edit.spares_vault (k out : Key) (v : Vault) : (Edit.vault v).Spares k out :=
  ⟨fun _ => rfl, fun _ => rfl, fun _ _ h => h⟩

namespace Phase

def wrote? : Phase → Option String
  | .written _ v _ | .recorded _ v _ | .unrecorded _ v _ _ => some v
  | _ => none

def digest? : Phase → Option String
  | .recorded _ v _ => some (contentHash v)
  | _ => none

def Cut : Phase → Prop
  | .unrecorded .. => True
  | _ => False

end Phase

/-- In which order the status writes of a spec sync and a poll landed, if they did. -/
inductive Landed : Option String → Option String → List (Nat × String) → Prop
  | nobody : Landed none none []
  | spec (x : String) : Landed (some x) none [(0, x)]
  | poll (y : String) : Landed none (some y) [(1, y)]
  | specFirst (x y : String) : Landed (some x) (some y) [(0, x), (1, y)]
  | pollFirst (x y : String) : Landed (some x) (some y) [(1, y), (0, x)]

theorem Landed.addSpec {c : Option String} {l : List (Nat × String)} (h : Landed none c l)
    (x : String) : Landed (some x) c (l ++ [(0, x)]) := by
  cases h with
  | nobody => exact .spec x
  | poll y => exact .pollFirst x y

theorem Landed.addPoll {a : Option String} {l : List (Nat × String)} (h : Landed a none l)
    (y : String) : Landed a (some y) (l ++ [(1, y)]) := by
  cases h with
  | nobody => exact .poll y
  | spec x => exact .specFirst x y

def Binding.Keeps (b : Binding) (there : Option Secret) : Option String → Prop
  | none => there = none
  | some x => ∃ s, there = some s ∧ s.value? b.spec.output.keyName = some x

/-- How a spec sync and a poll of one binding, in their phases, and the world stand to each other.
The status is the last that landed; the Secret holds the value of the poll, if that wrote it, and
else that of the spec sync; and the poll only writes over what the spec sync made. -/
structure Racing (k : Key) (b : Binding) (w : World) (history : List Call) (p₀ p₁ : Phase) :
    Prop where
  failures : ∀ op, w.cluster.failures op = 0
  binding : ∃ d, b.Alike d ∧ w.cluster.bindings.get? k = some d ∧
    d.status.bind Binding.Status.secretHash = (landed history).getLast?.map Prod.snd
  alike₀ : ∀ d, p₀.binding? = some d → b.Alike d
  alike₁ : ∀ d, p₁.binding? = some d → b.Alike d
  uncut₀ : ¬ p₀.Cut
  uncut₁ : ¬ p₁.Cut
  order : Landed p₀.digest? p₁.digest? (landed history)
  secret : b.Keeps (w.cluster.secrets.get? b.outputKey) (p₁.wrote?.or p₀.wrote?)
  after : p₀.wrote? = none → p₁.wrote? = none

theorem racing_start {k : Key} {b : Binding} {w : World} (calm : ∀ op, w.cluster.failures op = 0)
    (there : w.cluster.bindings.get? k = some b) (fresh : b.status = none)
    (free : w.cluster.secrets.get? b.outputKey = none) : Racing k b w [] .start .start where
  failures := calm
  binding := ⟨b, .refl b, there, by rw [fresh]; rfl⟩
  alike₀ _ h := nomatch h
  alike₁ _ h := nomatch h
  uncut₀ h := h
  uncut₁ h := h
  order := .nobody
  secret := free
  after _ := rfl

theorem Racing.edit {k : Key} {b : Binding} {w : World} {history : List Call} {p₀ p₁ : Phase}
    (h : Racing k b w history p₀ p₁) {e : Edit} (spares : e.Spares k b.outputKey) :
    Racing k b (w.edit e) history p₀ p₁ where
  failures op := spares.failures w op (h.failures op)
  binding := by rw [spares.binding]; exact h.binding
  alike₀ := h.alike₀
  alike₁ := h.alike₁
  uncut₀ := h.uncut₀
  uncut₁ := h.uncut₁
  order := h.order
  secret := by rw [spares.secret]; exact h.secret
  after := h.after

/-- A step after which a pass has written and told no more than before. -/
structure Phase.GoesOn (b : Binding) (p t : Phase) : Prop where
  wrote : t.wrote? = p.wrote?
  digest : t.digest? = p.digest?
  uncut : ¬ p.Cut → ¬ t.Cut
  alike : (∀ d, p.binding? = some d → b.Alike d) → ∀ d, t.binding? = some d → b.Alike d

theorem Phase.GoesOn.refl (b : Binding) (p : Phase) : p.GoesOn b p := ⟨rfl, rfl, id, id⟩

theorem Racing.goOn {k : Key} {b : Binding} {w w' : World} {history : List Call} {c : Call}
    {p₀ p₁ t₀ t₁ : Phase} (h : Racing k b w history p₀ p₁) (same : w.cluster.Same w'.cluster)
    (silent : c.landed? = none) (on₀ : p₀.GoesOn b t₀) (on₁ : p₁.GoesOn b t₁) :
    Racing k b w' (history ++ [c]) t₀ t₁ where
  failures op := Nat.le_zero.1 (h.failures op ▸ same.failures op)
  binding := by
    rw [same.bindings, landed_silent history silent]
    exact h.binding
  alike₀ := on₀.alike h.alike₀
  alike₁ := on₁.alike h.alike₁
  uncut₀ := on₀.uncut h.uncut₀
  uncut₁ := on₁.uncut h.uncut₁
  order := by
    rw [on₀.digest, on₁.digest, landed_silent history silent]
    exact h.order
  secret := by
    rw [same.secrets, on₀.wrote, on₁.wrote]
    exact h.secret
  after := by
    rw [on₀.wrote, on₁.wrote]
    exact h.after

section Steps

variable {key : String} {k : Key} {b : Binding} {w : World} {lane : Lane} {p t : Phase}

theorem silent_of_reads {q : Request} (i : Nat) (reads : q.writes = false) :
    (w.callBy i q).landed? = none := by
  cases q with
  | updateStatus => exact nomatch reads
  | _ => rfl

theorem goesOn_of_reads {q : Request} {r : q.Answer} (parsed : Key.parse? key = some k)
    (stored : ∀ d, w.cluster.bindings.get? k = some d → b.Alike d)
    (answered : (World.answer q w).1 = r) (taken : Phase.Step key lane p q r t)
    (reads : q.writes = false) : p.GoesOn b t := by
  cases taken with
  | found parsed' =>
    cases parsed.symm.trans parsed'
    refine ⟨rfl, rfl, id, fun _ d same => ?_⟩
    cases same
    exact stored _ (Cluster.getBinding_ok answered)
  | gone | lookupFailed | searchFailed | supplyFailed | fetchFailed | foreign | missing
  | pollSearchFailed => exact ⟨rfl, rfl, id, fun _ _ none => (nomatch none)⟩
  | present | vacant | supplied | fetched | claimed | noted | counted | timed =>
    exact ⟨rfl, rfl, id, id⟩
  | created | createFailed | updated | updateFailed | recorded | unrecorded => exact nomatch reads

theorem landed_of_recorded {d e : Binding} {v : String} {s : Secret} {m : Moment} (i : Nat)
    (named : d.metadata.writeKey = .ok k) (holds : d.HoldsFor v s)
    (stored : ∀ d, w.cluster.bindings.get? k = some d → b.Alike d)
    (answered : (World.answer (.updateStatus { d with status := some (d.observe s m) }) w).1 =
      .ok e) :
    b.Alike e ∧ e.status.bind Binding.Status.secretHash = some (contentHash v) ∧
      ∃ other,
        (World.answer (.updateStatus { d with status := some (d.observe s m) }) w).2.cluster =
        { w.cluster with
          bindings := w.cluster.bindings.insert k e
          versions := w.cluster.versions + 1
          journal := other } ∧
      (w.callBy i (.updateStatus { d with status := some (d.observe s m) })).landed? =
        some (i, contentHash v) := by
  obtain ⟨k', existing, named', there, rfl, after⟩ := Cluster.updateStatus_ok answered
  cases named.symm.trans named'
  have hash := holds.observe m
  refine ⟨(stored existing there).trans (Binding.alike_restated ..), hash, _, after, ?_⟩
  simp only [World.callBy, Call.landed?, answered, Option.bind_some, hash, Option.map_some]

theorem Racing.stored {history : List Call} {p₀ p₁ : Phase} (h : Racing k b w history p₀ p₁) :
    ∀ d, w.cluster.bindings.get? k = some d → b.Alike d := by
  intro d there
  obtain ⟨e, alike, there', _⟩ := h.binding
  cases there'.symm.trans there
  exact alike

theorem Racing.not_unrecorded {history : List Call} {p₀ p₁ : Phase} {d : Binding} {s : Secret}
    {m : Moment} {e : StoreError} (h : Racing k b w history p₀ p₁)
    (named : d.metadata.writeKey = .ok k) :
    (World.answer (.updateStatus { d with status := some (d.observe s m) }) w).1 ≠ .error e := by
  intro answered
  obtain ⟨stored, _, there, _⟩ := h.binding
  obtain ⟨_, left | gone⟩ := Cluster.updateStatus_error answered
  · rw [h.failures] at left
    exact Nat.lt_irrefl 0 left
  · have absent := gone k named
    exact nomatch absent.symm.trans there

theorem named_of_alike {d : Binding} (own : b.metadata.key = k) (alike : b.Alike d)
    (named : d.metadata.writeKey = .ok d.metadata.key) : d.metadata.writeKey = .ok k := by
  rw [named, alike.key, own]

/-- A Secret write that went through leaves the value of the pass that is ahead. -/
theorem Racing.placed {w' : World} {history : List Call} {c : Call} {d : Binding} {v : String}
    {s : Secret} {write : Write} {p₀ p₁ t₀ t₁ : Phase} (h : Racing k b w history p₀ p₁)
    (alike : b.Alike d) (placed : Cluster.Placed d v s write w.cluster w'.cluster)
    (silent : c.landed? = none) (wrote : t₁.wrote?.or t₀.wrote? = some v)
    (next₀ : t₀.digest? = p₀.digest? ∧ t₀.binding? = p₀.binding? ∧ ¬ t₀.Cut)
    (next₁ : t₁.digest? = p₁.digest? ∧ t₁.binding? = p₁.binding? ∧ ¬ t₁.Cut)
    (after : t₀.wrote? = none → t₁.wrote? = none) :
    Racing k b w' (history ++ [c]) t₀ t₁ := by
  obtain ⟨digest₀, binding₀, uncut₀⟩ := next₀
  obtain ⟨digest₁, binding₁, uncut₁⟩ := next₁
  refine ⟨?_, ?_, binding₀ ▸ h.alike₀, binding₁ ▸ h.alike₁, uncut₀, uncut₁, ?_, ?_, after⟩
  · rw [placed.failures]
    exact h.failures
  · rw [placed.bindings, landed_silent history silent]
    exact h.binding
  · rw [digest₀, digest₁, landed_silent history silent]
    exact h.order
  · rw [wrote, ← alike.outputKey]
    refine ⟨s, placed.get?, ?_⟩
    rw [← alike.spec]
    exact placed.holds.value

/-- The spec sync makes the Secret where none was, for no poll can have written one. -/
theorem Racing.created {history : List Call} {d : Binding} {owner : OwnerReference} {v : String}
    {s : Secret} {p₁ : Phase} (h : Racing k b w history (.fetched d v) p₁)
    (owned : d.ownerReference? = some owner)
    (answered : (World.answer (.createSecret (d.desired owner v)) w).1 = .ok s) :
    Racing k b (World.answer (.createSecret (d.desired owner v)) w).2
      (history ++ [w.callBy 0 (.createSecret (d.desired owner v))]) (.written d v s) p₁ := by
  obtain ⟨_, placed⟩ := Cluster.placed_created owned answered
  have unwritten : p₁.wrote? = none := h.after rfl
  refine h.placed (h.alike₀ d rfl) placed rfl ?_ ⟨rfl, rfl, id⟩ ⟨rfl, rfl, h.uncut₁⟩ ?_
  · rw [unwritten]
    rfl
  · intro never
    exact absurd never (Option.some_ne_none v)

/-- The poll writes over the Secret that is there, so the spec sync has made it. -/
theorem Racing.updated {history : List Call} {d : Binding} {owner : OwnerReference} {v : String}
    {e s : Secret} {p₀ : Phase} (h : Racing k b w history p₀ (.claimed d v e))
    (owned : d.ownerReference? = some owner)
    (answered : (World.answer (.updateSecret (d.desiredOver owner v e)) w).1 = .ok s) :
    Racing k b (World.answer (.updateSecret (d.desiredOver owner v e)) w).2
      (history ++ [w.callBy 1 (.updateSecret (d.desiredOver owner v e))]) p₀ (.written d v s) := by
  obtain ⟨⟨existing, met⟩, placed⟩ := Cluster.placed_updated owned answered
  have alike : b.Alike d := h.alike₁ d rfl
  refine h.placed alike placed rfl rfl ⟨rfl, rfl, h.uncut₀⟩ ⟨rfl, rfl, id⟩ ?_
  intro unwritten
  have absent := h.secret
  rw [unwritten, ← alike.outputKey, met] at absent
  exact absurd absent (Option.some_ne_none existing)

theorem Racing.told {history : List Call} {d e : Binding} {v : String} {s : Secret} {m : Moment}
    {p₀ p₁ t₀ t₁ : Phase} (i : Nat) (h : Racing k b w history p₀ p₁)
    (named : d.metadata.writeKey = .ok k) (holds : d.HoldsFor v s)
    (answered : (World.answer (.updateStatus { d with status := some (d.observe s m) }) w).1 =
      .ok e)
    (next₀ : t₀.wrote? = p₀.wrote? ∧ t₀.binding? = p₀.binding? ∧ ¬ t₀.Cut)
    (next₁ : t₁.wrote? = p₁.wrote? ∧ t₁.binding? = p₁.binding? ∧ ¬ t₁.Cut)
    (order : Landed t₀.digest? t₁.digest? (landed history ++ [(i, contentHash v)])) :
    Racing k b (World.answer (.updateStatus { d with status := some (d.observe s m) }) w).2
      (history ++ [w.callBy i (.updateStatus { d with status := some (d.observe s m) })])
      t₀ t₁ := by
  obtain ⟨alike, hash, other, after, tells⟩ := landed_of_recorded i named holds h.stored answered
  obtain ⟨wrote₀, binding₀, uncut₀⟩ := next₀
  obtain ⟨wrote₁, binding₁, uncut₁⟩ := next₁
  have last := landed_append history
    (w.callBy i (.updateStatus { d with status := some (d.observe s m) }))
  rw [tells, Option.toList_some] at last
  refine ⟨?_, ⟨e, alike, ?_, ?_⟩, binding₀ ▸ h.alike₀, binding₁ ▸ h.alike₁, uncut₀, uncut₁,
    last ▸ order, ?_, wrote₀ ▸ wrote₁ ▸ h.after⟩
  · rw [after]
    exact h.failures
  · rw [after]
    exact Table.get?_insert_self ..
  · rw [last, hash, List.getLast?_concat]
    rfl
  · rw [after, wrote₀, wrote₁]
    exact h.secret

theorem racing_spec {history : List Call} {p₀ p₁ : Phase} {q : Request}
    (parsed : Key.parse? key = some k) (own : b.metadata.key = k)
    (honest : ∀ c ∈ history, c.Honest) (path : Path key .spec (callsOf 0 history) p₀)
    (taken : Phase.Step key .spec p₀ q (World.answer q w).1 t) (h : Racing k b w history p₀ p₁) :
    Racing k b (World.answer q w).2 (history ++ [w.callBy 0 q]) t p₁ := by
  have backed := path.backed fun c made => honest c (List.mem_filter.1 made).1
  generalize answered : (World.answer q w).1 = r at taken
  by_cases reads : q.writes = false
  · exact h.goOn (idle_answer q w reads).cluster (silent_of_reads 0 reads)
      (goesOn_of_reads parsed h.stored answered taken reads) (.refl b p₁)
  cases taken with
  | created owned => exact h.created owned answered
  | createFailed owned =>
    refine h.goOn (Cluster.createSecret_error answered) rfl ?_ (.refl b p₁)
    exact ⟨rfl, rfl, id, fun _ _ none => (nomatch none)⟩
  | recorded =>
    rename_i d v s m e
    obtain ⟨_, ⟨_, _, stores⟩, placed⟩ := backed
    have named := named_of_alike own (h.alike₀ d rfl) placed
    exact h.told 0 named stores.holds answered ⟨rfl, rfl, id⟩ ⟨rfl, rfl, h.uncut₁⟩
      (h.order.addSpec _)
  | unrecorded =>
    rename_i d v s m e
    obtain ⟨_, _, placed⟩ := backed
    have named := named_of_alike own (h.alike₀ d rfl) placed
    exact absurd answered (h.not_unrecorded named)
  | _ => exact absurd rfl reads

theorem racing_poll {history : List Call} {p₀ p₁ : Phase} {q : Request}
    (parsed : Key.parse? key = some k) (own : b.metadata.key = k)
    (honest : ∀ c ∈ history, c.Honest) (path : Path key .poll (callsOf 1 history) p₁)
    (taken : Phase.Step key .poll p₁ q (World.answer q w).1 t) (h : Racing k b w history p₀ p₁) :
    Racing k b (World.answer q w).2 (history ++ [w.callBy 1 q]) p₀ t := by
  have backed := path.backed fun c made => honest c (List.mem_filter.1 made).1
  generalize answered : (World.answer q w).1 = r at taken
  by_cases reads : q.writes = false
  · exact h.goOn (idle_answer q w reads).cluster (silent_of_reads 1 reads)
      (.refl b p₀) (goesOn_of_reads parsed h.stored answered taken reads)
  cases taken with
  | updated owned => exact h.updated owned answered
  | updateFailed owned =>
    refine h.goOn (Cluster.updateSecret_error answered) rfl (.refl b p₀) ?_
    exact ⟨rfl, rfl, id, fun _ _ none => (nomatch none)⟩
  | recorded =>
    rename_i d v s m e
    obtain ⟨_, ⟨_, _, stores⟩, placed⟩ := backed
    have named := named_of_alike own (h.alike₁ d rfl) placed
    exact h.told 1 named stores.holds answered ⟨rfl, rfl, h.uncut₀⟩ ⟨rfl, rfl, id⟩
      (h.order.addPoll _)
  | unrecorded =>
    rename_i d v s m e
    obtain ⟨_, _, placed⟩ := backed
    have named := named_of_alike own (h.alike₁ d rfl) placed
    exact absurd answered (h.not_unrecorded named)
  | _ => exact absurd rfl reads

end Steps

theorem racing_run {key : String} {k : Key} {b : Binding} {w : World} (sound : w.cluster.Sound)
    (parsed : Key.parse? key = some k) (there : w.cluster.bindings.get? k = some b)
    (fresh : b.status = none) (free : w.cluster.secrets.get? b.outputKey = none)
    (calm : ∀ op, w.cluster.failures op = 0) (moves : List Move)
    (spares : ∀ e, Move.edit e ∈ moves → e.Spares k b.outputKey) :
    ∃ phases, Scene.Follows (Scene.bothPasses key)
        ((Scene.start w (Scene.bothPasses key)).run moves) phases ∧
      Racing k b ((Scene.start w (Scene.bothPasses key)).run moves).world
        ((Scene.start w (Scene.bothPasses key)).run moves).history (phases 0) (phases 1) := by
  refine Scene.follows_run (fun e => e.Spares k b.outputKey)
    (fun w history phases => Racing k b w history (phases 0) (phases 1)) ?_ ?_
    (Scene.follows_start sound _) (racing_start calm there fresh free) moves spares
  · intro w history phases i j q p _ job honest path taken racing
    match i, job with
    | 0, job =>
      cases job
      exact racing_spec parsed (sound.placed there) honest path taken racing
    | 1, job =>
      cases job
      exact racing_poll parsed (sound.placed there) honest path taken racing
  · intro w history phases e _ spared racing
    exact racing.edit spared

/-- A pass that returned has written the Secret and told its digest, or neither. -/
theorem Phase.Ends.settled {key : String} {lane : Lane} {p : Phase} {r : Except PassError Unit}
    (ends : Phase.Ends key lane p r) (uncut : ¬ p.Cut) :
    (p.wrote? = none ∧ p.digest? = none) ∨
      ∃ v, p.wrote? = some v ∧ p.digest? = some (contentHash v) := by
  cases ends with
  | created | updated => exact .inr ⟨_, rfl, rfl⟩
  | unrecorded => exact absurd trivial uncut
  | _ => exact .inl ⟨rfl, rfl⟩

/-- The poll overtook the spec sync: its status landed first, with another digest, and the last
digest is the one that the spec sync told. -/
def Overtaken (history : List Call) (last : String) : Prop :=
  ∃ digest, landed history = [(1, digest), (0, last)] ∧ digest ≠ last

theorem Racing.settled {key : String} {k : Key} {b : Binding} {w : World} {history : List Call}
    {p₀ p₁ : Phase} {r₀ r₁ : Except PassError Unit} {last : String}
    (h : Racing k b w history p₀ p₁) (ends₀ : Phase.Ends key .spec p₀ r₀)
    (ends₁ : Phase.Ends key .poll p₁ r₁)
    (told : (landed history).getLast?.map Prod.snd = some last) :
    ∃ s x, w.cluster.secrets.get? b.outputKey = some s ∧
      s.value? b.spec.output.keyName = some x ∧
      (contentHash x = last ↔ ¬ Overtaken history last) := by
  have order := h.order
  have secret := h.secret
  unfold Overtaken
  generalize landed history = l at order told ⊢
  rcases ends₀.settled h.uncut₀ with ⟨wrote₀, digest₀⟩ | ⟨x, wrote₀, digest₀⟩ <;>
    rcases ends₁.settled h.uncut₁ with ⟨wrote₁, digest₁⟩ | ⟨y, wrote₁, digest₁⟩ <;>
    rw [digest₀, digest₁] at order <;> rw [wrote₀, wrote₁] at secret
  -- Neither wrote: then no digest can have landed.
  · cases order
    exact nomatch told
  -- The poll alone cannot have written, since it needs the Secret of the spec sync.
  · have unwritten := h.after wrote₀
    exact nomatch unwritten.symm.trans wrote₁
  -- The spec sync alone wrote.
  · obtain ⟨s, there, value⟩ := secret
    refine ⟨s, x, there, value, ?_⟩
    cases order
    cases told
    exact iff_of_true rfl fun ⟨_, same, _⟩ => nomatch same
  -- Both wrote, so the Secret has the value of the poll, and the last digest is either of the two.
  · obtain ⟨s, there, value⟩ := secret
    refine ⟨s, y, there, value, ?_⟩
    cases order with
    | specFirst =>
      cases told
      exact iff_of_true rfl fun ⟨_, same, _⟩ => nomatch same
    | pollFirst =>
      cases told
      constructor
      · rintro same ⟨digest, first, differs⟩
        cases first
        exact differs same
      · intro none
        refine Decidable.byContradiction fun differs => ?_
        exact none ⟨_, rfl, differs⟩

/-- Whole polls have written the Secret for the value in the vault, since the digest in the status
was another. -/
structure Rewritten (k : Key) (b : Binding) (v : String) (w w' : World) : Prop where
  value : w.vault.value? b = some v
  changed : ∀ d, w.cluster.bindings.get? k = some d → d.observedHash ≠ contentHash v
  values : w'.vault.values = w.vault.values
  failures : ∀ op, w'.cluster.failures op ≤ w.cluster.failures op
  secret : ∃ s, w'.cluster.secrets.get? b.outputKey = some s ∧
    s.value? b.spec.output.keyName = some v

section Polls

variable {key : String} {k : Key} {b : Binding} {w w' : World}

theorem Rewritten.idle {v : String} {w'' : World} (h : Rewritten k b v w w') (i : Idle w' w'') :
    Rewritten k b v w w'' where
  value := h.value
  changed := h.changed
  values := i.values.trans h.values
  failures op := Nat.le_trans (i.cluster.failures op) (h.failures op)
  secret := by
    rw [i.cluster.secrets]
    exact h.secret

theorem rewritten_of_poll {w'' : World} {d : Binding} {result : Except PassError Unit}
    (calm : w.cluster.failures .updateStatus = 0)
    (h : Idle w w' ∨ ∃ v, Rewritten k b v w w') (alike : b.Alike d)
    (there : w'.cluster.bindings.get? k = some d) (upshot : Upshot .poll w' k d w'' result) :
    (Idle w w' ∧ Idle w' w'' ∧ (result = .ok () →
      ∃ v, w.vault.value? b = some v ∧ d.observedHash = contentHash v)) ∨
    ∃ v, Rewritten k b v w w'' := by
  have left : w'.cluster.failures .updateStatus = 0 := by
    rcases h with idle | ⟨v, rewritten⟩
    · exact Nat.le_zero.1 (calm ▸ idle.cluster.failures _)
    · exact Nat.le_zero.1 (calm ▸ rewritten.failures _)
  cases upshot with
  | untold v wrote untold failed => exact absurd left (Nat.ne_of_gt failed)
  | idle more content =>
    rcases h with idle | ⟨v, rewritten⟩
    · refine .inl ⟨idle, more, fun ok => ?_⟩
      obtain ⟨v, read, hash⟩ := content rfl ok
      exact ⟨v, (value?_congr idle.values b).symm.trans ((alike.value? _).symm.trans read), hash⟩
    · exact .inr ⟨v, rewritten.idle more⟩
  | told v wrote told =>
    obtain ⟨read, stored⟩ := wrote.stored alike
    rcases h with idle | ⟨v', rewritten⟩
    · refine .inr ⟨v, (value?_congr idle.values b).symm.trans read, fun e there' => ?_,
        wrote.values.trans idle.values,
        fun op => Nat.le_trans (wrote.failures op) (idle.cluster.failures op), stored⟩
      rw [idle.cluster.bindings] at there
      cases there'.symm.trans there
      exact wrote.changed rfl
    · rw [value?_congr rewritten.values, rewritten.value] at read
      cases read
      exact .inr ⟨_, rewritten.value, rewritten.changed, wrote.values.trans rewritten.values,
        fun op => Nat.le_trans (wrote.failures op) (rewritten.failures op), stored⟩

theorem rewritten_of_polls (parsed : Key.parse? key = some k)
    (calm : w.cluster.failures .updateStatus = 0) (tended : Tended k b w) (n : Nat) :
    Idle w (w.turns key (List.replicate n (.pass .poll))) ∨
      ∃ v, Rewritten k b v w (w.turns key (List.replicate n (.pass .poll))) := by
  induction n with
  | zero => exact .inl (.refl w)
  | succ n ih =>
    obtain ⟨sound, d, alike, there⟩ := (tended_turns parsed tended
      (List.replicate n (.pass .poll))).1
    rw [List.replicate_succ', World.turns_append]
    exact (rewritten_of_poll calm ih alike there (run_upshot .poll sound parsed there)).imp_left
      fun ⟨idle, more, _⟩ => idle.trans more

end Polls

theorem status_of_observed {d : Binding} {v : String} (h : d.observedHash = contentHash v) :
    d.status.bind Binding.Status.secretHash = some (contentHash v) := by
  unfold Binding.observedHash at h
  cases told : d.status.bind Binding.Status.secretHash with
  | none =>
    rw [told] at h
    exact absurd h.symm (Digest.contentHash_ne_empty v)
  | some digest =>
    rw [told] at h
    exact congrArg some h

/-- A race of a spec sync and a poll over a binding that has no status and no Secret yet, with no
failure and any changes in the vault, and then whole polls until one returns without an error: the
Secret holds a value with the digest of the one in the vault, unless the poll overtook the spec sync
and the vault is back at the value that the spec sync told. -/
theorem race_agrees_iff {key : String} {k : Key} {b : Binding} {w : World} (reachable : w.Reachable)
    (parsed : Key.parse? key = some k) (there : w.cluster.bindings.get? k = some b)
    (fresh : b.status = none) (free : w.cluster.secrets.get? b.outputKey = none)
    (calm : ∀ op, w.cluster.failures op = 0) (moves : List Move)
    (spares : ∀ e, Move.edit e ∈ moves → e.Spares k b.outputKey) {s : Scene}
    (raced : (Scene.start w (Scene.bothPasses key)).run moves = s)
    (done : s.returned = true) (n : Nat) {w' : World}
    (polls : s.world.turns key (List.replicate n (.pass .poll)) = w')
    (ok : (World.run (Pass.vaultPoll key) w').1 = .ok ()) :
    ∃ v secret x, (World.run (Pass.vaultPoll key) w').2.vault.value? b = some v ∧
      (World.run (Pass.vaultPoll key) w').2.cluster.secrets.get? b.outputKey = some secret ∧
      secret.value? b.spec.output.keyName = some x ∧
      (contentHash x = contentHash v ↔ ¬ Overtaken s.history (contentHash v)) := by
  obtain ⟨phases, follows, racing⟩ :=
    racing_run reachable.sound parsed there fresh free calm moves spares
  rw [raced] at follows racing
  obtain ⟨r₀, ends₀⟩ := follows.ends done (i := 0) (j := ⟨.spec, key⟩) rfl
  obtain ⟨r₁, ends₁⟩ := follows.ends done (i := 1) (j := ⟨.poll, key⟩) rfl
  obtain ⟨d, alike, stored, told⟩ := racing.binding
  have tended : Tended k b s.world := ⟨follows.sound, d, alike, stored⟩
  obtain ⟨sound, e, alike', stored'⟩ := (tended_turns parsed tended
    (List.replicate n (.pass .poll))).1
  have before := rewritten_of_polls parsed (racing.failures _) tended n
  rw [polls] at sound stored' before
  rcases rewritten_of_poll (racing.failures _) before alike' stored'
    (run_upshot .poll sound parsed stored') with ⟨idle, more, content⟩ | ⟨v, rewritten⟩
  -- No poll wrote, so the last one was content with the digest that the race left in the status.
  · obtain ⟨v, read, hash⟩ := content ok
    rw [idle.cluster.bindings] at stored'
    cases stored.symm.trans stored'
    obtain ⟨secret, x, held, value, agrees⟩ :=
      racing.settled ends₀ ends₁ (told.symm.trans (status_of_observed hash))
    have whole := idle.trans more
    refine ⟨v, secret, x, (value?_congr whole.values b).trans read, ?_, value, agrees⟩
    rw [← whole.cluster.secrets] at held
    exact held
  -- Some poll wrote the value in the vault, since the status told another digest.
  · obtain ⟨secret, held, value⟩ := rewritten.secret
    refine ⟨v, secret, v, (value?_congr rewritten.values b).trans rewritten.value, held, value,
      iff_of_true rfl ?_⟩
    rintro ⟨digest, order, _⟩
    rw [order] at told
    refine rewritten.changed d stored ?_
    rw [Binding.observedHash, told]
    rfl

/-- The poll reads the old value; the spec sync reads the new one and makes the Secret; the poll
writes the old one over it, and its status; last comes the status of the spec sync. -/
def overtakingMoves : List Move :=
  List.replicate 2 (.call 1) ++ .edit (.vault (.sample "new")) ::
    (List.replicate 4 (.call 0) ++ List.replicate 6 (.call 1) ++ List.replicate 4 (.call 0))

theorem overtaking_spares {k out : Key} :
    ∀ e, Move.edit e ∈ overtakingMoves → e.Spares k out := by
  intro e there
  have only : e = .vault (.sample "new") := by simpa [overtakingMoves] using there
  exact only ▸ Edit.spares_vault k out _

def overtakingScene : Scene :=
  (Scene.start (.sample "old") (Scene.bothPasses "default/db-cred")).run overtakingMoves

theorem overtaking_agrees_iff : ∃ v secret x,
    (World.run (Pass.vaultPoll "default/db-cred") overtakingScene.world).2.vault.value? .sample =
      some v ∧
    (World.run (Pass.vaultPoll "default/db-cred") overtakingScene.world).2.cluster.secrets.get?
      Binding.sample.outputKey = some secret ∧
    secret.value? "password" = some x ∧
    (contentHash x = contentHash v ↔ ¬ Overtaken overtakingScene.history (contentHash v)) :=
  race_agrees_iff (World.sample_reachable "old") (by decide +kernel) (World.sample_binding "old")
    rfl rfl (fun _ => rfl) overtakingMoves overtaking_spares (s := overtakingScene) rfl
    (by decide +kernel) 0 rfl (ok_of_isOk (by decide +kernel))

theorem overtaking_loses_value :
    overtakingScene.returned = true ∧
    (World.run (Pass.vaultPoll "default/db-cred") overtakingScene.world).1 = .ok () ∧
    (World.run (Pass.vaultPoll "default/db-cred") overtakingScene.world).2.vault.value? .sample =
      some "new" ∧
    ((World.run (Pass.vaultPoll "default/db-cred") overtakingScene.world).2.cluster.secrets.get?
      Binding.sample.outputKey).bind (fun s => s.value? "password") = some "old" ∧
    contentHash "old" ≠ contentHash "new" :=
  ⟨by decide +kernel, ok_of_isOk (by decide +kernel), by decide +kernel, by decide +kernel,
    by decide +kernel⟩

end SecretSync
