import SecretSync.Proofs.Pass.Evaluation
import SecretSync.Proofs.Race.Ownership

namespace SecretSync

open Digest (contentHash)

/-- What can follow while objects and values are left alone: passes over any keys, reads of the
vault that are made to fail, and other times. -/
inductive Quiet where
  | pass (lane : Lane) (key : String)
  | failReads (times : Nat)
  | clock (now : Moment)

def Quiet.target? : Quiet → Option Key
  | .pass _ key => Key.parse? key
  | _ => none

def Write.ofSecret : Write → Bool
  | .createSecret _ | .updateSecret _ => true
  | .updateStatus .. => false

def Write.ofStatus : Write → Bool
  | .createSecret _ | .updateSecret _ => false
  | .updateStatus .. => true

namespace World

def quiet (w : World) : Quiet → World
  | .pass lane key => (run (lane.pass key) w).2
  | .failReads times => w.edit (.vault (w.vault.failNext times))
  | .clock now => w.edit (.clock now)

def quietly (w : World) (steps : List Quiet) : World := steps.foldl quiet w

def added (w : World) (s : Quiet) : List Write :=
  (w.quiet s).cluster.journal.drop w.cluster.journal.length

/-- The writes of all passes over one binding, in their order. -/
def writesOf (k : Key) : World → List Quiet → List Write
  | _, [] => []
  | w, s :: rest =>
    (if s.target? = some k then w.added s else []) ++ writesOf k (w.quiet s) rest

end World

/-- The value of a binding depends on what its spec names and on the values in the vault. -/
theorem value?_alike {u v : Vault} {b b' : Binding} (alike : b.Alike b')
    (same : u.values = v.values) : u.value? b' = v.value? b :=
  (alike.value? u).trans (value?_congr same b)

/-- What stays when nothing is done but passes. A Secret can change but not disappear or go to
another controller, and a status that tells of the value in the vault goes on to do so. -/
structure Keeps (w w' : World) : Prop where
  values : w'.vault.values = w.vault.values
  failures : ∀ op, w'.cluster.failures op ≤ w.cluster.failures op
  secrets : ∀ {k s}, w.cluster.secrets.get? k = some s →
    ∃ s', w'.cluster.secrets.get? k = some s' ∧ s'.controllerUid = s.controllerUid
  absent : ∀ {k}, w.cluster.bindings.get? k = none → w'.cluster.bindings.get? k = none
  bindings : ∀ {k b}, w.cluster.bindings.get? k = some b →
    ∃ b', b.Alike b' ∧ w'.cluster.bindings.get? k = some b' ∧
      ∀ v, w.vault.value? b = some v → b.observedHash = contentHash v →
        b'.observedHash = contentHash v

theorem Keeps.refl (w : World) : Keeps w w where
  values := rfl
  failures _ := Nat.le_refl _
  secrets there := ⟨_, there, rfl⟩
  absent none := none
  bindings {_ b} there := ⟨b, .refl b, there, fun _ _ told => told⟩

theorem Keeps.trans {w₀ w₁ w₂ : World} (h : Keeps w₀ w₁) (k : Keeps w₁ w₂) : Keeps w₀ w₂ where
  values := k.values.trans h.values
  failures op := Nat.le_trans (k.failures op) (h.failures op)
  secrets there := by
    obtain ⟨s', there', same⟩ := h.secrets there
    obtain ⟨s'', there'', same'⟩ := k.secrets there'
    exact ⟨s'', there'', same'.trans same⟩
  absent none := k.absent (h.absent none)
  bindings {_ b} there := by
    obtain ⟨b', alike, there', tells⟩ := h.bindings there
    obtain ⟨b'', alike', there'', tells'⟩ := k.bindings there'
    refine ⟨b'', alike.trans alike', there'', ?_⟩
    intro v value told
    apply tells' v
    · exact (value?_alike alike h.values).trans value
    · exact tells v value told

/-- What a pass wrote with the world around it: nothing, or a Secret and a status for its
binding. -/
inductive Written (lane : Lane) (key : String) (w w' : World) : Prop
  | idle : Idle w w' → Written lane key w w'
  | told (k : Key) (b : Binding) (v : String) : Key.parse? key = some k →
      w.cluster.bindings.get? k = some b → Wrote lane w b v w' → Told lane w k b v w' →
      Written lane key w w'

section Passes

variable {w : World} {lane : Lane} {key : String} {k : Key} {b : Binding}

theorem run_written (lane : Lane) (key : String) (sound : w.cluster.Sound)
    (calm : ∀ op, w.cluster.failures op = 0) :
    Written lane key w (World.run (lane.pass key) w).2 := by
  cases parsed : Key.parse? key with
  | none =>
    rw [World.run_invalid lane parsed]
    exact .idle (.refl w)
  | some k =>
    cases found : w.cluster.bindings.get? k with
    | none =>
      rw [World.run_gone lane (calm _) parsed found]
      exact .idle (.refl w)
    | some b =>
      cases run_upshot lane sound parsed found with
      | idle idle => exact .idle idle
      | told v wrote told => exact .told k b v parsed found wrote told
      | untold v wrote untold left =>
        have none := calm .updateStatus
        omega

structure Guards (key : String) (j : Key) (uid : Option String) (p : Phase) (w : World) :
    Prop where
  sound : w.cluster.Sound
  informed : Informed key w.cluster p
  kept : ∃ s, w.cluster.secrets.get? j = some s ∧ s.controllerUid = uid

theorem guards_step {j : Key} {uid : Option String} {p t : Phase} {q : Request}
    (h : Guards key j uid p w) (taken : Phase.Step key lane p q (World.answer q w).1 t) :
    Guards key j uid t (World.answer q w).2 := by
  have grows := World.grows_answer q w
  have informed := (informed_step h.sound rfl taken h.informed).grows grows
  refine ⟨h.sound.grows grows, informed, ?_⟩
  obtain ⟨s, there, same⟩ := h.kept
  obtain ⟨s', there', rfl | ⟨_, b, _, mine, mine'⟩⟩ := step_respects taken h.informed there
  · exact ⟨s', there', same⟩
  · have uid : s'.controllerUid = s.controllerUid :=
      (controllerUid_eq mine').trans (controllerUid_eq mine).symm
    exact ⟨s', there', uid.trans same⟩

/-- No pass takes a Secret away from its controller. -/
theorem run_keeps_controllers (lane : Lane) (key : String) (sound : w.cluster.Sound) {j : Key}
    {s : Secret} (there : w.cluster.secrets.get? j = some s) :
    ∃ s', (World.run (lane.pass key) w).2.cluster.secrets.get? j = some s' ∧
      s'.controllerUid = s.controllerUid := by
  have start : Guards key j s.controllerUid .start w := ⟨sound, informed_start _, s, there, rfl⟩
  obtain ⟨p, guards, _⟩ := (Pass.leads_pass lane).run guards_step start
  exact guards.kept

theorem Idle.keeps {w' : World} (h : Idle w w') : Keeps w w' where
  values := h.values
  failures := h.cluster.failures
  secrets {_ s} there := ⟨s, h.cluster.secrets ▸ there, rfl⟩
  absent none := h.cluster.bindings ▸ none
  bindings {_ b} there := ⟨b, .refl b, h.cluster.bindings ▸ there, fun _ _ told => told⟩

theorem Told.bindings {w' : World} {v : String} (told : Told lane w k b v w')
    (wrote : Wrote lane w b v w') (found : w.cluster.bindings.get? k = some b) {j : Key}
    {d : Binding} (there : w.cluster.bindings.get? j = some d) :
    ∃ d', d.Alike d' ∧ w'.cluster.bindings.get? j = some d' ∧
      ∀ x, w.vault.value? d = some x → d.observedHash = contentHash x →
        d'.observedHash = contentHash x := by
  obtain ⟨e, alike, hash, after⟩ := told.binding
  rw [after]
  by_cases same : k = j
  · subst same
    cases found.symm.trans there
    refine ⟨e, alike, Table.get?_insert_self .., ?_⟩
    intro x value _
    cases value.symm.trans wrote.value
    exact hash
  · exact ⟨d, .refl d, (Table.get?_insert_of_ne _ _ same).trans there, fun _ _ was => was⟩

theorem run_keeps (lane : Lane) (key : String) (sound : w.cluster.Sound)
    (calm : ∀ op, w.cluster.failures op = 0) : Keeps w (World.run (lane.pass key) w).2 := by
  cases run_written lane key sound calm with
  | idle idle => exact idle.keeps
  | told k b v parsed found wrote told =>
    refine ⟨wrote.values, wrote.failures, run_keeps_controllers lane key sound, ?_,
      told.bindings wrote found⟩
    intro j none
    obtain ⟨e, _, _, after⟩ := told.binding
    have apart : k ≠ j := by
      rintro rfl
      exact nomatch found.symm.trans none
    rw [after, Table.get?_insert_of_ne _ _ apart]
    exact none

end Passes

structure Calm (w : World) : Prop where
  sound : w.cluster.Sound
  unfailing : ∀ op, w.cluster.failures op = 0

theorem Calm.quiet {w : World} (h : Calm w) (s : Quiet) :
    Calm (w.quiet s) ∧ Keeps w (w.quiet s) := by
  cases s with
  | pass lane key =>
    have keeps := run_keeps lane key h.sound h.unfailing
    refine ⟨⟨sound_run _ h.sound, fun op => ?_⟩, keeps⟩
    exact Nat.le_zero.1 (h.unfailing op ▸ keeps.failures op)
  | failReads times => exact ⟨⟨h.sound, h.unfailing⟩, Idle.keeps ⟨.refl _, rfl⟩⟩
  | clock now => exact ⟨⟨h.sound, h.unfailing⟩, Idle.keeps ⟨.refl _, rfl⟩⟩

theorem Calm.quietly {w : World} (h : Calm w) (steps : List Quiet) :
    Calm (w.quietly steps) ∧ Keeps w (w.quietly steps) := by
  induction steps generalizing w with
  | nil => exact ⟨h, .refl w⟩
  | cons s steps ih =>
    obtain ⟨calm, keeps⟩ := h.quiet s
    obtain ⟨calm', keeps'⟩ := ih calm
    exact ⟨calm', keeps.trans keeps'⟩

section Rest

variable {w w' : World} {k : Key}

/-- A binding at rest: its Secret is there, and its status tells of the value in the vault. -/
structure Settled (k : Key) (w : World) : Prop where
  current : ∃ b v s, w.cluster.bindings.get? k = some b ∧ w.vault.value? b = some v ∧
    b.observedHash = contentHash v ∧ w.cluster.secrets.get? b.outputKey = some s

theorem Settled.keeps (h : Settled k w) (kept : Keeps w w') : Settled k w' := by
  obtain ⟨b, v, s, found, value, hash, there⟩ := h.current
  obtain ⟨b', alike, found', tells⟩ := kept.bindings found
  obtain ⟨s', there', _⟩ := kept.secrets there
  have value' := (value?_alike alike kept.values).trans value
  exact ⟨b', v, s', found', value', tells v value hash, alike.outputKey ▸ there'⟩

theorem settled_of_told {lane : Lane} {b : Binding} {v : String} (wrote : Wrote lane w b v w')
    (told : Told lane w k b v w') : Settled k w' := by
  obtain ⟨d, alike, hash, bindings⟩ := told.binding
  obtain ⟨s, _, secrets⟩ := wrote.secret
  refine ⟨d, v, s, bindings ▸ Table.get?_insert_self .., ?_, hash, ?_⟩
  · exact (value?_alike alike wrote.values).trans wrote.value
  · rw [secrets, alike.outputKey]
    exact Table.get?_insert_self ..

/-- A pass over a binding at rest finds nothing to write. -/
theorem Settled.idle {lane : Lane} {key : String} (h : Settled k w)
    (parsed : Key.parse? key = some k) (written : Written lane key w w') : Idle w w' := by
  cases written with
  | idle idle => exact idle
  | told j b v parsed' found wrote told =>
    obtain ⟨d, x, s, there, value, hash, stored⟩ := h.current
    cases parsed.symm.trans parsed'
    cases there.symm.trans found
    cases lane with
    | spec => exact nomatch (wrote.free rfl).symm.trans stored
    | poll =>
      cases value.symm.trans wrote.value
      exact absurd hash (wrote.changed rfl)

theorem added_of_idle {s : Quiet} (h : Idle w (w.quiet s)) : w.added s = [] := by
  rw [World.added, h.cluster.journal, List.drop_length]

theorem writesOf_settled (calm : Calm w) (h : Settled k w) (steps : List Quiet) :
    World.writesOf k w steps = [] := by
  induction steps generalizing w with
  | nil => rfl
  | cons s steps ih =>
    obtain ⟨calm', keeps⟩ := calm.quiet s
    have rest := ih calm' (h.keeps keeps)
    rw [World.writesOf, rest, List.append_nil]
    split
    · rename_i target
      cases s with
      | pass lane key =>
        exact added_of_idle (h.idle target (run_written lane key calm.sound calm.unfailing))
      | failReads times => exact nomatch target
      | clock now => exact nomatch target
    · rfl

/-- All passes over a binding together write nothing, or one Secret and then one status. -/
theorem writesOf_cases (calm : Calm w) (k : Key) (steps : List Quiet) :
    World.writesOf k w steps = [] ∨ ∃ (lane : Lane) (out : Key) (hash : String),
      World.writesOf k w steps = [lane.write out, .updateStatus k (some hash)] := by
  induction steps generalizing w with
  | nil => exact .inl rfl
  | cons s steps ih =>
    obtain ⟨calm', keeps⟩ := calm.quiet s
    rw [World.writesOf]
    split
    · rename_i target
      cases s with
      | pass lane key =>
        cases run_written lane key calm.sound calm.unfailing with
        | idle idle =>
          have none : w.added (.pass lane key) = [] := added_of_idle idle
          rw [none, List.nil_append]
          exact ih calm'
        | told j b v parsed found wrote told =>
          cases parsed.symm.trans target
          have rest := writesOf_settled calm' (settled_of_told wrote told) steps
          have first : w.added (.pass lane key) =
              [lane.write b.outputKey, .updateStatus k (some (contentHash v))] := by
            have journal := told.journal
            change (w.quiet (.pass lane key)).cluster.journal = _ at journal
            rw [World.added, journal, List.drop_left]
          refine .inr ⟨lane, b.outputKey, contentHash v, ?_⟩
          rw [first, rest, List.append_nil]
      | failReads times => exact nomatch target
      | clock now => exact nomatch target
    · rw [List.nil_append]
      exact ih calm'

end Rest

section Repetition

variable {w w' : World} {lane : Lane} {key : String} {k : Key} {b : Binding}

theorem controlledBy_iff {s : Secret} : s.metadata.controlledBy b = true ↔
    ∃ uid, s.controllerUid = some uid ∧ b.metadata.uid = some uid := by
  unfold Meta.controlledBy Secret.controllerUid
  cases s.metadata.controller? with
  | none => simp
  | some owner =>
    cases b.metadata.uid with
    | none => simp
    | some uid => simp [eq_comm]

theorem controlledBy_kept {s s' : Secret} {b' : Binding} (owned : s.metadata.controlledBy b = true)
    (alike : b.Alike b') (same : s'.controllerUid = s.controllerUid) :
    s'.metadata.controlledBy b' = true := by
  obtain ⟨uid, controller, own⟩ := controlledBy_iff.1 owned
  exact controlledBy_iff.2 ⟨uid, same.trans controller, alike.uid.trans own⟩

def Content (lane : Lane) (k : Key) (w : World) : Prop :=
  ∀ b, w.cluster.bindings.get? k = some b →
    match lane with
    | .spec => b.spec.output.name ≠ "" ∧
        ∃ s, w.cluster.secrets.get? b.outputKey = some s ∧ s.metadata.controlledBy b = true
    | .poll => ∃ v, w.vault.value? b = some v ∧ b.observedHash = contentHash v

theorem Content.keeps (h : Content lane k w) (kept : Keeps w w') : Content lane k w' := by
  intro b' found'
  cases found : w.cluster.bindings.get? k with
  | none => exact nomatch (kept.absent found).symm.trans found'
  | some b =>
    obtain ⟨d, alike, there, tells⟩ := kept.bindings found
    cases there.symm.trans found'
    have content := h b found
    cases lane with
    | spec =>
      obtain ⟨named, s, stored, owned⟩ := content
      obtain ⟨s', stored', same⟩ := kept.secrets stored
      refine ⟨alike.spec ▸ named, s', alike.outputKey ▸ stored', ?_⟩
      exact controlledBy_kept owned alike same
    | poll =>
      obtain ⟨v, value, hash⟩ := content
      exact ⟨v, (value?_alike alike kept.values).trans value, tells v value hash⟩

structure Searched (lane : Lane) (w₀ : World) (k : Key) (p : Phase) (w : World) : Prop where
  alone : Alone lane w₀ k p w
  present : ∀ b s, p = .present b s → w₀.cluster.secrets.get? b.outputKey = some s

theorem searched_step {p t : Phase} {q : Request} (sound : w.cluster.Sound)
    (parsed : Key.parse? key = some k) (h : Searched lane w k p w')
    (taken : Phase.Step key lane p q (World.answer q w').1 t) :
    Searched lane w k t (World.answer q w').2 := by
  refine ⟨alone_step sound parsed h.alone rfl taken, ?_⟩
  generalize answered : (World.answer q w').1 = r at taken
  cases taken with
  | present named =>
    intro b s same
    cases same
    have idle : Idle w w' := h.alone.1
    rw [← idle.cluster.secrets]
    exact Cluster.getSecret_ok answered
  | noted | counted | timed => exact h.present
  | _ =>
    intro b s same
    cases same

theorem run_searched (lane : Lane) (sound : w.cluster.Sound) (parsed : Key.parse? key = some k) :
    ∃ p, Searched lane w k p (World.run (lane.pass key) w).2 ∧
      Phase.Ends key lane p (World.run (lane.pass key) w).1 := by
  have start : Searched lane w k .start w := by
    refine ⟨Idle.refl w, ?_⟩
    intro b s same
    cases same
  exact (Pass.leads_pass lane).run (searched_step sound parsed) start

/-- After a spec sync without an error the Secret is there and belongs to the binding. -/
theorem owned_of_specSync (sound : w.cluster.Sound) (parsed : Key.parse? key = some k)
    (found : w.cluster.bindings.get? k = some b)
    (ok : (World.run (Lane.spec.pass key) w).1 = .ok ()) :
    ∃ s, (World.run (Lane.spec.pass key) w).2.cluster.secrets.get? b.outputKey = some s ∧
      s.metadata.controlledBy b = true := by
  obtain ⟨p, searched, ends⟩ := run_searched .spec sound parsed
  generalize (World.run (Lane.spec.pass key) w).1 = result at ok ends
  generalize (World.run (Lane.spec.pass key) w).2 = w' at searched ⊢
  have alone := searched.alone
  cases ends with
  | gone => exact nomatch alone.2.symm.trans found
  | present =>
    rename_i d s
    obtain ⟨idle, found'⟩ := alone
    cases found'.symm.trans found
    refine ⟨s, idle.cluster.secrets ▸ searched.present b s rfl, ?_⟩
    unfold Phase.verdict at ok
    split at ok
    · assumption
    · exact nomatch ok
  | created =>
    obtain ⟨found', wrote, _⟩ := alone
    cases found'.symm.trans found
    obtain ⟨s, holds, secrets⟩ := wrote.secret
    exact ⟨s, secrets ▸ Table.get?_insert_self .., holds.controlled⟩
  | _ => exact nomatch ok

theorem content_of_ok (calm : Calm w) (parsed : Key.parse? key = some k)
    (ok : (World.run (lane.pass key) w).1 = .ok ()) :
    Content lane k (World.run (lane.pass key) w).2 := by
  have keeps := run_keeps lane key calm.sound calm.unfailing
  intro b' found'
  cases found : w.cluster.bindings.get? k with
  | none => exact nomatch (keeps.absent found).symm.trans found'
  | some b =>
    obtain ⟨d, alike, there, _⟩ := keeps.bindings found
    obtain rfl : d = b' := Option.some.inj (there.symm.trans found')
    cases lane with
    | spec =>
      have named : b.spec.output.name ≠ "" := by
        intro nameless
        have failed := World.run_nameless (calm.unfailing _) parsed found nameless
        exact nomatch (congrArg Prod.fst failed).symm.trans ok
      obtain ⟨s, stored, owned⟩ := owned_of_specSync calm.sound parsed found ok
      refine ⟨alike.spec ▸ named, s, alike.outputKey ▸ stored, ?_⟩
      exact controlledBy_kept owned alike rfl
    | poll =>
      have value := value?_alike alike keeps.values
      cases run_upshot .poll calm.sound parsed found with
      | idle idle content =>
        obtain ⟨v, read, hash⟩ := content rfl ok
        rw [idle.cluster.bindings, found] at found'
        cases found'
        exact ⟨v, value.trans read, hash⟩
      | told v wrote told =>
        obtain ⟨e, _, hash, bindings⟩ := told.binding
        rw [bindings, Table.get?_insert_self] at found'
        cases found'
        exact ⟨v, value.trans wrote.value, hash⟩
      | untold v wrote untold left stuck => exact absurd ok stuck

/-- A pass over a binding that is content writes nothing. It returns without an error, unless it is
a poll and the vault refuses the read. -/
theorem Content.run (h : Content lane k w) (calm : Calm w) (parsed : Key.parse? key = some k) :
    Idle w (World.run (lane.pass key) w).2 ∧
      ((World.run (lane.pass key) w).1 = .ok () ∨
        lane = .poll ∧ 0 < w.vault.failures ∧ ∃ resource vault,
          (World.run (lane.pass key) w).1 =
            .error (.vaultFetch resource vault (.unavailable vault))) := by
  cases found : w.cluster.bindings.get? k with
  | none =>
    rw [World.run_gone lane (calm.unfailing _) parsed found]
    exact ⟨.refl w, .inl rfl⟩
  | some b =>
    have content := h b found
    cases lane with
    | spec =>
      obtain ⟨named, s, stored, owned⟩ := content
      have done : World.run (Lane.spec.pass key) w = _ :=
        World.run_present calm.unfailing parsed found named stored owned
      rw [done]
      exact ⟨⟨.refl _, rfl⟩, .inl rfl⟩
    | poll =>
      obtain ⟨v, value, hash⟩ := content
      obtain ⟨idle, ok | ⟨failing, refused⟩⟩ :=
        World.run_unchanged (calm.unfailing _) parsed found value hash
      · exact ⟨idle, .inl ok⟩
      · exact ⟨idle, .inr ⟨rfl, failing, _, _, refused⟩⟩

theorem parsed_of_ok (ok : (World.run (lane.pass key) w).1 = .ok ()) :
    ∃ k, Key.parse? key = some k := by
  cases parsed : Key.parse? key with
  | none =>
    rw [World.run_invalid lane parsed] at ok
    exact nomatch ok
  | some k => exact ⟨k, rfl⟩

end Repetition

/-- Whatever passes follow each other, those over one binding write one Secret and one status at
most. A pass that returned without an error writes nothing when it is repeated, at once or later,
and returns without an error again unless it is a poll and the vault refuses the read. -/
theorem passes_come_to_rest {w : World} (reachable : w.Reachable)
    (unfailing : ∀ op, w.cluster.failures op = 0) (steps : List Quiet) :
    (∀ k, (World.writesOf k w steps).countP Write.ofSecret ≤ 1 ∧
      (World.writesOf k w steps).countP Write.ofStatus ≤ 1) ∧
    ∀ before lane key after, steps = before ++ .pass lane key :: after →
      (World.run (lane.pass key) (w.quietly before)).1 = .ok () →
      Idle (w.quietly steps) (World.run (lane.pass key) (w.quietly steps)).2 ∧
      ((World.run (lane.pass key) (w.quietly steps)).1 = .ok () ∨
        lane = .poll ∧ 0 < (w.quietly steps).vault.failures ∧ ∃ resource vault,
          (World.run (lane.pass key) (w.quietly steps)).1 =
            .error (.vaultFetch resource vault (.unavailable vault))) := by
  have calm : Calm w := ⟨reachable.sound, unfailing⟩
  constructor
  · intro k
    rcases writesOf_cases calm k steps with none | ⟨lane, out, hash, writes⟩
    · rw [none]
      exact ⟨Nat.zero_le 1, Nat.zero_le 1⟩
    · rw [writes]
      cases lane with
      | spec => exact ⟨Nat.le_refl 1, Nat.le_refl 1⟩
      | poll => exact ⟨Nat.le_refl 1, Nat.le_refl 1⟩
  · intro before lane key after parts ok
    obtain ⟨k, parsed⟩ := parsed_of_ok ok
    have first := (calm.quietly before).1
    have content := content_of_ok first parsed ok
    have next := (first.quiet (.pass lane key)).1
    obtain ⟨last, keeps⟩ := next.quietly after
    have rest : w.quietly steps = ((w.quietly before).quiet (.pass lane key)).quietly after := by
      rw [parts, World.quietly, List.foldl_append]
      rfl
    rw [rest]
    exact (content.keeps keeps).run last parsed

/-- The Secret is made, a poll has nothing to do, and then the vault refuses a read. -/
def untouched : List Quiet :=
  [.pass .spec "default/db-cred", .pass .poll "default/db-cred", .failReads 1]

theorem refused_repeat_writes_nothing :
    (World.writesOf ⟨"default", "db-cred"⟩ (.sample "old") untouched).countP Write.ofSecret = 1 ∧
    Idle ((World.sample "old").quietly untouched)
      (World.run (Pass.vaultPoll "default/db-cred")
        ((World.sample "old").quietly untouched)).2 := by
  have ok : (World.run (Pass.vaultPoll "default/db-cred")
      ((World.sample "old").quietly [.pass .spec "default/db-cred"])).1 = .ok () :=
    ok_of_isOk (by decide +kernel)
  obtain ⟨most, repeats⟩ :=
    passes_come_to_rest (World.sample_reachable "old") (fun _ => rfl) untouched
  obtain ⟨idle, _⟩ := repeats [.pass .spec "default/db-cred"] .poll "default/db-cred"
    [.failReads 1] rfl ok
  have some : 1 ≤ (World.writesOf ⟨"default", "db-cred"⟩ (.sample "old") untouched).countP
      Write.ofSecret := by
    decide +kernel
  exact ⟨Nat.le_antisymm (most ⟨"default", "db-cred"⟩).1 some, idle⟩

theorem refused_repeat_fails :
    (World.sample "old").Reachable ∧
    (∀ op, (World.sample "old").cluster.failures op = 0) ∧
    untouched = [.pass .spec "default/db-cred"] ++ .pass .poll "default/db-cred" :: [.failReads 1] ∧
    (World.run (Pass.vaultPoll "default/db-cred")
      ((World.sample "old").quietly [.pass .spec "default/db-cred"])).1 = .ok () ∧
    (World.run (Pass.vaultPoll "default/db-cred")
      ((World.sample "old").quietly untouched)).1 ≠ .ok () := by
  refine ⟨World.sample_reachable "old", fun _ => rfl, rfl, ok_of_isOk (by decide +kernel), ?_⟩
  intro ok
  exact absurd (congrArg Except.isOk ok) (by decide +kernel)

end SecretSync
