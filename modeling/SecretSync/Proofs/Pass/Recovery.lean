import SecretSync.Proofs.Pass.Solo

/-!
What a series of whole passes makes good after failures. A status write that failed leaves a poll to
repeat the update, as long as the digest in the status differs from that of the value. When the
vault goes back to the value the status tells of, the poll is content and the Secret stays as it is:
this is the only way in which a content poll leaves the Secret behind the vault.
-/
namespace SecretSync

open Digest (contentHash)

/-- What can follow in a series of whole passes over one binding. -/
inductive Turn where
  | pass (lane : Lane)
  | failNext (op : Operation) (times : Nat)
  | vault (v : Vault)
  | clock (now : Moment)

namespace World

def turn (key : String) (w : World) : Turn → World
  | .pass lane => (run (lane.pass key) w).2
  | .failNext op times => w.edit (.failNext op times)
  | .vault v => w.edit (.vault v)
  | .clock now => w.edit (.clock now)

def turns (key : String) (w : World) (ts : List Turn) : World := ts.foldl (turn key) w

theorem turns_append (key : String) (w : World) (ts us : List Turn) :
    w.turns key (ts ++ us) = (w.turns key ts).turns key us := List.foldl_append

end World

/-- A poll wrote the Secret for a value and failed to write the status, and nothing was written
since. -/
structure Stranded (key : String) (w : World) (ts : List Turn) (b : Binding) (x : String) :
    Prop where
  poll : ∃ before after, ts = before ++ .pass .poll :: after ∧
    (w.turns key before).vault.value? b = some x ∧
    (w.turns key (before ++ [.pass .poll])).cluster.journal =
      (w.turns key before).cluster.journal ++ [.updateSecret b.outputKey] ∧
    (w.turns key ts).cluster.journal =
      (w.turns key (before ++ [.pass .poll])).cluster.journal

/-- A world that still has a binding, as it was but for its status. -/
structure Tended (k : Key) (b : Binding) (w : World) : Prop where
  sound : w.cluster.Sound
  binding : ∃ d, b.Alike d ∧ w.cluster.bindings.get? k = some d

/-- What a turn adds to the journal. If it adds nothing, it leaves the Secrets and bindings. -/
def Adds (w w' : World) : Prop :=
  ∃ added, w'.cluster.journal = w.cluster.journal ++ added ∧
    (added = [] → w'.cluster.secrets = w.cluster.secrets ∧ w'.cluster.bindings = w.cluster.bindings)

theorem Adds.refl (w : World) : Adds w w := ⟨[], (List.append_nil _).symm, fun _ => ⟨rfl, rfl⟩⟩

theorem Adds.trans {w₀ w₁ w₂ : World} (h : Adds w₀ w₁) (k : Adds w₁ w₂) : Adds w₀ w₂ := by
  obtain ⟨l, hl, hs⟩ := h
  obtain ⟨m, hm, ks⟩ := k
  refine ⟨l ++ m, by rw [hm, hl, List.append_assoc], fun none => ?_⟩
  obtain ⟨rfl, rfl⟩ := List.append_eq_nil_iff.1 none
  exact ⟨(ks rfl).1.trans (hs rfl).1, (ks rfl).2.trans (hs rfl).2⟩

theorem Idle.adds {w w' : World} (h : Idle w w') : Adds w w' :=
  ⟨[], by rw [h.cluster.journal, List.append_nil], fun _ => ⟨h.cluster.secrets, h.cluster.bindings⟩⟩

variable {key : String} {k : Key} {b : Binding} {w : World}

/-- A turn keeps the binding, and tells in the journal of what it changes. -/
theorem tended_turn (parsed : Key.parse? key = some k) (h : Tended k b w) (t : Turn) :
    Tended k b (w.turn key t) ∧ Adds w (w.turn key t) := by
  obtain ⟨sound, d, alike, there⟩ := h
  cases t with
  | pass lane =>
    have sound' := sound_run (lane.pass key) sound
    cases run_upshot lane sound parsed there with
    | idle idle => exact ⟨⟨sound', d, alike, idle.cluster.bindings ▸ there⟩, idle.adds⟩
    | told v wrote told =>
      obtain ⟨e, alike', _, bindings⟩ := told.binding
      refine ⟨⟨sound', e, alike.trans alike', ?_⟩, _, told.journal, fun none => nomatch none⟩
      exact bindings ▸ Table.get?_insert_self ..
    | untold v wrote untold =>
      exact ⟨⟨sound', d, alike, untold.bindings ▸ there⟩, _, untold.journal,
        fun none => nomatch none⟩
  | failNext op times =>
    exact ⟨⟨sound.grows (World.grows_edit w (.failNext op times)), d, alike, there⟩, .refl w⟩
  | vault v => exact ⟨⟨sound, d, alike, there⟩, .refl w⟩
  | clock now => exact ⟨⟨sound, d, alike, there⟩, .refl w⟩

theorem tended_turns (parsed : Key.parse? key = some k) (h : Tended k b w) (ts : List Turn) :
    Tended k b (w.turns key ts) ∧ Adds w (w.turns key ts) := by
  induction ts generalizing w with
  | nil => exact ⟨h, .refl w⟩
  | cons t ts ih =>
    obtain ⟨tended, adds⟩ := tended_turn parsed h t
    obtain ⟨tended', adds'⟩ := ih tended
    exact ⟨tended', adds.trans adds'⟩

theorem append_ne_of_length {l m n : List α} (h : m.length ≠ n.length) : l ++ m ≠ l ++ n :=
  fun same => h (congrArg List.length (List.append_cancel_left same))

/-- A poll that added only its Secret write to the journal has stored the value in the vault. -/
theorem stored_of_untold {x : String} (parsed : Key.parse? key = some k) (h : Tended k b w)
    (value : w.vault.value? b = some x)
    (only : (w.turn key (.pass .poll)).cluster.journal =
      w.cluster.journal ++ [.updateSecret b.outputKey]) :
    ∃ s, (w.turn key (.pass .poll)).cluster.secrets.get? b.outputKey = some s ∧
      s.value? b.spec.output.keyName = some x := by
  obtain ⟨sound, d, alike, there⟩ := h
  change (World.run (Lane.poll.pass key) w).2.cluster.journal = _ at only
  cases run_upshot .poll sound parsed there with
  | idle idle =>
    rw [idle.cluster.journal] at only
    exact absurd only.symm (by simp)
  | told v wrote told =>
    rw [told.journal] at only
    exact absurd only (append_ne_of_length (by simp))
  | untold v wrote untold =>
    obtain ⟨s, holds, secrets⟩ := wrote.secret
    have read := wrote.value
    rw [alike.value?, value] at read
    cases read
    refine ⟨s, ?_, alike.spec ▸ holds.value⟩
    rw [← alike.outputKey]
    exact (congrArg (fun t => t.get? d.outputKey) secrets).trans (Table.get?_insert_self ..)

theorem Stranded.value_eq {ts : List Turn} {x y : String} {s : Secret}
    (parsed : Key.parse? key = some k) (tended : Tended k b w) (h : Stranded key w ts b x)
    (there : (w.turns key ts).cluster.secrets.get? b.outputKey = some s)
    (value : s.value? b.spec.output.keyName = some y) : x = y := by
  obtain ⟨before, after, parts, met, only, since⟩ := h.poll
  have tended' := (tended_turns parsed tended before).1
  have split : w.turns key (before ++ [.pass .poll]) =
      (w.turns key before).turn key (.pass .poll) := World.turns_append ..
  rw [split] at only since
  obtain ⟨s', there', value'⟩ := stored_of_untold parsed tended' met only
  have rest : w.turns key ts = ((w.turns key before).turn key (.pass .poll)).turns key after := by
    rw [parts, World.turns_append]
    rfl
  obtain ⟨added, journal, quiet⟩ :=
    (tended_turns parsed (tended_turn parsed tended' (.pass .poll)).1 after).2
  rw [rest] at since there
  -- The journal is as it was after the stranding poll, so nothing was written since.
  have none : added = [] := List.self_eq_append_right.1 (since.symm.trans journal)
  rw [(quiet none).1, there'] at there
  cases there
  exact Option.some.inj (value'.symm.trans value)

theorem Stranded.goOn {ts : List Turn} {x : String} {t : Turn} (h : Stranded key w ts b x)
    (quiet : (w.turns key (ts ++ [t])).cluster.journal = (w.turns key ts).cluster.journal) :
    Stranded key w (ts ++ [t]) b x := by
  obtain ⟨before, after, parts, met, only, since⟩ := h.poll
  refine ⟨before, after ++ [t], ?_, met, only, quiet.trans since⟩
  rw [parts, List.append_assoc, List.cons_append]

/-- How the Secret and a binding stand to each other after some turns: nothing was written; or the
status tells of nothing, or of the value in the Secret, or that value is stranded. -/
inductive Standing (key : String) (w : World) (ts : List Turn) (b d : Binding) : Prop
  | vacant : (w.turns key ts).cluster.secrets.get? b.outputKey = none → d.observedHash = "" →
      Standing key w ts b d
  | stored (s : Secret) (x : String) :
      (w.turns key ts).cluster.secrets.get? b.outputKey = some s →
      s.value? b.spec.output.keyName = some x →
      (d.observedHash = "" ∨ d.observedHash = contentHash x ∨ Stranded key w ts b x) →
      Standing key w ts b d

theorem Standing.goOn {ts : List Turn} {d : Binding} {t : Turn} (h : Standing key w ts b d)
    (journal : (w.turns key (ts ++ [t])).cluster.journal = (w.turns key ts).cluster.journal)
    (secrets : (w.turns key (ts ++ [t])).cluster.secrets = (w.turns key ts).cluster.secrets) :
    Standing key w (ts ++ [t]) b d := by
  cases h with
  | vacant none fresh => exact .vacant (secrets ▸ none) fresh
  | stored s x there value tells =>
    refine .stored s x (secrets ▸ there) value ?_
    rcases tells with blank | current | stranded
    · exact .inl blank
    · exact .inr (.inl current)
    · exact .inr (.inr (stranded.goOn journal))

theorem Wrote.stored {lane : Lane} {w₀ w : World} {b d : Binding} {v : String} (alike : b.Alike d)
    (h : Wrote lane w₀ d v w) : w₀.vault.value? b = some v ∧
      ∃ s, w.cluster.secrets.get? b.outputKey = some s ∧
        s.value? b.spec.output.keyName = some v := by
  obtain ⟨s, holds, secrets⟩ := h.secret
  refine ⟨(alike.value? w₀.vault).symm.trans h.value, s, ?_, alike.spec ▸ holds.value⟩
  rw [secrets, ← alike.outputKey]
  exact Table.get?_insert_self ..

/-- A whole pass keeps the Secret and the status in one of their relations, unless it strands the
value that it wrote. -/
theorem standing_pass {ts : List Turn} (parsed : Key.parse? key = some k) (lane : Lane)
    {d : Binding} (sound : (w.turns key ts).cluster.Sound) (alike : b.Alike d)
    (there : (w.turns key ts).cluster.bindings.get? k = some d) (h : Standing key w ts b d) :
    ∃ d, b.Alike d ∧ (w.turns key (ts ++ [.pass lane])).cluster.bindings.get? k = some d ∧
      Standing key w (ts ++ [.pass lane]) b d := by
  have next : w.turns key (ts ++ [.pass lane]) = (World.run (lane.pass key) (w.turns key ts)).2 :=
    World.turns_append ..
  cases run_upshot lane sound parsed there with
  | idle idle =>
    rw [← next] at idle
    exact ⟨d, alike, idle.cluster.bindings ▸ there,
      h.goOn idle.cluster.journal idle.cluster.secrets⟩
  | told v wrote told =>
    rw [← next] at wrote told
    obtain ⟨e, alike', hash, bindings⟩ := told.binding
    obtain ⟨_, s, stored, value⟩ := wrote.stored alike
    exact ⟨e, alike.trans alike', bindings ▸ Table.get?_insert_self ..,
      .stored s v stored value (.inr (.inl hash))⟩
  | untold v wrote untold =>
    rw [← next] at wrote untold
    obtain ⟨read, s, stored, value⟩ := wrote.stored alike
    refine ⟨d, alike, untold.bindings ▸ there, .stored s v stored value ?_⟩
    cases lane with
    | spec =>
      -- A spec sync only writes where nothing was, and then the status was never written.
      have free := wrote.free rfl
      rw [alike.outputKey] at free
      cases h with
      | vacant _ fresh => exact .inl fresh
      | stored _ _ there' => exact nomatch free.symm.trans there'
    | poll =>
      refine .inr (.inr ⟨ts, [], rfl, read, ?_, rfl⟩)
      rw [untold.journal, alike.outputKey]
      rfl

theorem standing_turns (ts us : List Turn) {d : Binding} (parsed : Key.parse? key = some k)
    (tended : Tended k b w) (alike : b.Alike d)
    (there : (w.turns key ts).cluster.bindings.get? k = some d) (h : Standing key w ts b d) :
    ∃ d, b.Alike d ∧ (w.turns key (ts ++ us)).cluster.bindings.get? k = some d ∧
      Standing key w (ts ++ us) b d := by
  induction us generalizing ts d with
  | nil =>
    rw [List.append_nil]
    exact ⟨d, alike, there, h⟩
  | cons t us ih =>
    rw [List.append_cons]
    cases t with
    | pass lane =>
      have sound := (tended_turns parsed tended ts).1.sound
      obtain ⟨e, alike', there', h'⟩ := standing_pass parsed lane sound alike there h
      exact ih (ts ++ [.pass lane]) alike' there' h'
    | failNext | vault | clock =>
      refine ih _ alike ?_ (h.goOn ?_ ?_)
      · rw [World.turns_append]
        exact there
      · rw [World.turns_append]
        rfl
      · rw [World.turns_append]
        rfl

theorem standing_of_fresh (parsed : Key.parse? key = some k) (tended : Tended k b w)
    (there : w.cluster.bindings.get? k = some b) (fresh : b.status = none)
    (free : w.cluster.secrets.get? b.outputKey = none) (ts : List Turn) : ∃ d, b.Alike d ∧
      (w.turns key ts).cluster.bindings.get? k = some d ∧ Standing key w ts b d := by
  have start : Standing key w [] b b := by
    refine .vacant free ?_
    rw [Binding.observedHash, fresh]
    rfl
  have after := standing_turns [] ts parsed tended (.refl b) there start
  rwa [List.nil_append] at after

/-- After a poll without an error the Secret is there. Its value has the digest of the value in the
vault unless a value with another digest is stranded in it. -/
theorem ok_poll_agrees_iff (reachable : w.Reachable) (parsed : Key.parse? key = some k)
    (there : w.cluster.bindings.get? k = some b) (fresh : b.status = none)
    (free : w.cluster.secrets.get? b.outputKey = none) (ts : List Turn)
    (ok : (World.run (Pass.vaultPoll key) (w.turns key ts)).1 = .ok ()) :
    ∃ v s x, (w.turns key (ts ++ [.pass .poll])).vault.value? b = some v ∧
      (w.turns key (ts ++ [.pass .poll])).cluster.secrets.get? b.outputKey = some s ∧
      s.value? b.spec.output.keyName = some x ∧
      (contentHash x = contentHash v ↔ ¬ ∃ y, Stranded key w (ts ++ [.pass .poll]) b y ∧
        contentHash y ≠ contentHash v) := by
  have tended : Tended k b w := ⟨reachable.sound, b, .refl b, there⟩
  obtain ⟨d, alike, there', standing⟩ := standing_of_fresh parsed tended there fresh free ts
  have sound := (tended_turns parsed tended ts).1.sound
  have next : w.turns key (ts ++ [.pass .poll]) =
      (World.run (Lane.poll.pass key) (w.turns key ts)).2 := World.turns_append ..
  cases run_upshot .poll sound parsed there' with
  | untold v wrote untold left stuck => exact absurd ok stuck
  | told v wrote told =>
    rw [← next] at wrote
    obtain ⟨read, s, stored, value⟩ := wrote.stored alike
    refine ⟨v, s, v, (value?_congr wrote.values b).trans read, stored, value, ?_⟩
    refine iff_of_true rfl ?_
    rintro ⟨y, stranded, differs⟩
    exact differs (congrArg contentHash (stranded.value_eq parsed tended stored value))
  | idle idle content =>
    obtain ⟨v, read, hash⟩ := content rfl ok
    rw [← next] at idle
    rw [alike.value?] at read
    cases standing with
    | vacant none fresh' => exact absurd (hash.symm.trans fresh') (Digest.contentHash_ne_empty v)
    | stored s x stored value tells =>
      rw [← idle.cluster.secrets] at stored
      refine ⟨v, s, x, (value?_congr idle.values b).trans read, stored, value, ?_⟩
      constructor
      · rintro same ⟨y, stranded, differs⟩
        rw [stranded.value_eq parsed tended stored value] at differs
        exact differs same
      · intro none
        rcases tells with blank | current | stranded
        · exact absurd (hash.symm.trans blank) (Digest.contentHash_ne_empty v)
        · exact current.symm.trans hash
        · refine Decidable.byContradiction fun differs => ?_
          exact none ⟨x, stranded.goOn idle.cluster.journal, differs⟩

/-- The Secret is made for a value, a poll writes a new value over it and fails to write the status,
and the vault goes back. -/
def thereAndBack : List Turn :=
  [.pass .spec, .vault (.sample "new"), .failNext .updateStatus 1, .pass .poll,
    .vault (.sample "old")]

theorem there_and_back_agrees_iff : ∃ v s x,
    ((World.sample "old").turns "default/db-cred" (thereAndBack ++ [.pass .poll])).vault.value?
      .sample = some v ∧
    ((World.sample "old").turns "default/db-cred"
      (thereAndBack ++ [.pass .poll])).cluster.secrets.get? ⟨"default", "db-secret"⟩ = some s ∧
    s.value? "password" = some x ∧
    (contentHash x = contentHash v ↔ ¬ ∃ y,
      Stranded "default/db-cred" (.sample "old") (thereAndBack ++ [.pass .poll]) .sample y ∧
        contentHash y ≠ contentHash v) :=
  ok_poll_agrees_iff (World.sample_reachable "old") (by decide +kernel)
    (World.sample_binding "old") rfl rfl thereAndBack (ok_of_isOk (by decide +kernel))

theorem there_and_back_hides_change :
    (World.run (Pass.vaultPoll "default/db-cred")
      ((World.sample "old").turns "default/db-cred" thereAndBack)).1 = .ok () ∧
    ((World.sample "old").turns "default/db-cred"
      (thereAndBack ++ [.pass .poll])).vault.value? .sample = some "old" ∧
    (((World.sample "old").turns "default/db-cred"
      (thereAndBack ++ [.pass .poll])).cluster.secrets.get? ⟨"default", "db-secret"⟩).bind
        (fun s => s.value? "password") = some "new" ∧
    contentHash "new" ≠ contentHash "old" :=
  ⟨ok_of_isOk (by decide +kernel), by decide +kernel, by decide +kernel, by decide +kernel⟩

end SecretSync
