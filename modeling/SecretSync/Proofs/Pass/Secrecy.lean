import SecretSync.Controller.Basic
import SecretSync.Proofs.Pass.Reachable
import SecretSync.Proofs.Store.Likeness

namespace SecretSync

open Digest (contentHash)

/-- A vault of any kind: how it answers a read, and what becomes of it. -/
abbrev Reader (σ : Type) := Binding → σ → Except VaultError String × σ

namespace Reader

def memory : Reader Vault := fun b v => v.read b

def nth (read : Reader σ) (b : Binding) : Nat → σ → Except VaultError String
  | 0, s => (read b s).1
  | n + 1, s => read.nth b n (read b s).2

end Reader

/-- Two answers of vaults that nobody can tell apart but by the value: both fail with the same text,
or both give a value, and either both values have the digest in the status or both do not. -/
def Binding.Indistinct (b : Binding) : Except VaultError String → Except VaultError String → Prop
  | .ok v, .ok v' => b.observedHash = contentHash v ↔ b.observedHash = contentHash v'
  | .error e, .error e' => e.message = e'.message
  | _, _ => False

namespace World

/-- As `answer`, but the vault is beside the world. -/
def answerWith (read : Reader σ) : (q : Request) → World × σ → q.Answer × World × σ
  | .readVault b, (w, s) => ((read b s).1, w, (read b s).2)
  | q, (w, s) => ((answer q w).1, (answer q w).2, s)

def runWith (read : Reader σ) (p : Pass α) (x : World × σ) :
    Except PassError α × World × σ :=
  Program.run (answerWith read) p.run x

theorem answerWith_memory (v : Vault) (q : Request) (w : World) :
    answerWith .memory q ({ w with vault := v }, w.vault) =
      ((answer q w).1, { (answer q w).2 with vault := v }, (answer q w).2.vault) := by
  cases q <;> rfl

theorem runWith_memory (p : Pass α) (v : Vault) (w : World) :
    runWith .memory p ({ w with vault := v }, w.vault) =
      ((run p w).1, { (run p w).2 with vault := v }, (run p w).2.vault) := by
  unfold runWith run
  generalize p.run = program
  induction program generalizing w with
  | done a => rfl
  | ask q next ih =>
    simp only [Program.run, answerWith_memory]
    exact ih _ _

def binding? (w : World) (key : String) : Option Binding :=
  (Key.parse? key).bind w.cluster.bindings.get?

/-- Two worlds that went on from the same journal, and can be told apart by nothing but the bytes
that the binding binds and the digest in its status. -/
structure Twin (b? : Option Binding) (journal : List Write) (w v : World) : Prop where
  cluster : w.cluster.Twin b? journal v.cluster
  events : w.events = v.events
  metrics : w.metrics = v.metrics
  clock : w.clock = v.clock

theorem Twin.refl (b? : Option Binding) (w : World) : w.Twin b? w.cluster.journal w :=
  ⟨.refl b? w.cluster, rfl, rfl, rfl⟩

end World

inductive PassError.Twin : PassError → PassError → Prop
  | refl (e : PassError) : Twin e e
  | unread {resource vault : String} {e e' : VaultError} (text : e.message = e'.message) :
    Twin (.vaultFetch resource vault e) (.vaultFetch resource vault e')

def PassError.report (e : PassError) : String × String := (e.kind, e.message)

theorem PassError.Twin.report {e e' : PassError} (h : e.Twin e') : e.report = e'.report := by
  cases h with
  | refl => rfl
  | unread text => exact Prod.ext rfl (congrArg (_ ++ ·) text)

namespace Pass

section Twins

variable {σ τ : Type} (read : Reader σ) (read' : Reader τ) (b : Binding) (journal : List Write)

structure Like (x : World × σ) (y : World × τ) : Prop where
  world : x.1.Twin (some b) journal y.1
  vault : ∀ n, b.Indistinct (read.nth b n x.2) (read'.nth b n y.2)

/-- Two passes that answer alike in worlds that are alike, and leave them so. -/
def Twins (results : α → β → Prop) (p : Pass α) (q : Pass β) : Prop :=
  ∀ x y, Like read read' b journal x y →
    Agrees PassError.Twin results (World.runWith read p x).1 (World.runWith read' q y).1 ∧
      Like read read' b journal (World.runWith read p x).2 (World.runWith read' q y).2

variable {read read' b journal}

theorem twins_pure {results : α → β → Prop} {a : α} {a' : β} (h : results a a') :
    Twins read read' b journal results (pure a) (pure a') :=
  fun _ _ like => ⟨.ok h, like⟩

theorem twins_throw {results : α → β → Prop} {e e' : PassError} (h : e.Twin e') :
    Twins read read' b journal results (throw e) (throw e') :=
  fun _ _ like => ⟨.error h, like⟩

theorem twins_bind {mid : α → β → Prop} {results : γ → δ → Prop} {p : Pass α} {q : Pass β}
    {f : α → Pass γ} {g : β → Pass δ} (first : Twins read read' b journal mid p q)
    (next : ∀ a a', mid a a' → Twins read read' b journal results (f a) (g a')) :
    Twins read read' b journal results (p >>= f) (q >>= g) := by
  intro x y like
  obtain ⟨agree, after⟩ := first x y like
  unfold World.runWith at agree after ⊢
  rw [run_bind, run_bind]
  generalize Program.run (World.answerWith read) p.run x = r at agree after
  generalize Program.run (World.answerWith read') q.run y = r' at agree after
  obtain ⟨r, x'⟩ := r
  obtain ⟨r', y'⟩ := r'
  cases agree with
  | ok h => exact next _ _ h x' y' after
  | error h => exact ⟨.error h, after⟩

theorem twins_tryCatch {results : α → β → Prop} {p : Pass α} {q : Pass β}
    {handle : PassError → Pass α} {handle' : PassError → Pass β}
    (first : Twins read read' b journal results p q)
    (caught : ∀ e e', PassError.Twin e e' →
      Twins read read' b journal results (handle e) (handle' e')) :
    Twins read read' b journal results (tryCatch p handle) (tryCatch q handle') := by
  intro x y like
  obtain ⟨agree, after⟩ := first x y like
  unfold World.runWith at agree after ⊢
  rw [run_tryCatch, run_tryCatch]
  generalize Program.run (World.answerWith read) p.run x = r at agree after
  generalize Program.run (World.answerWith read') q.run y = r' at agree after
  obtain ⟨r, x'⟩ := r
  obtain ⟨r', y'⟩ := r'
  cases agree with
  | ok h => exact ⟨.ok h, after⟩
  | error h => exact caught _ _ h x' y' after

theorem twins_ofStore {results : α → β → Prop} {r : Except StoreError α} {r' : Except StoreError β}
    (h : Agrees Eq results r r') :
    Twins read read' b journal results (ofStore r) (ofStore r') := by
  cases h with
  | ok h => exact twins_pure h
  | error h => exact twins_throw (h ▸ .refl _)

theorem twins_call {results : α → β → Prop} {f : Cluster → Cluster.Answer α}
    {g : Cluster → Cluster.Answer β} {p : Pass (Except StoreError α)}
    {q : Pass (Except StoreError β)}
    (runs : ∀ x, World.runWith read p x =
      (.ok (f x.1.cluster).1, { x.1 with cluster := (f x.1.cluster).2 }, x.2))
    (runs' : ∀ y, World.runWith read' q y =
      (.ok (g y.1.cluster).1, { y.1 with cluster := (g y.1.cluster).2 }, y.2))
    (call : ∀ {c d : Cluster}, c.Twin (some b) journal d →
      Agrees Eq results (f c).1 (g d).1 ∧ (f c).2.Twin (some b) journal (g d).2) :
    Twins read read' b journal results (do ofStore (← p)) (do ofStore (← q)) := by
  have answered : Twins read read' b journal (Agrees Eq results) p q := by
    intro x y like
    obtain ⟨agree, after⟩ := call like.world.cluster
    rw [runs, runs']
    exact ⟨.ok agree, { like.world with cluster := after }, like.vault⟩
  exact twins_bind answered fun _ _ h => twins_ofStore h

theorem twins_getSecret (k : Key) :
    Twins read read' b journal (Option.Rel (Secret.Twin (some b) k)) (getSecret k)
      (getSecret k) :=
  twins_call (fun _ => rfl) (fun _ => rfl) fun alike => alike.getSecret k

theorem twins_createSecret (owner : OwnerReference) (v v' : String) :
    Twins read read' b journal (Secret.SameBut b.spec.output.keyName)
      (createSecret (b.desired owner v)) (createSecret (b.desired owner v')) :=
  twins_call (fun _ => rfl) (fun _ => rfl) fun alike => alike.createSecret v v'

theorem twins_updateSecret (owner : OwnerReference) {e e' : Secret}
    (found : e.metadata = e'.metadata) (v v' : String) :
    Twins read read' b journal (Secret.SameBut b.spec.output.keyName)
      (updateSecret (b.desiredOver owner v e)) (updateSecret (b.desiredOver owner v' e')) :=
  twins_call (fun _ => rfl) (fun _ => rfl) fun alike => alike.updateSecret found v v'

theorem twins_readVault :
    Twins read read' b journal b.Indistinct (readVault b) (readVault b) :=
  fun _ _ like => ⟨.ok (like.vault 0), like.world, fun n => like.vault (n + 1)⟩

theorem twins_record (e : Event) :
    Twins read read' b journal Eq (record b e) (record b e) := by
  intro x y like
  refine ⟨.ok rfl, { like.world with events := ?_ }, like.vault⟩
  exact congrArg (· ++ [⟨b.key, e⟩]) like.world.events

theorem twins_updateStatus {s s' : Binding.Status} (time : s.lastUpdate = s'.lastUpdate) :
    Twins read read' b journal (fun _ _ => True) (updateStatus { b with status := some s })
      (updateStatus { b with status := some s' }) :=
  twins_call (fun _ => rfl) (fun _ => rfl) fun alike => alike.updateStatus time

theorem twins_count (c : Counter) : Twins read read' b journal Eq (count c) (count c) := by
  intro x y like
  refine ⟨.ok rfl, { like.world with metrics := ?_ }, like.vault⟩
  exact congrArg (World.bump · c) like.world.metrics

theorem twins_now : Twins read read' b journal Eq now now :=
  fun _ _ like => ⟨.ok like.world.clock, like⟩

variable {key : String} {k : Key}

theorem twins_refuse {results : Unit → Unit → Prop} (secret : String) :
    Twins read read' b journal results (refuse key b secret) (refuse key b secret) :=
  twins_bind (twins_record _) fun _ _ _ => twins_throw (.refl _)

theorem twins_writeStatus (s s' : Secret) :
    Twins read read' b journal (fun _ _ => True) (writeStatus b s) (writeStatus b s') := by
  refine twins_bind twins_now ?_
  rintro moment _ rfl
  exact twins_updateStatus rfl

def Drafts (b : Binding) (s s' : Secret) : Prop :=
  ∃ owner v v', s = b.desired owner v ∧ s' = b.desired owner v'

theorem twins_compose {value value' : Option String} (given : value.isSome = value'.isSome) :
    Twins read read' b journal (Drafts b) (compose b value) (compose b value') := by
  unfold compose
  by_cases nameless : b.spec.output.name = ""
  · rw [if_pos nameless, if_pos nameless]
    exact twins_throw (.refl _)
  rw [if_neg nameless, if_neg nameless]
  cases b.ownerReference? with
  | none => exact twins_throw (.refl _)
  | some owner =>
    cases value with
    | some v =>
      obtain ⟨v', rfl⟩ := Option.isSome_iff_exists.1 given.symm
      exact twins_pure ⟨owner, v, v', rfl, rfl⟩
    | none =>
      obtain rfl : value' = none := by simpa using given
      refine twins_bind twins_readVault ?_
      rintro (e | v) (e' | v') indistinct
      · exact twins_throw (.unread indistinct)
      · exact indistinct.elim
      · exact indistinct.elim
      · exact twins_pure ⟨owner, v, v', rfl, rfl⟩

theorem twins_noteVaultFailure {results : Secret → Secret → Prop} {e e' : PassError}
    (alike : e.Twin e') :
    Twins read read' b journal results (noteVaultFailure b e) (noteVaultFailure b e') := by
  unfold noteVaultFailure
  cases alike with
  | unread text => exact twins_bind (twins_record _) fun _ _ _ => twins_throw (.unread text)
  | refl =>
    cases e with
    | vaultFetch => exact twins_bind (twins_record _) fun _ _ _ => twins_throw (.refl _)
    | _ => exact twins_throw (.refl _)

theorem twins_ensureSecret :
    Twins read read' b journal (Secret.SameBut b.spec.output.keyName) (ensureSecret b)
      (ensureSecret b) := by
  unfold ensureSecret
  by_cases nameless : b.spec.output.name = ""
  · rw [if_pos nameless]
    exact twins_throw (.refl _)
  rw [if_neg nameless]
  refine twins_bind (twins_getSecret b.outputKey) ?_
  rintro found found' alike
  cases alike with
  | @some s s' alike =>
    rcases alike with rfl | ⟨_, ⟨⟩, -, same⟩
    · exact twins_pure (.refl _ s)
    · exact twins_pure same
  | none =>
    refine twins_bind (twins_tryCatch (twins_compose rfl) fun _ _ => twins_noteVaultFailure) ?_
    rintro _ _ ⟨owner, v, v', rfl, rfl⟩
    refine twins_bind (twins_createSecret owner v v') fun s s' same => ?_
    refine twins_bind (twins_count .created) fun _ _ _ => ?_
    exact twins_bind (twins_writeStatus s s') fun _ _ _ => twins_pure same

theorem twins_sync :
    Twins read read' b journal Eq
      (do
        let s ← ensureSecret b
        if s.metadata.controlledBy b then record b Event.synced
        else refuse key b (s.metadata.name.getD ""))
      (do
        let s ← ensureSecret b
        if s.metadata.controlledBy b then record b Event.synced
        else refuse key b (s.metadata.name.getD "")) := by
  refine twins_bind twins_ensureSecret fun s s' same => ?_
  rw [← same.metadata]
  split_ifs
  · exact twins_record _
  · exact twins_refuse _

theorem twins_refresh (v v' : String) :
    Twins read read' b journal Eq (refresh key k b v) (refresh key k b v') := by
  unfold refresh
  refine twins_bind (twins_compose rfl) ?_
  rintro _ _ ⟨owner, v, v', rfl, rfl⟩
  refine twins_bind (twins_getSecret _) ?_
  rintro found found' alike
  cases alike with
  | none => exact twins_throw (.refl _)
  | @some e e' alike =>
    have same : e.metadata = e'.metadata := by
      rcases alike with rfl | ⟨_, ⟨⟩, -, same⟩
      · rfl
      · exact same.metadata
    have mine : e'.metadata.controlledBy b = e.metadata.controlledBy b := by rw [same]
    dsimp only
    rw [mine]
    split_ifs
    · refine twins_bind (twins_updateSecret owner same v v') fun s s' _ => ?_
      refine twins_bind (twins_count .updated) fun _ _ _ => ?_
      exact twins_bind (twins_writeStatus s s') fun _ _ _ => twins_record _
    · exact twins_refuse _

theorem twins_poll :
    Twins read read' b journal Eq
      (do
        match ← readVault b with
        | .error e =>
          record b (Event.vaultFailed k.name b.spec.vault.name)
          throw (.vaultFetch k.name b.spec.vault.name e)
        | .ok value =>
          if b.observedHash = contentHash value then pure ()
          else refresh key k b value)
      (do
        match ← readVault b with
        | .error e =>
          record b (Event.vaultFailed k.name b.spec.vault.name)
          throw (.vaultFetch k.name b.spec.vault.name e)
        | .ok value =>
          if b.observedHash = contentHash value then pure ()
          else refresh key k b value) := by
  refine twins_bind twins_readVault ?_
  rintro (e | v) (e' | v') indistinct
  · exact twins_bind (twins_record _) fun _ _ _ => twins_throw (.unread indistinct)
  · exact indistinct.elim
  · exact indistinct.elim
  · change b.observedHash = contentHash v ↔ b.observedHash = contentHash v' at indistinct
    dsimp only
    by_cases current : b.observedHash = contentHash v
    · rw [if_pos current, if_pos (indistinct.1 current)]
      exact twins_pure rfl
    · rw [if_neg current, if_neg (current ∘ indistinct.2)]
      exact twins_refresh v v'

end Twins

end Pass

namespace World

variable {σ τ : Type} {read : Reader σ} {read' : Reader τ}

/-- A pass that looks its binding up goes on with what it finds. -/
theorem runWith_lookup (read : Reader σ) {key : String} {k : Key}
    (parsed : Key.parse? key = some k) (f : Key → Option Binding → Pass Unit) (w : World) (s : σ) :
    runWith read (do
        let k ← Pass.parseKey key
        f k (← Pass.getBinding k)) (w, s) =
      match w.cluster.getBinding k with
      | (.ok found, c) => runWith read (f k found) ({ w with cluster := c }, s)
      | (.error e, c) => (.error (.store e), { w with cluster := c }, s) := by
  have looked : Program.run (answerWith read) (Pass.getBinding k).run (w, s) =
      match w.cluster.getBinding k with
      | (.ok found, c) => (.ok found, { w with cluster := c }, s)
      | (.error e, c) => (.error (.store e), { w with cluster := c }, s) := by
    change Program.run (answerWith read) (Pass.ofStore (w.cluster.getBinding k).1).run
      ({ w with cluster := (w.cluster.getBinding k).2 }, s) = _
    cases w.cluster.getBinding k with
    | mk r c => cases r <;> rfl
  have named : Pass.parseKey key = pure k := by
    unfold Pass.parseKey
    rw [parsed]
  rw [named, pure_bind]
  unfold runWith
  rw [Pass.run_bind, looked]
  cases w.cluster.getBinding k with
  | mk r c => cases r <;> rfl

theorem alike_after_lookup {w : World} {s : σ} {t : τ} {key : String} {k : Key}
    (parsed : Key.parse? key = some k) {f : Key → Option Binding → Pass Unit}
    (gone : f k none = pure ())
    (rest : ∀ b, w.cluster.bindings.get? k = some b →
      Pass.Twins read read' b w.cluster.journal Eq (f k (some b)) (f k (some b)))
    (vault : ∀ b ∈ w.binding? key, ∀ n, b.Indistinct (read.nth b n s) (read'.nth b n t)) :
    let p := do
      let k ← Pass.parseKey key
      f k (← Pass.getBinding k)
    Agrees PassError.Twin Eq (runWith read p (w, s)).1 (runWith read' p (w, t)).1 ∧
      (runWith read p (w, s)).2.1.Twin (w.binding? key) w.cluster.journal
        (runWith read' p (w, t)).2.1 := by
  intro p
  rw [runWith_lookup read parsed f w s, runWith_lookup read' parsed f w t]
  have same := w.cluster.getBinding_same k
  cases call : w.cluster.getBinding k with
  | mk r c =>
    rw [call] at same
    have alike (b? : Option Binding) : World.Twin b? w.cluster.journal { w with cluster := c }
        { w with cluster := c } := same.journal ▸ .refl b? { w with cluster := c }
    cases r with
    | error e => exact ⟨.error (.refl _), alike _⟩
    | ok found =>
      have there : w.cluster.bindings.get? k = found :=
        Cluster.getBinding_ok (congrArg Prod.fst call)
      cases found with
      | none =>
        dsimp only
        rw [gone]
        exact ⟨.ok rfl, alike _⟩
      | some b =>
        have named : w.binding? key = some b := by
          rw [binding?, parsed]
          exact there
        rw [named] at vault ⊢
        obtain ⟨agree, like⟩ := rest b there ({ w with cluster := c }, s)
          ({ w with cluster := c }, t) ⟨alike _, vault b rfl⟩
        exact ⟨agree, like.world⟩

theorem report_of_agrees {r r' : Except PassError Unit} (h : Agrees PassError.Twin Eq r r') :
    r.mapError PassError.report = r'.mapError PassError.report := by
  cases h with
  | ok h => rfl
  | error h => exact congrArg Except.error h.report

/-- Values do not leak: run against any two vaults that answer the reads of the binding
indistinctly, a pass gives the same result, records the same events, counts the same and makes the
same writes to the same objects. The clusters differ at most in the bytes that the binding binds and
in the digest in its status. A pass in a world is the run against the vault of that world. -/
theorem values_do_not_leak (w : World) (lane : Lane) (key : String) (s : σ) (t : τ)
    (vault : ∀ b ∈ w.binding? key, ∀ n, b.Indistinct (read.nth b n s) (read'.nth b n t)) :
    let r := runWith read (lane.pass key) (w, s)
    let r' := runWith read' (lane.pass key) (w, t)
    r.1.mapError PassError.report = r'.1.mapError PassError.report ∧
      r.2.1.Twin (w.binding? key) w.cluster.journal r'.2.1 ∧
      ∀ v, runWith .memory (lane.pass key) ({ w with vault := v }, w.vault) =
        ((run (lane.pass key) w).1, { (run (lane.pass key) w).2 with vault := v },
          (run (lane.pass key) w).2.vault) := by
  have own := fun v => runWith_memory (lane.pass key) v w
  cases parsed : Key.parse? key with
  | none =>
    have invalid : ∀ {ρ : Type} (read : Reader ρ) (u : ρ),
        runWith read (lane.pass key) (w, u) = (.error (.invalidKey key), w, u) := by
      intro ρ read u
      cases lane <;>
        simp only [Lane.pass, Pass.specSync, Pass.vaultPoll, Pass.parseKey, parsed] <;> rfl
    rw [invalid, invalid]
    exact ⟨rfl, .refl _ w, own⟩
  | some k =>
    have alike : Agrees PassError.Twin Eq (runWith read (lane.pass key) (w, s)).1
          (runWith read' (lane.pass key) (w, t)).1 ∧
        (runWith read (lane.pass key) (w, s)).2.1.Twin (w.binding? key) w.cluster.journal
          (runWith read' (lane.pass key) (w, t)).2.1 := by
      cases lane with
      | spec => exact alike_after_lookup parsed rfl (fun b _ => Pass.twins_sync) vault
      | poll => exact alike_after_lookup parsed rfl (fun b _ => Pass.twins_poll) vault
    exact ⟨report_of_agrees alike.1, alike.2, own⟩

theorem nth_memory {b : Binding} {v : Vault} {value : String} (calm : v.failures = 0)
    (there : v.values.get? (b.spec.vault.name, b.spec.vault.object.name) = some value) (n : Nat) :
    Reader.memory.nth b n v = .ok value := by
  have answer : Reader.memory b v = (.ok value, { v with reads := v.reads + 1 }) := by
    simp only [Reader.memory, Vault.read, calm, Nat.lt_irrefl, if_false, Vault.value?, there]
  induction n generalizing v with
  | zero => exact congrArg Prod.fst answer
  | succ n ih =>
    rw [Reader.nth, answer]
    refine ih calm there ?_
    simp only [Reader.memory, Vault.read, calm, Nat.lt_irrefl, if_false, Vault.value?, there]

def settled : World := (run (Pass.specSync "default/db-cred") (.sample "old")).2

abbrev polled (value : String) : Except PassError Unit × World × Vault :=
  runWith .memory (Lane.poll.pass "default/db-cred") (settled, .sample value)

theorem settled_outdated : ∀ b ∈ settled.binding? "default/db-cred",
    b.spec = Binding.sample.spec ∧ b.observedHash ≠ contentHash "new" ∧
      b.observedHash ≠ contentHash "newer" := by
  decide +kernel

theorem polled_journal : (polled "new").2.1.cluster.journal.length = 4 ∧
    (polled "new").2.1.cluster.journal ≠ (polled "newer").2.1.cluster.journal := by
  decide +kernel

/-- Either value is written with its digest, and that is all that tells the runs apart. -/
theorem new_values_do_not_leak :
    settled.Reachable ∧
    (polled "new").1.mapError PassError.report = (polled "newer").1.mapError PassError.report ∧
    (polled "new").2.1.Twin (settled.binding? "default/db-cred") settled.cluster.journal
      (polled "newer").2.1 ∧
    (polled "new").2.1.cluster.journal.length = 4 ∧
    (polled "new").2.1.cluster.journal ≠ (polled "newer").2.1.cluster.journal := by
  have vault : ∀ b ∈ settled.binding? "default/db-cred", ∀ n,
      b.Indistinct (Reader.memory.nth b n (.sample "new"))
        (Reader.memory.nth b n (.sample "newer")) := by
    intro b named n
    obtain ⟨spec, old, older⟩ := settled_outdated b named
    have read (value : String) : Reader.memory.nth b n (.sample value) = .ok value :=
      nth_memory rfl (by rw [spec]; rfl) n
    rw [read, read]
    exact ⟨fun h => absurd h old, fun h => absurd h older⟩
  have reachable : settled.Reachable := (sample_reachable "old").run _
  have told := values_do_not_leak settled .poll "default/db-cred" (Vault.sample "new")
    (Vault.sample "newer") vault
  refine ⟨reachable, told.1, ?_, polled_journal⟩
  unfold polled
  exact told.2.1

end World

end SecretSync
