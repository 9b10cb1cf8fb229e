import SecretSync.Proofs.Api.Remote

namespace SecretSync

open ApiServer (through heardCreating heardReplacing)

inductive StoreError.Variant where
  | client
  | unavailable
  | conflict
  | notFound
  | missingField
  deriving DecidableEq

def StoreError.variant : StoreError → Variant
  | .api .. => .client
  | .transport => .client
  | .unavailable _ => .unavailable
  | .conflict .. => .conflict
  | .notFound .. => .notFound
  | .missingField _ => .missingField

/-- The kind of an error, with the variant of the store error in it. -/
def PassError.verdict : PassError → String × Option StoreError.Variant
  | .store e => ((PassError.store e).kind, some e.variant)
  | e => (e.kind, none)

/-- Two answers are one as far as a text tells the value, up to a view of the errors. -/
def AgreeUpTo (told : α → β) (view : ε → γ) (there here : Except ε α) : Prop :=
  (there.map told).mapError view = (here.map told).mapError view

section Views

variable {told : α → α} {view : ε → γ} {hear : ε → ε} {r : Except ε α}

/-- Where the view tells an error from how it is heard, the answers agree unless it came up. -/
theorem agreeUpTo_iff {Heard : ε → Prop} (again : ∀ a, told (told a) = told a)
    (same : ∀ e, view (hear e) = view e ↔ ¬ Heard e) :
    AgreeUpTo told view ((r.map told).mapError hear) r ↔ ∀ e, r = .error e → ¬ Heard e := by
  cases r with
  | error e =>
    constructor
    · rintro agree _ ⟨⟩
      exact (same e).1 (Except.error.inj agree)
    · intro other
      exact congrArg Except.error ((same e).2 (other e rfl))
  | ok a => exact ⟨fun _ => nofun, fun _ => congrArg Except.ok (again a)⟩

theorem agreeUpTo_of_view (again : ∀ a, told (told a) = told a)
    (same : ∀ e, view (hear e) = view e) :
    AgreeUpTo told view ((r.map told).mapError hear) r := by
  cases r with
  | error e => exact congrArg Except.error (same e)
  | ok a => exact congrArg Except.ok (again a)

end Views

variable {wording : Wording}

theorem variant_heardReplacing (e : StoreError) :
    (heardReplacing wording e).variant = e.variant := by
  cases e <;> rfl

theorem variant_heardCreating (e : StoreError) :
    (heardCreating wording e).variant = e.variant ↔ ¬ e.variant = .conflict := by
  cases e <;> simp [heardCreating, StoreError.variant]

namespace PassError

theorem kind_heard (hear : StoreError → StoreError) (e : PassError) :
    (e.heard hear).kind = e.kind := by
  cases e <;> rfl

theorem verdict_heardReplacing (e : PassError) :
    (e.heard (heardReplacing wording)).verdict = e.verdict := by
  cases e with
  | store e => exact congrArg (fun v => (_, some v)) (variant_heardReplacing e)
  | _ => rfl

theorem verdict_heardCreating (e : PassError) :
    (e.heard (heardCreating wording)).verdict = e.verdict ↔
      ¬ e.verdict.2 = some .conflict := by
  cases e with
  | store e => simpa [heard, verdict, kind] using variant_heardCreating e
  | _ => simp [heard, verdict]

end PassError

theorem Meta.addressable_of_writeKey {m : Meta} {k : Key} (ready : m.writeKey = .ok k)
    (addressable : k.Addressable) : ∀ j, m.writeKey = .ok j → j.Addressable := by
  intro j other
  rw [ready] at other
  cases other
  exact addressable

section Writes

variable {c : Cluster} {k : Key} {s : Secret} {b : Binding}

theorem conflict_of_create (calm : c.failures .createSecret = 0)
    (ready : s.metadata.writeKey = .ok k) {e : StoreError}
    (refused : (c.createSecret s).1 = .error e) : e.variant = .conflict := by
  rw [Cluster.createSecret_calm calm ready] at refused
  split at refused
  · cases refused
    rfl
  · cases refused

theorem no_conflict_iff_free (calm : c.failures .createSecret = 0)
    (ready : s.metadata.writeKey = .ok k) :
    (∀ e, (c.createSecret s).1 = .error e → ¬ e.variant = .conflict) ↔
      c.secrets.get? k = none := by
  rw [Cluster.createSecret_calm calm ready]
  cases c.secrets.get? k with
  | none => simp
  | some existing => simp [StoreError.variant]

theorem variant_of_replace (calm : c.failures .updateSecret = 0)
    (ready : s.metadata.writeKey = .ok k) {e : StoreError}
    (refused : (c.updateSecret s).1 = .error e) :
    e.variant = .conflict ∨ e.variant = .notFound := by
  rw [Cluster.updateSecret_calm calm ready] at refused
  split at refused
  · cases refused
    exact .inr rfl
  · split at refused
    · cases refused
    · cases refused
      exact .inl rfl

theorem notFound_of_status (calm : c.failures .updateStatus = 0)
    (ready : b.metadata.writeKey = .ok k) {e : StoreError}
    (refused : (c.updateStatus b).1 = .error e) : e.variant = .notFound := by
  rw [Cluster.updateStatus_calm calm ready] at refused
  split at refused
  · cases refused
    rfl
  · cases refused

theorem createSecret_told (calm : c.failures .createSecret = 0)
    (ready : s.metadata.writeKey = .ok k) :
    (c.createSecret s.told).1 = (c.createSecret s).1.map Secret.told := by
  have ready' : s.told.metadata.writeKey = .ok k := ready
  rw [Cluster.createSecret_calm calm ready, Cluster.createSecret_calm calm ready']
  cases c.secrets.get? k with
  | none => exact congrArg Except.ok (ApiServer.created_told c s)
  | some existing => rfl

theorem updateSecret_told (calm : c.failures .updateSecret = 0)
    (ready : s.metadata.writeKey = .ok k) :
    (c.updateSecret s.told).1 = (c.updateSecret s).1.map Secret.told := by
  have ready' : s.told.metadata.writeKey = .ok k := ready
  rw [Cluster.updateSecret_calm calm ready, Cluster.updateSecret_calm calm ready']
  cases c.secrets.get? k with
  | none => rfl
  | some existing =>
    have fresh : Cluster.fresh s.told existing = Cluster.fresh s existing := rfl
    dsimp only
    rw [fresh]
    split
    · exact congrArg Except.ok (ApiServer.replaced_told c s existing)
    · rfl

theorem create_agrees (calm : c.failures .createSecret = 0) (ready : s.metadata.writeKey = .ok k)
    (addressable : k.Addressable) (readable : s.metadata.notes.Readable) :
    (through wording (Exchange.createSecret s) c).2 = (c.createSecret s.told).2 ∧
      AgreeUpTo Secret.told (fun _ => ()) (through wording (Exchange.createSecret s) c).1
        (c.createSecret s).1 ∧
      (AgreeUpTo Secret.told StoreError.variant
        (through wording (Exchange.createSecret s) c).1 (c.createSecret s).1 ↔
          c.secrets.get? k = none) := by
  have named : s.metadata.name ≠ none := by
    rw [(Meta.writeKey_ok ready).2]
    nofun
  rw [ApiServer.through_createSecret calm named readable
    (Meta.addressable_of_writeKey ready addressable), createSecret_told calm ready]
  exact ⟨rfl, agreeUpTo_of_view Secret.told_told fun _ => rfl,
    (agreeUpTo_iff Secret.told_told variant_heardCreating).trans
      (no_conflict_iff_free calm ready)⟩

theorem replace_agrees (calm : c.failures .updateSecret = 0)
    (ready : s.metadata.writeKey = .ok k) (addressable : k.Addressable)
    (readable : s.metadata.notes.Readable) :
    (through wording (Exchange.replaceSecret s) c).2 = (c.updateSecret s.told).2 ∧
      AgreeUpTo Secret.told StoreError.variant
        (through wording (Exchange.replaceSecret s) c).1 (c.updateSecret s).1 := by
  rw [ApiServer.through_replaceSecret calm readable
    (Meta.addressable_of_writeKey ready addressable), updateSecret_told calm ready]
  exact ⟨rfl, agreeUpTo_of_view Secret.told_told variant_heardReplacing⟩

theorem status_agrees (calm : c.failures .updateStatus = 0)
    (ready : b.metadata.writeKey = .ok k) (addressable : k.Addressable)
    (readable : ∀ stored, c.bindings.get? k = some stored → stored.metadata.notes.Readable) :
    through wording (Exchange.patchStatus b) c =
      ((c.updateStatus b).1.map Binding.told, (c.updateStatus b).2) := by
  refine ApiServer.through_patchStatus calm ?_ (Meta.addressable_of_writeKey ready addressable)
  intro j stored other there
  rw [ready] at other
  cases other
  exact readable stored there

end Writes

section Passes

variable {w : World} {snapshot : Option Secret} {key : String}

theorem specSync_agrees (calm : w.cluster.failures .getBinding = 0)
    (serves : ∀ k b, w.cluster.bindings.get? k = some b → w.cluster.Serves b) :
    (World.runRemote wording snapshot (Pass.specSync key) w).2 =
        (World.runLagging snapshot (Pass.specSync key) w).2 ∧
      AgreeUpTo id PassError.kind (World.runRemote wording snapshot (Pass.specSync key) w).1
        (World.runLagging snapshot (Pass.specSync key) w).1 ∧
      (AgreeUpTo id PassError.verdict (World.runRemote wording snapshot (Pass.specSync key) w).1
          (World.runLagging snapshot (Pass.specSync key) w).1 ↔
        ∀ e, (World.runLagging snapshot (Pass.specSync key) w).1 = .error e →
          ¬ e.verdict.2 = some .conflict) := by
  rw [World.mirrors_specSync calm serves key]
  generalize World.runLagging snapshot (Pass.specSync key) w = r
  obtain ⟨r, v⟩ := r
  have plain : r.map id = r := congrFun Except.map_id r
  have kind : AgreeUpTo id PassError.kind
      ((r.map id).mapError (PassError.heard (heardCreating wording))) r :=
    agreeUpTo_of_view (fun _ => rfl) (PassError.kind_heard _)
  have verdict : AgreeUpTo id PassError.verdict
      ((r.map id).mapError (PassError.heard (heardCreating wording))) r ↔
        ∀ e, r = .error e → ¬ e.verdict.2 = some .conflict :=
    agreeUpTo_iff (fun _ => rfl) PassError.verdict_heardCreating
  rw [plain] at kind verdict
  exact ⟨rfl, kind, verdict⟩

theorem vaultPoll_agrees (calm : w.cluster.failures .getBinding = 0)
    (serves : ∀ k b, w.cluster.bindings.get? k = some b → w.cluster.Serves b) :
    (World.runRemote wording snapshot (Pass.vaultPoll key) w).2 =
        (World.runLagging snapshot (Pass.vaultPoll key) w).2 ∧
      AgreeUpTo id PassError.verdict (World.runRemote wording snapshot (Pass.vaultPoll key) w).1
        (World.runLagging snapshot (Pass.vaultPoll key) w).1 := by
  rw [World.mirrors_vaultPoll calm serves key]
  generalize World.runLagging snapshot (Pass.vaultPoll key) w = r
  obtain ⟨r, v⟩ := r
  have plain : r.map id = r := congrFun Except.map_id r
  have verdict : AgreeUpTo id PassError.verdict
      ((r.map id).mapError (PassError.heard (heardReplacing wording))) r :=
    agreeUpTo_of_view (fun _ => rfl) PassError.verdict_heardReplacing
  rw [plain] at verdict
  exact ⟨rfl, verdict⟩

end Passes

/-- A server that applies the rules of a calm cluster is as good as the cluster: a write succeeds
through it exactly when it succeeds there, with the effect that its text tells, and otherwise fails
in the same variant, and so does a pass. Only a Secret that is there already is not a conflict to
who creates it through the server. -/
theorem stores_agree_unless_created_twice (wording : Wording) {w : World}
    (calm : ∀ op, w.cluster.failures op = 0) :
    (∀ s k, s.metadata.writeKey = .ok k → k.Addressable → s.metadata.notes.Readable →
      (through wording (Exchange.createSecret s) w.cluster).2 = (w.cluster.createSecret s.told).2 ∧
        AgreeUpTo Secret.told (fun _ => ())
          (through wording (Exchange.createSecret s) w.cluster).1 (w.cluster.createSecret s).1 ∧
        (AgreeUpTo Secret.told StoreError.variant
          (through wording (Exchange.createSecret s) w.cluster).1 (w.cluster.createSecret s).1 ↔
            w.cluster.secrets.get? k = none) ∧
        ∀ e, (w.cluster.createSecret s).1 = .error e → e.variant = .conflict) ∧
    (∀ s k, s.metadata.writeKey = .ok k → k.Addressable → s.metadata.notes.Readable →
      (through wording (Exchange.replaceSecret s) w.cluster).2 =
          (w.cluster.updateSecret s.told).2 ∧
        AgreeUpTo Secret.told StoreError.variant
          (through wording (Exchange.replaceSecret s) w.cluster).1 (w.cluster.updateSecret s).1 ∧
        ∀ e, (w.cluster.updateSecret s).1 = .error e →
          e.variant = .conflict ∨ e.variant = .notFound) ∧
    (∀ b k, b.metadata.writeKey = .ok k → k.Addressable →
      (∀ stored, w.cluster.bindings.get? k = some stored → stored.metadata.notes.Readable) →
      through wording (Exchange.patchStatus b) w.cluster =
          ((w.cluster.updateStatus b).1.map Binding.told, (w.cluster.updateStatus b).2) ∧
        ∀ e, (w.cluster.updateStatus b).1 = .error e → e.variant = .notFound) ∧
    ((∀ k b, w.cluster.bindings.get? k = some b → w.cluster.Serves b) → ∀ snapshot key,
      (World.runRemote wording snapshot (Pass.specSync key) w).2 =
          (World.runLagging snapshot (Pass.specSync key) w).2 ∧
        AgreeUpTo id PassError.kind (World.runRemote wording snapshot (Pass.specSync key) w).1
          (World.runLagging snapshot (Pass.specSync key) w).1 ∧
        (AgreeUpTo id PassError.verdict
            (World.runRemote wording snapshot (Pass.specSync key) w).1
            (World.runLagging snapshot (Pass.specSync key) w).1 ↔
          ∀ e, (World.runLagging snapshot (Pass.specSync key) w).1 = .error e →
            ¬ e.verdict.2 = some .conflict) ∧
        (World.runRemote wording snapshot (Pass.vaultPoll key) w).2 =
          (World.runLagging snapshot (Pass.vaultPoll key) w).2 ∧
        AgreeUpTo id PassError.verdict
          (World.runRemote wording snapshot (Pass.vaultPoll key) w).1
          (World.runLagging snapshot (Pass.vaultPoll key) w).1) := by
  refine ⟨fun s k ready addressable readable => ?_, fun s k ready addressable readable => ?_,
    fun b k ready addressable readable => ?_, fun serves snapshot key => ?_⟩
  · obtain ⟨after, same, variant⟩ := create_agrees (calm _) ready addressable readable
    exact ⟨after, same, variant, fun e => conflict_of_create (calm _) ready⟩
  · obtain ⟨after, variant⟩ := replace_agrees (calm _) ready addressable readable
    exact ⟨after, variant, fun e => variant_of_replace (calm _) ready⟩
  · exact ⟨status_agrees (calm _) ready addressable readable,
      fun e => notFound_of_status (calm _) ready⟩
  · obtain ⟨after, kind, verdict⟩ := specSync_agrees (calm _) serves
    exact ⟨after, kind, verdict, vaultPoll_agrees (calm _) serves⟩

def Secret.sample : Secret :=
  Binding.sample.desired ⟨Binding.apiVersion, Binding.kind, "db-cred", "u1", some true, none⟩ "old"

/-- Another client has created the Secret of the sample binding. -/
def World.raced : World := (World.sample "old").edit (.request (.createSecret .sample))

theorem addressable_sample : Key.Addressable ⟨"default", "db-cred"⟩ where
  space := by decide
  name := by decide
  short := by decide

theorem addressable_output : Key.Addressable ⟨"default", "db-secret"⟩ where
  space := by decide
  name := by decide
  short := by decide

theorem raced_binding {k : Key} {b : Binding}
    (there : World.raced.cluster.bindings.get? k = some b) : b = .sample := by
  have only : World.raced.cluster.bindings =
      Table.empty.insert ⟨"default", "db-cred"⟩ Binding.sample := rfl
  rw [only, Table.get?_insert] at there
  split at there
  · exact (Option.some.inj there).symm
  · cases there

theorem raced_serves {k : Key} {b : Binding}
    (there : World.raced.cluster.bindings.get? k = some b) : World.raced.cluster.Serves b := by
  obtain rfl := raced_binding there
  exact
    { calm := fun _ => rfl
      readable := fun _ _ stored => raced_binding stored ▸ Bookkeeping.readable_empty
      own := Meta.addressable_of_writeKey rfl addressable_sample
      output := fun _ inside _ => by
        cases inside
        exact addressable_output }

theorem raced_stores_agree :
    AgreeUpTo Secret.told (fun _ => ())
        (through StoreError.message (Exchange.createSecret .sample) World.raced.cluster).1
        (World.raced.cluster.createSecret .sample).1 ∧
      AgreeUpTo Secret.told StoreError.variant
        (through StoreError.message (Exchange.replaceSecret .sample) World.raced.cluster).1
        (World.raced.cluster.updateSecret .sample).1 ∧
      through StoreError.message (Exchange.patchStatus .sample) World.raced.cluster =
        ((World.raced.cluster.updateStatus .sample).1.map Binding.told,
          (World.raced.cluster.updateStatus .sample).2) ∧
      AgreeUpTo id PassError.kind
        (World.runRemote StoreError.message none (Pass.specSync "default/db-cred") .raced).1
        (World.runLagging none (Pass.specSync "default/db-cred") .raced).1 ∧
      AgreeUpTo id PassError.verdict
        (World.runRemote StoreError.message none (Pass.vaultPoll "default/db-cred") .raced).1
        (World.runLagging none (Pass.vaultPoll "default/db-cred") .raced).1 := by
  obtain ⟨create, replace, status, passes⟩ :=
    stores_agree_unless_created_twice StoreError.message (w := .raced) fun _ => rfl
  obtain ⟨-, kind, -, -, poll⟩ := passes (fun _ _ => raced_serves) none "default/db-cred"
  have readable : Secret.sample.metadata.notes.Readable := Bookkeeping.readable_empty
  exact ⟨(create .sample _ rfl addressable_output readable).2.1,
    (replace .sample _ rfl addressable_output readable).2.1,
    (status .sample _ rfl addressable_sample fun _ stored =>
      raced_binding stored ▸ Bookkeeping.readable_empty).1,
    kind, poll⟩

/-- Who creates the Secret of the other client, in a pass or not, hears of no conflict. -/
theorem raced_hears_no_conflict :
    (World.raced.cluster.createSecret .sample).1.mapError StoreError.variant = .error .conflict ∧
      (through StoreError.message (Exchange.createSecret .sample) World.raced.cluster).1.mapError
        StoreError.variant = .error .client ∧
      (World.runLagging none (Pass.specSync "default/db-cred") .raced).1.mapError
        PassError.verdict = .error ("store", some .conflict) ∧
      (World.runRemote StoreError.message none (Pass.specSync "default/db-cred") .raced).1.mapError
        PassError.verdict = .error ("store", some .client) := by
  rw [ApiServer.through_createSecret rfl (by decide) Bookkeeping.readable_empty
      (Meta.addressable_of_writeKey rfl addressable_output),
    World.mirrors_specSync rfl (fun _ _ => raced_serves)]
  exact ⟨rfl, rfl, rfl, rfl⟩

end SecretSync
