import SecretSync.Proofs.Store.Versions
import Mathlib.Data.List.Perm.Basic

/-!
The calls of any number of clients to one cluster. What is done under the lock is one step; an insert
draws its identity and its version before it takes the lock, so it is several steps, with those of
others in between. From the answers can be read off which version was given out, which was stored,
and which Secret was shown, written or removed.
-/
namespace SecretSync

/-- An insert that is not over: it has what it drew so far. -/
inductive Insert where
  | identified (b : Binding)
  | binding (b : Binding) (version : String)
  | secret (s : Secret) (version : String)

def Insert.version? : Insert → Option String
  | .identified _ => none
  | .binding _ version => some version
  | .secret _ version => some version

inductive InsertStep where
  | drew (version : String)
  | storedBinding (b : Binding)
  | storedSecret (s : Secret)

inductive StoreCall where
  | getSecret (k : Key)
  /-- A look at what is stored, which no failure keeps from being answered. -/
  | seeSecret (k : Key)
  | getBinding (k : Key)
  | listBindings
  | createSecret (s : Secret)
  | updateSecret (s : Secret)
  | updateStatus (b : Binding)
  /-- A binding is to be inserted, and gets its identity. -/
  | insertBinding (b : Binding)
  | removeBinding (k : Key)
  /-- A Secret is to be inserted, and gets its version. -/
  | insertSecret (s : Secret)
  /-- An insert does its next step: it draws its version, or it is stored and over. -/
  | goOn (insert : Nat)
  | removeSecret (k : Key)
  | failNext (op : Operation) (times : Nat)
  | clearJournal

namespace StoreCall

def Answer : StoreCall → Type
  | .getSecret _ => Except StoreError (Option Secret)
  | .seeSecret _ => Option Secret
  | .getBinding _ => Except StoreError (Option Binding)
  | .listBindings => Except StoreError (List Binding)
  | .createSecret _ => Except StoreError Secret
  | .updateSecret _ => Except StoreError Secret
  | .updateStatus _ => Except StoreError Binding
  | .insertBinding _ => Unit
  | .removeBinding _ => Option Binding
  | .insertSecret _ => String
  | .goOn _ => Option InsertStep
  | .removeSecret _ => Option Secret
  | .failNext _ _ => Unit
  | .clearJournal => Unit

end StoreCall

def Cluster.proceed (c : Cluster) : Insert → InsertStep × Option Insert × Cluster
  | .identified b =>
    let (version, d) := c.drawVersion
    (.drew version, some (.binding b version), d)
  | .binding b version =>
    let (b, d) := c.storeBinding b version
    (.storedBinding b, none, d)
  | .secret s version =>
    let (s, d) := c.storeSecret s version
    (.storedSecret s, none, d)

/-- A cluster with the inserts that its clients are at. -/
structure SharedCluster where
  cluster : Cluster
  inserts : List Insert

namespace SharedCluster

def start : SharedCluster := ⟨.empty, []⟩

def locked (c : SharedCluster) (r : α × Cluster) : α × SharedCluster :=
  (r.1, { c with cluster := r.2 })

def goOn (c : SharedCluster) (i : Nat) : Option InsertStep × SharedCluster :=
  match c.inserts[i]? with
  | none => (none, c)
  | some x =>
    let (progress, rest, d) := c.cluster.proceed x
    (some progress, ⟨d, c.inserts.eraseIdx i ++ rest.toList⟩)

def serve (c : SharedCluster) : (q : StoreCall) → q.Answer × SharedCluster
  | .getSecret k => c.locked (c.cluster.getSecret k)
  | .seeSecret k => (c.cluster.secrets.get? k, c)
  | .getBinding k => c.locked (c.cluster.getBinding k)
  | .listBindings => c.locked c.cluster.listBindings
  | .createSecret s => c.locked (c.cluster.createSecret s)
  | .updateSecret s => c.locked (c.cluster.updateSecret s)
  | .updateStatus b => c.locked (c.cluster.updateStatus b)
  | .insertBinding b =>
    let (b, d) := c.cluster.identify b
    ((), ⟨d, c.inserts ++ [.identified b]⟩)
  | .removeBinding k => c.locked (c.cluster.removeBinding k)
  | .insertSecret s =>
    let (version, d) := c.cluster.drawVersion
    (version, ⟨d, c.inserts ++ [.secret s version]⟩)
  | .goOn i => c.goOn i
  | .removeSecret k => c.locked (c.cluster.removeSecret k)
  | .failNext op times => c.locked ((), c.cluster.failNext op times)
  | .clearJournal => c.locked ((), c.cluster.clearJournal)

end SharedCluster

structure Served where
  call : StoreCall
  answer : call.Answer

/-- A Secret that names the object and the version of a snapshot. -/
def Secret.Cites (u s : Secret) : Prop :=
  u.metadata.name = s.metadata.name ∧ u.metadata.space = s.metadata.space ∧
    u.metadata.resourceVersion = s.metadata.resourceVersion

instance (u s : Secret) : Decidable (u.Cites s) := inferInstanceAs (Decidable (_ ∧ _ ∧ _))

theorem Secret.Cites.key {u s : Secret} (h : u.Cites s) : u.metadata.key = s.metadata.key := by
  rw [Meta.key, Meta.key, h.1, h.2.1]

namespace Served

def assigned? : Served → Option String
  | ⟨.createSecret _, r⟩ => r.toOption.bind fun s => s.metadata.resourceVersion
  | ⟨.updateSecret _, r⟩ => r.toOption.bind fun s => s.metadata.resourceVersion
  | ⟨.updateStatus _, r⟩ => r.toOption.bind fun b => b.metadata.resourceVersion
  | ⟨.insertSecret _, version⟩ => some version
  | ⟨.goOn _, some (.drew version)⟩ => some version
  | _ => none

def stored? : Served → Option String
  | ⟨.createSecret _, r⟩ => r.toOption.bind fun s => s.metadata.resourceVersion
  | ⟨.updateSecret _, r⟩ => r.toOption.bind fun s => s.metadata.resourceVersion
  | ⟨.updateStatus _, r⟩ => r.toOption.bind fun b => b.metadata.resourceVersion
  | ⟨.goOn _, some (.storedBinding b)⟩ => b.metadata.resourceVersion
  | ⟨.goOn _, some (.storedSecret s)⟩ => s.metadata.resourceVersion
  | _ => none

/-- The Secret that was read, or written and returned. -/
def shown? : Served → Option Secret
  | ⟨.getSecret _, r⟩ => r.toOption.join
  | ⟨.seeSecret _, found⟩ => found
  | ⟨.createSecret _, r⟩ => r.toOption
  | ⟨.updateSecret _, r⟩ => r.toOption
  | ⟨.goOn _, some (.storedSecret s)⟩ => some s
  | _ => none

def touches (k : Key) : Served → Bool
  | ⟨.createSecret s, r⟩ => r.isOk && decide (s.metadata.key = k)
  | ⟨.updateSecret s, r⟩ => r.isOk && decide (s.metadata.key = k)
  | ⟨.goOn _, some (.storedSecret s)⟩ => decide (s.metadata.key = k)
  | ⟨.removeSecret j, found⟩ => found.isSome && decide (j = k)
  | _ => false

end Served

namespace SharedCluster

def served (c : SharedCluster) (q : StoreCall) : Served := ⟨q, (c.serve q).1⟩

def after (c : SharedCluster) (calls : List StoreCall) : SharedCluster :=
  calls.foldl (fun c q => (c.serve q).2) c

def transcript (c : SharedCluster) : List StoreCall → List Served
  | [] => []
  | q :: rest => c.served q :: (c.serve q).2.transcript rest

theorem after_append (c : SharedCluster) (calls rest : List StoreCall) :
    c.after (calls ++ rest) = (c.after calls).after rest := List.foldl_append

theorem transcript_append (c : SharedCluster) (calls rest : List StoreCall) :
    c.transcript (calls ++ rest) = c.transcript calls ++ (c.after calls).transcript rest := by
  induction calls generalizing c with
  | nil => rfl
  | cons q calls ih => exact congrArg (List.cons _) (ih (c.serve q).2)

theorem transcript_snoc (c : SharedCluster) (calls : List StoreCall) (q : StoreCall) :
    c.transcript (calls ++ [q]) = c.transcript calls ++ [(c.after calls).served q] :=
  c.transcript_append calls [q]

/-- The versions that were drawn for what is not stored yet. -/
def pending (c : SharedCluster) : List String := c.inserts.filterMap Insert.version?

/-- What a call does to the versions, and what its answer tells of them: nothing, or the next one is
drawn, for what is stored at once or later, or what is stored has one that was drawn before. -/
inductive Versioned (c d : SharedCluster) (e : Served) : Prop
  | nothing (versions : d.cluster.versions = c.cluster.versions) (pending : d.pending = c.pending)
      (assigned : e.assigned? = none) (stored : e.stored? = none)
  | used (versions : d.cluster.versions = c.cluster.versions + 1) (pending : d.pending = c.pending)
      (assigned : e.assigned? = some c.cluster.nextVersion)
      (stored : e.stored? = some c.cluster.nextVersion)
  | drawn (versions : d.cluster.versions = c.cluster.versions + 1)
      (pending : d.pending.Perm (c.cluster.nextVersion :: c.pending))
      (assigned : e.assigned? = some c.cluster.nextVersion) (stored : e.stored? = none)
  | redeemed (v : String) (versions : d.cluster.versions = c.cluster.versions)
      (pending : c.pending.Perm (v :: d.pending)) (assigned : e.assigned? = none)
      (stored : e.stored? = some v)

inductive Changed (c d : SharedCluster) (e : Served) : Prop
  | nothing (secrets : d.cluster.secrets = c.cluster.secrets) (touches : ∀ k, e.touches k = false)
      (shown : ∀ s, e.shown? = some s → ∃ k, c.cluster.secrets.get? k = some s)
  | wrote (s : Secret) (v : String) (version : s.metadata.resourceVersion = some v)
      (stored : e.stored? = some v)
      (secrets : d.cluster.secrets = c.cluster.secrets.insert s.metadata.key s)
      (touches : ∀ k, e.touches k = decide (s.metadata.key = k)) (shown : e.shown? = some s)
  | removed (j : Key) (secrets : d.cluster.secrets = c.cluster.secrets.erase j)
      (touches : ∀ k, e.touches k = ((c.cluster.secrets.get? j).isSome && decide (j = k)))
      (shown : e.shown? = none)

structure Did (c d : SharedCluster) (e : Served) : Prop where
  versions : Versioned c d e
  secrets : Changed c d e

theorem Changed.unseen {c d : SharedCluster} {e : Served}
    (secrets : d.cluster.secrets = c.cluster.secrets) (touches : ∀ k, e.touches k = false)
    (shown : e.shown? = none) : Changed c d e :=
  .nothing secrets touches fun _ some => nomatch shown.symm.trans some

section Serve

variable (c : SharedCluster)

theorem served_eq {q : StoreCall} {answer : q.Answer} (h : (c.serve q).1 = answer) :
    c.served q = ⟨q, answer⟩ :=
  congrArg (Served.mk q) h

theorem pending_append (d : Cluster) (inserts rest : List Insert) :
    pending ⟨d, inserts ++ rest⟩ = pending ⟨d, inserts⟩ ++ pending ⟨d, rest⟩ :=
  List.filterMap_append

/-- The insert in a place comes with its version, if it has one, beside those of all others. -/
theorem pending_perm {x : Insert} {i : Nat} (there : c.inserts[i]? = some x) (d : Cluster) :
    c.pending.Perm (pending ⟨d, [x]⟩ ++ pending ⟨d, c.inserts.eraseIdx i⟩) := by
  obtain ⟨bound, rfl⟩ := List.getElem?_eq_some_iff.1 there
  rw [← pending_append]
  exact (List.getElem_cons_eraseIdx_perm bound).symm.filterMap Insert.version?

theorem did_getSecret (k : Key) : Did c (c.serve (.getSecret k)).2 (c.served (.getSecret k)) := by
  have same := c.cluster.getSecret_same k
  refine ⟨.nothing same.versions rfl rfl rfl, .nothing same.secrets (fun _ => rfl) ?_⟩
  intro s shown
  change (c.cluster.getSecret k).1.toOption.join = some s at shown
  cases answered : (c.cluster.getSecret k).1 with
  | error e => exact nomatch answered ▸ shown
  | ok found =>
    rw [answered] at shown
    exact ⟨k, (Cluster.getSecret_ok answered).trans shown⟩

theorem did_createSecret (s : Secret) :
    Did c (c.serve (.createSecret s)).2 (c.served (.createSecret s)) := by
  rcases Cluster.createSecret_cases c.cluster s with ⟨⟨e, refused⟩, same⟩ | ⟨k, named, _, call⟩
  · have answer : c.served (.createSecret s) = ⟨.createSecret s, .error e⟩ := served_eq c refused
    rw [answer]
    exact ⟨.nothing same.versions rfl rfl rfl, .unseen same.secrets (fun _ => rfl) rfl⟩
  · obtain rfl : s.metadata.key = k := Meta.key_of_writeKey named
    have answer : c.served (.createSecret s) = ⟨.createSecret s, .ok (c.cluster.created s)⟩ :=
      served_eq c (congrArg Prod.fst call)
    have state : (c.serve (.createSecret s)).2.cluster =
        c.cluster.withCreated s.metadata.key s := congrArg Prod.snd call
    rw [answer]
    exact ⟨.used (congrArg Cluster.versions state) rfl rfl rfl,
      .wrote (c.cluster.created s) c.cluster.nextVersion rfl rfl (congrArg Cluster.secrets state)
        (fun _ => rfl) rfl⟩

theorem did_updateSecret (s : Secret) :
    Did c (c.serve (.updateSecret s)).2 (c.served (.updateSecret s)) := by
  rcases Cluster.updateSecret_cases c.cluster s with
    ⟨⟨e, refused⟩, same⟩ | ⟨k, existing, named, _, _, call⟩
  · have answer : c.served (.updateSecret s) = ⟨.updateSecret s, .error e⟩ := served_eq c refused
    rw [answer]
    exact ⟨.nothing same.versions rfl rfl rfl, .unseen same.secrets (fun _ => rfl) rfl⟩
  · obtain rfl : s.metadata.key = k := Meta.key_of_writeKey named
    have answer : c.served (.updateSecret s) =
        ⟨.updateSecret s, .ok (c.cluster.replaced s existing)⟩ :=
      served_eq c (congrArg Prod.fst call)
    have state : (c.serve (.updateSecret s)).2.cluster =
        c.cluster.withReplaced s.metadata.key s existing := congrArg Prod.snd call
    rw [answer]
    exact ⟨.used (congrArg Cluster.versions state) rfl rfl rfl,
      .wrote (c.cluster.replaced s existing) c.cluster.nextVersion rfl rfl
        (congrArg Cluster.secrets state) (fun _ => rfl) rfl⟩

theorem did_updateStatus (b : Binding) :
    Did c (c.serve (.updateStatus b)).2 (c.served (.updateStatus b)) := by
  rcases Cluster.updateStatus_cases c.cluster b with
    ⟨⟨e, refused⟩, same, _⟩ | ⟨k, existing, _, _, call⟩
  · have answer : c.served (.updateStatus b) = ⟨.updateStatus b, .error e⟩ := served_eq c refused
    rw [answer]
    exact ⟨.nothing same.versions rfl rfl rfl, .unseen same.secrets (fun _ => rfl) rfl⟩
  · have answer : c.served (.updateStatus b) =
        ⟨.updateStatus b, .ok (c.cluster.restated b existing)⟩ :=
      served_eq c (congrArg Prod.fst call)
    have state : (c.serve (.updateStatus b)).2.cluster = c.cluster.withRestated k b existing :=
      congrArg Prod.snd call
    rw [answer]
    exact ⟨.used (congrArg Cluster.versions state) rfl rfl rfl,
      .unseen (congrArg Cluster.secrets state :) (fun _ => rfl) rfl⟩

theorem did_goOn (i : Nat) : Did c (c.serve (.goOn i)).2 (c.served (.goOn i)) := by
  change Did c (c.goOn i).2 ⟨.goOn i, (c.goOn i).1⟩
  unfold goOn
  cases there : c.inserts[i]? with
  | none => exact ⟨.nothing rfl rfl rfl rfl, .unseen rfl (fun _ => rfl) rfl⟩
  | some x =>
    have split := c.pending_perm there
    cases x with
    | identified b =>
      refine ⟨.drawn rfl ?_ rfl rfl, .unseen rfl (fun _ => rfl) rfl⟩
      refine (List.Perm.of_eq (pending_append ..)).trans ?_
      exact (List.perm_append_singleton _ _).trans ((split _).symm.cons _)
    | binding b version =>
      refine ⟨.redeemed version rfl ?_ rfl rfl, .unseen rfl (fun _ => rfl) rfl⟩
      refine (split c.cluster).trans (.of_eq ?_)
      exact congrArg (version :: List.filterMap Insert.version? ·) (List.append_nil _).symm
    | secret s version =>
      refine ⟨.redeemed version rfl ?_ rfl rfl,
        .wrote (c.cluster.storeSecret s version).1 version rfl rfl rfl (fun _ => rfl) rfl⟩
      refine (split c.cluster).trans (.of_eq ?_)
      exact congrArg (version :: List.filterMap Insert.version? ·) (List.append_nil _).symm

theorem did_serve (q : StoreCall) : Did c (c.serve q).2 (c.served q) := by
  cases q with
  | getSecret k => exact did_getSecret c k
  | seeSecret k =>
    exact ⟨.nothing rfl rfl rfl rfl, .nothing rfl (fun _ => rfl) fun _ shown => ⟨k, shown⟩⟩
  | getBinding k =>
    have same := c.cluster.getBinding_same k
    exact ⟨.nothing same.versions rfl rfl rfl, .unseen same.secrets (fun _ => rfl) rfl⟩
  | listBindings =>
    have same := c.cluster.listBindings_same
    exact ⟨.nothing same.versions rfl rfl rfl, .unseen same.secrets (fun _ => rfl) rfl⟩
  | createSecret s => exact did_createSecret c s
  | updateSecret s => exact did_updateSecret c s
  | updateStatus b => exact did_updateStatus c b
  | insertBinding b =>
    refine ⟨.nothing rfl ?_ rfl rfl, .unseen rfl (fun _ => rfl) rfl⟩
    exact (pending_append ..).trans (List.append_nil _)
  | insertSecret s =>
    refine ⟨.drawn rfl ?_ rfl rfl, .unseen rfl (fun _ => rfl) rfl⟩
    exact (List.Perm.of_eq (pending_append ..)).trans (List.perm_append_singleton _ _)
  | goOn i => exact did_goOn c i
  | removeSecret k =>
    exact ⟨.nothing rfl rfl rfl rfl, .removed k rfl (fun _ => rfl) rfl⟩
  | removeBinding | failNext | clearJournal =>
    exact ⟨.nothing rfl rfl rfl rfl, .unseen rfl (fun _ => rfl) rfl⟩

end Serve

end SharedCluster

end SecretSync
