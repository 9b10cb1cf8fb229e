import SecretSync.Proofs.Pass.Protocol
import SecretSync.Proofs.Pass.Reachable

namespace SecretSync

/-- A call of a pass with its answer, and the clusters right before and after it. -/
structure Call where
  pass : Nat
  request : Request
  answer : request.Answer
  before : Cluster
  after : Cluster

def World.callBy (w : World) (pass : Nat) (q : Request) : Call :=
  ⟨pass, q, (World.answer q w).1, w.cluster, (World.answer q w).2.cluster⟩

namespace Call

/-- The answer of a call and what it did are those of some sound world. -/
def Honest (c : Call) : Prop :=
  ∃ (w : World) (i : Nat) (q : Request), w.cluster.Sound ∧ c = w.callBy i q

def binding? (c : Call) : Option Binding :=
  match c.request, c.answer with
  | .getBinding _, .ok found => found
  | _, _ => none

def readsVault (c : Call) : Bool :=
  match c.request with
  | .readVault _ => true
  | _ => false

def fetched? (c : Call) : Option String :=
  match c.request, c.answer with
  | .readVault _, .ok v => some v
  | _, _ => none

def stored? (c : Call) : Option Secret :=
  match c.request, c.answer with
  | .createSecret _, .ok s => some s
  | .updateSecret _, .ok s => some s
  | _, _ => none

/-- The binding whose status a call writes, or tries to. -/
def told? (c : Call) : Option Binding :=
  match c.request with
  | .updateStatus b => some b
  | _ => none

end Call

def Phase.binding? : Phase → Option Binding
  | .found b | .present b _ | .vacant b | .fetched b _ | .claimed b _ _ => some b
  | .written b _ _ | .recorded b _ _ | .unrecorded b _ _ _ => some b
  | .start | .gone | .failed _ => none

def snapshot (log : List Call) : Option Binding := log.findSome? Call.binding?

/-- The calls of a pass, each answered as the protocol allows, lead to a phase. -/
inductive Path (key : String) (lane : Lane) : List Call → Phase → Prop
  | nil : Path key lane [] .start
  | snoc {log p c q} : Path key lane log p → Phase.Step key lane p c.request c.answer q →
      Path key lane (log ++ [c]) q

namespace Path

variable {key : String} {lane : Lane} {log : List Call} {p : Phase}

/-- A count of calls is bounded by a rank of the phases that pays for each. -/
theorem count {f : Call → Bool} {rank : Phase → Nat}
    (pays : ∀ {p c t}, Phase.Step key lane p c.request c.answer t →
      rank p + (if f c then 1 else 0) ≤ rank t)
    (h : Path key lane log p) : log.countP f ≤ rank p := by
  induction h with
  | nil => exact Nat.zero_le _
  | snoc _ taken ih =>
    rw [List.countP_append, List.countP_singleton]
    exact Nat.le_trans (Nat.add_le_add_right ih _) (pays taken)

theorem mem {c : Call} (h : Path key lane log p) (made : c ∈ log) :
    ∃ s t, Phase.Step key lane s c.request c.answer t := by
  induction h with
  | nil => exact nomatch made
  | snoc _ taken ih =>
    rcases List.mem_append.1 made with old | new
    · exact ih old
    · cases List.mem_singleton.1 new
      exact ⟨_, _, taken⟩

/-- A path can be cut at a call. What the steps keep then holds to its end. -/
theorem cut (keeps : Phase → Prop)
    (kept : ∀ {p q r t}, Phase.Step key lane p q r t → keeps p → keeps t)
    (h : Path key lane log p) {before after : List Call} {c : Call}
    (parts : log = before ++ c :: after) : ∃ s t, Path key lane before s ∧
      Phase.Step key lane s c.request c.answer t ∧ (keeps t → keeps p) := by
  induction h generalizing after with
  | nil => exact absurd parts (by simp)
  | snoc path taken ih =>
    -- The path grows at its end: the cut is at the last call, or before it.
    rcases List.eq_nil_or_concat after with rfl | ⟨later, last, rfl⟩
    · obtain ⟨rfl, same⟩ := List.append_inj' parts rfl
      cases same
      exact ⟨_, _, path, taken, id⟩
    · rw [List.concat_eq_append, ← List.cons_append, ← List.append_assoc] at parts
      obtain ⟨rest, _⟩ := List.append_inj' parts rfl
      obtain ⟨s, t, first, there, on⟩ := ih rest
      exact ⟨s, t, first, there, fun held => kept taken (on held)⟩

end Path

theorem snapshot_append {log : List Call} {b : Binding} (h : snapshot log = some b)
    (later : List Call) : snapshot (log ++ later) = some b := by
  rw [snapshot, List.findSome?_append, ← snapshot, h, Option.some_or]

theorem snapshot_append_of_none {log : List Call} (h : snapshot log = none) (c : Call) :
    snapshot (log ++ [c]) = c.binding? := by
  rw [snapshot, List.findSome?_append, ← snapshot, h, Option.none_or]
  simp

theorem Path.read {key : String} {lane : Lane} {log : List Call} {p : Phase}
    (h : Path key lane log p) :
    (p = .start → snapshot log = none) ∧ ∀ b, p.binding? = some b → snapshot log = some b := by
  induction h with
  | nil => exact ⟨fun _ => rfl, fun _ h => nomatch h⟩
  | snoc _ taken ih =>
    rename_i log p c t _
    obtain ⟨unread, read⟩ := ih
    obtain ⟨i, q, r, before, after⟩ := c
    cases taken with
    | found parsed =>
      refine ⟨fun is => (nomatch is), fun b hb => ?_⟩
      rw [snapshot_append_of_none (unread rfl)]
      exact hb
    | noted | counted | timed =>
      refine ⟨fun is => ?_, fun b hb => snapshot_append (read b hb) _⟩
      rw [snapshot_append_of_none (unread is)]
      rfl
    | _ =>
      refine ⟨fun is => (nomatch is), fun b hb => ?_⟩
      first
      | exact snapshot_append (read b hb) _
      | cases hb

end SecretSync
