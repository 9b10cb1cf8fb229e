import SecretSync.Proofs.Pass.Reachable
import SecretSync.Proofs.Resource.KeyText
import SecretSync.Proofs.Watch.Feeding
import Mathlib.Data.List.Induction

/-!
Versions of a binding that come into view. An applied version is in view before its key is queued.
The versions of a new list are queued while they are gathered, and come into view when the list is
complete: a pass that looks in between is too early, and its look-up is not made again.
-/
namespace SecretSync

variable {b : Binding}

/-- A binding as the API server lets it be: it has a namespace and a name, without slashes. -/
def Binding.Named (b : Binding) : Prop :=
  ∃ space name, b.metadata.space = some space ∧ b.metadata.name = some name ∧ name ≠ "" ∧
    '/' ∉ space.toList ∧ '/' ∉ name.toList

theorem Binding.Named.parse_key (named : b.Named) : Key.parse? b.key = some b.metadata.key := by
  obtain ⟨space, name, inside, called, filled, plainSpace, plainName⟩ := named
  apply Key.parse?_render
  · simpa [Meta.key, called] using filled
  · simpa [Meta.key, inside] using plainSpace
  · simpa [Meta.key, called] using plainName

namespace Feeding

variable {s : Feeding} {m : FeedingMove}

/-- The copy has this version of a binding in view. -/
def Shows (s : Feeding) (b : Binding) : Prop :=
  s.copy.shown.get? b.metadata.cacheKey = some b

instance (s : Feeding) (b : Binding) : Decidable (s.Shows b) :=
  inferInstanceAs (Decidable (_ = some b))

theorem answer_of_shows (named : b.Named) (shown : s.Shows b)
    (reply : (q : Request) → q.Answer) :
    s.answer reply (.getBinding b.metadata.key) = .ok (some b) := by
  obtain ⟨space, name, inside, called, -⟩ := named
  rw [Shows, Meta.cacheKey, inside, called] at shown
  change Except.ok (s.copy.get? b.metadata.key) = _
  simp only [Meta.key, inside, called, Option.getD_some] at shown ⊢
  rw [Reflector.get?, shown]

theorem copy_move (s : Feeding) (m : FeedingMove) :
    (s.move m).copy = s.copy ∨ ∃ e, m = .hear e ∧ s.news = none ∧
      s.move m = { s with copy := s.copy.see Binding.metadata e, news := some e } := by
  cases m with
  | hear e =>
    cases news : s.news with
    | none => exact .inr ⟨e, rfl, rfl, by simp [move, news]⟩
    | some _ => exact .inl (by simp [move, news])
  | add key => exact .inl rfl
  | _ =>
    left
    simp only [move]
    split
    · rfl
    · rfl

/-- A version comes into view when it is applied, or with the list in which it was gathered. -/
theorem revealed_cases (hidden : ¬ s.Shows b) (shown : (s.move m).Shows b) :
    m = .hear (.apply b) ∧ s.move m = { s with
        copy := s.copy.see Binding.metadata (.apply b), news := some (.apply b) } ∨
    m = .hear .initDone ∧ s.copy.buffer.get? b.metadata.cacheKey = some b := by
  rcases s.copy_move m with same | ⟨e, rfl, -, after⟩
  · rw [Shows, same] at shown
    exact absurd shown hidden
  · have seen : (s.copy.see Binding.metadata e).shown.get? b.metadata.cacheKey = some b := by
      rw [Shows, after] at shown
      exact shown
    cases e with
    | init => exact absurd seen hidden
    | initApply a => exact absurd seen hidden
    | initDone => exact .inr ⟨rfl, seen⟩
    | apply a =>
      simp only [Reflector.see, Table.get?_insert] at seen
      split_ifs at seen
      · cases seen
        exact .inl ⟨rfl, after⟩
      · exact absurd seen hidden
    | delete a =>
      simp only [Reflector.see, Table.get?_erase] at seen
      split_ifs at seen
      exact absurd seen hidden

theorem gathered_move {k : CacheKey} (gathered : (s.move m).copy.buffer.get? k = some b) :
    s.copy.buffer.get? k = some b ∨
    m = .hear (.initApply b) ∧ (s.move m).news = some (.initApply b) := by
  rcases s.copy_move m with same | ⟨e, rfl, -, after⟩
  · rw [same] at gathered
    exact .inl gathered
  · rw [after] at gathered ⊢
    cases e with
    | init => exact nomatch gathered
    | initApply a =>
      simp only [Reflector.see, Table.get?_insert] at gathered
      split_ifs at gathered
      · cases gathered
        exact .inr ⟨rfl, rfl⟩
      · exact .inl gathered
    | initDone => exact nomatch gathered
    | apply a => exact .inl gathered
    | delete a => exact .inl gathered

/-- What is gathered was listed at some point of the run, and news at that point. -/
theorem gathered_run (c : Controller) {ms : List FeedingMove} {k : CacheKey}
    (gathered : ((start c).run ms).copy.buffer.get? k = some b) :
    ∃ listed between, ms = listed ++ .hear (.initApply b) :: between ∧
      ((start c).run (listed ++ [.hear (.initApply b)])).news = some (.initApply b) := by
  induction ms using List.reverseRecOn with
  | nil => exact nomatch gathered
  | append_singleton before m ih =>
    have last : (start c).run (before ++ [m]) = ((start c).run before).move m :=
      run_append (start c) before [m]
    rw [last] at gathered
    rcases gathered_move gathered with earlier | ⟨rfl, news⟩
    · obtain ⟨listed, between, rfl, news⟩ := ih earlier
      exact ⟨listed, between ++ [m], by simp, news⟩
    · exact ⟨before, [], rfl, last ▸ news⟩

/-- A version is overlooked if it comes into view with a complete list, was looked up before that,
but after its key was queued for it, and is neither due then nor queued later. -/
structure Overlooked (c : Controller) (before : List FeedingMove) (m : FeedingMove)
    (after : List FeedingMove) (b : Binding) : Prop where
  complete : m = .hear .initDone
  early : ∃ listed between, before = listed ++ .hear (.initApply b) :: between ∧
    b.metadata.key ∈ collect move looked? ((start c).run (listed ++ [.hear (.initApply b)])) between
  idle : ¬ ((start c).run (before ++ [m])).Due b.metadata.key
  unqueued : b.metadata.key ∉ collect move queued? ((start c).run (before ++ [m])) after

/-- A version that has come into view with nothing due was looked up while it was gathered. -/
theorem early_of_idle {c : Controller} {before : List FeedingMove}
    (isOpen : c.specs.queue.closed = false) (named : b.Named)
    (hidden : ¬ ((start c).run before).Shows b)
    (shown : ((start c).run (before ++ [m])).Shows b)
    (idle : ¬ ((start c).run (before ++ [m])).Due b.metadata.key) :
    m = .hear .initDone ∧
    ∃ listed between, before = listed ++ .hear (.initApply b) :: between ∧
      b.metadata.key ∈
        collect move looked? ((start c).run (listed ++ [.hear (.initApply b)])) between := by
  have last : (start c).run (before ++ [m]) = ((start c).run before).move m :=
    run_append (start c) before [m]
  rw [last] at shown idle
  rcases revealed_cases hidden shown with ⟨-, after⟩ | ⟨rfl, gathered⟩
  · rw [after] at idle
    exact absurd (.inr (.inr ⟨b, rfl, named.parse_key⟩)) idle
  · obtain ⟨listed, between, rfl, news⟩ := gathered_run c gathered
    refine ⟨rfl, listed, between, rfl, ?_⟩
    -- it was due when it was listed, and would still be had nothing looked it up
    have due : ((start c).run (listed ++ [.hear (.initApply b)])).Due b.metadata.key :=
      .inr (.inr ⟨b, by rw [news]; rfl, named.parse_key⟩)
    have opened : (start c).Open := isOpen
    have noticed := (noticed_run (onCourse_run (onCourse_start c) _) (open_run opened _)
      b.metadata.key between).2 (.inl due)
    rcases noticed with looked | stillDue
    · exact looked
    · rw [← run_append, List.append_assoc, List.singleton_append] at stillDue
      exact absurd ((due_hear .initDone).2 (.inl stillDue)) idle

/-- A version of a binding that comes into view is looked up from then on, or a look-up is still to
come, unless it is overlooked. A look-up gets this version as long as it is in view. -/
theorem noticed_iff_not_overlooked (c : Controller) (before : List FeedingMove) (m : FeedingMove)
    (after : List FeedingMove) (b : Binding) (isOpen : c.specs.queue.closed = false)
    (named : b.Named) (hidden : ¬ ((start c).run before).Shows b)
    (shown : ((start c).run (before ++ [m])).Shows b) :
    let s := (start c).run (before ++ [m])
    (b.metadata.key ∈ collect move looked? s after ∨ (s.run after).Due b.metadata.key ↔
      ¬ Overlooked c before m after b) ∧
    ∀ during rest reply, after = during ++ rest → (s.run during).Shows b →
      (s.run during).answer reply (.getBinding b.metadata.key) = .ok (some b) := by
  intro s
  have opened : s.Open := open_run (s := start c) isOpen _
  have course : s.OnCourse := onCourse_run (onCourse_start c) _
  have noticed := noticed_run course opened b.metadata.key after
  refine ⟨⟨?_, ?_⟩, ?_⟩
  · intro seen overlooked
    rcases noticed.1 seen with due | queued
    · exact overlooked.idle due
    · exact overlooked.unqueued queued
  · intro seen
    by_contra missed
    obtain ⟨idle, unqueued⟩ := not_or.1 (mt noticed.2 missed)
    obtain ⟨complete, early⟩ := early_of_idle isOpen named hidden shown idle
    exact seen ⟨complete, early, idle, unqueued⟩
  · intro during rest reply _ shown
    exact answer_of_shows named shown reply

/-- The first list is empty. A binding is in the next one, and its key is queued and taken. -/
def relist : List FeedingMove :=
  [.hear .init, .handOn, .hear .initDone, .handOn, .hear .init, .handOn,
    .hear (.initApply .sample), .handOn, .take]

def look : List FeedingMove := [.call 0 fun q => (World.answer q (.sample "old")).1, .finish 0]

/-- A pass that looks after the list is complete gets the binding. -/
theorem late_look_notices_binding :
    let c := Controller.make .standard (.sample "old")
    let s := (start c).run (relist ++ [.hear .initDone])
    ¬ ((start c).run relist).Shows .sample ∧ s.Shows .sample ∧
    Binding.sample.metadata.key ∈ collect move looked? s look ∧
    ¬ Overlooked c relist (.hear .initDone) look .sample ∧
    s.answer (fun q => (World.answer q (.sample "old")).1) (.getBinding ⟨"default", "db-cred"⟩) =
      .ok (some .sample) := by
  have named : Binding.sample.Named :=
    ⟨"default", "db-cred", rfl, rfl, by decide, by decide, by decide⟩
  have hidden : ¬ ((start (.make .standard (.sample "old"))).run relist).Shows .sample := by
    decide +kernel
  have shown : ((start (.make .standard (.sample "old"))).run
      (relist ++ [.hear .initDone])).Shows .sample := by decide +kernel
  have looked : Binding.sample.metadata.key ∈ collect move looked?
      ((start (.make .standard (.sample "old"))).run (relist ++ [.hear .initDone])) look := by
    decide +kernel
  obtain ⟨noticed, gets⟩ := noticed_iff_not_overlooked (.make .standard (.sample "old")) relist
    (.hear .initDone) look .sample rfl named hidden shown
  exact ⟨hidden, shown, looked, noticed.1 (.inl looked), gets [] look _ rfl shown⟩

/-- A pass that looks before the list is complete finds nothing and is done. When the binding comes
into view nothing is left that would look at it. -/
theorem early_look_loses_binding :
    let c := Controller.make .standard (.sample "old")
    let s := (start c).run (relist ++ look ++ [.hear .initDone])
    ¬ ((start c).run (relist ++ look)).Shows .sample ∧ s.Shows .sample ∧
    ¬ (Binding.sample.metadata.key ∈ collect move looked? s [.handOn] ∨
      (s.run [.handOn]).Due Binding.sample.metadata.key) := by
  decide +kernel

end Feeding

end SecretSync
