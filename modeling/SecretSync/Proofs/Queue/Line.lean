import SecretSync.Proofs.Queue.Lobby

namespace SecretSync

namespace Lobby

variable {s : Lobby} {worker : Nat}

def entered? (s : Lobby) : LobbyMove → Option String
  | .add key => if s.queue.length < (s.queue.add key).length then some key else none
  | .finish key => if s.queue.length < (s.queue.finish key).length then some key else none
  | _ => none

def handed? (s : Lobby) : LobbyMove → Option (Nat × String)
  | .look worker =>
    match s.posts[worker]? with
    | some (.listening _) => s.queue.take?.map fun handed => (worker, handed.1)
    | _ => none
  | _ => none

/-- The key with which the call of a worker is going to end. -/
def inHand (s : Lobby) (worker : Nat) : Option String := s.posts[worker]?.bind Post.inHand

def returned? (s : Lobby) : LobbyMove → Option (Nat × String)
  | .leave worker => (s.inHand worker).map fun key => (worker, key)
  | _ => none

def keysOf (worker : Nat) (l : List (Nat × String)) : List String :=
  (l.filter fun h => decide (h.1 = worker)).map Prod.snd

theorem keysOf_append (worker : Nat) (l m : List (Nat × String)) :
    keysOf worker (l ++ m) = keysOf worker l ++ keysOf worker m := by
  rw [keysOf, List.filter_append, List.map_append, keysOf, keysOf]

theorem waiting_add (q : WorkQueue) (key : String) : (q.add key).waiting =
    q.waiting ++ (if q.length < (q.add key).length then some key else none).toList := by
  unfold WorkQueue.add
  split_ifs with known works <;> simp_all [WorkQueue.length]

theorem waiting_finish (q : WorkQueue) (key : String) : (q.finish key).waiting =
    q.waiting ++ (if q.length < (q.finish key).length then some key else none).toList := by
  unfold WorkQueue.finish
  dsimp only
  split_ifs with again <;> simp_all [WorkQueue.length]

theorem line_look (s : Lobby) (worker : Nat) :
    s.queue.waiting = (s.queue.take?.map Prod.fst).toList ++ (s.look worker).queue.waiting := by
  unfold look
  split_ifs with closed
  · rw [take?_of_closed closed]
    rfl
  · cases taken : s.queue.take? with
    | none => rfl
    | some handed =>
      obtain ⟨-, rest, line, after⟩ := WorkQueue.take?_eq_some taken
      simp [line, after]

theorem handed?_look (listens : ∀ again, s.posts[worker]? ≠ some (.listening again)) :
    s.handed? (.look worker) = none := by
  simp only [handed?]

theorem line_move (s : Lobby) (m : LobbyMove) : s.queue.waiting ++ (s.entered? m).toList =
    (s.handed? m).toList.map Prod.snd ++ (s.move m).queue.waiting := by
  fun_cases Lobby.move s m with
  | case1 key => exact (waiting_add s.queue key).symm
  | case2 key => exact (waiting_finish s.queue key).symm
  | case11 worker again there =>
    have line := s.line_look worker
    cases taken : s.queue.take? with
    | none =>
      rw [taken] at line
      simpa [entered?, handed?, there, taken] using line
    | some handed =>
      rw [taken] at line
      simpa [entered?, handed?, there, taken] using line
  | case12 worker other =>
    rw [handed?_look other]
    exact List.append_nil _
  | _ => exact List.append_nil _

theorem inHand_put {p : Post} (there : s.posts[worker]? = some p) (next : Post) (i : Nat) :
    (s.put worker next).inHand i = if i = worker then next.inHand else s.inHand i := by
  unfold inHand
  split_ifs with own
  · rw [own, posts_put_self there, Option.bind_some]
  · rw [posts_put_of_ne own]

theorem keysOf_single (i : Nat) (found : Option String) :
    keysOf i (found.map fun key => (worker, key)).toList =
      if i = worker then found.toList else [] := by
  cases found with
  | none => simp [keysOf]
  | some key =>
    by_cases own : worker = i
    · simp [keysOf, own]
    · simp [keysOf, own, Ne.symm own]

theorem inHand_look {again : Bool} (there : s.posts[worker]? = some (.listening again)) (i : Nat) :
    (s.look worker).inHand i =
      if i = worker then s.queue.take?.map Prod.fst else s.inHand i := by
  unfold look
  split_ifs with closed own own
  · rw [inHand_put there, if_pos own, take?_of_closed closed]
    rfl
  · rw [inHand_put there, if_neg own]
  · cases taken : s.queue.take? with
    | none => exact (inHand_put there .waiting i).trans (if_pos own)
    | some handed => exact (inHand_put there (.leaving (some handed.1)) i).trans (if_pos own)
  · cases taken : s.queue.take? with
    | none => exact (inHand_put there .waiting i).trans (if_neg own)
    | some handed => exact (inHand_put there (.leaving (some handed.1)) i).trans (if_neg own)

/-- What a worker was given it has given back, or has in hand. -/
theorem keysOf_move (s : Lobby) (m : LobbyMove) (i : Nat) :
    (s.inHand i).toList ++ keysOf i (s.handed? m).toList =
      keysOf i (s.returned? m).toList ++ ((s.move m).inHand i).toList := by
  have still : ∀ {worker : Nat} {p next : Post}, s.posts[worker]? = some p → p.inHand = none →
      next.inHand = none → (s.put worker next).inHand i = s.inHand i := by
    intro worker p next there before after
    rw [inHand_put there]
    split_ifs with own
    · rw [own, inHand, there, Option.bind_some, before, after]
    · rfl
  fun_cases Lobby.move s m with
  | case8 worker there =>
    change _ = [] ++ ((s.put worker (.listening false)).inHand i).toList
    rw [still there rfl rfl]
    exact List.append_nil _
  | case9 worker there =>
    change _ = [] ++ ((s.put worker (.listening true)).inHand i).toList
    rw [still there rfl rfl]
    exact List.append_nil _
  | case11 worker again there =>
    have free : s.inHand worker = none := by
      rw [inHand, there]
      rfl
    have given : s.handed? (.look worker) =
        (s.queue.take?.map Prod.fst).map fun key => (worker, key) := by
      simp only [handed?, there, Option.map_map, Function.comp_def]
    change _ = [] ++ ((s.look worker).inHand i).toList
    rw [given, keysOf_single, inHand_look there]
    split_ifs with own
    · rw [own, free]
      rfl
    · exact List.append_nil _
  | case12 worker other =>
    rw [handed?_look other]
    exact List.append_nil _
  | case13 worker rises =>
    change _ = [] ++ ((s.put worker .roused).inHand i).toList
    rw [still rises.1 rfl rfl]
    exact List.append_nil _
  | case15 worker found there =>
    change _ = _ ++ ((s.put worker .away).inHand i).toList
    rw [inHand_put there, returned?, keysOf_single]
    split_ifs with own
    · rw [own]
      rfl
    · exact List.append_nil _
  | case16 worker other =>
    have free : s.inHand worker = none := by
      rw [inHand]
      cases there : s.posts[worker]? with
      | none => rfl
      | some p =>
        cases p with
        | leaving found => exact absurd there (other found)
        | _ => rfl
    rw [returned?, free]
    exact List.append_nil _
  | _ => exact List.append_nil _

theorem line_moves (s : Lobby) (ms : List LobbyMove) :
    s.queue.waiting ++ collect move entered? s ms =
      (collect move handed? s ms).map Prod.snd ++ (s.moves ms).queue.waiting := by
  induction ms generalizing s with
  | nil => exact List.append_nil _
  | cons m rest ih =>
    calc s.queue.waiting ++ ((s.entered? m).toList ++ collect move entered? (s.move m) rest)
        = (s.handed? m).toList.map Prod.snd ++
            ((s.move m).queue.waiting ++ collect move entered? (s.move m) rest) := by
          rw [← List.append_assoc, s.line_move m, List.append_assoc]
      _ = _ := by
          rw [ih, collect, List.map_append, List.append_assoc]
          rfl

theorem keysOf_moves (s : Lobby) (ms : List LobbyMove) (i : Nat) :
    (s.inHand i).toList ++ keysOf i (collect move handed? s ms) =
      keysOf i (collect move returned? s ms) ++ ((s.moves ms).inHand i).toList := by
  induction ms generalizing s with
  | nil => exact List.append_nil _
  | cons m rest ih =>
    calc (s.inHand i).toList ++
          keysOf i ((s.handed? m).toList ++ collect move handed? (s.move m) rest)
        = keysOf i (s.returned? m).toList ++
            (((s.move m).inHand i).toList ++ keysOf i (collect move handed? (s.move m) rest)) := by
          rw [keysOf_append, ← List.append_assoc, s.keysOf_move m i, List.append_assoc]
      _ = _ := by
          rw [ih, collect, keysOf_append, List.append_assoc]
          rfl

end Lobby

end SecretSync
