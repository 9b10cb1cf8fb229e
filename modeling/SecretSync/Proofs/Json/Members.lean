import SecretSync.Json.Decode

/-!
Members by their names. A value whose objects name each of their members once, as all do that an API
server stores, has at most one member to find under a name, so looking one up and decoding it finds
the same.
-/
namespace SecretSync.Json

mutual

/-- Whether no object in a value names a member twice. -/
def distinct : Json → Bool
  | .array items => distinctItems items
  | .object members => decide (members.map Prod.fst).Nodup && distinctMembers members
  | _ => true

def distinctItems : List Json → Bool
  | [] => true
  | j :: rest => j.distinct && distinctItems rest

def distinctMembers : List (String × Json) → Bool
  | [] => true
  | (_, j) :: rest => j.distinct && distinctMembers rest

end

variable {members : List (String × Json)} {name : String} {j : Json}

theorem member?_append (front back : List (String × Json)) (name : String) :
    member? (front ++ back) name = (member? back name).or (member? front name) := by
  have later : ∀ (found : Option Json), back.foldl
      (fun found m => if m.1 = name then some m.2 else found) found =
        (member? back name).or found := by
    induction back with
    | nil => intro found; rfl
    | cons m rest ih =>
      intro found
      rw [member?, List.foldl_cons, List.foldl_cons, ih, ih, Option.or_assoc]
      split <;> rfl
  rw [member?, List.foldl_append, later]
  rfl

theorem member?_cons (m : String × Json) (rest : List (String × Json)) (name : String) :
    member? (m :: rest) name =
      (member? rest name).or (if m.1 = name then some m.2 else none) :=
  member?_append [m] rest name

theorem mem_of_member? (found : member? members name = some j) : (name, j) ∈ members := by
  induction members with
  | nil => cases found
  | cons m rest ih =>
    rw [member?_cons, Option.or_eq_some_iff] at found
    obtain later | ⟨-, here⟩ := found
    · exact List.mem_cons_of_mem _ (ih later)
    · obtain ⟨rfl, rfl⟩ : m.1 = name ∧ m.2 = j := by simpa using here
      exact List.mem_cons_self

theorem member?_eq_none_iff : member? members name = none ↔ ∀ m ∈ members, m.1 ≠ name := by
  induction members with
  | nil => simp [member?]
  | cons m rest ih => simp [member?_cons, ih, and_comm]

theorem filter_of_nodup (once : (members.map Prod.fst).Nodup) (name : String) :
    members.filter (fun m => m.1 = name) = (member? members name).toList.map (name, ·) := by
  induction members with
  | nil => rfl
  | cons m rest ih =>
    obtain ⟨new, once⟩ := List.nodup_cons.1 once
    by_cases same : m.1 = name
    · subst same
      have none : member? rest m.1 = none :=
        member?_eq_none_iff.2 fun other inside same => new (same ▸ List.mem_map_of_mem inside)
      simp [member?_cons, ih once, none]
    · simp [member?_cons, ih once, same]

theorem optional_of_nodup (once : (members.map Prod.fst).Nodup) (f : Json → Decoded α) :
    optional members name f =
      match member? members name with
      | none => .ok none
      | some j => (f j).map some := by
  rw [optional, filter_of_nodup once]
  cases member? members name <;> rfl

theorem nodup_of_distinct (once : (object members).distinct) :
    (members.map Prod.fst).Nodup := by
  rw [distinct, Bool.and_eq_true] at once
  exact of_decide_eq_true once.1

theorem distinct_of_mem (once : distinctMembers members) (inside : (name, j) ∈ members) :
    j.distinct := by
  induction members with
  | nil => cases inside
  | cons m rest ih =>
    rw [distinctMembers, Bool.and_eq_true] at once
    obtain rfl | inside := List.mem_cons.1 inside
    · exact once.1
    · exact ih once.2 inside

theorem distinct_of_member? (once : (object members).distinct)
    (found : member? members name = some j) : j.distinct := by
  rw [distinct, Bool.and_eq_true] at once
  exact distinct_of_mem once.2 (mem_of_member? found)

end SecretSync.Json
