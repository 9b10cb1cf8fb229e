import SecretSync.Json.Merge
import SecretSync.Proofs.Json.Members

namespace SecretSync.Json

variable {members : List (String × Json)} {name other : String}

section Filter

theorem filter_here {m : String × Json} (here : m.1 = name) (rest : List (String × Json)) :
    (m :: rest).filter (fun m => m.1 = name) = m :: rest.filter fun m => m.1 = name :=
  List.filter_cons_of_pos (decide_eq_true here)

theorem filter_elsewhere {m : String × Json} (apart : ¬ m.1 = name) (rest : List (String × Json)) :
    (m :: rest).filter (fun m => m.1 = name) = rest.filter fun m => m.1 = name :=
  List.filter_cons_of_neg fun same => apart (of_decide_eq_true same)

theorem filter_dropMember (apart : other ≠ name) :
    (dropMember name members).filter (fun m => m.1 = other) =
      members.filter fun m => m.1 = other := by
  rw [dropMember, List.filter_filter]
  refine List.filter_congr fun m _ => ?_
  by_cases here : m.1 = other
  · simp [here, apart]
  · simp [here]

theorem filter_dropMember_self (members : List (String × Json)) (name : String) :
    (dropMember name members).filter (fun m => m.1 = name) = [] := by
  rw [dropMember, List.filter_filter, List.filter_eq_nil_iff]
  simp

theorem filter_setMember (apart : other ≠ name) (value : Json) :
    (setMember name value members).filter (fun m => m.1 = other) =
      members.filter fun m => m.1 = other := by
  induction members with
  | nil => simp [setMember, apart.symm]
  | cons m rest ih =>
    rw [setMember]
    by_cases here : m.1 = name
    · have elsewhere : m.1 ≠ other := fun same => apart (same.symm.trans here)
      simp [here, apart.symm]
    · rw [if_neg here, List.filter_cons, List.filter_cons, ih]

theorem filter_setMember_self (once : (members.filter fun m => m.1 = name).length ≤ 1)
    (value : Json) :
    (setMember name value members).filter (fun m => m.1 = name) = [(name, value)] := by
  induction members with
  | nil => simp [setMember]
  | cons m rest ih =>
    rw [setMember]
    by_cases here : m.1 = name
    · rw [filter_here here, List.length_cons] at once
      -- the first of the name is replaced, and there is no other behind it
      have none : rest.filter (fun m => m.1 = name) = [] :=
        List.eq_nil_of_length_eq_zero (by omega)
      rw [if_pos here, filter_here (m := (name, value)) rfl, none]
    · rw [filter_elsewhere here] at once
      rw [if_neg here, filter_elsewhere here, ih once]

theorem patchedMembers_cons (members : List (String × Json)) (m : String × Json)
    (rest : List (String × Json)) :
    patchedMembers members (m :: rest) = patchedMembers (patchedMembers members [m]) rest := by
  obtain ⟨name, value⟩ := m
  cases value <;> simp [patchedMembers]

theorem patchedMembers_set {value : Json} (given : value ≠ .null) :
    patchedMembers members [(name, value)] =
      setMember name (patched ((member? members name).getD .null) value) members := by
  cases value with
  | null => exact absurd rfl given
  | _ => simp [patchedMembers]

theorem filter_patchedMembers {patch : List (String × Json)}
    (unnamed : other ∉ patch.map Prod.fst) :
    (patchedMembers members patch).filter (fun m => m.1 = other) =
      members.filter fun m => m.1 = other := by
  induction patch generalizing members with
  | nil => simp [patchedMembers]
  | cons m rest ih =>
    rw [List.map_cons, List.mem_cons, not_or] at unnamed
    obtain ⟨apart, unnamed⟩ := unnamed
    rw [patchedMembers_cons, ih unnamed]
    obtain ⟨name, value⟩ := m
    by_cases given : value = .null
    · subst given
      simpa [patchedMembers] using filter_dropMember apart
    · rw [patchedMembers_set given, filter_setMember apart]

end Filter

section Optional

variable {f : Json → Decoded α}

theorem once_of_optional {found : Option α} (read : optional members name f = .ok found) :
    (members.filter fun m => m.1 = name).length ≤ 1 := by
  unfold optional at read
  split at read
  · rename_i none
    simp [none]
  · rename_i m one
    simp [one]
  · cases read

theorem optional_patched_other {patch : List (String × Json)}
    (unnamed : other ∉ patch.map Prod.fst) (f : Json → Decoded α) :
    optional (patchedMembers members patch) other f = optional members other f := by
  rw [optional, optional, filter_patchedMembers unnamed]

theorem optional_dropped (members : List (String × Json)) (name : String) (f : Json → Decoded α) :
    optional (patchedMembers members [(name, .null)]) name f = .ok none := by
  have gone : (patchedMembers members [(name, .null)]).filter (fun m => m.1 = name) = [] := by
    simpa [patchedMembers] using filter_dropMember_self members name
  rw [optional, gone]

theorem optional_set {value : Json} (once : (members.filter fun m => m.1 = name).length ≤ 1)
    (given : value ≠ .null) (f : Json → Decoded α) :
    optional (patchedMembers members [(name, value)]) name f =
      (f (patched ((member? members name).getD .null) value)).map some := by
  rw [optional, patchedMembers_set given, filter_setMember_self once]

theorem member?_eq_getLast? (members : List (String × Json)) (name : String) :
    member? members name = (members.filter fun m => m.1 = name).getLast?.map Prod.snd := by
  induction members with
  | nil => rfl
  | cons m rest ih =>
    rw [member?_cons, ih]
    by_cases here : m.1 = name
    · rw [if_pos here, filter_here here, List.getLast?_cons]
      cases (rest.filter fun m => m.1 = name).getLast? <;> rfl
    · rw [if_neg here, filter_elsewhere here, Option.or_none]

theorem decoded_of_optional {found : Option (Option α)}
    (read : optional members name (decodeOption f) = .ok found) :
    ∃ was, decodeOption f ((member? members name).getD .null) = .ok was := by
  rw [member?_eq_getLast?]
  unfold optional at read
  split at read
  · rename_i none
    rw [none]
    exact ⟨_, rfl⟩
  · rename_i m one
    rw [one]
    change ∃ was, decodeOption f m.2 = .ok was
    cases decoded : decodeOption f m.2 with
    | error e =>
      rw [decoded] at read
      cases read
    | ok was => exact ⟨was, rfl⟩
  · cases read

theorem patched_string (target : Json) (text : String) :
    patched target (.string text) = .string text := by
  simp [patched]

theorem optional_patched_text (once : (members.filter fun m => m.1 = name).length ≤ 1)
    (value : Option String) :
    ∃ found, optional (patchedMembers members [(name, text? value)]) name
      (decodeOption decodeString) = .ok found ∧ found.join = value := by
  cases value with
  | none => exact ⟨none, optional_dropped members name _, rfl⟩
  | some text =>
    have given : Json.string text ≠ .null := by rintro ⟨⟩
    have set := optional_set once given (decodeOption decodeString)
    rw [patched_string] at set
    exact ⟨_, set, rfl⟩

end Optional

end SecretSync.Json
