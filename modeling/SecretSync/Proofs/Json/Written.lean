import SecretSync.Proofs.Json.Members

namespace SecretSync

namespace Table

variable {κ α : Type} [DecidableEq κ] [KeyOrder κ]

theorem get?_foldl_insert {l : List (κ × α)} (ascending : Ascending l) (t : Table κ α) (k : κ) :
    (l.foldl (fun t e => t.insert e.1 e.2) t).get? k = (lookup k l).or (t.get? k) := by
  induction l generalizing t with
  | nil => rfl
  | cons e rest ih =>
    obtain ⟨first, ascending⟩ := List.pairwise_cons.1 ascending
    rw [List.foldl_cons, ih ascending, get?_insert, lookup]
    by_cases same : e.1 = k
    · have later : lookup k rest = none := lookup_eq_none fun x inside again => by
        have before := first x inside
        rw [again, same, KeyOrder.irrefl] at before
        cases before
      simp [same, later]
    · simp [same]

theorem ofList_entries (t : Table κ α) : ofList t.entries = t :=
  ext_get? fun k => by
    rw [ofList, get?_foldl_insert t.ascending, get?_empty, Option.or_none]
    rfl

end Table

namespace Json

/-- What is written of a value is not null and is read as the value. -/
structure ReadsBack (f : Json → Decoded α) (g : α → Json) : Prop where
  back : ∀ a, f (g a) = .ok a
  given : ∀ a, g a ≠ .null

theorem readsBack_string : ReadsBack decodeString .string where
  back _ := rfl
  given := by rintro _ ⟨⟩

theorem readsBack_bool : ReadsBack decodeBool .bool where
  back _ := rfl
  given := by rintro _ ⟨⟩

theorem decodeTable_ofTable {f : Json → Decoded α} {g : α → Json} (back : ∀ a, f (g a) = .ok a)
    (t : Table String α) : decodeTable f (ofTable t g) = .ok t := by
  have fold : ∀ (l : List (String × α)) (t : Table String α),
      (l.map fun e => (e.1, g e.2)).foldlM
          (fun t m => (f m.2).map fun a => t.insert m.1 a) t =
        Except.ok (l.foldl (fun t e => t.insert e.1 e.2) t) := by
    intro l
    induction l with
    | nil => intro t; rfl
    | cons e rest ih =>
      intro t
      rw [List.map_cons, List.foldlM_cons, back]
      exact ih _
  exact (fold t.entries Table.empty).trans (congrArg Except.ok t.ofList_entries)

theorem readsBack_table {f : Json → Decoded α} {g : α → Json} (back : ∀ a, f (g a) = .ok a) :
    ReadsBack (decodeTable f) (ofTable · g) where
  back := decodeTable_ofTable back
  given := by
    intro _ same
    cases same

theorem readsBack_texts : ReadsBack (decodeTable decodeString) (ofTable · .string) :=
  readsBack_table readsBack_string.back

theorem readsBack_list {f : Json → Decoded α} {g : α → Json} (back : ∀ a, f (g a) = .ok a) :
    ReadsBack (decodeList f) fun l => .array (l.map g) where
  back l := by
    change (l.map g).mapM f = _
    induction l with
    | nil => rfl
    | cons a rest ih =>
      rw [List.map_cons, List.mapM_cons, back, ih]
      rfl
  given := by rintro _ ⟨⟩

theorem ok_of_decodeOption {f : Json → Decoded α} {j : Json} {a : α}
    (read : decodeOption f j = .ok (some a)) : f j = .ok a ∧ j ≠ .null := by
  cases j with
  | null => cases read
  | _ =>
    refine ⟨?_, by rintro ⟨⟩⟩
    change (f _).map some = _ at read
    generalize f _ = r at read ⊢
    cases r with
    | error => cases read
    | ok =>
      cases read
      rfl

theorem decodeOption_of_ne {j : Json} (given : j ≠ .null) (f : Json → Decoded α) :
    decodeOption f j = (f j).map some := by
  cases j with
  | null => exact absurd rfl given
  | _ => rfl

abbrev written (members : List (String × Option Json)) : List (String × Json) :=
  members.filterMap fun m => m.2.map (m.1, ·)

variable {members : List (String × Option Json)} {name : String}

theorem mem_of_mem_written {m : String × Json} (found : m ∈ written members) :
    (m.1, some m.2) ∈ members := by
  obtain ⟨⟨name, j | j⟩, inside, here⟩ := List.mem_filterMap.1 found
  · cases here
  · cases here
    exact inside

theorem nodup_written (once : (members.map Prod.fst).Nodup) :
    ((written members).map Prod.fst).Nodup := by
  refine List.Nodup.sublist ?_ once
  clear once
  induction members with
  | nil => exact .slnil
  | cons m rest ih =>
    obtain ⟨name, _ | j⟩ := m
    · exact .cons _ ih
    · exact .cons_cons _ ih

theorem member?_written {j : Option Json} (once : (members.map Prod.fst).Nodup)
    (inside : (name, j) ∈ members) : member? (written members) name = j := by
  induction members with
  | nil => cases inside
  | cons m rest ih =>
    obtain ⟨other, value⟩ := m
    obtain ⟨new, others⟩ := List.nodup_cons.1 once
    obtain same | later := List.mem_cons.1 inside
    · cases same
      have none : member? (written rest) name = none :=
        member?_eq_none_iff.2 fun m there same =>
          new (List.mem_map.2 ⟨_, mem_of_mem_written there, same⟩)
      cases j with
      | none => exact none
      | some j => simp [member?_cons, none]
    · have other : other ≠ name := fun same => new (List.mem_map.2 ⟨_, later, same.symm⟩)
      cases value with
      | none => exact ih others later
      | some _ => simpa [member?_cons, other] using ih others later

theorem filter_written {j : Option Json} (once : (members.map Prod.fst).Nodup)
    (inside : (name, j) ∈ members) :
    (written members).filter (fun m => m.1 = name) = j.toList.map (name, ·) := by
  rw [filter_of_nodup (nodup_written once), member?_written once inside]

section Values

variable {f : Json → Decoded α} {g : α → Json} {value : Option α}

theorem field_written_as {f : Json → Decoded β} (told : α → β)
    (once : (members.map Prod.fst).Nodup) (inside : (name, value.map g) ∈ members)
    (reads : ∀ a, value = some a → g a ≠ .null ∧ f (g a) = .ok (told a)) :
    field (written members) name f = .ok (value.map told) := by
  rw [field, filter_written once inside]
  cases value with
  | none => rfl
  | some a =>
    obtain ⟨given, read⟩ := reads a rfl
    change (decodeOption f (g a) >>= fun found => [].foldlM _ found) = _
    rw [decodeOption_of_ne given, read]
    rfl

theorem field_written (once : (members.map Prod.fst).Nodup)
    (inside : (name, value.map g) ∈ members) (reads : ReadsBack f g) :
    field (written members) name f = .ok value := by
  have read := field_written_as id once inside fun a _ => ⟨reads.given a, reads.back a⟩
  rwa [Option.map_id] at read

/-- What is written under other names does not matter. -/
theorem field_written_append (other : name ∉ members.map Prod.fst) (back : List (String × Json))
    (f : Json → Decoded α) : field (written members ++ back) name f = field back name f := by
  have none : (written members).filter (fun m => m.1 = name) = [] :=
    List.filter_eq_nil_iff.2 fun m inside same =>
      other (List.mem_map.2 ⟨_, mem_of_mem_written inside, of_decide_eq_true same⟩)
  rw [field, field, List.filter_append, none, List.nil_append]

end Values

end Json

end SecretSync
