import SecretSync.Proofs.Json.Written

namespace SecretSync

namespace Table

variable {κ α : Type} [DecidableEq κ] [KeyOrder κ]

theorem mem_of_mem_ofList {l : List (κ × α)} {e : κ × α} (inside : e ∈ (ofList l).entries) :
    e ∈ l := by
  have onward : ∀ (l : List (κ × α)) (t : Table κ α),
      e ∈ (l.foldl (fun t m => t.insert m.1 m.2) t).entries → e ∈ t.entries ∨ e ∈ l := by
    intro l
    induction l with
    | nil => exact fun t there => .inl there
    | cons m rest ih =>
      intro t there
      obtain there | later := ih _ there
      · obtain rfl | there := mem_place there
        · exact .inr List.mem_cons_self
        · exact .inl there
      · exact .inr (List.mem_cons_of_mem _ later)
  obtain nowhere | there := onward l empty inside
  · cases nowhere
  · exact there

end Table

namespace Json

theorem sorted_sorted (members : List (String × Json)) : sorted (sorted members) = sorted members := by
  rw [sorted, sorted, Table.ofList_entries]

theorem canonicalMembers_eq (members : List (String × Json)) :
    canonicalMembers members = members.map fun m => (m.1, m.2.canonical) := by
  induction members with
  | nil => rfl
  | cons m rest ih => rw [canonicalMembers, ih, List.map_cons]

theorem canonicalMembers_fixed {members : List (String × Json)}
    (fixed : ∀ m ∈ members, m.2.canonical = m.2) : canonicalMembers members = members := by
  have same : members.map (fun m => (m.1, m.2.canonical)) = members.map id :=
    List.map_congr_left fun m inside => Prod.ext rfl (fixed m inside)
  rw [canonicalMembers_eq, same, List.map_id]

mutual

theorem canonical_canonical : ∀ j : Json, j.canonical.canonical = j.canonical
  | .null | .bool _ | .whole _ | .real _ | .string _ | .unreadable => rfl
  | .array items => congrArg array (canonicalItems_canonicalItems items)
  | .object members => by
    have fixed : canonicalMembers (sorted (canonicalMembers members)) =
        sorted (canonicalMembers members) :=
      canonicalMembers_fixed fun m inside =>
        canonical_member members m (Table.mem_of_mem_ofList inside)
    rw [canonical, canonical, fixed, sorted_sorted]

theorem canonicalItems_canonicalItems :
    ∀ items, canonicalItems (canonicalItems items) = canonicalItems items
  | [] => rfl
  | j :: rest => by
    rw [canonicalItems, canonicalItems, canonical_canonical j, canonicalItems_canonicalItems rest]

theorem canonical_member :
    ∀ members, ∀ m ∈ canonicalMembers members, m.2.canonical = m.2
  | [], _, inside => nomatch inside
  | (k, j) :: rest, m, inside => by
    rw [canonicalMembers] at inside
    obtain rfl | later := List.mem_cons.1 inside
    · exact canonical_canonical j
    · exact canonical_member rest m later

end

theorem readableMembers_iff (members : List (String × Json)) :
    readableMembers members = true ↔ ∀ m ∈ members, m.2.readable = true := by
  induction members with
  | nil => simp [readableMembers]
  | cons m rest ih =>
    obtain ⟨k, j⟩ := m
    simp [readableMembers, ih]

mutual

theorem readable_canonical : ∀ j : Json, j.readable = true → j.canonical.readable = true
  | .null, _ | .bool _, _ | .whole _, _ | .real _, _ | .string _, _ => rfl
  | .array items, read => readableItems_canonical items read
  | .object members, read => by
    rw [canonical, readable, readableMembers_iff]
    intro m inside
    exact (readableMembers_iff _).1 (readableMembers_canonical members read) m
      (Table.mem_of_mem_ofList inside)

theorem readableItems_canonical :
    ∀ items, readableItems items = true → readableItems (canonicalItems items) = true
  | [], _ => rfl
  | j :: rest, read => by
    obtain ⟨first, later⟩ := Bool.and_eq_true_iff.1 read
    exact Bool.and_eq_true_iff.2 ⟨readable_canonical j first, readableItems_canonical rest later⟩

theorem readableMembers_canonical :
    ∀ members, readableMembers members = true → readableMembers (canonicalMembers members) = true
  | [], _ => rfl
  | (_, j) :: rest, read => by
    obtain ⟨first, later⟩ := Bool.and_eq_true_iff.1 read
    exact Bool.and_eq_true_iff.2 ⟨readable_canonical j first, readableMembers_canonical rest later⟩

end

/-- A value as it was read: in canonical form, and with every part of it readable. -/
structure Settled (j : Json) : Prop where
  readable : j.readable = true
  canonical : j.canonical = j

theorem Settled.decodeAny {j : Json} (settled : j.Settled) : decodeAny j = .ok j := by
  rw [Json.decodeAny, settled.readable, settled.canonical]
  rfl

theorem canonical_ne_null {j : Json} (given : j ≠ .null) : j.canonical ≠ .null := by
  cases j with
  | null => exact absurd rfl given
  | _ => rintro ⟨⟩

theorem settled_of_decodeAny {j k : Json} (read : decodeAny j = .ok k) (given : j ≠ .null) :
    k.Settled ∧ k ≠ .null := by
  unfold decodeAny at read
  split at read
  · next fine =>
    cases read
    exact ⟨⟨readable_canonical j fine, canonical_canonical j⟩, canonical_ne_null given⟩
  · cases read

end Json

end SecretSync
