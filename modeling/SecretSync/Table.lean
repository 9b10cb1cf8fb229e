/-!
Finite maps kept as lists sorted by key. Two tables that give the same answer for every key are
equal, so a table has one form and its listing order is the key order.
-/
namespace SecretSync

/-- A strict total order on keys. -/
class KeyOrder (κ : Type) where
  before : κ → κ → Bool
  irrefl : ∀ a, before a a = false
  trans : ∀ {a b c}, before a b = true → before b c = true → before a c = true
  total : ∀ a b, before a b = true ∨ a = b ∨ before b a = true

/-- Strings stand in code point order, which is also the order of their UTF-8 bytes. -/
instance : KeyOrder String where
  before a b := decide (a < b)
  irrefl a := decide_eq_false (String.lt_irrefl a)
  trans h k := by
    simp only [decide_eq_true_eq] at h k ⊢
    exact String.lt_trans h k
  total a b := by
    simp only [decide_eq_true_eq]
    by_cases h : a < b
    · exact .inl h
    · by_cases k : b < a
      · exact .inr (.inr k)
      · exact .inr (.inl (String.le_antisymm (String.not_lt.1 k) (String.not_lt.1 h)))

/-- Pairs stand in lexicographic order. -/
instance [DecidableEq κ] [KeyOrder κ] [KeyOrder μ] : KeyOrder (κ × μ) where
  before a b := KeyOrder.before a.1 b.1 || (decide (a.1 = b.1) && KeyOrder.before a.2 b.2)
  irrefl a := by simp [KeyOrder.irrefl]
  trans {a b c} h k := by
    simp only [Bool.or_eq_true, Bool.and_eq_true, decide_eq_true_eq] at h k ⊢
    rcases h with h | ⟨h, h'⟩
    · rcases k with k | ⟨k, _⟩
      · exact .inl (KeyOrder.trans h k)
      · exact .inl (k ▸ h)
    · rcases k with k | ⟨k, k'⟩
      · exact .inl (h ▸ k)
      · exact .inr ⟨h.trans k, KeyOrder.trans h' k'⟩
  total a b := by
    simp only [Bool.or_eq_true, Bool.and_eq_true, decide_eq_true_eq]
    rcases KeyOrder.total a.1 b.1 with h | h | h
    · exact .inl (.inl h)
    · rcases KeyOrder.total a.2 b.2 with k | k | k
      · exact .inl (.inr ⟨h, k⟩)
      · exact .inr (.inl (Prod.ext h k))
      · exact .inr (.inr (.inr ⟨h.symm, k⟩))
    · exact .inr (.inr (.inl h))

variable {κ α : Type} [DecidableEq κ] [KeyOrder κ]

/-- Every key stands before all keys that follow it. -/
abbrev Ascending (entries : List (κ × α)) : Prop :=
  entries.Pairwise fun a b => KeyOrder.before a.1 b.1 = true

structure Table (κ α : Type) [DecidableEq κ] [KeyOrder κ] where
  entries : List (κ × α)
  ascending : Ascending entries

namespace Table

def lookup (k : κ) : List (κ × α) → Option α
  | [] => none
  | (j, v) :: rest => if j = k then some v else lookup k rest

def place (k : κ) (v : α) : List (κ × α) → List (κ × α)
  | [] => [(k, v)]
  | (j, w) :: rest =>
    if KeyOrder.before k j then (k, v) :: (j, w) :: rest
    else if j = k then (k, v) :: rest
    else (j, w) :: place k v rest

omit [KeyOrder κ] in
theorem lookup_eq_none {k : κ} {l : List (κ × α)} (h : ∀ e ∈ l, e.1 ≠ k) : lookup k l = none := by
  induction l with
  | nil => rfl
  | cons e l ih =>
    simp only [lookup, if_neg (h e List.mem_cons_self)]
    exact ih fun x hx => h x (List.mem_cons_of_mem _ hx)

theorem mem_place {k : κ} {v : α} {l : List (κ × α)} {e : κ × α} (h : e ∈ place k v l) :
    e = (k, v) ∨ e ∈ l := by
  induction l with
  | nil => exact .inl (List.mem_singleton.1 h)
  | cons a l ih =>
    simp only [place] at h
    split at h
    · exact (List.mem_cons.1 h)
    · split at h
      · exact (List.mem_cons.1 h).imp_right (List.mem_cons_of_mem _)
      · rcases List.mem_cons.1 h with h | h
        · exact .inr (h ▸ List.mem_cons_self)
        · exact (ih h).imp_right (List.mem_cons_of_mem _)

theorem ascending_place (k : κ) (v : α) {l : List (κ × α)} (h : Ascending l) :
    Ascending (place k v l) := by
  induction l with
  | nil => exact List.pairwise_singleton _ _
  | cons a l ih =>
    obtain ⟨ha, hl⟩ := List.pairwise_cons.1 h
    simp only [place]
    split
    · rename_i hk
      refine List.pairwise_cons.2 ⟨fun e he => ?_, h⟩
      rcases List.mem_cons.1 he with rfl | he
      · exact hk
      · exact KeyOrder.trans hk (ha e he)
    · rename_i hk
      split
      · rename_i he
        exact List.pairwise_cons.2 ⟨fun e hm => he ▸ ha e hm, hl⟩
      · rename_i he
        refine List.pairwise_cons.2 ⟨fun e hm => ?_, ih hl⟩
        rcases mem_place hm with rfl | hm
        · rcases KeyOrder.total a.1 k with h | h | h
          · exact h
          · exact absurd h he
          · exact absurd h hk
        · exact ha e hm

theorem lookup_place (k j : κ) (v : α) {l : List (κ × α)} :
    lookup j (place k v l) = if k = j then some v else lookup j l := by
  induction l with
  | nil => rfl
  | cons a l ih =>
    simp only [place]
    split
    · rfl
    · split
      · rename_i h
        subst h
        by_cases hj : a.1 = j <;> simp [lookup, hj]
      · rename_i h
        by_cases hj : a.1 = j
        · subst hj
          simp [lookup, Ne.symm h]
        · simp [lookup, hj, ih]

def empty : Table κ α := ⟨[], List.Pairwise.nil⟩

instance : Inhabited (Table κ α) := ⟨empty⟩

def get? (t : Table κ α) (k : κ) : Option α := lookup k t.entries

def contains (t : Table κ α) (k : κ) : Bool := (t.get? k).isSome

/-- Adds or replaces the value under a key. -/
def insert (t : Table κ α) (k : κ) (v : α) : Table κ α :=
  ⟨place k v t.entries, ascending_place k v t.ascending⟩

def erase (t : Table κ α) (k : κ) : Table κ α :=
  ⟨t.entries.filter fun e => decide (e.1 ≠ k), t.ascending.filter _⟩

def keys (t : Table κ α) : List κ := t.entries.map Prod.fst

def values (t : Table κ α) : List α := t.entries.map Prod.snd

/-- The later of two entries with one key wins. -/
def ofList (l : List (κ × α)) : Table κ α := l.foldl (fun t e => t.insert e.1 e.2) empty

/-- Changes the value under a key, starting from `start` when there is none. -/
def adjust (t : Table κ α) (k : κ) (start : α) (f : α → α) : Table κ α :=
  t.insert k (f ((t.get? k).getD start))

@[simp] theorem get?_empty (k : κ) : (empty : Table κ α).get? k = none := rfl

theorem get?_insert (t : Table κ α) (k j : κ) (v : α) :
    (t.insert k v).get? j = if k = j then some v else t.get? j := lookup_place k j v

@[simp] theorem get?_insert_self (t : Table κ α) (k : κ) (v : α) :
    (t.insert k v).get? k = some v := by simp [get?_insert]

theorem get?_insert_of_ne (t : Table κ α) {k j : κ} (v : α) (h : k ≠ j) :
    (t.insert k v).get? j = t.get? j := by simp [get?_insert, h]

theorem get?_erase (t : Table κ α) (k j : κ) :
    (t.erase k).get? j = if k = j then none else t.get? j := by
  obtain ⟨l, hl⟩ := t
  simp only [get?, erase]
  clear hl
  induction l with
  | nil => simp [lookup]
  | cons a l ih =>
    by_cases ha : a.1 = k
    · simp only [List.filter, ha, ne_eq, not_true_eq_false, decide_false]
      rw [ih]
      by_cases hj : k = j
      · simp [hj]
      · simp [lookup, ha, hj]
    · simp only [List.filter, ne_eq, ha, not_false_eq_true, decide_true, lookup]
      by_cases hj : a.1 = j
      · simp [hj, Ne.symm (hj ▸ ha)]
      · rw [if_neg hj, if_neg hj, ih]

@[simp] theorem get?_erase_self (t : Table κ α) (k : κ) : (t.erase k).get? k = none := by
  simp [get?_erase]

theorem get?_erase_of_ne (t : Table κ α) {k j : κ} (h : k ≠ j) :
    (t.erase k).get? j = t.get? j := by simp [get?_erase, h]

omit [DecidableEq κ] in
private theorem ne_of_ascending {a : κ × α} {l : List (κ × α)} (h : Ascending (a :: l))
    {e : κ × α} (he : e ∈ l) : e.1 ≠ a.1 := by
  intro hk
  have := (List.pairwise_cons.1 h).1 e he
  rw [hk, KeyOrder.irrefl] at this
  exact Bool.noConfusion this

theorem mem_entries_iff {t : Table κ α} {k : κ} {v : α} :
    (k, v) ∈ t.entries ↔ t.get? k = some v := by
  obtain ⟨l, hl⟩ := t
  simp only [get?]
  induction l with
  | nil => simp [lookup]
  | cons a l ih =>
    have hne := fun e he => ne_of_ascending hl (e := e) he
    have := ih (List.pairwise_cons.1 hl).2
    by_cases ha : a.1 = k
    · subst ha
      simp only [lookup, if_true, List.mem_cons, Option.some.injEq]
      constructor
      · rintro (h | h)
        · exact congrArg Prod.snd h.symm
        · exact absurd rfl (hne (a.1, v) h)
      · intro h
        exact .inl (Prod.ext rfl h.symm)
    · simp only [lookup, if_neg ha, List.mem_cons, this]
      constructor
      · rintro (h | h)
        · exact absurd (congrArg Prod.fst h).symm ha
        · exact h
      · exact .inr

/-- A table is determined by its answers. -/
theorem ext_get? {s t : Table κ α} (h : ∀ k, s.get? k = t.get? k) : s = t := by
  have key : ∀ {l m : List (κ × α)}, Ascending l → Ascending m →
      (∀ e, e ∈ l ↔ e ∈ m) → l = m := by
    intro l
    induction l with
    | nil =>
      intro m _ _ hm
      cases m with
      | nil => rfl
      | cons b m => exact absurd ((hm b).2 List.mem_cons_self) List.not_mem_nil
    | cons a l ih =>
      intro m hl hm hlm
      cases m with
      | nil => exact absurd ((hlm a).1 List.mem_cons_self) List.not_mem_nil
      | cons b m =>
        have hab : a = b := by
          rcases List.mem_cons.1 ((hlm a).1 List.mem_cons_self) with h | h
          · exact h
          · rcases List.mem_cons.1 ((hlm b).2 List.mem_cons_self) with k | k
            · exact k.symm
            · have p := (List.pairwise_cons.1 hm).1 a h
              have q := (List.pairwise_cons.1 hl).1 b k
              have r := KeyOrder.trans p q
              rw [KeyOrder.irrefl] at r
              exact Bool.noConfusion r
        subst hab
        congr 1
        refine ih (List.pairwise_cons.1 hl).2 (List.pairwise_cons.1 hm).2 fun e => ?_
        constructor
        · intro he
          rcases List.mem_cons.1 ((hlm e).1 (List.mem_cons_of_mem _ he)) with h | h
          · exact absurd (congrArg Prod.fst h) (ne_of_ascending hl he)
          · exact h
        · intro he
          rcases List.mem_cons.1 ((hlm e).2 (List.mem_cons_of_mem _ he)) with h | h
          · exact absurd (congrArg Prod.fst h) (ne_of_ascending hm he)
          · exact h
  have : s.entries = t.entries := key s.ascending t.ascending fun ⟨k, v⟩ => by
    rw [mem_entries_iff, mem_entries_iff, h k]
  cases s
  cases t
  cases this
  rfl

instance [DecidableEq α] : DecidableEq (Table κ α) := fun s t =>
  if h : s.entries = t.entries then
    isTrue (by cases s; cases t; cases h; rfl)
  else isFalse fun e => h (congrArg entries e)

end Table

end SecretSync
