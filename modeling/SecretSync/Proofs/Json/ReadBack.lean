import SecretSync.Proofs.Json.Lexing

namespace SecretSync.Json

mutual

def nesting : Json → Nat
  | .array items => nestingOfItems items + 1
  | .object members => nestingOfMembers members + 1
  | _ => 0

def nestingOfItems : List Json → Nat
  | [] => 0
  | j :: rest => max j.nesting (nestingOfItems rest)

def nestingOfMembers : List (String × Json) → Nat
  | [] => 0
  | (_, j) :: rest => max j.nesting (nestingOfMembers rest)

end

namespace Parser

/-- The tokens lead the parser to where it has the value. -/
def Parses (j : Json) : Prop :=
  ∀ depth stack rest, stack.length + j.nesting ≤ depth →
    run depth ⟨stack, .value⟩ (j.tokens ++ rest) = run depth (settle j stack) rest

variable {depth : Nat} {stack : List Frame} {rest : List Token}

theorem run_item (j : Json) (rest : List Token) : run depth ⟨stack, .item⟩ (j.tokens ++ rest) =
    run depth ⟨.array [] :: stack, .value⟩ (j.tokens ++ rest) := by
  cases j <;> rfl

theorem closeArray_of_lt (shallow : stack.length < depth) (done : List Json) :
    closeArray depth stack done = settle (.array done.reverse) stack := by
  rw [closeArray, if_pos shallow]

/-- From the first item on, by induction on the items that are left. -/
theorem run_items {items : List Json} (each : ∀ j ∈ items, Parses j) (filled : items ≠ [])
    (fits : stack.length + (nestingOfItems items + 1) ≤ depth) (done : List Json) :
    run depth ⟨.array done :: stack, .value⟩
        ([.comma].intercalate (tokensOfItems items) ++ .closeArray :: rest) =
      run depth (settle (.array (done.reverse ++ items)) stack) rest := by
  induction items generalizing done with
  | nil => exact absurd rfl filled
  | cons j items ih =>
    rw [nestingOfItems] at fits
    obtain ⟨here, later⟩ := List.forall_mem_cons.1 each
    have first := fun rest => here depth (.array done :: stack) rest
      (by rw [List.length_cons]; omega)
    cases items with
    | nil =>
      have single : [Token.comma].intercalate (tokensOfItems [j]) = j.tokens := by
        simp [tokensOfItems]
      rw [single, first]
      change run depth (closeArray depth stack (j :: done)) rest = _
      rw [closeArray_of_lt (by omega), List.reverse_cons]
    | cons k items =>
      have cut : [Token.comma].intercalate (tokensOfItems (j :: k :: items)) =
          j.tokens ++ .comma :: [.comma].intercalate (tokensOfItems (k :: items)) := by
        simp [tokensOfItems, List.intercalate_cons_cons]
      rw [cut, List.append_assoc, first]
      have next := ih later (List.cons_ne_nil k items) (by omega) (j :: done)
      rw [List.reverse_cons, List.append_assoc] at next
      exact next

/-- An object is closed when all its names could be read. -/
theorem closeObject_of_lt (shallow : stack.length < depth) (done : List (String × Json)) :
    closeObject depth stack (done.map fun m => (some m.1, m.2)) =
      settle (.object done.reverse) stack := by
  have named : (done.map fun m => (some m.1, m.2)).reverse.mapM
      (fun m : Member => m.1.map (·, m.2)) = some done.reverse := by
    rw [← List.map_reverse]
    generalize done.reverse = members
    induction members with
    | nil => rfl
    | cons m rest ih => simp [ih]
  rw [closeObject, named]
  dsimp only
  rw [if_pos shallow]

theorem run_members {members : List (String × Json)} (each : ∀ m ∈ members, Parses m.2)
    (filled : members ≠ []) (fits : stack.length + (nestingOfMembers members + 1) ≤ depth)
    (done : List (String × Json)) (closable : Bool) :
    run depth ⟨stack, .key (done.map fun m => (some m.1, m.2)) closable⟩
        ([.comma].intercalate (tokensOfMembers members) ++ .closeObject :: rest) =
      run depth (settle (.object (done.reverse ++ members)) stack) rest := by
  induction members generalizing done closable with
  | nil => exact absurd rfl filled
  | cons m members ih =>
    obtain ⟨name, j⟩ := m
    rw [nestingOfMembers] at fits
    obtain ⟨here, later⟩ := List.forall_mem_cons.1 each
    dsimp only at here
    have first := fun rest =>
      here depth (.object (done.map fun m => (some m.1, m.2)) (some name) :: stack) rest
        (by rw [List.length_cons]; omega)
    cases members with
    | nil =>
      have single : [Token.comma].intercalate (tokensOfMembers [(name, j)]) =
          .text (some name) :: .colon :: j.tokens := by
        simp [tokensOfMembers]
      rw [single]
      refine (first (.closeObject :: rest)).trans ?_
      change run depth (closeObject depth stack (((name, j) :: done).map _)) rest = _
      rw [closeObject_of_lt (by omega), List.reverse_cons]
    | cons k members =>
      have cut : [Token.comma].intercalate (tokensOfMembers ((name, j) :: k :: members)) =
          .text (some name) :: .colon :: (j.tokens ++
            .comma :: [.comma].intercalate (tokensOfMembers (k :: members))) := by
        obtain ⟨_, _⟩ := k
        simp [tokensOfMembers, List.intercalate_cons_cons]
      have next := ih later (List.cons_ne_nil k members) (by omega) ((name, j) :: done) false
      rw [List.reverse_cons, List.append_assoc] at next
      rw [cut, List.cons_append, List.cons_append, List.append_assoc]
      exact (first _).trans next

theorem parses_array {items : List Json} (each : ∀ j ∈ items, Parses j) :
    Parses (.array items) := by
  intro depth stack rest fits
  rw [nesting] at fits
  have opened : run depth ⟨stack, .value⟩ ((Json.array items).tokens ++ rest) =
      run depth ⟨stack, .item⟩
        ([.comma].intercalate (tokensOfItems items) ++ .closeArray :: rest) := by
    rw [tokens, List.cons_append, List.cons_append, List.append_assoc]
    rfl
  rw [opened]
  cases items with
  | nil =>
    change run depth (closeArray depth stack []) rest = _
    rw [closeArray_of_lt (by omega), List.reverse_nil]
  | cons j items =>
    have first : run depth ⟨stack, .item⟩
        ([.comma].intercalate (tokensOfItems (j :: items)) ++ .closeArray :: rest) =
          run depth ⟨.array [] :: stack, .value⟩
            ([.comma].intercalate (tokensOfItems (j :: items)) ++ .closeArray :: rest) := by
      cases items with
      | nil => simp [tokensOfItems, run_item]
      | cons k items => simp [tokensOfItems, List.intercalate_cons_cons, run_item]
    rw [first, run_items each (List.cons_ne_nil j items) fits []]
    rfl

theorem parses_object {members : List (String × Json)} (each : ∀ m ∈ members, Parses m.2) :
    Parses (.object members) := by
  intro depth stack rest fits
  rw [nesting] at fits
  have opened : run depth ⟨stack, .value⟩ ((Json.object members).tokens ++ rest) =
      run depth ⟨stack, .key [] true⟩
        ([.comma].intercalate (tokensOfMembers members) ++ .closeObject :: rest) := by
    rw [tokens, List.cons_append, List.cons_append, List.append_assoc]
    rfl
  rw [opened]
  cases members with
  | nil =>
    change run depth (closeObject depth stack []) rest = _
    exact congrArg (run depth · rest) (closeObject_of_lt (by omega) [])
  | cons m members =>
    exact run_members each (List.cons_ne_nil m members) fits [] true

end Parser

open SecretSync.Json.Parser

mutual

theorem parses : ∀ j : Json, j.plain → Parses j
  | .null, _ | .bool _, _ | .whole _, _ | .string _, _ => fun _ _ _ _ => rfl
  | .array items, every => parses_array (parses_items items every)
  | .object members, every => parses_object (parses_members members every)

theorem parses_items : ∀ items : List Json, plainItems items → ∀ j ∈ items, Parses j
  | [], _ => nofun
  | j :: rest, every => by
    rw [plainItems, Bool.and_eq_true] at every
    exact List.forall_mem_cons.2 ⟨parses j every.1, parses_items rest every.2⟩

theorem parses_members : ∀ members : List (String × Json), plainMembers members →
    ∀ m ∈ members, Parses m.2
  | [], _ => nofun
  | (name, j) :: rest, every => by
    rw [plainMembers, Bool.and_eq_true] at every
    exact List.forall_mem_cons.2 ⟨parses j every.1, parses_members rest every.2⟩

end

/-- A value without fractions that is not nested too deep is what is read of its text. -/
theorem read?_write {j : Json} (plain : j.plain) (shallow : j.nesting ≤ 127) :
    read? j.write = some j := by
  have cut : Lexer.run .idle [] j.write.toList = some j.tokens := by
    have whole := lexes_write j plain [] [] (fun _ none => nomatch none)
    rw [List.append_nil] at whole
    rw [whole]
    simp [Lexer.run, Lexer.finish]
  have parsed := parses j plain 127 [] [] (by simpa using shallow)
  rw [List.append_nil] at parsed
  rw [read?, cut]
  exact parsed

end SecretSync.Json
