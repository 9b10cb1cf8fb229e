import Mathlib.Tactic.SplitIfs
import SecretSync.Resource.Key

namespace SecretSync

namespace Key

theorem parts_eq_splitOn (text : List Char) : parts text = text.splitOn '/' := by
  induction text with
  | nil => rfl
  | cons c rest ih =>
    rw [parts, List.splitOn_cons_eq_if_modifyHead, ih]
    by_cases slash : c = '/'
    · simp [slash]
    · obtain ⟨p, ps, split⟩ := List.exists_cons_of_ne_nil (List.splitOn_ne_nil '/' rest)
      simp [slash, split]

theorem parts_plain {text : List Char} (plain : '/' ∉ text) : parts text = [text] := by
  rw [parts_eq_splitOn, List.splitOn_eq_singleton plain]

theorem parts_slash {text rest : List Char} (plain : '/' ∉ text) :
    parts (text ++ '/' :: rest) = text :: parts rest := by
  rw [parts_eq_splitOn, parts_eq_splitOn, List.splitOn_append_cons_self_of_not_mem plain]

theorem intercalate_parts (text : List Char) : ['/'].intercalate (parts text) = text := by
  rw [parts_eq_splitOn, List.intercalate_splitOn]

theorem length_parts (text : List Char) : (parts text).length = text.count '/' + 1 := by
  fun_induction parts text with
  | case1 => rfl
  | case2 rest ih => simp [ih]
  | case3 c rest other split ih => simp [split] at ih
  | case4 c rest other p ps split ih =>
    rw [split] at ih
    rw [List.count_cons_of_ne other, ← ih]
    rfl

theorem parse?_render {k : Key} (named : k.name ≠ "") (space : '/' ∉ k.space.toList)
    (name : '/' ∉ k.name.toList) : parse? k.render = some k := by
  have filled : k.name.toList ≠ [] := fun h => named (String.toList_eq_nil_iff.1 h)
  unfold render
  split_ifs with bare
  · rw [parse?, parts_plain name]
    simp [filled, ← bare]
  · have inside : k.space.toList ≠ [] := fun h => bare (String.toList_eq_nil_iff.1 h)
    have text : (k.space ++ "/" ++ k.name).toList = k.space.toList ++ '/' :: k.name.toList := by
      simp
    rw [parse?, text, parts_slash space, parts_plain name]
    simp [filled, inside]

theorem render_of_parse? {text : String} {k : Key} (parsed : parse? text = some k) :
    k.render = text := by
  have joined := intercalate_parts text.toList
  unfold parse? at parsed
  split at parsed
  · rename_i name split
    split at parsed
    · contradiction
    · cases parsed
      have whole : name = text.toList := by simpa [split, List.intercalate] using joined
      rw [render, if_pos rfl, whole, String.ofList_toList]
  · rename_i space name split
    split at parsed
    · contradiction
    · rename_i filled
      cases parsed
      have whole : space ++ '/' :: name = text.toList := by
        simpa [split, List.intercalate] using joined
      have inside : String.ofList space ≠ "" := fun h =>
        filled (.inl (by simpa using congrArg String.toList h))
      apply String.toList_injective
      rw [render, if_neg inside, ← whole]
      simp
  · contradiction

theorem parse?_injective {t₁ t₂ : String} {k₁ k₂ : Key} (parsed₁ : parse? t₁ = some k₁)
    (parsed₂ : parse? t₂ = some k₂) (apart : t₁ ≠ t₂) : k₁ ≠ k₂ := by
  rintro rfl
  exact apart ((render_of_parse? parsed₁).symm.trans (render_of_parse? parsed₂))

theorem parts_reverse_render {k : Key} (name : '/' ∉ k.name.toList) :
    ∃ rest, parts k.render.toList.reverse = k.name.toList.reverse :: rest := by
  have plain : '/' ∉ k.name.toList.reverse := by simpa using name
  unfold render
  split_ifs with bare
  · exact ⟨[], parts_plain plain⟩
  · have text : (k.space ++ "/" ++ k.name).toList.reverse =
        k.name.toList.reverse ++ '/' :: k.space.toList.reverse := by simp
    exact ⟨_, by rw [text, parts_slash plain]⟩

/-- A name without a slash is what follows the last slash of the text, so no two keys with such
names have one text. -/
theorem render_inj {k j : Key} (name : '/' ∉ k.name.toList) (name' : '/' ∉ j.name.toList)
    (same : k.render = j.render) : k = j := by
  obtain ⟨_, mine⟩ := parts_reverse_render name
  obtain ⟨_, yours⟩ := parts_reverse_render name'
  rw [same, yours] at mine
  have names : k.name = j.name :=
    String.toList_inj.1 (List.reverse_inj.1 (List.cons.inj mine).1.symm)
  have spaces : k.space = j.space := by
    unfold render at same
    rw [names] at same
    have length := congrArg (fun text => text.toList.length) same
    split_ifs at same length with bare bare' bare'
    · rw [bare, bare']
    · simp at length
      omega
    · simp at length
      omega
    · simpa using same
  cases k
  cases j
  cases names
  cases spaces
  rfl

end Key

end SecretSync
