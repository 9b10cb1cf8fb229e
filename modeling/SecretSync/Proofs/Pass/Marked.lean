import SecretSync.Proofs.Pass.Reachable

namespace SecretSync

namespace Cluster

def Marked (c : Cluster) (b : Binding) : Prop := c.Issued b.metadata ∧ b.metadata.uid.isSome = true

def AllMarked (c : Cluster) : Prop := ∀ k b, c.bindings.get? k = some b → c.Marked b

variable {c d : Cluster}

theorem AllMarked.goOn (h : c.AllMarked) (later : c.versions ≤ d.versions)
    (bindings : ∀ k b, d.bindings.get? k = some b → c.bindings.get? k = some b ∨ d.Marked b) :
    d.AllMarked := by
  intro k b there
  rcases bindings k b there with before | marked
  · obtain ⟨⟨n, atMost, version⟩, identity⟩ := h k b before
    exact ⟨⟨n, Nat.le_trans atMost later, version⟩, identity⟩
  · exact marked

theorem AllMarked.insert {k : Key} {b : Binding} (h : c.AllMarked)
    (later : c.versions ≤ d.versions) (bindings : d.bindings = c.bindings.insert k b)
    (marked : d.Marked b) : d.AllMarked := by
  refine h.goOn later fun k' b' there => ?_
  rw [bindings, Table.get?_insert] at there
  by_cases hit : k = k'
  · rw [if_pos hit] at there
    cases there
    exact .inr marked
  · rw [if_neg hit] at there
    exact .inl there

theorem marked_empty : empty.AllMarked := fun _ _ there => (nomatch there)

theorem marked_insertBinding (h : c.AllMarked) (b : Binding) : (c.insertBinding b).2.AllMarked :=
  h.insert (Nat.le_succ _) rfl ⟨⟨c.versions + 1, Nat.le_refl _, rfl⟩, rfl⟩

theorem marked_removeBinding (h : c.AllMarked) (k : Key) : (c.removeBinding k).2.AllMarked := by
  refine h.goOn (Nat.le_refl _) fun j b there => .inl ?_
  simp only [removeBinding, Table.get?_erase] at there
  split at there
  · contradiction
  · exact there

theorem marked_updateStatus (h : c.AllMarked) (b : Binding) : (c.updateStatus b).2.AllMarked := by
  rcases updateStatus_cases c b with ⟨-, same, -⟩ | ⟨k, existing, -, there, call⟩
  · exact h.goOn (Nat.le_of_eq same.versions.symm) fun _ _ there =>
      .inl (same.bindings ▸ there)
  · have fresh : (c.withRestated k b existing).Marked (c.restated b existing) :=
      ⟨⟨c.versions + 1, Nat.le_refl _, rfl⟩, (h k existing there).2⟩
    rw [call]
    exact h.insert (Nat.le_succ _) rfl fresh

end Cluster

namespace World

theorem marked_answer {w : World} (h : w.cluster.AllMarked) (q : Request) :
    (World.answer q w).2.cluster.AllMarked := by
  cases q with
  | updateStatus b => exact Cluster.marked_updateStatus h b
  | _ =>
    refine h.goOn (grows_answer _ w).versions fun _ _ there => .inl ?_
    rwa [bindings_answer w fun b => by simp] at there

theorem marked_edit {w : World} (h : w.cluster.AllMarked) (e : Edit) :
    (w.edit e).cluster.AllMarked := by
  cases e with
  | insertBinding b => exact Cluster.marked_insertBinding h b
  | removeBinding k => exact Cluster.marked_removeBinding h k
  | request q => exact marked_answer h q
  | _ =>
    refine h.goOn (grows_edit w _).versions fun _ _ there => .inl ?_
    exact there

theorem marked_edits {w : World} (h : w.cluster.AllMarked) (edits : List Edit) :
    (edits.foldl edit w).cluster.AllMarked := by
  induction edits generalizing w with
  | nil => exact h
  | cons e edits ih => exact ih (marked_edit h e)

theorem Reachable.marked {w : World} (h : w.Reachable) : w.cluster.AllMarked := by
  obtain ⟨clock, edits, rfl⟩ := h
  exact marked_edits Cluster.marked_empty edits

end World

end SecretSync
