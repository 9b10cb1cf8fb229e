import SecretSync.Proofs.Controller.Calm
import SecretSync.Proofs.Pass.Reachable
import SecretSync.Proofs.Resource.KeyText

namespace SecretSync

namespace Cluster

/-- Every binding stands under its own key, and no name has a slash. -/
def Plain (c : Cluster) : Prop :=
  ∀ k b, c.bindings.get? k = some b → b.metadata.key = k ∧ '/' ∉ k.name.toList

variable {c d : Cluster}

theorem plain_empty : Plain empty := fun _ _ there => nomatch there

theorem Plain.of_bindings (plain : c.Plain) (same : d.bindings = c.bindings) : d.Plain := by
  rw [Plain, same]
  exact plain

theorem Plain.insert (plain : c.Plain) {k : Key} {b : Binding}
    (bindings : d.bindings = c.bindings.insert k b) (own : b.metadata.key = k)
    (name : '/' ∉ k.name.toList) : d.Plain := by
  intro j e there
  rw [bindings, Table.get?_insert] at there
  split_ifs at there with here
  · cases there
    exact here ▸ ⟨own, name⟩
  · exact plain j e there

theorem Plain.erase (plain : c.Plain) {k : Key} (bindings : d.bindings = c.bindings.erase k) :
    d.Plain := by
  intro j e there
  rw [bindings, Table.get?_erase] at there
  split_ifs at there
  exact plain j e there

theorem Plain.nodup_keys (plain : c.Plain) : (c.bindings.values.map Binding.key).Nodup := by
  rw [Table.values, List.map_map, List.Nodup, List.pairwise_map]
  -- a table has every key once, so two bindings of one text would have one key
  refine c.bindings.ascending.imp_of_mem fun {x y} left right before same => ?_
  obtain ⟨own, name⟩ := plain x.1 x.2 (Table.mem_entries_iff.1 left)
  obtain ⟨own', name'⟩ := plain y.1 y.2 (Table.mem_entries_iff.1 right)
  have keys : x.1 = y.1 := by
    refine Key.render_inj name name' ?_
    rw [← own, ← own']
    exact same
  rw [keys, KeyOrder.irrefl] at before
  exact nomatch before

end Cluster

namespace World

variable {w : World}

theorem plain_answer (plain : w.cluster.Plain) (q : Request) :
    (answer q w).2.cluster.Plain := by
  by_cases status : ∃ b, q = .updateStatus b
  · obtain ⟨b, rfl⟩ := status
    rcases Cluster.updateStatus_cases w.cluster b with ⟨-, same, -⟩ | ⟨k, existing, -, there, call⟩
    · exact plain.of_bindings same.bindings
    · obtain ⟨own, name⟩ := plain k existing there
      have bindings : (answer (.updateStatus b) w).2.cluster.bindings =
          w.cluster.bindings.insert k (w.cluster.restated b existing) :=
        congrArg (fun r => r.2.bindings) call
      exact plain.insert bindings own name
  · exact plain.of_bindings (bindings_answer w fun b same => status ⟨b, same⟩)

theorem plain_edit (plain : w.cluster.Plain) {e : Edit}
    (named : ∀ b, e = .insertBinding b → '/' ∉ b.metadata.key.name.toList) :
    (w.edit e).cluster.Plain := by
  cases e with
  | insertBinding b => exact plain.insert rfl rfl (named b rfl)
  | removeBinding k => exact plain.erase rfl
  | request q => exact plain_answer plain q
  | _ => exact plain

end World

namespace Controller

variable {c : Controller}

def listing (c : Controller) : Option (List String) :=
  (c.world.call Cluster.listBindings).1.toOption.map fun bindings => bindings.map Binding.key

def listed (c : Controller) : Controller :=
  { c with world := (c.world.call Cluster.listBindings).2 }

def queueDue (c : Controller) (keys : List String) : Controller :=
  let (due, schedule) := c.schedule.due keys (c.instant * 1000000)
  due.foldl (fun (c : Controller) key => c.add .poll key) { c with schedule := schedule }

theorem calm_queueDue (c : Controller) (keys : List String) : c.Calm (c.queueDue keys) := by
  have noted : c.Calm { c with schedule := (c.schedule.due keys (c.instant * 1000000)).2 } :=
    .of_specs (.refl _) rfl fun _ => id
  exact noted.trans (calm_addAll _ _ .poll)

/-- A tick lists the bindings and then goes through the list. -/
theorem enqueueDue_eq (c : Controller) :
    c.enqueueDue = match c.listing with
      | none => c.listed
      | some keys => c.listed.queueDue keys := by
  unfold enqueueDue listing listed
  rcases c.world.call Cluster.listBindings with ⟨answer, w⟩
  cases answer <;> rfl

theorem nodup_listing (plain : c.world.cluster.Plain) {keys : List String}
    (listed : c.listing = some keys) : keys.Nodup := by
  obtain ⟨bindings, answered, rfl⟩ := Option.map_eq_some_iff.1 listed
  change c.world.cluster.listBindings.1.toOption = some bindings at answered
  cases found : c.world.cluster.listBindings.1 with
  | error e => exact nomatch found ▸ answered
  | ok all =>
    rw [found] at answered
    cases answered
    rw [← Cluster.listBindings_ok found]
    exact plain.nodup_keys

end Controller

end SecretSync
