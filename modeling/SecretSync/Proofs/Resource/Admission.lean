import SecretSync.Proofs.Resource.Conformance
import SecretSync.Resource.Definition
import SecretSync.Watch.Watcher

namespace SecretSync

open Json (Decoded decodeString decodeOption optional member? conforms)

namespace Schema

/-- A decoder reads every value that a schema admits. -/
def Reads (s : Schema) (f : Json → Decoded α) : Prop :=
  ∀ j : Json, j.distinct → s.admits j → ∃ a, f j = .ok a

structure Fits (properties : List (String × Schema)) (required : List String)
    (members : List (String × Json)) : Prop where
  once : (Json.object members).distinct
  complete : ∀ r ∈ required, (member? members r).isSome
  typed : ∀ p ∈ properties, ∀ j, member? members p.1 = some j → p.2.admits j

variable {n : SchemaNotes} {s : Schema} {properties : List (String × Schema)}
  {required : List String} {members : List (String × Json)} {name : String} {j : Json}
  {f : Json → Decoded α}

theorem admitsMembers_iff :
    admitsMembers properties members ↔
      ∀ p ∈ properties, ∀ j, member? members p.1 = some j → p.2.admits j := by
  induction properties with
  | nil => simp [admitsMembers]
  | cons p rest ih =>
    obtain ⟨name, s⟩ := p
    rw [admitsMembers, Bool.and_eq_true, ih, List.forall_mem_cons]
    refine and_congr_left' ?_
    cases member? members name <;> simp

theorem fits_of_admits (once : j.distinct) (admitted : (object n properties required).admits j) :
    (j = .null ∧ n.nullable) ∨ ∃ members, j = .object members ∧ Fits properties required members := by
  cases j with
  | null => exact .inl ⟨rfl, admitted⟩
  | object members =>
    rw [admits, Bool.and_eq_true, List.all_eq_true, admitsMembers_iff] at admitted
    exact .inr ⟨members, rfl, once, admitted.1, admitted.2⟩
  | _ => cases admitted

namespace Fits

variable (fits : Fits properties required members)
include fits

theorem read_optional (inside : (name, s) ∈ properties) (reads : s.Reads f) :
    ∃ a, optional members name f = .ok a ∧ a.isSome = (member? members name).isSome := by
  rw [Json.optional_of_nodup (Json.nodup_of_distinct fits.once)]
  cases found : member? members name with
  | none => exact ⟨none, rfl, rfl⟩
  | some j =>
    obtain ⟨a, read⟩ := reads j (Json.distinct_of_member? fits.once found)
      (fits.typed _ inside j found)
    exact ⟨some a, congrArg (Except.map some) read, rfl⟩

theorem read_required (inside : (name, s) ∈ properties) (reads : s.Reads f)
    (needed : name ∈ required) : ∃ a, optional members name f = .ok (some a) := by
  obtain ⟨a, read, same⟩ := fits.read_optional inside reads
  rw [fits.complete name needed] at same
  obtain ⟨a, rfl⟩ := Option.isSome_iff_exists.1 same
  exact ⟨a, read⟩

end Fits

theorem reads_text (plain : n.nullable = false) : (text n none).Reads decodeString := by
  intro j _ admitted
  cases j with
  | string s => exact ⟨s, rfl⟩
  | null => simp [admits, plain] at admitted
  | _ => cases admitted

theorem reads_optionalText : (text n none).Reads (decodeOption decodeString) := by
  intro j _ admitted
  cases j with
  | string s => exact ⟨some s, rfl⟩
  | null => exact ⟨none, rfl⟩
  | _ => cases admitted

end Schema

namespace Binding

open Schema

variable {n : SchemaNotes} {j : Json}

theorem reads_objectType (plain : n.nullable = false) :
    (Schema.text n (some ["secret"])).Reads ObjectType.ofJson := by
  intro j _ admitted
  cases j with
  | string s =>
    obtain rfl : s = "secret" := by simpa [admits, admitsText] using admitted
    exact ⟨.secret, rfl⟩
  | null => simp [admits, plain] at admitted
  | _ => cases admitted

theorem reads_vaultObject : vaultObjectSchema.Reads VaultObject.ofJson := by
  intro j once admitted
  obtain ⟨-, null⟩ | ⟨m, rfl, fits⟩ := fits_of_admits once admitted
  · cases null
  obtain ⟨name, hasName⟩ :=
    fits.read_required List.mem_cons_self (reads_text rfl) List.mem_cons_self
  obtain ⟨type, hasType, -⟩ :=
    fits.read_optional (List.mem_cons_of_mem _ List.mem_cons_self) (reads_objectType rfl)
  refine ⟨⟨name, type.getD .secret⟩, ?_⟩
  change VaultObject.ofMembers m = _
  rw [VaultObject.ofMembers, hasName, hasType]
  rfl

theorem reads_vault : vaultSchema.Reads VaultSource.ofJson := by
  intro j once admitted
  obtain ⟨-, null⟩ | ⟨m, rfl, fits⟩ := fits_of_admits once admitted
  · cases null
  obtain ⟨name, hasName⟩ :=
    fits.read_required List.mem_cons_self (reads_text rfl) List.mem_cons_self
  obtain ⟨object, hasObject⟩ :=
    fits.read_required (List.mem_cons_of_mem _ List.mem_cons_self) reads_vaultObject
      (List.mem_cons_of_mem _ List.mem_cons_self)
  refine ⟨⟨name, object⟩, ?_⟩
  change VaultSource.ofMembers m = _
  rw [VaultSource.ofMembers, hasName, hasObject]
  rfl

theorem reads_output : outputSchema.Reads Output.ofJson := by
  intro j once admitted
  obtain ⟨-, null⟩ | ⟨m, rfl, fits⟩ := fits_of_admits once admitted
  · cases null
  obtain ⟨keyName, hasKeyName⟩ :=
    fits.read_required List.mem_cons_self (reads_text rfl) List.mem_cons_self
  obtain ⟨name, hasName⟩ :=
    fits.read_required (List.mem_cons_of_mem _ List.mem_cons_self) (reads_text rfl)
      (List.mem_cons_of_mem _ List.mem_cons_self)
  obtain ⟨type, hasType, -⟩ :=
    fits.read_optional (List.mem_cons_of_mem _ (List.mem_cons_of_mem _ List.mem_cons_self))
      (reads_text rfl)
  refine ⟨⟨name, keyName, type.getD Output.defaultType⟩, ?_⟩
  change Output.ofMembers m = _
  rw [Output.ofMembers, hasKeyName, hasName, hasType]
  rfl

theorem reads_spec : specSchema.Reads Spec.ofJson := by
  intro j once admitted
  obtain ⟨-, null⟩ | ⟨m, rfl, fits⟩ := fits_of_admits once admitted
  · cases null
  obtain ⟨output, hasOutput⟩ :=
    fits.read_required List.mem_cons_self reads_output List.mem_cons_self
  obtain ⟨vault, hasVault⟩ :=
    fits.read_required (List.mem_cons_of_mem _ List.mem_cons_self) reads_vault
      (List.mem_cons_of_mem _ List.mem_cons_self)
  refine ⟨⟨vault, output⟩, ?_⟩
  change Spec.ofMembers m = _
  rw [Spec.ofMembers, hasOutput, hasVault]
  rfl

theorem status_of_admits (once : j.distinct) (admitted : statusSchema.admits j) :
    j = .null ∨ ∃ s, Status.ofJson j = .ok s := by
  obtain ⟨rfl, -⟩ | ⟨m, rfl, fits⟩ := fits_of_admits once admitted
  · exact .inl rfl
  obtain ⟨update, hasUpdate, -⟩ := fits.read_optional List.mem_cons_self reads_optionalText
  obtain ⟨hash, hasHash, -⟩ :=
    fits.read_optional (List.mem_cons_of_mem _ List.mem_cons_self) reads_optionalText
  refine .inr ⟨⟨hash.join, update.join⟩, ?_⟩
  change Status.ofMembers m = _
  rw [Status.ofMembers, hasUpdate, hasHash]
  rfl

theorem reads_status : statusSchema.Reads (decodeOption Status.ofJson) := by
  intro j once admitted
  obtain rfl | ⟨s, read⟩ := status_of_admits once admitted
  · exact ⟨none, rfl⟩
  · refine ⟨some s, ?_⟩
    cases j with
    | null => cases read
    | _ => exact congrArg (Except.map some) read

theorem spec_admitted (s : Spec) : specSchema.admits s.toJson := by
  obtain ⟨⟨vault, object, ⟨⟩⟩, output⟩ := s
  rfl

theorem status_admitted (s : Status) : statusSchema.admits s.toJson := by
  obtain ⟨_ | hash, _ | update⟩ := s <;> rfl

/-- The schema that the definition publishes for the one version of bindings. -/
def published : Json :=
  (do
    let spec ← definition.field? "spec"
    let versions ← spec.field? "versions"
    let version ← versions.asArray?.bind List.head?
    let schemas ← version.field? "schema"
    schemas.field? "openAPIV3Schema").getD .null

def publishedFor (member : String) : Json :=
  ((published.field? "properties").bind (Json.field? member)).getD .null

theorem published_eq : published = schema.toJson := rfl

theorem publishedFor_spec : publishedFor "spec" = specSchema.toJson := rfl

theorem publishedFor_status : publishedFor "status" = statusSchema.toJson := rfl

/-- An object as the API server lets it be stored: it conforms to the published schema, and has
metadata, which the API server has written itself. -/
structure Admitted (j : Json) : Prop where
  once : j.distinct
  conforms : conforms published j
  metadata : ∃ m, (j.field? "metadata").map Meta.ofJson = some (.ok m)

theorem Admitted.decodes (admitted : Admitted j) : ∃ b, ofJson j = .ok b := by
  obtain ⟨once, formed, m, hasMeta⟩ := admitted
  rw [published_eq, conforms_toJson] at formed
  obtain ⟨-, null⟩ | ⟨members, rfl, fits⟩ := fits_of_admits once formed
  · cases null
  have hasMetadata : optional members "metadata" Meta.ofJson = .ok (some m) := by
    obtain ⟨j, found, read⟩ := Option.map_eq_some_iff.1 hasMeta
    rw [Json.optional_of_nodup (Json.nodup_of_distinct fits.once)]
    change member? members "metadata" = some j at found
    rw [found]
    exact congrArg (Except.map some) read
  obtain ⟨spec, hasSpec⟩ := fits.read_required List.mem_cons_self reads_spec List.mem_cons_self
  obtain ⟨status, hasStatus, -⟩ :=
    fits.read_optional (List.mem_cons_of_mem _ List.mem_cons_self) reads_status
  refine ⟨⟨m, spec, status.join⟩, ?_⟩
  change ofMembers members = _
  rw [ofMembers, hasMetadata, hasSpec, hasStatus]
  rfl

theorem mapM_of_forall {objects : List Json} (all : ∀ o ∈ objects, Admitted o) :
    ∃ items, objects.mapM ofJson = .ok items := by
  induction objects with
  | nil => exact ⟨[], rfl⟩
  | cons o rest ih =>
    obtain ⟨first, all⟩ := List.forall_mem_cons.1 all
    obtain ⟨b, read⟩ := first.decodes
    obtain ⟨items, more⟩ := ih all
    exact ⟨b :: items, by rw [List.mapM_cons, read, more]; rfl⟩

/-- The published definition and the decoders describe one format. A spec of the published form is
read, and so is a status, except that a null status is no status. What is written of a spec or a
status is of that form. So a list of admitted objects is read as a whole. -/
theorem published_format_is_read :
    (∀ j : Json, j.distinct → conforms (publishedFor "spec") j → ∃ s, Spec.ofJson j = .ok s) ∧
    (∀ j : Json, j.distinct → conforms (publishedFor "status") j →
      (j ≠ .null → ∃ s, Status.ofJson j = .ok s) ∧
        ∃ s, decodeOption Status.ofJson j = .ok s) ∧
    (∀ s : Spec, conforms (publishedFor "spec") s.toJson) ∧
    (∀ s : Status, conforms (publishedFor "status") s.toJson) ∧
    ∀ f : Feed, f.failedLists = 0 → (∀ o ∈ f.objects, Admitted o) →
      ∃ items, f.objects.mapM ofJson = .ok items ∧
        Watcher.list .binding f =
          (⟨.init :: items.map .initApply ++ [.initDone], .asking, none⟩, f) := by
  simp only [publishedFor_spec, publishedFor_status, conforms_toJson]
  refine ⟨reads_spec, fun j once admitted => ⟨fun given => ?_, reads_status j once admitted⟩,
    spec_admitted, status_admitted, fun f answered all => ?_⟩
  · exact (status_of_admits once admitted).resolve_left given
  · obtain ⟨items, read⟩ := mapM_of_forall all
    refine ⟨items, read, ?_⟩
    have whole : f.objects.mapM ObjectKind.binding.decode = .ok items := read
    rw [Watcher.list, if_pos answered, whole]

/-- A binding as an API server without defaults stores it before its first pass. -/
def sparseObject : Json :=
  .object
    [("metadata", .object [("name", .string "db-cred"), ("namespace", .string "default")]),
     ("spec", .object
       [("outputSecret",
          .object [("keyName", .string "password"), ("name", .string "db-secret")]),
        ("vault", .object
          [("name", .string "kv1"), ("object", .object [("name", .string "db-pass")])])]),
     ("status", .null)]

theorem sparse_object_is_listed :
    Admitted sparseObject ∧
      ∃ items, [sparseObject].mapM ofJson = .ok items ∧
        Watcher.list .binding ⟨0, [sparseObject], [], 0⟩ =
          (⟨.init :: items.map .initApply ++ [.initDone], .asking, none⟩,
            ⟨0, [sparseObject], [], 0⟩) := by
  have admitted : Admitted sparseObject :=
    ⟨by decide +kernel, by decide +kernel, ⟨_, rfl⟩⟩
  exact ⟨admitted, published_format_is_read.2.2.2.2 ⟨0, [sparseObject], [], 0⟩ rfl
    (List.forall_mem_singleton.2 admitted)⟩

/-- The schema of a status says that it may be null, since a binding may have none, but a status
itself is not read from null. -/
theorem null_status_conforms_but_is_not_read :
    Json.null.distinct ∧ conforms (publishedFor "status") .null ∧
      Status.ofJson .null = .error (.wrongType "null" "struct AzureKeyVaultSecretStatus") :=
  ⟨rfl, by decide +kernel, rfl⟩

end Binding

end SecretSync
