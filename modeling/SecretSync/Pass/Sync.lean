import SecretSync.Pass.Program

/-!
The two passes over a binding. The spec sync makes sure that the output Secret exists and belongs
to the binding, and never writes over one. The vault poll writes a changed value over the Secret.
Both write the Secret before the status, so a status never speaks of a value that was not written.
-/
namespace SecretSync.Pass

/-- The Secret to write for a binding, with a given value or the one in the vault. -/
def compose (b : Binding) (value : Option String) : Pass Secret := do
  if b.spec.output.name = "" then
    throw (.missingOutputName b.key)
  match b.ownerReference? with
  | none => throw (.missingOwnerIdentity b.key)
  | some owner =>
    match value with
    | some v => pure (b.desired owner v)
    | none =>
      match ← readVault b with
      | .ok v => pure (b.desired owner v)
      | .error e => throw (.vaultFetch (b.metadata.name.getD "") b.spec.vault.name e)

def writeStatus (b : Binding) (s : Secret) : Pass Binding := do
  let moment ← now
  updateStatus { b with status := some (b.observe s moment) }

def noteVaultFailure (b : Binding) (e : PassError) : Pass Secret := do
  match e with
  | .vaultFetch .. =>
    record b (Event.vaultFailed (b.metadata.name.getD "") b.spec.vault.name)
  | _ => pure ()
  throw e

/-- The output Secret, or a new one whose status is written too. -/
def ensureSecret (b : Binding) : Pass Secret := do
  if b.spec.output.name = "" then
    throw (.missingOutputName b.key)
  match ← getSecret b.outputKey with
  | some s => pure s
  | none =>
    let s ← tryCatch (compose b none) (noteVaultFailure b)
    let created ← createSecret s
    count .created
    let _ ← writeStatus b created
    pure created

/-- Refuses a Secret that belongs to something else. -/
def refuse (key : String) (b : Binding) (secret : String) : Pass Unit := do
  record b (Event.nameTaken secret)
  throw (.resourceConflict key secret)

/-- The spec sync. A binding that is gone needs nothing. -/
def specSync (key : String) : Pass Unit := do
  let k ← parseKey key
  match ← getBinding k with
  | none => pure ()
  | some b =>
    let s ← ensureSecret b
    if s.metadata.controlledBy b then
      record b Event.synced
    else
      refuse key b (s.metadata.name.getD "")

/-- Writes a changed value over the Secret of a binding. -/
def refresh (key : String) (k : Key) (b : Binding) (value : String) : Pass Unit := do
  let desired ← compose b (some value)
  match ← getSecret ⟨k.space, b.spec.output.name⟩ with
  | none => throw (.secretMissing key b.spec.output.name)
  | some existing =>
    if existing.metadata.controlledBy b then
      let updated ← updateSecret
        { desired with
          metadata :=
            { desired.metadata with resourceVersion := existing.metadata.resourceVersion } }
      count .updated
      let _ ← writeStatus b updated
      record b Event.updated
    else
      refuse key b b.spec.output.name

/-- The vault poll. A value with the digest in the status is not written again. -/
def vaultPoll (key : String) : Pass Unit := do
  let k ← parseKey key
  match ← getBinding k with
  | none => pure ()
  | some b =>
    match ← readVault b with
    | .error e =>
      record b (Event.vaultFailed k.name b.spec.vault.name)
      throw (.vaultFetch k.name b.spec.vault.name e)
    | .ok value =>
      if b.observedHash = Digest.contentHash value then
        pure ()
      else
        refresh key k b value

end SecretSync.Pass
