namespace SecretSync

inductive Severity where
  | normal
  | warning
  deriving DecidableEq, Repr

def Severity.name : Severity → String
  | .normal => "Normal"
  | .warning => "Warning"

structure Event where
  severity : Severity
  reason : String
  message : String
  deriving DecidableEq, Repr

namespace Event

def syncedReason : String := "Synced"

def existsReason : String := "ErrResourceExists"

def vaultReason : String := "ErrAzureVault"

def existsMessage (secret : String) : String :=
  "Resource \"" ++ secret ++ "\" already exists and is not managed by AzureKeyVaultSecret"

def vaultMessage (resource vault : String) : String :=
  "Failed to get secret for '" ++ resource ++ "' from Azure Key Vault '" ++ vault ++ "'"

/-- The output Secret exists and belongs to the binding. -/
def synced : Event := ⟨.normal, syncedReason, "AzureKeyVaultSecret synced successfully"⟩

/-- A new value was written. -/
def updated : Event :=
  ⟨.normal, syncedReason,
    "AzureKeyVaultSecret synced to Kubernetes Secret with value from Azure Key Vault. Resources using this Secret must be restarted to pick up the new value"⟩

/-- A Secret has the output name but belongs to something else. -/
def nameTaken (secret : String) : Event := ⟨.warning, existsReason, existsMessage secret⟩

def vaultFailed (resource vault : String) : Event :=
  ⟨.warning, vaultReason, vaultMessage resource vault⟩

end Event

end SecretSync
