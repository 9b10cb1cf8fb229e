import SecretSync.Store.Error
import SecretSync.Store.Vault

namespace SecretSync

inductive PassError where
  | invalidKey (key : String)
  | missingOutputName (resource : String)
  | missingOwnerIdentity (resource : String)
  | resourceConflict (resource secret : String)
  | vaultFetch (resource vault : String) (source : VaultError)
  | secretMissing (resource secret : String)
  | undecodable (text : String)
  | store (source : StoreError)
  deriving DecidableEq, Repr

namespace PassError

def kind : PassError → String
  | .invalidKey _ => "invalid_key"
  | .missingOutputName _ => "missing_output_name"
  | .missingOwnerIdentity _ => "missing_owner_identity"
  | .resourceConflict .. => "resource_conflict"
  | .vaultFetch .. => "vault_fetch"
  | .secretMissing .. => "materialized_secret_missing"
  | .undecodable _ => "decode"
  | .store _ => "store"

/-- A bad key and a broken object stay as they are; anything else can change. -/
def retryable : PassError → Bool
  | .invalidKey _ => false
  | .undecodable _ => false
  | _ => true

def message : PassError → String
  | .invalidKey key => "Invalid resource key: " ++ key
  | .missingOutputName resource => resource ++ ": secret name must be specified"
  | .missingOwnerIdentity resource =>
    "AzureKeyVaultSecret '" ++ resource ++ "' has no uid and cannot own a Secret"
  | .resourceConflict resource secret =>
    "Resource \"" ++ secret ++ "\" already exists and is not managed by AzureKeyVaultSecret '" ++
      resource ++ "'"
  | .vaultFetch resource vault source =>
    "Failed to get secret for '" ++ resource ++ "' from Azure Key Vault '" ++ vault ++ "': " ++
      source.message
  | .secretMissing resource secret =>
    "Secret '" ++ secret ++ "' for AzureKeyVaultSecret '" ++ resource ++ "' does not exist yet"
  | .undecodable text => "Failed to decode object: " ++ text
  | .store source => source.message

end PassError

end SecretSync
