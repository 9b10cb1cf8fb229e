import SecretSync.Resource.Binding
import SecretSync.Resource.Schema

namespace SecretSync.Binding

def lines (l : List String) : String := "\n".intercalate l

def text (description : String) : Schema := .text (SchemaNotes.describe description) none

def optionalText (description : String) : Schema :=
  .text { SchemaNotes.describe description with nullable := true } none

def vaultObjectSchema : Schema :=
  .object (SchemaNotes.describe "Object inside the vault")
    [("name", text "Object name in the vault"),
     ("type",
       .text
         { SchemaNotes.describe "Supported Key Vault object types" with default := some "secret" }
         (some ["secret"]))]
    ["name"]

def vaultSchema : Schema :=
  .object (SchemaNotes.describe "Where the value lives in Azure Key Vault")
    [("name",
       text "Key Vault name (e.g. \"kv1\") or a full vault URL (\"https://kv1.vault.azure.net/\")"),
     ("object", vaultObjectSchema)]
    ["name", "object"]

def outputSchema : Schema :=
  .object (SchemaNotes.describe "Kubernetes Secret the value is written to")
    [("keyName", text "Key inside the Secret data map that receives the value"),
     ("name", text "Name of the Kubernetes Secret. Required."),
     ("type",
       .text
         { SchemaNotes.describe (lines ["Kubernetes Secret type", "Default: \"Opaque\""]) with
           default := some "Opaque" }
         none)]
    ["keyName", "name"]

def specDescription : String := lines
  ["AzureKeyVaultSecret Custom Resource Definition",
   "",
   "Declares that one secret object in an Azure Key Vault should be mirrored",
   "into one key of one Kubernetes Secret in the same namespace.",
   "",
   "# Example",
   "",
   "```yaml",
   "apiVersion: azure-keyvault-controller.spv.no/v1alpha1",
   "kind: AzureKeyVaultSecret",
   "metadata:",
   "  name: db-cred",
   "  namespace: default",
   "spec:",
   "  vault:",
   "    name: kv1",
   "    object:",
   "      name: db-pass",
   "      type: secret",
   "  outputSecret:",
   "    name: db-secret",
   "    keyName: password",
   "    type: Opaque",
   "```"]

def specSchema : Schema :=
  .object (SchemaNotes.describe specDescription)
    [("outputSecret", outputSchema), ("vault", vaultSchema)]
    ["outputSecret", "vault"]

def statusSchema : Schema :=
  .object
    { SchemaNotes.describe
        (lines ["Status of the AzureKeyVaultSecret resource", "",
          "Only the status updater writes this block."]) with
      nullable := true }
    [("lastAzureUpdate",
       optionalText "Last time the Kubernetes Secret was written from Azure Key Vault (RFC3339)"),
     ("secretHash",
       optionalText "Hex MD5 of the value currently materialized in the Kubernetes Secret")]
    []

def schema : Schema :=
  .object
    { SchemaNotes.describe
        "Auto-generated derived type for AzureKeyVaultSecretSpec via `CustomResource`" with
      title := some kind }
    [("spec", specSchema), ("status", statusSchema)]
    ["spec"]

def plural : String := "azurekeyvaultsecrets"

def column (name path : String) : Json :=
  .object [("jsonPath", .string path), ("name", .string name), ("type", .string "string")]

/-- The definition as a resource of its own, members in name order. -/
def definition : Json :=
  .object
    [("apiVersion", .string "apiextensions.k8s.io/v1"),
     ("kind", .string "CustomResourceDefinition"),
     ("metadata", .object [("name", .string (plural ++ "." ++ group))]),
     ("spec", .object
       [("group", .string group),
        ("names", .object
          [("categories", .array []),
           ("kind", .string kind),
           ("plural", .string plural),
           ("shortNames", .array [.string "akvs"]),
           ("singular", .string "azurekeyvaultsecret")]),
        ("scope", .string "Namespaced"),
        ("versions", .array
          [.object
            [("additionalPrinterColumns", .array
               [column "Vault" ".spec.vault.name",
                column "Secret Name" ".spec.outputSecret.name",
                column "Hash" ".status.secretHash",
                column "Last Update" ".status.lastAzureUpdate"]),
             ("name", .string version),
             ("schema", .object [("openAPIV3Schema", schema.toJson)]),
             ("served", .bool true),
             ("storage", .bool true),
             ("subresources", .object [("status", .object [])])]])])]

end SecretSync.Binding
