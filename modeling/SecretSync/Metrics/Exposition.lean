import SecretSync.Metrics.Basic

namespace SecretSync.Metrics

structure Sample where
  suffix : String
  labels : List (String × String)
  value : String

structure Family where
  name : String
  help : String
  type : String
  samples : List Sample

/-- Backslashes, quotes and line ends in a label value are escaped. -/
def escapeLabel (s : String) : String :=
  String.ofList <| s.toList.flatMap fun c =>
    if c = '\\' then ['\\', '\\'] else if c = '"' then ['\\', '"']
    else if c = '\n' then ['\\', 'n'] else [c]

def labelText (l : String × String) : String := l.1 ++ "=\"" ++ escapeLabel l.2 ++ "\""

def Sample.line (name : String) (s : Sample) : String :=
  let labels :=
    if s.labels.isEmpty then "" else "\x7b" ++ ",".intercalate (s.labels.map labelText) ++ "\x7d"
  name ++ s.suffix ++ labels ++ " " ++ s.value

def Family.sampleLines (f : Family) : List String := f.samples.map (Sample.line f.name)

def Family.lines (f : Family) : List String :=
  if f.samples.isEmpty then []
  else
    ("# HELP " ++ f.name ++ " " ++ f.help) :: ("# TYPE " ++ f.name ++ " " ++ f.type) ::
      f.sampleLines

def count (labels : List (String × String)) (n : Nat) : Sample := ⟨"", labels, toString n⟩

/-- A histogram: every bound, the bound of all, the sum and the number. -/
def histogramSamples (labels : List (String × String)) (bounds : List Binary64) (h : Histogram) :
    List Sample :=
  (bounds.zip h.within).map (fun b =>
    ⟨"_bucket", labels ++ [("le", b.1.display)], toString b.2⟩) ++
  [⟨"_bucket", labels ++ [("le", "+Inf")], toString h.count⟩,
   ⟨"_sum", labels, h.sum.display⟩,
   ⟨"_count", labels, toString h.count⟩]

def family (name help type : String) (samples : List Sample) : Family :=
  ⟨"azure_keyvault_controller_" ++ name, help, type, samples⟩

def families (m : Metrics) : List Family :=
  [family "object_events_skipped_total"
     "Total number of watched object events that did not map to an AzureKeyVaultSecret" "counter"
     (m.skipped.entries.map fun e => count [("reason", e.1)] e.2),
   family "reconciliation_duration_seconds" "Duration of reconciliation in seconds" "histogram"
     (m.durations.entries.flatMap fun e => histogramSamples [("queue", e.1)] durationBounds e.2),
   family "reconciliation_errors_total"
     "Total number of reconciliation errors by queue and error kind" "counter"
     (m.errors.entries.map fun e => count [("kind", e.1.1), ("queue", e.1.2)] e.2),
   family "reconciliations_total" "Total number of reconciliations by queue and result" "counter"
     (m.reconciliations.entries.map fun e => count [("queue", e.1.1), ("result", e.1.2)] e.2),
   family "secrets_created_total" "Total number of Kubernetes Secrets created" "counter"
     [count [] m.created],
   family "secrets_updated_total"
     "Total number of Kubernetes Secrets updated with a new value from Azure Key Vault" "counter"
     [count [] m.updated],
   family "vault_operation_duration_seconds" "Duration of Azure Key Vault reads in seconds"
     "histogram" (histogramSamples [] vaultBounds m.vaultDurations),
   family "vault_operation_errors_total" "Total number of failed Azure Key Vault reads" "counter"
     [count [] m.vaultErrors],
   family "vault_operations_total" "Total number of Azure Key Vault reads" "counter"
     [count [] m.vaultReads],
   family "workqueue_depth" "Current number of pending work items" "gauge"
     (m.depth.entries.map fun e =>
       ⟨"", [("queue", e.1)], (Binary64.ofNat e.2).display⟩),
   family "workqueue_dropped_total"
     "Total number of work items dropped after exhausting retries" "counter"
     (m.dropped.entries.map fun e => count [("queue", e.1)] e.2)]

def lines (m : Metrics) : List String := m.families.flatMap Family.lines

end SecretSync.Metrics
