import SecretSync.Controller.CommandLine
import SecretSync.Json.Yaml
import SecretSync.Resource.Definition

namespace SecretSync.Main

def versionLine : String := controllerName ++ " 0.1.0"

def usage : List String :=
  ["Usage: " ++ controllerName ++ " [OPTIONS]",
   "",
   "Every flag falls back to its environment variable, then to the built-in default.",
   "",
   "Options:",
   "      --workers <WORKERS>",
   "      --azure-poll-frequency <AZURE_POLL_FREQUENCY>",
   "      --azure-poll-frequency-slow <AZURE_POLL_FREQUENCY_SLOW>",
   "      --metrics-port <METRICS_PORT>",
   "  -h, --help",
   "  -V, --version"]

def settingsLines (s : Settings) : List String :=
  ["workers: " ++ toString s.workers,
   "azure poll frequency: " ++ s.pollInterval.render,
   "azure poll frequency when failing: " ++ s.slowPollInterval.render,
   "failures before slowing down: " ++ toString s.maxFailures,
   "retries: " ++ toString s.maxRetries,
   "backoff: " ++ s.backoff.base.render ++ " to " ++ s.backoff.cap.render,
   "watch restart delay: " ++ s.watchRestartDelay.render,
   "metrics port: " ++ toString s.metricsPort]

/-- What a run prints, what it complains of, and its exit code. -/
structure Report where
  output : String
  complaints : List String
  code : UInt32

def unlines (l : List String) : String := String.join (l.map (· ++ "\n"))

def report (program : String) (args : List String) (env : Environment) : Report :=
  if program = "definition" then ⟨Json.Yaml.write Binding.definition, [], 0⟩
  else
    match Settings.load args env with
    | .ok s => ⟨unlines (settingsLines s), s.warnings, 0⟩
    | .error .displayHelp => ⟨unlines usage, [], 0⟩
    | .error .displayVersion => ⟨unlines [versionLine], [], 0⟩
    | .error e => ⟨"", (controllerName ++ ": " ++ e.name) :: usage, 2⟩

/-- The variables that settings are read from. -/
def variableNames : List String :=
  ["AZURE_POLL_FREQUENCY", "AZURE_POLL_FREQUENCY_SLOW", "MAX_FAILURES_BEFORE_SLOWING_DOWN",
   "WORKERS", "MAX_RETRIES", "BACKOFF_START_MS", "BACKOFF_MAX_MS", "WATCH_RESTART_DELAY_SECS",
   "METRICS_PORT", "LOG_LEVEL", "LOG_FORMAT", "AZURE_CLIENT_ID"]

end SecretSync.Main

open SecretSync in
def main (args : List String) : IO UInt32 := do
  let env ← Main.variableNames.filterMapM fun name => do
    return (← IO.getEnv name).map fun value => (name, Text.Utf8.encode value)
  let program := ((← IO.appPath).fileName).getD controllerName
  let r := Main.report program args env
  IO.print r.output
  r.complaints.forM IO.eprintln
  return r.code
