import SecretSync.Text.Utf8
import SecretSync.Time.Backoff
import SecretSync.Time.Notation

/-!
What can be set about a controller, and how it is read from the environment. A variable that does
not read falls back to its default; for an interval a warning says so.
-/
namespace SecretSync

/-- The name with which the controller signs what it writes. -/
def controllerName : String := "azure-keyvault-controller"

structure Settings where
  pollInterval : Span
  slowPollInterval : Span
  maxFailures : UInt32
  workers : UInt64
  maxRetries : UInt32
  backoffStartMillis : UInt64
  backoffMaxMillis : UInt64
  watchRestartSeconds : UInt64
  metricsPort : UInt16
  logLevel : String
  logFormat : String
  clientId : Option String
  warnings : List String
  deriving DecidableEq

/-- Variables with their bytes, the first of each name. -/
abbrev Environment := List (String × Text.Bytes)

namespace Environment

/-- A variable that is set to a text. -/
def text? (env : Environment) (name : String) : Option String :=
  (env.find? fun v => v.1 = name).bind fun v => Text.Utf8.decode? v.2

end Environment

namespace Settings

def defaultPoll : String := "1m"

def defaultSlowPoll : String := "5m"

def standard : Settings where
  pollInterval := Span.ofSeconds 60
  slowPollInterval := Span.ofSeconds 300
  maxFailures := 5
  workers := 2
  maxRetries := 5
  backoffStartMillis := 5
  backoffMaxMillis := 1000000
  watchRestartSeconds := 5
  metricsPort := 5000
  logLevel := "INFO"
  logFormat := "text"
  clientId := none
  warnings := []

instance : Inhabited Settings := ⟨standard⟩

/-- A number below a bound, or the default. -/
def readBelow (env : Environment) (name : String) (bound default : Nat) : Nat :=
  match (env.text? name).map fun s => Text.readNat bound s.toList with
  | some (.ok n) => n
  | _ => default

def readText (env : Environment) (name default : String) : String := (env.text? name).getD default

/-- An interval, and the warning if the variable is not one. -/
def readInterval (env : Environment) (name default : String) : Span × List String :=
  let fallback := match Span.parse default with
    | .ok s => s
    | .error _ => Span.ofSeconds 60
  match env.text? name with
  | none => (fallback, [])
  | some raw =>
    match Span.parse raw with
    | .ok s => (s, [])
    | .error e =>
      (fallback,
        ["Invalid " ++ name ++ " '" ++ raw ++ "': " ++ e.message ++ ", using default '" ++
          default ++ "'"])

def atLeastOne (n : UInt64) : UInt64 := if n = 0 then 1 else n

def readClientId (env : Environment) : Option String :=
  (env.text? "AZURE_CLIENT_ID").filter fun s => !(Text.trimChars s.toList).isEmpty

def ofEnvironment (env : Environment) : Settings :=
  let poll := readInterval env "AZURE_POLL_FREQUENCY" defaultPoll
  let slow := readInterval env "AZURE_POLL_FREQUENCY_SLOW" defaultSlowPoll
  { pollInterval := poll.1
    slowPollInterval := slow.1
    maxFailures := .ofNat (readBelow env "MAX_FAILURES_BEFORE_SLOWING_DOWN" UInt32.size 5)
    workers := atLeastOne (.ofNat (readBelow env "WORKERS" UInt64.size 2))
    maxRetries := .ofNat (readBelow env "MAX_RETRIES" UInt32.size 5)
    backoffStartMillis := .ofNat (readBelow env "BACKOFF_START_MS" UInt64.size 5)
    backoffMaxMillis := .ofNat (readBelow env "BACKOFF_MAX_MS" UInt64.size 1000000)
    watchRestartSeconds := .ofNat (readBelow env "WATCH_RESTART_DELAY_SECS" UInt64.size 5)
    metricsPort := .ofNat (readBelow env "METRICS_PORT" UInt16.size 5000)
    logLevel := readText env "LOG_LEVEL" "INFO"
    logFormat := readText env "LOG_FORMAT" "text"
    clientId := readClientId env
    warnings := poll.2 ++ slow.2 }

def backoffStart (s : Settings) : Span := Span.ofMillis s.backoffStartMillis

def backoffMax (s : Settings) : Span := Span.ofMillis s.backoffMaxMillis

def watchRestartDelay (s : Settings) : Span := Span.ofSeconds s.watchRestartSeconds

def backoff (s : Settings) : Backoff := Backoff.make s.backoffStart s.backoffMax

end Settings

end SecretSync
