import SecretSync.Controller.Settings

/-!
The command line: four flags with a value each, which take precedence over the environment. The
first problem in the order of the arguments is reported; the value that follows a flag as an
argument of its own is looked at when the next known flag comes, or at the end.
-/
namespace SecretSync

inductive Flag where
  | workers
  | poll
  | slowPoll
  | metricsPort
  deriving DecidableEq, Repr

def Flag.ofName? (name : String) : Option Flag :=
  if name = "workers" then some .workers
  else if name = "azure-poll-frequency" then some .poll
  else if name = "azure-poll-frequency-slow" then some .slowPoll
  else if name = "metrics-port" then some .metricsPort
  else none

inductive ArgumentError where
  | valueValidation
  | invalidValue
  | unknownArgument
  | argumentConflict
  | tooManyValues
  | displayHelp
  | displayVersion
  deriving DecidableEq, Repr

def ArgumentError.name : ArgumentError → String
  | .valueValidation => "ValueValidation"
  | .invalidValue => "InvalidValue"
  | .unknownArgument => "UnknownArgument"
  | .argumentConflict => "ArgumentConflict"
  | .tooManyValues => "TooManyValues"
  | .displayHelp => "DisplayHelp"
  | .displayVersion => "DisplayVersion"

structure Flags where
  workers : Option UInt64
  poll : Option Span
  slowPoll : Option Span
  metricsPort : Option UInt16
  deriving DecidableEq

namespace Flags

def none : Flags := ⟨.none, .none, .none, .none⟩

def given (f : Flags) : Flag → Bool
  | .workers => f.workers.isSome
  | .poll => f.poll.isSome
  | .slowPoll => f.slowPoll.isSome
  | .metricsPort => f.metricsPort.isSome

def read (f : Flags) (flag : Flag) (value : String) : Option Flags :=
  match flag with
  | .workers =>
    match Text.readNat UInt64.size value.toList with
    | .ok n => some { f with workers := some (.ofNat n) }
    | .error _ => .none
  | .poll =>
    match Span.parse value with
    | .ok s => some { f with poll := some s }
    | .error _ => .none
  | .slowPoll =>
    match Span.parse value with
    | .ok s => some { f with slowPoll := some s }
    | .error _ => .none
  | .metricsPort =>
    match Text.readInt64 value.toList with
    | .ok n =>
      if 0 ≤ n ∧ n < UInt16.size then some { f with metricsPort := some (.ofNat n.toNat) } else .none
    | .error _ => .none

/-- A flag may be given once, with a value that reads. -/
def assign (f : Flags) (flag : Flag) (value : String) : Except ArgumentError Flags :=
  if f.given flag then .error .argumentConflict
  else
    match f.read flag value with
    | some f => .ok f
    | .none => .error .valueValidation

end Flags

namespace CommandLine

/-- A flag may wait for its value, or for that value to be looked at. -/
structure State where
  flags : Flags
  pending : Option (Flag × Option String)
  ended : Bool

def settle (s : State) : Except ArgumentError Flags :=
  match s.pending with
  | none => .ok s.flags
  | some (_, none) => .error .invalidValue
  | some (flag, some value) => s.flags.assign flag value

/-- What an argument is: the end of the flags, a long or short flag, or something else. -/
inductive Shape where
  | terminator
  | long (name : String) (value : Option String)
  | short (letter : Char)
  | plain

def shape (arg : String) : Shape :=
  match arg.toList with
  | ['-', '-'] => .terminator
  | '-' :: '-' :: rest =>
    let name := String.ofList (rest.takeWhile (· ≠ '='))
    match rest.dropWhile (· ≠ '=') with
    | [] => .long name none
    | _ :: value => .long name (some (String.ofList value))
  | '-' :: letter :: _ => .short letter
  | _ => .plain

/-- A flag without a value of its own: a value attached to it is the first problem there is. -/
def notice (s : State) (value : Option String) (e : ArgumentError) :
    Except ArgumentError State := do
  if value.isSome then throw .tooManyValues
  let _ ← settle s
  throw e

def long (s : State) (name : String) (value : Option String) : Except ArgumentError State :=
  match Flag.ofName? name with
  | some flag => do
    let flags ← settle s
    match value with
    | some v => pure ⟨← flags.assign flag v, none, false⟩
    | none => pure ⟨flags, some (flag, none), false⟩
  | none =>
    if name = "help" then notice s value .displayHelp
    else if name = "version" then notice s value .displayVersion
    else .error .unknownArgument

def step (s : State) (arg : String) : Except ArgumentError State :=
  if s.ended then .error .unknownArgument
  else
    match shape arg with
    | .terminator => .ok { s with ended := true }
    | .long name value => long s name value
    | .short 'h' => notice s none .displayHelp
    | .short 'V' => notice s none .displayVersion
    | .short _ => .error .unknownArgument
    | .plain =>
      match s.pending with
      | some (flag, none) => .ok { s with pending := some (flag, some arg) }
      | _ => .error .unknownArgument

def parse (args : List String) : Except ArgumentError Flags := do
  settle (← args.foldlM step ⟨Flags.none, none, false⟩)

end CommandLine

namespace Settings

/-- Settings with the flags in place of what they set. -/
def override (s : Settings) (f : Flags) : Settings :=
  { s with
    workers := (f.workers.map atLeastOne).getD s.workers
    pollInterval := f.poll.getD s.pollInterval
    slowPollInterval := f.slowPoll.getD s.slowPollInterval
    metricsPort := f.metricsPort.getD s.metricsPort }

/-- The settings of a controller that is started with arguments in an environment. -/
def load (args : List String) (env : Environment) : Except ArgumentError Settings :=
  (CommandLine.parse args).map (ofEnvironment env).override

end Settings

end SecretSync
