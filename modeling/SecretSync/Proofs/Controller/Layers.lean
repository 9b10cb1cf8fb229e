import SecretSync.Proofs.Controller.Arguments
import SecretSync.Proofs.Time.Notation

namespace SecretSync

open CommandLine (Line value?_of_item value?_of_absent)
open Text (SpellsNat readNat_eq_ok)

namespace Setting

def name : Setting → String
  | .poll => "AZURE_POLL_FREQUENCY"
  | .slowPoll => "AZURE_POLL_FREQUENCY_SLOW"
  | .maxFailures => "MAX_FAILURES_BEFORE_SLOWING_DOWN"
  | .workers => "WORKERS"
  | .maxRetries => "MAX_RETRIES"
  | .backoffStart => "BACKOFF_START_MS"
  | .backoffMax => "BACKOFF_MAX_MS"
  | .watchRestart => "WATCH_RESTART_DELAY_SECS"
  | .metricsPort => "METRICS_PORT"
  | .logLevel => "LOG_LEVEL"
  | .logFormat => "LOG_FORMAT"
  | .clientId => "AZURE_CLIENT_ID"

def Reads : (f : Setting) → String → f.Value → Prop
  | .poll, text, d => Span.parse text = .ok d
  | .slowPoll, text, d => Span.parse text = .ok d
  | .maxFailures, text, (n : UInt32) => SpellsNat text n.toNat
  | .workers, text, (n : UInt64) => SpellsNat text n.toNat
  | .maxRetries, text, (n : UInt32) => SpellsNat text n.toNat
  | .backoffStart, text, (n : UInt64) => SpellsNat text n.toNat
  | .backoffMax, text, (n : UInt64) => SpellsNat text n.toNat
  | .watchRestart, text, (n : UInt64) => SpellsNat text n.toNat
  | .metricsPort, text, (n : UInt16) => SpellsNat text n.toNat
  | .logLevel, text, v => v = text
  | .logFormat, text, v => v = text
  | .clientId, text, v => v = some text ∧ Text.trimChars text.toList ≠ []

/-- What becomes of a value that was read: there is always a worker. -/
def adjust : (f : Setting) → f.Value → f.Value
  | .workers, (n : UInt64) => if n = 0 then (1 : UInt64) else n
  | .poll, v | .slowPoll, v | .maxFailures, v | .maxRetries, v | .backoffStart, v | .backoffMax, v
  | .watchRestart, v | .metricsPort, v | .logLevel, v | .logFormat, v | .clientId, v => v

end Setting

namespace Settings

variable {env env' : Environment} {f : Setting} {text : String} {s s' : Settings} {fl : Flags}

def get (s : Settings) : (f : Setting) → f.Value
  | .poll => s.pollInterval
  | .slowPoll => s.slowPollInterval
  | .maxFailures => s.maxFailures
  | .workers => s.workers
  | .maxRetries => s.maxRetries
  | .backoffStart => s.backoffStartMillis
  | .backoffMax => s.backoffMaxMillis
  | .watchRestart => s.watchRestartSeconds
  | .metricsPort => s.metricsPort
  | .logLevel => s.logLevel
  | .logFormat => s.logFormat
  | .clientId => s.clientId

section Variables

variable {name : String} {bound default n : Nat}

theorem readBelow_of_spelled (pos : 0 < bound) (found : env.text? name = some text)
    (spelled : SpellsNat text n) (below : n < bound) : readBelow env name bound default = n := by
  have read : Text.readNat bound text.toList = .ok n := (readNat_eq_ok pos).2 ⟨spelled, below⟩
  simp [readBelow, found, read]

theorem readBelow_of_none (pos : 0 < bound)
    (none : ∀ text n, env.text? name = some text → SpellsNat text n → ¬ n < bound) :
    readBelow env name bound default = default := by
  unfold readBelow
  split
  · rename_i n read
    obtain ⟨text, found, read⟩ := Option.map_eq_some_iff.1 read
    obtain ⟨spelled, below⟩ := (readNat_eq_ok pos).1 read
    exact absurd below (none text n found spelled)
  · rfl

theorem readInterval_of_parsed {default : String} {d : Span} (found : env.text? name = some text)
    (parsed : Span.parse text = .ok d) : (readInterval env name default).1 = d := by
  simp [readInterval, found, parsed]

theorem readInterval_of_none {default : String} {d : Span} (standard : Span.parse default = .ok d)
    (none : ∀ text d, env.text? name = some text → Span.parse text ≠ .ok d) :
    (readInterval env name default).1 = d := by
  simp only [readInterval, standard]
  cases found : env.text? name with
  | none => rfl
  | some raw =>
    cases parsed : Span.parse raw with
    | ok d => exact absurd parsed (none raw d found)
    | error e => simp [parsed]

theorem get_of_reads {v : f.Value} (found : env.text? f.name = some text) (reads : f.Reads text v) :
    (ofEnvironment env).get f = f.adjust v := by
  cases f with
  | poll | slowPoll => exact readInterval_of_parsed found reads
  | maxFailures | maxRetries =>
    exact (congrArg UInt32.ofNat (readBelow_of_spelled (by decide) found reads
      (UInt32.toNat_lt_size v))).trans UInt32.ofNat_toNat
  | workers =>
    exact congrArg atLeastOne ((congrArg UInt64.ofNat (readBelow_of_spelled (by decide) found reads
      (UInt64.toNat_lt_size v))).trans UInt64.ofNat_toNat)
  | backoffStart | backoffMax | watchRestart =>
    exact (congrArg UInt64.ofNat (readBelow_of_spelled (by decide) found reads
      (UInt64.toNat_lt_size v))).trans UInt64.ofNat_toNat
  | metricsPort =>
    exact (congrArg UInt16.ofNat (readBelow_of_spelled (by decide) found reads
      (UInt16.toNat_lt_size v))).trans UInt16.ofNat_toNat
  | logLevel | logFormat =>
    cases reads
    exact congrArg (Option.getD · _) found
  | clientId =>
    obtain ⟨rfl, solid⟩ := reads
    exact (congrArg (Option.filter _) found).trans (by simp [solid, Setting.adjust])

theorem get_of_none (none : ∀ text v, env.text? f.name = some text → ¬ f.Reads text v) :
    (ofEnvironment env).get f = standard.get f := by
  cases f with
  | poll | slowPoll => exact readInterval_of_none (by decide +kernel) none
  | maxFailures | maxRetries =>
    refine congrArg UInt32.ofNat
      (readBelow_of_none (by decide) fun text n found spelled below => ?_)
    exact none text (UInt32.ofNat n) found (by rwa [Setting.Reads, UInt32.toNat_ofNat_of_lt' below])
  | workers =>
    refine congrArg (atLeastOne ∘ UInt64.ofNat)
      (readBelow_of_none (by decide) fun text n found spelled below => ?_)
    exact none text (UInt64.ofNat n) found (by rwa [Setting.Reads, UInt64.toNat_ofNat_of_lt' below])
  | backoffStart | backoffMax | watchRestart =>
    refine congrArg UInt64.ofNat
      (readBelow_of_none (by decide) fun text n found spelled below => ?_)
    exact none text (UInt64.ofNat n) found (by rwa [Setting.Reads, UInt64.toNat_ofNat_of_lt' below])
  | metricsPort =>
    refine congrArg UInt16.ofNat
      (readBelow_of_none (by decide) fun text n found spelled below => ?_)
    exact none text (UInt16.ofNat n) found (by rwa [Setting.Reads, UInt16.toNat_ofNat_of_lt' below])
  | logLevel | logFormat =>
    have unset : env.text? _ = .none := Option.eq_none_iff_forall_ne_some.2 fun text found =>
      none text text found rfl
    exact congrArg (Option.getD · _) unset
  | clientId =>
    refine Option.filter_eq_none_iff.2 fun text found => ?_
    have blank : ¬ Text.trimChars text.toList ≠ [] := fun solid =>
      none text (some text) found ⟨rfl, solid⟩
    simpa using blank

theorem get_congr (same : env'.text? f.name = env.text? f.name) :
    (ofEnvironment env').get f = (ofEnvironment env).get f := by
  by_cases reads : ∃ text v, env.text? f.name = some text ∧ f.Reads text v
  · obtain ⟨text, v, found, reads⟩ := reads
    rw [get_of_reads found reads, get_of_reads (same.trans found) reads]
  · have none : ∀ text v, env.text? f.name = some text → ¬ f.Reads text v :=
      fun text v found here => reads ⟨text, v, found, here⟩
    rw [get_of_none none, get_of_none (same ▸ none)]

end Variables

section Complaints

variable {name default : String}

/-- The complaint about a variable that is set to a text but not to an interval. -/
def complaint? (env : Environment) (name default : String) : Option String :=
  match env.text? name with
  | none => none
  | some raw =>
    match Span.parse raw with
    | .ok _ => none
    | .error e =>
      some ("Invalid " ++ name ++ " '" ++ raw ++ "': " ++ e.message ++ ", using default '" ++
        default ++ "'")

theorem readInterval_complaint :
    (readInterval env name default).2 = (complaint? env name default).toList := by
  unfold readInterval complaint?
  cases env.text? name with
  | none => rfl
  | some raw => cases parsed : Span.parse raw <;> simp [parsed]

theorem warnings_ofEnvironment : (ofEnvironment env).warnings =
    (complaint? env "AZURE_POLL_FREQUENCY" "1m").toList ++
      (complaint? env "AZURE_POLL_FREQUENCY_SLOW" "5m").toList := by
  simp only [ofEnvironment, readInterval_complaint, defaultPoll, defaultSlowPoll]

theorem complaint?_congr (same : env'.text? name = env.text? name) :
    complaint? env' name default = complaint? env name default := by
  rw [complaint?, same, complaint?]

end Complaints

section Overriding

variable {flag : Flag}

theorem get_override_of_given {v : flag.setting.Value} (given : fl.value? flag = some v) :
    (s.override fl).get flag.setting = flag.setting.adjust v := by
  cases flag with
  | workers => exact congrArg (fun o => (Option.map atLeastOne o).getD s.workers) given
  | poll => exact congrArg (Option.getD · s.pollInterval) given
  | slowPoll => exact congrArg (Option.getD · s.slowPollInterval) given
  | metricsPort => exact congrArg (Option.getD · s.metricsPort) given

theorem get_override_of_absent (absent : ∀ flag, flag.setting = f → fl.value? flag = none) :
    (s.override fl).get f = s.get f := by
  cases f with
  | workers =>
    exact congrArg (fun o => (Option.map atLeastOne o).getD s.workers) (absent .workers rfl)
  | poll => exact congrArg (Option.getD · s.pollInterval) (absent .poll rfl)
  | slowPoll => exact congrArg (Option.getD · s.slowPollInterval) (absent .slowPoll rfl)
  | metricsPort => exact congrArg (Option.getD · s.metricsPort) (absent .metricsPort rfl)
  | _ => rfl

theorem get_override_congr (same : s'.get f = s.get f) :
    (s'.override fl).get f = (s.override fl).get f := by
  cases f with
  | workers => exact congrArg (Option.getD (fl.workers.map atLeastOne)) same
  | poll => exact congrArg (Option.getD fl.poll) same
  | slowPoll => exact congrArg (Option.getD fl.slowPoll) same
  | metricsPort => exact congrArg (Option.getD fl.metricsPort) same
  | _ => exact same

end Overriding

section Loading

variable {args : List String} {line : Line} {flag : Flag}

theorem load_eq_ok : load args env = .ok s ↔
    ∃ fl, CommandLine.parse args = .ok fl ∧ (ofEnvironment env).override fl = s := by
  unfold load
  cases CommandLine.parse args <;> simp [Except.map]

/-- How settings follow from a command line and an environment. -/
structure Layered (line : Line) (env : Environment) (s : Settings) : Prop where
  given : ∀ i ∈ line.items, ∀ v, i.flag.Reads i.value v →
    s.get i.flag.setting = i.flag.setting.adjust v
  set : ∀ f, (∀ i ∈ line.items, i.flag.setting ≠ f) →
    ∀ text v, env.text? f.name = some text → f.Reads text v → s.get f = f.adjust v
  unset : ∀ f, (∀ i ∈ line.items, i.flag.setting ≠ f) →
    (∀ text v, env.text? f.name = some text → ¬ f.Reads text v) → s.get f = standard.get f

theorem layered_of_load (proper : line.Proper) (loaded : load line.arguments env = .ok s) :
    Layered line env s := by
  obtain ⟨fl, parsed, rfl⟩ := load_eq_ok.1 loaded
  have absent {f : Setting} (others : ∀ i ∈ line.items, i.flag.setting ≠ f) :
      ((ofEnvironment env).override fl).get f = (ofEnvironment env).get f :=
    get_override_of_absent fun flag same => value?_of_absent proper parsed fun i inside here =>
      others i inside (by rw [here, same])
  exact
    { given := fun i inside v reads =>
        get_override_of_given (value?_of_item proper parsed inside reads)
      set := fun f others text v found reads => by
        rw [absent others, get_of_reads found reads]
      unset := fun f others none => by rw [absent others, get_of_none none] }

theorem Layered.induction (layered : Layered line env s) (proper : line.Proper) (flag : Flag)
    {P : flag.setting.Value → Prop}
    (given : ∀ text v, flag.Reads text v → P (flag.setting.adjust v))
    (set : ∀ text v, flag.setting.Reads text v → P (flag.setting.adjust v))
    (standard : P (standard.get flag.setting)) : P (s.get flag.setting) := by
  by_cases item : ∃ i ∈ line.items, i.flag = flag
  · obtain ⟨i, inside, rfl⟩ := item
    obtain ⟨v, reads⟩ := proper.reads i inside
    rw [layered.given i inside v reads]
    exact given i.value v reads
  · have others : ∀ i ∈ line.items, i.flag.setting ≠ flag.setting := fun i inside same =>
      item ⟨i, inside, Flag.setting_injective same⟩
    by_cases reads : ∃ text v, env.text? flag.setting.name = some text ∧ flag.setting.Reads text v
    · obtain ⟨text, v, found, reads⟩ := reads
      rw [layered.set _ others text v found reads]
      exact set text v reads
    · have none : ∀ text v, env.text? flag.setting.name = some text → ¬ flag.setting.Reads text v :=
        fun text v found here => reads ⟨text, v, found, here⟩
      rwa [layered.unset _ others none]

theorem one_le_adjust (n : UInt64) : (1 : UInt64) ≤ Setting.workers.adjust n := by
  change 1 ≤ if n = 0 then 1 else n
  split_ifs with zero
  · exact UInt64.le_refl 1
  · rw [UInt64.le_iff_toNat_le]
    exact Nat.pos_of_ne_zero fun none => zero (UInt64.toNat.inj none)

theorem second_le_of_parse {text : String} {d : Span} (parsed : Span.parse text = .ok d) :
    1000000000 ≤ d.nanos := by
  obtain ⟨n, u, -, pos, -, nanos⟩ := Span.parse_eq_ok_iff.1 parsed
  have := Nat.mul_pos pos u.seconds_pos
  omega

/-- Settings are loaded from the command lines that are proper, and no others. Each comes from its
flag, else from its variable, else from its default; there is at least one worker, and an interval
is a second or longer. Whatever the flags are, the warnings are about the variables that should be
intervals, and a variable has an effect on its own setting and warning only. -/
theorem settings_come_in_layers (args : List String) (env : Environment) :
    ((∃ s, load args env = .ok s) ↔ ∃ line : Line, line.Proper ∧ line.arguments = args) ∧
    ∀ s, load args env = .ok s →
      (∀ line : Line, line.Proper → line.arguments = args → Layered line env s) ∧
      1 ≤ s.workers ∧ 1000000000 ≤ s.pollInterval.nanos ∧ 1000000000 ≤ s.slowPollInterval.nanos ∧
      s.warnings = (complaint? env "AZURE_POLL_FREQUENCY" "1m").toList ++
        (complaint? env "AZURE_POLL_FREQUENCY_SLOW" "5m").toList ∧
      ∀ env' name s', (∀ other, other ≠ name → env'.text? other = env.text? other) →
        load args env' = .ok s' →
          (∀ f : Setting, f.name ≠ name → s'.get f = s.get f) ∧
          ∀ other default, other ≠ name →
            complaint? env' other default = complaint? env other default := by
  have accepted : (∃ s, load args env = .ok s) ↔
      ∃ line : Line, line.Proper ∧ line.arguments = args := by
    rw [← CommandLine.accepted_iff]
    simp only [load_eq_ok]
    exact ⟨fun ⟨s, fl, parsed, _⟩ => ⟨fl, parsed⟩, fun ⟨fl, parsed⟩ => ⟨_, fl, parsed, rfl⟩⟩
  refine ⟨accepted, fun s loaded => ?_⟩
  obtain ⟨line, proper, rfl⟩ := accepted.1 ⟨s, loaded⟩
  have layered := layered_of_load proper loaded
  refine ⟨?_, ?_, ?_, ?_, ?_, ?_⟩
  · rintro line' proper' same
    exact layered_of_load proper' (same ▸ loaded)
  · exact layered.induction proper .workers (P := fun n : UInt64 => 1 ≤ n)
      (fun _ v _ => one_le_adjust v) (fun _ v _ => one_le_adjust v)
      (show standard.workers ≥ 1 by decide)
  · exact layered.induction proper .poll (P := fun d : Span => 1000000000 ≤ d.nanos)
      (fun _ _ => second_le_of_parse) (fun _ _ => second_le_of_parse) (by decide)
  · exact layered.induction proper .slowPoll (P := fun d : Span => 1000000000 ≤ d.nanos)
      (fun _ _ => second_le_of_parse) (fun _ _ => second_le_of_parse) (by decide)
  · obtain ⟨fl, -, rfl⟩ := load_eq_ok.1 loaded
    exact warnings_ofEnvironment
  · intro env' name s' same loaded'
    obtain ⟨fl, parsed, rfl⟩ := load_eq_ok.1 loaded
    obtain ⟨fl', parsed', rfl⟩ := load_eq_ok.1 loaded'
    cases parsed.symm.trans parsed'
    exact ⟨fun f other => get_override_congr (get_congr (same _ other)),
      fun other default ne => complaint?_congr (same other ne)⟩

/-- A number may read for one setting and not for another. -/
example : (load ["--workers", "0"] [("METRICS_PORT", Text.Utf8.encode "70000"),
    ("MAX_RETRIES", Text.Utf8.encode "+70000")]).toOption.map
      (fun s => (s.workers, s.metricsPort, s.maxRetries)) = some (1, 5000, 70000) := by
  decide +kernel

end Loading

end Settings

end SecretSync
