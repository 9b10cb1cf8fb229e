import SecretSync.Controller.CommandLine
import SecretSync.Proofs.Text.Decimal
import Mathlib.Data.List.Basic
import Mathlib.Data.List.Nodup

namespace SecretSync

/-- What can be set about a controller, one for each variable of the environment. -/
inductive Setting where
  | poll
  | slowPoll
  | maxFailures
  | workers
  | maxRetries
  | backoffStart
  | backoffMax
  | watchRestart
  | metricsPort
  | logLevel
  | logFormat
  | clientId
  deriving DecidableEq

def Setting.Value : Setting → Type
  | .poll | .slowPoll => Span
  | .maxFailures | .maxRetries => UInt32
  | .workers | .backoffStart | .backoffMax | .watchRestart => UInt64
  | .metricsPort => UInt16
  | .logLevel | .logFormat => String
  | .clientId => Option String

namespace Flag

open Text (SpellsNat SpellsMinus)

def setting : Flag → Setting
  | .workers => .workers
  | .poll => .poll
  | .slowPoll => .slowPoll
  | .metricsPort => .metricsPort

def name : Flag → String
  | .workers => "workers"
  | .poll => "azure-poll-frequency"
  | .slowPoll => "azure-poll-frequency-slow"
  | .metricsPort => "metrics-port"

/-- A text is read as a value for a flag. A port may also be a zero with a minus sign. -/
def Reads : (flag : Flag) → String → flag.setting.Value → Prop
  | .workers, text, (n : UInt64) => SpellsNat text n.toNat
  | .poll, text, d => Span.parse text = .ok d
  | .slowPoll, text, d => Span.parse text = .ok d
  | .metricsPort, text, (n : UInt16) => SpellsNat text n.toNat ∨ SpellsMinus text 0 ∧ n = 0

variable {flag : Flag}

theorem setting_injective {other : Flag} (same : flag.setting = other.setting) : flag = other := by
  cases flag <;> cases other <;> first | rfl | exact nomatch same

theorem ofName?_name (flag : Flag) : ofName? flag.name = some flag := by
  cases flag <;> rfl

theorem eq_name_of_ofName? {n : String} (known : ofName? n = some flag) : n = flag.name := by
  unfold ofName? at known
  split_ifs at known <;> cases known <;> assumption

theorem name_ascii (flag : Flag) : '=' ∉ flag.name.toList ∧ flag.name ≠ "" := by
  cases flag <;> decide

end Flag

namespace Flags

open Text (readNat_eq_ok readInt64_eq_ok)

variable {fl fl' : Flags} {flag : Flag} {text : String}

def value? (fl : Flags) : (flag : Flag) → Option flag.setting.Value
  | .workers => fl.workers
  | .poll => fl.poll
  | .slowPoll => fl.slowPoll
  | .metricsPort => fl.metricsPort

def put (fl : Flags) : (flag : Flag) → flag.setting.Value → Flags
  | .workers, n => { fl with workers := some n }
  | .poll, d => { fl with poll := some d }
  | .slowPoll, d => { fl with slowPoll := some d }
  | .metricsPort, n => { fl with metricsPort := some n }

theorem given_eq (fl : Flags) (flag : Flag) : fl.given flag = (fl.value? flag).isSome := by
  cases flag <;> rfl

theorem value?_none (flag : Flag) : none.value? flag = .none := by
  cases flag <;> rfl

@[simp] theorem value?_put (fl : Flags) (flag : Flag) (v : flag.setting.Value) :
    (fl.put flag v).value? flag = some v := by
  cases flag <;> rfl

theorem value?_put_of_ne {other : Flag} (ne : other ≠ flag) (fl : Flags) (v : flag.setting.Value) :
    (fl.put flag v).value? other = fl.value? other := by
  cases flag <;> cases other <;> first | rfl | exact absurd rfl ne

theorem read_workers (fl : Flags) (text : String) : fl.read .workers text = some fl' ↔
    ∃ n : UInt64, Text.SpellsNat text n.toNat ∧ fl.put .workers n = fl' := by
  have read (n : Nat) : Text.readNat UInt64.size text.toList = .ok n ↔
      Text.SpellsNat text n ∧ n < UInt64.size := readNat_eq_ok (by decide)
  cases found : Text.readNat UInt64.size text.toList with
  | ok n =>
    obtain ⟨spelled, below⟩ := (read n).1 found
    simp only [Flags.read, found]
    constructor
    · rintro ⟨⟩
      exact ⟨.ofNat n, by rwa [UInt64.toNat_ofNat_of_lt' below], rfl⟩
    · rintro ⟨m, spelled', rfl⟩
      cases found.symm.trans ((read m.toNat).2 ⟨spelled', m.toNat_lt_size⟩)
      rw [UInt64.ofNat_toNat]
      rfl
  | error e =>
    simp only [Flags.read, found]
    constructor
    · nofun
    · rintro ⟨m, spelled, -⟩
      exact nomatch found.symm.trans ((read m.toNat).2 ⟨spelled, m.toNat_lt_size⟩)

theorem readInt64_port (text : String) (n : UInt16) :
    Text.readInt64 text.toList = .ok (n.toNat : Int) ↔ Flag.metricsPort.Reads text n := by
  have below : n.toNat < 65536 := n.toNat_lt_size
  rw [readInt64_eq_ok]
  constructor
  · rintro (⟨m, spelled, -, same⟩ | ⟨m, spelled, -, same⟩)
    · obtain rfl : n.toNat = m := by omega
      exact .inl spelled
    · obtain rfl : m = 0 := by omega
      exact .inr ⟨spelled, UInt16.toNat.inj (by simpa using same)⟩
  · rintro (spelled | ⟨spelled, rfl⟩)
    · exact .inl ⟨n.toNat, spelled, Nat.lt_trans below (by decide), rfl⟩
    · exact .inr ⟨0, spelled, Nat.zero_le _, rfl⟩

theorem read_metricsPort (fl : Flags) (text : String) : fl.read .metricsPort text = some fl' ↔
    ∃ n : UInt16, Flag.metricsPort.Reads text n ∧ fl.put .metricsPort n = fl' := by
  have below (n : UInt16) : n.toNat < 65536 := n.toNat_lt_size
  cases found : Text.readInt64 text.toList with
  | ok i =>
    simp only [Flags.read, found, Option.ite_none_right_eq_some]
    constructor
    · rintro ⟨⟨pos, small⟩, ⟨⟩⟩
      obtain ⟨k, rfl⟩ := Int.eq_ofNat_of_zero_le pos
      refine ⟨.ofNat k, (readInt64_port text _).1 ?_, rfl⟩
      rw [found, UInt16.toNat_ofNat_of_lt' (Int.ofNat_lt.1 small)]
    · rintro ⟨n, reads, rfl⟩
      cases found.symm.trans ((readInt64_port text n).2 reads)
      refine ⟨⟨Int.natCast_nonneg _, Int.ofNat_lt.2 (below n)⟩, ?_⟩
      rw [Int.toNat_natCast, UInt16.ofNat_toNat]
      rfl
  | error e =>
    simp only [Flags.read, found]
    constructor
    · nofun
    · rintro ⟨n, reads, -⟩
      exact nomatch found.symm.trans ((readInt64_port text n).2 reads)

theorem read_eq_some :
    fl.read flag text = some fl' ↔ ∃ v, flag.Reads text v ∧ fl.put flag v = fl' := by
  cases flag with
  | workers => exact read_workers fl text
  | metricsPort => exact read_metricsPort fl text
  | poll | slowPoll =>
    cases parsed : Span.parse text with
    | ok d =>
      simp only [Flags.read, parsed]
      constructor
      · rintro ⟨⟩
        exact ⟨d, parsed, rfl⟩
      · rintro ⟨v, reads, rfl⟩
        cases parsed.symm.trans reads
        rfl
    | error e =>
      simp only [Flags.read, parsed]
      constructor
      · nofun
      · exact fun ⟨v, reads, _⟩ => nomatch parsed.symm.trans reads

theorem value_unique {v w : flag.setting.Value} (reads : flag.Reads text v)
    (reads' : flag.Reads text w) : v = w := by
  have one : none.read flag text = some (none.put flag v) := read_eq_some.2 ⟨v, reads, rfl⟩
  have two : none.read flag text = some (none.put flag w) := read_eq_some.2 ⟨w, reads', rfl⟩
  have same : (none.put flag v).value? flag = (none.put flag w).value? flag := by
    rw [Option.some.inj (one.symm.trans two)]
  simpa using same

theorem assign_eq_ok : fl.assign flag text = .ok fl' ↔
    fl.value? flag = .none ∧ ∃ v, flag.Reads text v ∧ fl.put flag v = fl' := by
  rw [← read_eq_some, assign, given_eq]
  cases fl.value? flag with
  | some v => simp
  | none => cases fl.read flag text <;> simp

end Flags

namespace CommandLine

open Flags (assign_eq_ok value?_put value?_put_of_ne)

variable {fl fl' : Flags} {arg value : String} {rest : List String}

/-- A flag with a value that is attached to it or is an argument of its own. -/
structure Item where
  flag : Flag
  value : String
  attached : Bool

def Item.arguments (i : Item) : List String :=
  if i.attached then ["--" ++ i.flag.name ++ "=" ++ i.value] else ["--" ++ i.flag.name, i.value]

/-- An argument that does not begin with a minus sign, or is nothing else. -/
def Plain (arg : String) : Prop := arg = "-" ∨ arg.toList.head? ≠ some '-'

/-- A command line is made of items, and may say that the flags end. -/
structure Line where
  items : List Item
  ended : Bool

def Line.arguments (line : Line) : List String :=
  line.items.flatMap Item.arguments ++ if line.ended then ["--"] else []

structure Line.Proper (line : Line) : Prop where
  once : (line.items.map Item.flag).Nodup
  plain : ∀ i ∈ line.items, i.attached = false → Plain i.value
  reads : ∀ i ∈ line.items, ∃ v, i.flag.Reads i.value v

section Gathering

def gather (fl : Flags) (items : List Item) : Except ArgumentError Flags :=
  items.foldlM (fun fl i => fl.assign i.flag i.value) fl

variable {i : Item} {items : List Item}

theorem bind_eq_ok {x : Except ArgumentError α} {next : α → Except ArgumentError β} {b : β} :
    x >>= next = .ok b ↔ ∃ a, x = .ok a ∧ next a = .ok b := by
  cases x with
  | error e => exact ⟨nofun, fun ⟨_, found, _⟩ => nomatch found⟩
  | ok a => exact ⟨fun read => ⟨a, rfl, read⟩, fun ⟨_, found, read⟩ => by cases found; exact read⟩

theorem gather_cons : gather fl (i :: items) = .ok fl' ↔
    ∃ next, fl.assign i.flag i.value = .ok next ∧ gather next items = .ok fl' := by
  rw [gather, List.foldlM_cons, bind_eq_ok]
  rfl

/-- What items show is what their values read as; for other flags nothing changes. -/
theorem value?_of_gather (found : gather fl items = .ok fl') :
    (items.map Item.flag).Nodup ∧
      (∀ i ∈ items, fl.value? i.flag = none ∧
        ∃ v, i.flag.Reads i.value v ∧ fl'.value? i.flag = some v) ∧
      ∀ flag, (∀ i ∈ items, i.flag ≠ flag) → fl'.value? flag = fl.value? flag := by
  induction items generalizing fl with
  | nil =>
    cases found
    simp
  | cons i items ih =>
    obtain ⟨next, assigned, found⟩ := gather_cons.1 found
    obtain ⟨fresh, v, reads, rfl⟩ := assign_eq_ok.1 assigned
    obtain ⟨once, shown, kept⟩ := ih found
    have others : ∀ j ∈ items, j.flag ≠ i.flag := by
      intro j inside same
      have missing := (shown j inside).1
      rw [same, value?_put] at missing
      nomatch missing
    refine ⟨List.nodup_cons.2 ⟨by simpa using others, once⟩, ?_, ?_⟩
    · rintro j inside
      rcases List.mem_cons.1 inside with rfl | inside
      · exact ⟨fresh, v, reads, by rw [kept _ others, value?_put]⟩
      · rw [← value?_put_of_ne (others j inside) fl v]
        exact shown j inside
    · intro flag absent
      rw [List.forall_mem_cons] at absent
      rw [kept flag absent.2, value?_put_of_ne absent.1.symm]

theorem gather_ok (once : (items.map Item.flag).Nodup)
    (reads : ∀ i ∈ items, fl.value? i.flag = none ∧ ∃ v, i.flag.Reads i.value v) :
    ∃ fl', gather fl items = .ok fl' := by
  induction items generalizing fl with
  | nil => exact ⟨fl, rfl⟩
  | cons i items ih =>
    obtain ⟨⟨fresh, v, read⟩, reads⟩ := List.forall_mem_cons.1 reads
    obtain ⟨different, once⟩ := List.nodup_cons.1 once
    have reads' : ∀ j ∈ items, (fl.put i.flag v).value? j.flag = none ∧
        ∃ v, j.flag.Reads j.value v := by
      intro j inside
      have ne : j.flag ≠ i.flag := fun same => different (List.mem_map.2 ⟨j, inside, same⟩)
      rw [value?_put_of_ne ne]
      exact reads j inside
    obtain ⟨fl', found⟩ := ih once reads'
    exact ⟨fl', gather_cons.2 ⟨_, assign_eq_ok.2 ⟨fresh, v, read, rfl⟩, found⟩⟩

end Gathering

section Shapes

theorem shape_terminator : shape arg = .terminator ↔ arg = "--" := by
  constructor
  · intro found
    unfold shape at found
    split at found
    · exact String.toList_inj.1 ‹_›
    · dsimp only at found
      split at found <;> nomatch found
    all_goals nomatch found
  · rintro rfl
    rfl

theorem shape_plain : shape arg = .plain ↔ Plain arg := by
  unfold shape Plain
  rw [← String.toList_inj]
  split
  · simp [*]
  · dsimp only
    split <;> simp [*]
  · simp [*]
  · rename_i notEnd notLong notShort
    refine iff_of_true rfl ?_
    cases cut : arg.toList with
    | nil => exact .inr nofun
    | cons c cs =>
      rw [List.head?_cons, ne_eq, Option.some.injEq]
      refine (em (c = '-')).imp ?_ id
      rintro rfl
      cases cs with
      | nil => rfl
      | cons d ds => exact absurd cut (notShort d ds)

theorem eq_of_shape_long {name : String} {given : Option String}
    (found : shape arg = .long name given) : arg = "--" ++ name ++ given.elim "" ("=" ++ ·) := by
  unfold shape at found
  split at found
  · nomatch found
  · rename_i rest ends cut
    have whole := List.takeWhile_append_dropWhile (p := (· ≠ '=')) (l := rest)
    rw [← String.toList_inj]
    dsimp only at found
    split at found <;> rename_i tail
    · cases found
      rw [tail] at whole
      simpa [cut] using whole.symm
    · rename_i c value
      cases found
      rw [tail] at whole
      have sign : c = '=' := by
        have stop := List.head?_dropWhile_not (· ≠ '=') rest
        rw [tail] at stop
        simpa using stop
      subst sign
      simpa [cut] using whole.symm
  all_goals nomatch found

theorem shape_long (flag : Flag) (given : Option String) :
    shape ("--" ++ flag.name ++ given.elim "" ("=" ++ ·)) = .long flag.name given := by
  obtain ⟨bare, filled⟩ := flag.name_ascii
  have unsigned : ∀ c ∈ flag.name.toList, decide (c ≠ '=') = true := fun c inside =>
    decide_eq_true fun same => bare (same ▸ inside)
  have cut : ("--" ++ flag.name ++ given.elim "" ("=" ++ ·)).toList =
      '-' :: '-' :: (flag.name.toList ++ given.elim [] ('=' :: ·.toList)) := by
    cases given <;> simp
  unfold shape
  rw [cut]
  split
  · rename_i ends
    simp [filled] at ends
  · rename_i rest _ same
    obtain rfl := (List.cons.inj (List.cons.inj same).2).2
    dsimp only
    rw [List.takeWhile_append_of_pos unsigned, List.dropWhile_append_of_pos unsigned]
    cases given <;> simp
  · rename_i notLong same
    cases same
    exact (notLong rfl).elim
  · rename_i notShort
    exact absurd rfl (notShort _ _)

end Shapes

section Finishing

def finish (s : State) (args : List String) : Except ArgumentError Flags :=
  args.foldlM step s >>= settle

/-- A state in which every value has been looked at. -/
def State.at (fl : Flags) : State := ⟨fl, none, false⟩

variable {s : State} {flag : Flag} {args : List String} {line : Line}

theorem finish_cons : finish s (arg :: args) = .ok fl' ↔
    ∃ next, step s arg = .ok next ∧ finish next args = .ok fl' := by
  simp only [finish, List.foldlM_cons, bind_eq_ok]
  exact ⟨fun ⟨t, ⟨next, stepped, rest⟩, last⟩ => ⟨next, stepped, t, rest, last⟩,
    fun ⟨next, stepped, t, rest, last⟩ => ⟨t, ⟨next, stepped, rest⟩, last⟩⟩

theorem notice_ne_ok {given : Option String} {e : ArgumentError} {next : State} :
    notice s given e ≠ .ok next := by
  intro found
  unfold notice at found
  cases given with
  | some v => nomatch found
  | none =>
    obtain ⟨_, -, rest⟩ := bind_eq_ok.1 found
    nomatch rest

theorem long_eq_ok {name : String} {given : Option String} {next : State} :
    long s name given = .ok next ↔ ∃ flag fl, name = Flag.name flag ∧ settle s = .ok fl ∧
      (given.elim (.ok ⟨fl, some (flag, none), false⟩) fun v => (fl.assign flag v).map .at) =
        .ok next := by
  cases known : Flag.ofName? name with
  | none =>
    simp only [long, known]
    constructor
    · intro found
      split_ifs at found
      exacts [absurd found notice_ne_ok, absurd found notice_ne_ok]
    · rintro ⟨flag, fl, rfl, -⟩
      exact nomatch known.symm.trans flag.ofName?_name
  | some flag =>
    obtain rfl := Flag.eq_name_of_ofName? known
    simp only [long, known]
    rw [bind_eq_ok]
    constructor
    · rintro ⟨fl, settled, rest⟩
      refine ⟨flag, fl, rfl, settled, ?_⟩
      cases given <;> exact rest
    · rintro ⟨flag', fl, same, settled, rest⟩
      obtain rfl : flag = flag' := by
        rw [same, Flag.ofName?_name] at known
        exact (Option.some.inj known).symm
      refine ⟨fl, settled, ?_⟩
      cases given <;> exact rest

theorem step_eq_ok {next : State} (going : s.ended = false) :
    step s arg = .ok next ↔ arg = "--" ∧ next = { s with ended := true } ∨
      (∃ flag given, arg = "--" ++ Flag.name flag ++ given.elim "" ("=" ++ ·) ∧
        long s (Flag.name flag) given = .ok next) ∨
      ∃ flag, Plain arg ∧ s.pending = some (flag, none) ∧
        next = { s with pending := some (flag, some arg) } := by
  unfold step
  rw [going, if_neg Bool.false_ne_true]
  constructor
  · intro found
    split at found <;> rename_i form
    · exact .inl ⟨shape_terminator.1 form, (Except.ok.inj found).symm⟩
    · obtain ⟨flag, fl, rfl, -⟩ := long_eq_ok.1 found
      exact .inr (.inl ⟨flag, _, eq_of_shape_long form, found⟩)
    · exact absurd found notice_ne_ok
    · exact absurd found notice_ne_ok
    · nomatch found
    · split at found
      · rename_i flag waits
        exact .inr (.inr ⟨flag, shape_plain.1 form, waits, (Except.ok.inj found).symm⟩)
      · nomatch found
  · rintro (⟨rfl, rfl⟩ | ⟨flag, given, rfl, found⟩ | ⟨flag, plain, waits, rfl⟩)
    · rfl
    · rw [shape_long]
      exact found
    · rw [shape_plain.2 plain, waits]

theorem finish_of_ended (ended : s.ended = true) :
    finish s args = .ok fl ↔ args = [] ∧ settle s = .ok fl := by
  cases args with
  | nil => simp [finish]
  | cons arg args =>
    rw [finish_cons]
    simp [step, ended]

theorem finish_settled (going : s.ended = false) (whole : ∀ flag, s.pending ≠ some (flag, none)) :
    finish s args = .ok fl' ↔ ∃ fl, settle s = .ok fl ∧ finish (.at fl) args = .ok fl' := by
  cases args with
  | nil => simp [finish, settle, State.at]
  | cons arg args =>
    simp only [finish_cons]
    constructor
    · rintro ⟨next, stepped, rest⟩
      rcases (step_eq_ok going).1 stepped with
        ⟨rfl, rfl⟩ | ⟨flag, given, rfl, taken⟩ | ⟨flag, -, waits, -⟩
      · obtain ⟨rfl, settled⟩ := (finish_of_ended rfl).1 rest
        exact ⟨fl', settled, _, (step_eq_ok rfl).2 (.inl ⟨rfl, rfl⟩),
          (finish_of_ended rfl).2 ⟨rfl, rfl⟩⟩
      · obtain ⟨flag', fl, same, settled, taken⟩ := long_eq_ok.1 taken
        exact ⟨fl, settled, next, (step_eq_ok rfl).2 (.inr (.inl ⟨flag, given, rfl,
          long_eq_ok.2 ⟨flag', fl, same, rfl, taken⟩⟩)), rest⟩
      · exact absurd waits (whole flag)
    · rintro ⟨fl, settled, next, stepped, rest⟩
      rcases (step_eq_ok rfl).1 stepped with
        ⟨rfl, rfl⟩ | ⟨flag, given, rfl, taken⟩ | ⟨flag, -, ⟨⟩, -⟩
      · obtain ⟨rfl, same⟩ := (finish_of_ended rfl).1 rest
        cases same
        exact ⟨_, (step_eq_ok going).2 (.inl ⟨rfl, rfl⟩), (finish_of_ended rfl).2 ⟨rfl, settled⟩⟩
      · obtain ⟨flag', fl, same, ⟨⟩, taken⟩ := long_eq_ok.1 taken
        exact ⟨next, (step_eq_ok going).2 (.inr (.inl ⟨flag, given, rfl,
          long_eq_ok.2 ⟨flag', _, same, settled, taken⟩⟩)), rest⟩

theorem finish_long (fl fl' : Flags) (flag : Flag) (given : Option String) (rest : List String) :
    finish (.at fl) (("--" ++ flag.name ++ given.elim "" ("=" ++ ·)) :: rest) = .ok fl' ↔
      ∃ next, (given.elim (.ok ⟨fl, some (flag, none), false⟩) fun v =>
        (fl.assign flag v).map .at) = .ok next ∧ finish next rest = .ok fl' := by
  have taken : step (.at fl) ("--" ++ flag.name ++ given.elim "" ("=" ++ ·)) =
      given.elim (.ok ⟨fl, some (flag, none), false⟩) fun v => (fl.assign flag v).map .at := by
    simp only [step, State.at, shape_long, long, Flag.ofName?_name]
    cases given <;> rfl
  rw [finish_cons, taken]

theorem finish_value (flag : Flag) (plain : Plain value) :
    finish ⟨fl, some (flag, none), false⟩ (value :: rest) = .ok fl' ↔
      ∃ next, fl.assign flag value = .ok next ∧ finish (.at next) rest = .ok fl' := by
  have taken : step ⟨fl, some (flag, none), false⟩ value =
      .ok ⟨fl, some (flag, some value), false⟩ := by
    simp [step, shape_plain.2 plain]
  rw [finish_cons, taken]
  simp only [Except.ok.injEq, exists_eq_left']
  exact finish_settled rfl (by simp)

theorem finish_item {i : Item} (plain : i.attached = false → Plain i.value) :
    finish (.at fl) (i.arguments ++ rest) = .ok fl' ↔
      ∃ next, fl.assign i.flag i.value = .ok next ∧ finish (.at next) rest = .ok fl' := by
  obtain ⟨flag, value, attached⟩ := i
  cases attached with
  | true =>
    have one := finish_long fl fl' flag (some value) rest
    rw [Option.elim_some, ← String.append_assoc] at one
    refine one.trans ?_
    rw [Option.elim_some]
    cases fl.assign flag value <;> simp [Except.map]
  | false =>
    have one := finish_long fl fl' flag none (value :: rest)
    rw [Option.elim_none, String.append_empty] at one
    refine one.trans ?_
    simp only [Option.elim_none, Except.ok.injEq, exists_eq_left']
    exact finish_value flag (plain rfl)

theorem line_of_finish (found : finish (.at fl) args = .ok fl') :
    ∃ line : Line, (∀ i ∈ line.items, i.attached = false → Plain i.value) ∧
      line.arguments = args ∧ gather fl line.items = .ok fl' := by
  -- the induction is on the length, as an item may take two arguments at once
  obtain ⟨size, length⟩ : ∃ size, args.length = size := ⟨_, rfl⟩
  induction size using Nat.strong_induction_on generalizing args fl with
  | _ size ih =>
  have more {i : Item} (rest : List String) (shorter : rest.length < size)
      (plain : i.attached = false → Plain i.value)
      (found : finish (.at fl) (i.arguments ++ rest) = .ok fl') :
      ∃ line : Line, (∀ i ∈ line.items, i.attached = false → Plain i.value) ∧
        line.arguments = i.arguments ++ rest ∧ gather fl line.items = .ok fl' := by
    obtain ⟨next, assigned, found⟩ := (finish_item plain).1 found
    obtain ⟨line, plain', rfl, gathered⟩ := ih _ shorter found rfl
    exact ⟨⟨i :: line.items, line.ended⟩, List.forall_mem_cons.2 ⟨plain, plain'⟩,
      by simp [Line.arguments], gather_cons.2 ⟨next, assigned, gathered⟩⟩
  cases args with
  | nil => exact ⟨⟨[], false⟩, nofun, rfl, found⟩
  | cons arg args =>
    have here := found
    obtain ⟨next, stepped, rest⟩ := finish_cons.1 found
    rcases (step_eq_ok rfl).1 stepped with ⟨rfl, rfl⟩ | ⟨flag, given, rfl, taken⟩ | ⟨flag, -, ⟨⟩, -⟩
    · obtain ⟨rfl, same⟩ := (finish_of_ended rfl).1 rest
      exact ⟨⟨[], true⟩, nofun, rfl, same⟩
    cases given with
    | some value =>
      have cut : ["--" ++ flag.name ++ ("=" ++ value)] = Item.arguments ⟨flag, value, true⟩ := by
        simp [Item.arguments, String.append_assoc]
      rw [Option.elim_some, ← List.singleton_append, cut] at here ⊢
      exact more args (by simp [← length]) nofun here
    | none =>
      obtain ⟨_, ⟨⟩, rest⟩ := (finish_long fl fl' flag none args).1 here
      cases args with
      | nil => nomatch rest
      | cons value args =>
        obtain ⟨next, stepped, later⟩ := finish_cons.1 rest
        rcases (step_eq_ok rfl).1 stepped with
          ⟨rfl, rfl⟩ | ⟨flag', given, rfl, taken⟩ | ⟨flag', plain, ⟨⟩, -⟩
        · exact nomatch ((finish_of_ended rfl).1 later).2
        · obtain ⟨_, _, -, ⟨⟩, -⟩ := long_eq_ok.1 taken
        · have cut : ("--" ++ flag.name ++ "") :: value :: args =
              Item.arguments ⟨flag, value, false⟩ ++ args := by
            simp [Item.arguments]
          rw [Option.elim_none, cut] at here ⊢
          exact more args (by simp only [← length, List.length_cons]; omega) (fun _ => plain) here

theorem finish_line (plain : ∀ i ∈ line.items, i.attached = false → Plain i.value) :
    finish (.at fl) line.arguments = .ok fl' ↔ gather fl line.items = .ok fl' := by
  obtain ⟨items, ended⟩ := line
  induction items generalizing fl with
  | nil => cases ended <;> rfl
  | cons i items ih =>
    obtain ⟨plain, others⟩ := List.forall_mem_cons.1 plain
    have cut : Line.arguments ⟨i :: items, ended⟩ =
        i.arguments ++ Line.arguments ⟨items, ended⟩ := by
      simp [Line.arguments]
    rw [cut, finish_item plain, gather_cons]
    simp only [ih others]

end Finishing

section Parsing

variable {args : List String} {line : Line}

theorem parse_line (proper : line.Proper) :
    parse line.arguments = .ok fl ↔ gather Flags.none line.items = .ok fl :=
  finish_line proper.plain

/-- Command lines that are proper are accepted, and no others. -/
theorem accepted_iff :
    (∃ fl, parse args = .ok fl) ↔ ∃ line : Line, line.Proper ∧ line.arguments = args := by
  constructor
  · rintro ⟨fl, parsed⟩
    obtain ⟨line, plain, rfl, gathered⟩ :=
      line_of_finish (show finish (.at Flags.none) args = .ok fl from parsed)
    obtain ⟨once, shown, -⟩ := value?_of_gather gathered
    refine ⟨line, ⟨once, plain, fun i inside => ?_⟩, rfl⟩
    obtain ⟨-, v, reads, -⟩ := shown i inside
    exact ⟨v, reads⟩
  · rintro ⟨line, proper, rfl⟩
    obtain ⟨fl, gathered⟩ : ∃ fl, gather Flags.none line.items = .ok fl :=
      gather_ok proper.once fun i inside =>
        ⟨Flags.value?_none _, proper.reads i inside⟩
    exact ⟨fl, (parse_line proper).2 gathered⟩

variable (proper : line.Proper) (parsed : parse line.arguments = .ok fl)
include proper parsed

theorem value?_of_item {i : Item} (inside : i ∈ line.items) {v : i.flag.setting.Value}
    (reads : i.flag.Reads i.value v) : fl.value? i.flag = some v := by
  obtain ⟨-, shown, -⟩ := value?_of_gather ((parse_line proper).1 parsed)
  obtain ⟨-, w, reads', shown⟩ := shown i inside
  rw [shown, Flags.value_unique reads reads']

theorem value?_of_absent {flag : Flag} (absent : ∀ i ∈ line.items, i.flag ≠ flag) :
    fl.value? flag = none := by
  obtain ⟨-, -, kept⟩ := value?_of_gather ((parse_line proper).1 parsed)
  rw [kept flag absent, Flags.value?_none]

end Parsing

end CommandLine

end SecretSync
