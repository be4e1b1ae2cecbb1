import Mathlib
import PlaybackEngine.Config.Engine

set_option autoImplicit false

/-!
# Building a configuration from builder calls

A configuration is built from a sequence of builder calls (`ConfigDraft.ofSetters`). Two facts
describe every such sequence.

* Each setting of the draft holds what the last call that writes it wrote, or the builder's
  default when no call did (`get_ofSetters`). Which call writes which setting is the table
  `ConfigSetter.writes`: every call writes its own setting, and the whole tuning writes all six
  tuning values.
* Building checks the draft in a fixed order and reports the fault of the first check that fails
  (`build_eq_outcomeOf`): the state file and the cache directory are given, the five required
  capabilities are injected, and then the configuration's own checks run, paths before sizes
  before tuning. Building succeeds exactly when the draft is `Complete` (`build_ok_iff`).

`build_after_setters` states both for every sequence of calls.
-/

namespace PlaybackEngine

/-! ## Settings and the calls that write them -/

/-- The settings of a configuration draft. -/
inductive ConfigField where
  | stateFile
  | cacheDir
  | cacheQuotaBytes
  | leaveFreeBytes
  | catalog
  | decoder
  | transport
  | fileSystem
  | networkMonitor
  | callStateMonitor
  | keepAlive
  | loggerSink
  | progressInterval
  | idleShutdownDelay
  | restartThreshold
  | prefetch
  | subscriberCapacity
  | chunkSize
  deriving DecidableEq, Repr

/-- What a setting holds: a path or a size if given, whether a capability is injected, or a
tuning value. -/
def ConfigField.Value : ConfigField → Type
  | .stateFile | .cacheDir => Option String
  | .cacheQuotaBytes | .leaveFreeBytes => Option Nat
  | .catalog | .decoder | .transport | .fileSystem | .networkMonitor | .callStateMonitor
  | .keepAlive | .loggerSink | .prefetch => Bool
  | .progressInterval | .idleShutdownDelay | .restartThreshold | .subscriberCapacity
  | .chunkSize => Nat

/-- A setting's value in a draft. -/
def ConfigDraft.get (d : ConfigDraft) : (f : ConfigField) → f.Value
  | .stateFile => d.stateFile
  | .cacheDir => d.cacheDir
  | .cacheQuotaBytes => d.cacheQuotaBytes
  | .leaveFreeBytes => d.leaveFreeBytes
  | .catalog => d.catalog
  | .decoder => d.decoder
  | .transport => d.transport
  | .fileSystem => d.fileSystem
  | .networkMonitor => d.networkMonitor
  | .callStateMonitor => d.callStateMonitor
  | .keepAlive => d.keepAlive
  | .loggerSink => d.loggerSink
  | .progressInterval => d.tuning.progressIntervalMs
  | .idleShutdownDelay => d.tuning.idleShutdownDelayMs
  | .restartThreshold => d.tuning.restartThresholdMs
  | .prefetch => d.tuning.prefetch
  | .subscriberCapacity => d.tuning.subscriberCapacity
  | .chunkSize => d.tuning.chunkSize

/-- What a builder call writes to a setting, if it writes that setting: each call its own, and
the whole tuning each of the six tuning values. -/
def ConfigSetter.writes : ConfigSetter → (f : ConfigField) → Option f.Value
  | .stateFile path, .stateFile => some (some path)
  | .cacheDir path, .cacheDir => some (some path)
  | .cacheQuotaBytes bytes, .cacheQuotaBytes => some (some bytes)
  | .leaveFreeBytes bytes, .leaveFreeBytes => some (some bytes)
  | .catalog, .catalog => some true
  | .decoder, .decoder => some true
  | .transport, .transport => some true
  | .fileSystem, .fileSystem => some true
  | .networkMonitor, .networkMonitor => some true
  | .callStateMonitor, .callStateMonitor => some true
  | .keepAlive, .keepAlive => some true
  | .loggerSink, .loggerSink => some true
  | .progressInterval ms, .progressInterval => some ms
  | .idleShutdownDelay ms, .idleShutdownDelay => some ms
  | .restartThreshold ms, .restartThreshold => some ms
  | .prefetch enabled, .prefetch => some enabled
  | .subscriberCapacity n, .subscriberCapacity => some n
  | .chunkSize bytes, .chunkSize => some bytes
  | .tuning t, .progressInterval => some t.progressIntervalMs
  | .tuning t, .idleShutdownDelay => some t.idleShutdownDelayMs
  | .tuning t, .restartThreshold => some t.restartThresholdMs
  | .tuning t, .prefetch => some t.prefetch
  | .tuning t, .subscriberCapacity => some t.subscriberCapacity
  | .tuning t, .chunkSize => some t.chunkSize
  | _, _ => none

/-- The value the last of a sequence of calls that writes a setting wrote, if one does. -/
def lastWrite (calls : List ConfigSetter) (f : ConfigField) : Option f.Value :=
  calls.reverse.findSome? fun c => c.writes f

/-- A call writes what `writes` says and leaves every other setting. -/
theorem ConfigDraft.get_set (d : ConfigDraft) (c : ConfigSetter) (f : ConfigField) :
    (d.set c).get f = (c.writes f).getD (d.get f) := by
  cases c <;> cases f <;> rfl

theorem lastWrite_cons (c : ConfigSetter) (calls : List ConfigSetter) (f : ConfigField) :
    lastWrite (c :: calls) f = (lastWrite calls f).or (c.writes f) := by
  simp only [lastWrite, List.reverse_cons, List.findSome?_append, List.findSome?_singleton]

/-- After a sequence of calls from any draft, each setting holds the last value written to it,
or what it held. -/
theorem ConfigDraft.get_foldl (calls : List ConfigSetter) (d : ConfigDraft) (f : ConfigField) :
    (calls.foldl set d).get f = (lastWrite calls f).getD (d.get f) := by
  induction calls generalizing d with
  | nil => rfl
  | cons c calls ih =>
    rw [List.foldl_cons, ih, get_set, lastWrite_cons]
    cases lastWrite calls f <;> rfl

/-- Each setting of a built-up draft holds what the last call that writes it wrote, or the
builder's default. -/
theorem ConfigDraft.get_ofSetters (calls : List ConfigSetter) (f : ConfigField) :
    (ofSetters calls).get f = (lastWrite calls f).getD ((ofSetters []).get f) :=
  get_foldl calls {} f

/-! ## The checks of building, in order -/

/-- The fault of the first check that fails, each check given as whether it passes and its
fault. -/
def firstFault : List (Bool × SetupError) → Option SetupError
  | [] => none
  | (passes, fault) :: rest => if passes then firstFault rest else some fault

theorem firstFault_append (l₁ l₂ : List (Bool × SetupError)) :
    firstFault (l₁ ++ l₂) = (firstFault l₁).or (firstFault l₂) := by
  induction l₁ with
  | nil => rfl
  | cons c l₁ ih =>
    obtain ⟨passes, fault⟩ := c
    cases passes <;> simp [firstFault, ih]

theorem firstFault_eq_none_iff (l : List (Bool × SetupError)) :
    firstFault l = none ↔ ∀ c ∈ l, c.1 = true := by
  induction l with
  | nil => simp [firstFault]
  | cons c l ih =>
    obtain ⟨passes, fault⟩ := c
    cases passes <;> simp [firstFault, ih]

/-- The outcome of checks: the first fault, or `ok`. -/
def outcomeOf {α : Type} (checks : List (Bool × SetupError)) (ok : α) : Except SetupError α :=
  match firstFault checks with
  | some fault => .error fault
  | none => .ok ok

/-- The tuning's checks, in order: the progress interval, the idle shutdown delay, the
subscriber capacity and the chunk size must not be zero. -/
def Tuning.checks (t : Tuning) : List (Bool × SetupError) :=
  [(t.progressIntervalMs ≠ 0, .config "Progress interval must be greater than 0ms"),
   (t.idleShutdownDelayMs ≠ 0, .config "Idle shutdown delay must be greater than 0ms"),
   (t.subscriberCapacity ≠ 0, .config "Subscriber capacity must be greater than 0"),
   (t.chunkSize ≠ 0, .config "Download chunk size must be greater than 0 bytes")]

/-- A configuration's checks, in order: neither path is empty, the quota is positive and above
the space left free; then the tuning's. -/
def EngineConfig.checks (c : EngineConfig) : List (Bool × SetupError) :=
  [(!c.stateFile.isEmpty, .config "State file path cannot be empty"),
   (!c.cacheDir.isEmpty, .config "Cache directory cannot be empty"),
   (c.cacheQuotaBytes ≠ 0, .config "Cache quota must be greater than 0 bytes"),
   (c.leaveFreeBytes < c.cacheQuotaBytes,
     .config (s!"Leave-free threshold ({c.leaveFreeBytes} bytes) must be smaller than " ++
       s!"the cache quota ({c.cacheQuotaBytes} bytes)"))] ++ c.tuning.checks

/-- The configuration a draft describes: missing paths read as empty, missing sizes as their
defaults. -/
def ConfigDraft.config (d : ConfigDraft) : EngineConfig :=
  { stateFile := d.stateFile.getD "", cacheDir := d.cacheDir.getD "",
    cacheQuotaBytes := d.cacheQuotaBytes.getD defaultCacheQuotaBytes,
    leaveFreeBytes := d.leaveFreeBytes.getD defaultLeaveFreeBytes,
    networkMonitor := d.networkMonitor, callStateMonitor := d.callStateMonitor,
    loggerSink := d.loggerSink, tuning := d.tuning }

/-- The checks of building, in order: the state file and the cache directory are given; the
catalog, the decoder, the transport, the file system and the keep-alive are injected; then the
configuration's own checks. -/
def ConfigDraft.checks (d : ConfigDraft) : List (Bool × SetupError) :=
  [(d.stateFile.isSome, .config "State file path is required. Use .state_file() to set it."),
   (d.cacheDir.isSome, .config "Cache directory is required. Use .cache_dir() to set it."),
   (d.catalog, missingCapability "Catalog"),
   (d.decoder, missingCapability "Decoder"),
   (d.transport, missingCapability "Transport"),
   (d.fileSystem, missingCapability "FileSystemAccess"),
   (d.keepAlive, missingCapability "KeepAlive")] ++ d.config.checks

theorem Tuning.check_eq (t : Tuning) : t.check = outcomeOf t.checks () := by
  unfold check outcomeOf checks
  by_cases h₁ : t.progressIntervalMs = 0
  · simp [h₁, firstFault]
  by_cases h₂ : t.idleShutdownDelayMs = 0
  · simp [h₁, h₂, firstFault]
  by_cases h₃ : t.subscriberCapacity = 0
  · simp [h₁, h₂, h₃, firstFault]
  by_cases h₄ : t.chunkSize = 0 <;> simp [h₁, h₂, h₃, h₄, firstFault]

theorem EngineConfig.check_eq (c : EngineConfig) : c.check = outcomeOf c.checks () := by
  unfold check checks outcomeOf
  rw [firstFault_append, Tuning.check_eq, outcomeOf]
  by_cases h₁ : c.stateFile.isEmpty
  · simp [h₁, firstFault]
  by_cases h₂ : c.cacheDir.isEmpty
  · simp [h₁, h₂, firstFault]
  by_cases h₃ : c.cacheQuotaBytes = 0
  · simp [h₁, h₂, h₃, firstFault]
  by_cases h₄ : c.leaveFreeBytes < c.cacheQuotaBytes
  · -- every check of the configuration itself passes: the tuning decides
    simp [h₁, h₂, h₃, h₄, firstFault]
  · simp [h₁, h₂, h₃, h₄, firstFault, Nat.le_of_not_lt h₄]

theorem requireCapability_eq (present : Bool) (name : String) :
    requireCapability present name = outcomeOf [(present, missingCapability name)] () := by
  cases present <;> rfl

/-- Checks run one after the other are the joined checks. -/
theorem outcomeOf_seq {α : Type} (l₁ l₂ : List (Bool × SetupError)) (x : α) :
    (outcomeOf l₁ () >>= fun _ => outcomeOf l₂ x) = outcomeOf (l₁ ++ l₂) x := by
  unfold outcomeOf
  rw [firstFault_append]
  cases firstFault l₁ <;> cases firstFault l₂ <;> rfl

theorem outcomeOf_then_pure {α : Type} (l : List (Bool × SetupError)) (x : α) :
    (outcomeOf l () >>= fun _ => pure x) = outcomeOf l x := by
  unfold outcomeOf
  cases firstFault l <;> rfl

theorem outcomeOf_pass {α : Type} (fault : SetupError) (l : List (Bool × SetupError)) (x : α) :
    outcomeOf ((true, fault) :: l) x = outcomeOf l x := rfl

/-- Building reports the fault of the first failing check, and otherwise gives the
configuration the draft describes. -/
theorem ConfigDraft.build_eq_outcomeOf (d : ConfigDraft) : d.build = outcomeOf d.checks d.config := by
  unfold build checks
  cases hs : d.stateFile with
  | none => rfl
  | some stateFile =>
    cases hc : d.cacheDir with
    | none => rfl
    | some cacheDir =>
      -- both paths are given: the capabilities are checked next, then the configuration
      simp only [requireCapability_eq, EngineConfig.check_eq, outcomeOf_then_pure, outcomeOf_seq,
        Option.isSome_some, List.cons_append, List.nil_append, outcomeOf_pass]
      -- what is checked and built is the configuration the draft describes
      simp only [config, hs, hc, Option.getD_some]

/-! ## When building succeeds -/

/-- What building needs of a draft: both paths given and not empty; the catalog, the decoder,
the transport, the file system and the keep-alive injected; a positive quota (1 GiB unless
given) above the space left free (100 MiB unless given); and a tuning whose progress interval,
idle shutdown delay, subscriber capacity and chunk size are not zero. -/
structure ConfigDraft.Complete (d : ConfigDraft) : Prop where
  stateFile : ∃ path, d.stateFile = some path ∧ path ≠ ""
  cacheDir : ∃ path, d.cacheDir = some path ∧ path ≠ ""
  catalog : d.catalog = true
  decoder : d.decoder = true
  transport : d.transport = true
  fileSystem : d.fileSystem = true
  keepAlive : d.keepAlive = true
  quota_pos : 0 < d.cacheQuotaBytes.getD defaultCacheQuotaBytes
  leaveFree_lt_quota :
    d.leaveFreeBytes.getD defaultLeaveFreeBytes < d.cacheQuotaBytes.getD defaultCacheQuotaBytes
  progressInterval_pos : 0 < d.tuning.progressIntervalMs
  idleShutdownDelay_pos : 0 < d.tuning.idleShutdownDelayMs
  subscriberCapacity_pos : 0 < d.tuning.subscriberCapacity
  chunkSize_pos : 0 < d.tuning.chunkSize

/-- A draft is complete exactly when every check of building passes. -/
theorem ConfigDraft.complete_iff (d : ConfigDraft) : d.Complete ↔ ∀ c ∈ d.checks, c.1 = true := by
  constructor
  · rintro ⟨⟨path, hs, hs'⟩, ⟨dir, hc, hc'⟩, h₁, h₂, h₃, h₄, h₅, hq, hl, ht₁, ht₂, ht₃, ht₄⟩
    simp [checks, EngineConfig.checks, Tuning.checks, config, hs, hs', hc, hc', h₁, h₂, h₃, h₄, h₅,
      hl, Nat.pos_iff_ne_zero.mp hq, Nat.pos_iff_ne_zero.mp ht₁, Nat.pos_iff_ne_zero.mp ht₂,
      Nat.pos_iff_ne_zero.mp ht₃, Nat.pos_iff_ne_zero.mp ht₄]
  · intro h
    simp [checks, EngineConfig.checks, Tuning.checks, config, Option.isSome_iff_exists] at h
    obtain ⟨⟨path, hs⟩, ⟨dir, hc⟩, h₁, h₂, h₃, h₄, h₅, hs', hc', hq, hl, ht₁, ht₂, ht₃, ht₄⟩ := h
    rw [hs, Option.getD_some] at hs'
    rw [hc, Option.getD_some] at hc'
    exact ⟨⟨path, hs, hs'⟩, ⟨dir, hc, hc'⟩, h₁, h₂, h₃, h₄, h₅,
      Nat.pos_of_ne_zero (of_decide_eq_true hq), of_decide_eq_true hl,
      Nat.pos_of_ne_zero (of_decide_eq_true ht₁), Nat.pos_of_ne_zero (of_decide_eq_true ht₂),
      Nat.pos_of_ne_zero (of_decide_eq_true ht₃), Nat.pos_of_ne_zero (of_decide_eq_true ht₄)⟩

/-- Building succeeds exactly on a complete draft. -/
theorem ConfigDraft.build_ok_iff (d : ConfigDraft) : (∃ c, d.build = .ok c) ↔ d.Complete := by
  rw [build_eq_outcomeOf, complete_iff, ← firstFault_eq_none_iff]
  unfold outcomeOf
  cases firstFault d.checks <;> simp

/-- For every sequence of builder calls: each setting holds what the last call writing it wrote,
or its default; building succeeds exactly when the draft is complete; and otherwise it reports
the fault of the first failing check, in the order of `ConfigDraft.checks`. -/
theorem build_after_setters (calls : List ConfigSetter) :
    (∀ f, (ConfigDraft.ofSetters calls).get f =
        (lastWrite calls f).getD ((ConfigDraft.ofSetters []).get f)) ∧
    ((∃ c, (ConfigDraft.ofSetters calls).build = .ok c) ↔ (ConfigDraft.ofSetters calls).Complete) ∧
    (ConfigDraft.ofSetters calls).build =
      outcomeOf (ConfigDraft.ofSetters calls).checks (ConfigDraft.ofSetters calls).config :=
  ⟨ConfigDraft.get_ofSetters calls, ConfigDraft.build_ok_iff _, ConfigDraft.build_eq_outcomeOf _⟩

/-- A single tuning value set after the whole tuning wins over it. -/
example : (ConfigDraft.ofSetters [.chunkSize 1, .tuning { chunkSize := 0 }, .chunkSize 7]).tuning =
    { chunkSize := 7 } := rfl

/-- A missing catalog is reported before an empty state file. -/
example : (ConfigDraft.ofSetters [.stateFile "", .cacheDir "/cache", .decoder]).build =
    .error (missingCapability "Catalog") := rfl

end PlaybackEngine
