import Mathlib.Algebra.Order.Ring.Cast
import Ttp.Python

/-!
`ttp/settings.py`: the settings snapshot that a session lock carries. A snapshot
holds whatever JSON the lock holds, so the fields are JSON values until
`validate` has looked at them.
-/
namespace Ttp.SessionSettings
open Ttp.Python

structure WatchdogSettings where
  enabled : Json := .bool false
  readinessTimeout : Json := .int 30
  heartbeatInterval : Json := .int 5
  serviceTimeout : Json := .int 30
  checkInterval : Json := .int 15
  checkTimeout : Json := .int 10
  observationMaxAge : Json := .int 30

structure VerificationSettings where
  timeout : Json := .int 60

structure NotificationSettings where
  enabled : Json := .bool false
  readinessTimeout : Json := .int 15
  callTimeout : Json := .int 5
  deliveryTimeout : Json := .int 15
  attempts : Json := .int 3

structure Settings where
  watchdog : WatchdogSettings := {}
  verification : VerificationSettings := {}
  notifications : NotificationSettings := {}

def WatchdogSettings.fields (s : WatchdogSettings) : Obj :=
  [("enabled", s.enabled), ("readiness_timeout", s.readinessTimeout), ("heartbeat_interval", s.heartbeatInterval),
    ("service_timeout", s.serviceTimeout), ("check_interval", s.checkInterval), ("check_timeout", s.checkTimeout),
    ("observation_max_age", s.observationMaxAge)]

def VerificationSettings.fields (s : VerificationSettings) : Obj := [("timeout", s.timeout)]

def NotificationSettings.fields (s : NotificationSettings) : Obj :=
  [("enabled", s.enabled), ("readiness_timeout", s.readinessTimeout), ("call_timeout", s.callTimeout),
    ("delivery_timeout", s.deliveryTimeout), ("attempts", s.attempts)]

/-- `WatchdogSettings(**values)`, and so on. -/
def WatchdogSettings.ofFields (values : Obj) : WatchdogSettings where
  enabled := values.get "enabled"
  readinessTimeout := values.get "readiness_timeout"
  heartbeatInterval := values.get "heartbeat_interval"
  serviceTimeout := values.get "service_timeout"
  checkInterval := values.get "check_interval"
  checkTimeout := values.get "check_timeout"
  observationMaxAge := values.get "observation_max_age"

def VerificationSettings.ofFields (values : Obj) : VerificationSettings where
  timeout := values.get "timeout"

def NotificationSettings.ofFields (values : Obj) : NotificationSettings where
  enabled := values.get "enabled"
  readinessTimeout := values.get "readiness_timeout"
  callTimeout := values.get "call_timeout"
  deliveryTimeout := values.get "delivery_timeout"
  attempts := values.get "attempts"

/-- The sections with their names, in the order of the dataclass. -/
def Settings.sections (s : Settings) : List (String × Obj) :=
  [("watchdog", s.watchdog.fields), ("verification", s.verification.fields), ("notifications", s.notifications.fields)]

/-- `snapshot`: `asdict` copies every value, as deep as the interpreter goes. -/
def Settings.snapshot (py : Interpreter) (s : Settings) : Except Exc Obj :=
  if s.sections.all (fun group => group.2.all (fun kv => kv.2.depth ≤ py.copyDepth)) then
    .ok (s.sections.map fun group => (group.1, .obj group.2))
  else .error .recursionError

/-- The number a setting holds: bool is not one. -/
def number? : Json → Option ℚ
  | .int n => some n
  | .float (.finite q) => some q
  | _ => none

/-- The number of a setting that was validated. -/
def seconds (value : Json) : ℚ := (number? value).getD 0

/-- `a + b`: ints add up exactly, a sum with a float is rounded. -/
def plus (py : Interpreter) : Json → Json → ℚ
  | .int m, .int n => (m + n : Int)
  | a, b => py.round (seconds a + seconds b)

/-- The check of one value: `math.isfinite` raises on an int beyond the floats. -/
def checkValue (group key : String) (value : Json) : Except Exc Unit :=
  let name := s!"{group}.{key}"
  let outOfRange : Exc :=
    .settingsError s!"{name} must be a finite number of seconds greater than 0 and at most 3600"
  if key = "enabled" then
    match value with
    | .bool _ => .ok ()
    | _ => .error (.settingsError s!"{name} must be a boolean")
  else if key = "attempts" then
    match value with
    | .int n => if 1 ≤ n ∧ n ≤ 10 then .ok () else .error (.settingsError s!"{name} must be an integer from 1 to 10")
    | _ => .error (.settingsError s!"{name} must be an integer from 1 to 10")
  else
    match value with
    | .int n =>
      if floatOverflow n then .error .overflowError
      else if 0 < n ∧ n ≤ 3600 then .ok ()
      else .error outOfRange
    | .float (.finite q) => if 0 < q ∧ q ≤ 3600 then .ok () else .error outOfRange
    | _ => .error outOfRange

def checkFields (group : String) : Obj → Except Exc Unit
  | [] => .ok ()
  | (key, value) :: rest => do
    checkValue group key value
    checkFields group rest

def checkSections : List (String × Obj) → Except Exc Unit
  | [] => .ok ()
  | (group, values) :: rest => do
    checkFields group values
    checkSections rest

/-- The relations between the settings, with the message of the first that fails. -/
def Settings.relations (py : Interpreter) (s : Settings) : List (Bool × String) :=
  let wd := s.watchdog
  let n := s.notifications
  [(2 * plus py wd.checkTimeout wd.heartbeatInterval > seconds wd.serviceTimeout,
      "watchdog.service_timeout must be at least 2 * (check_timeout + heartbeat_interval)"),
    (seconds wd.readinessTimeout < plus py wd.checkTimeout wd.heartbeatInterval,
      "watchdog.readiness_timeout must cover check_timeout + heartbeat_interval"),
    (seconds wd.observationMaxAge < plus py wd.checkInterval wd.checkTimeout,
      "watchdog.observation_max_age must cover check_interval + check_timeout"),
    (seconds n.deliveryTimeout < seconds n.callTimeout, "notifications.delivery_timeout must cover call_timeout"),
    (n.enabled.truthy && decide (seconds wd.serviceTimeout ≤ plus py n.deliveryTimeout wd.heartbeatInterval),
      "watchdog.service_timeout must exceed notification delivery_timeout + heartbeat_interval")]

def Settings.validate (py : Interpreter) (s : Settings) : Except Exc Settings := do
  let _ ← s.snapshot py
  checkSections s.sections
  match (s.relations py).find? (·.1) with
  | some (_, message) => .error (.settingsError message)
  | none => .ok s

/-- `select`: an explicit choice replaces the administrator's. -/
def Settings.select (py : Interpreter) (s : Settings) (watchdog notifications : Option Bool) : Except Exc Settings :=
  Settings.validate py
    { s with
      watchdog := { s.watchdog with enabled := (watchdog.map Json.bool).getD s.watchdog.enabled }
      notifications :=
        { s.notifications with enabled := (notifications.map Json.bool).getD s.notifications.enabled } }

/-- `set(values) == {names}`. -/
def hasKeys (values : Obj) (names : List String) : Bool :=
  names.all values.keys.contains && values.keys.all names.contains

/-- One section of a snapshot: an object with exactly the fields of the section. -/
def sectionFields (raw : Obj) (group : String) (names : List String) : Except Exc Obj :=
  match raw.get group with
  | .obj values =>
    if hasKeys values names then .ok values
    else .error (.settingsError s!"Invalid settings snapshot for {group}")
  | _ => .error (.settingsError s!"Invalid settings snapshot for {group}")

/-- The settings that a snapshot spells out. -/
def spelledOut : Json → Except Exc Settings
  | .obj raw =>
    if hasKeys raw ["watchdog", "verification", "notifications"] then do
      let watchdog ← sectionFields raw "watchdog" (Obj.keys (WatchdogSettings.fields {}))
      let verification ← sectionFields raw "verification" (Obj.keys (VerificationSettings.fields {}))
      let notifications ← sectionFields raw "notifications" (Obj.keys (NotificationSettings.fields {}))
      .ok
        { watchdog := .ofFields watchdog
          verification := .ofFields verification
          notifications := .ofFields notifications }
    else .error (.settingsError "Invalid settings snapshot sections")
  | _ => .error (.settingsError "Invalid settings snapshot sections")

def fromSnapshot (py : Interpreter) (raw : Json) : Except Exc Settings := do
  let s ← spelledOut raw
  s.validate py

/-! ### What validation can raise -/

section
variable {py : Interpreter} {s : Settings} {e : Exc}

theorem checkValue_error {group key : String} {value : Json} (failed : checkValue group key value = .error e) :
    e.isSettingsError = true ∨ e = .overflowError := by
  unfold checkValue at failed
  repeat' split at failed
  all_goals first
    | (obtain rfl := Except.error.inj failed; simp [Exc.isSettingsError])
    | simp at failed

theorem checkFields_error {group : String} {values : Obj} (failed : checkFields group values = .error e) :
    e.isSettingsError = true ∨ e = .overflowError := by
  induction values with
  | nil => simp [checkFields] at failed
  | cons kv rest ih =>
    rw [checkFields] at failed
    cases first : checkValue group kv.1 kv.2 with
    | error e' =>
      obtain rfl : e' = e := by simpa [first, bind, Except.bind] using failed
      exact checkValue_error first
    | ok _ => exact ih (by simpa [first, bind, Except.bind] using failed)

theorem checkSections_error {sections : List (String × Obj)} (failed : checkSections sections = .error e) :
    e.isSettingsError = true ∨ e = .overflowError := by
  induction sections with
  | nil => simp [checkSections] at failed
  | cons group rest ih =>
    rw [checkSections] at failed
    cases first : checkFields group.1 group.2 with
    | error e' =>
      obtain rfl : e' = e := by simpa [first, bind, Except.bind] using failed
      exact checkFields_error first
    | ok _ => exact ih (by simpa [first, bind, Except.bind] using failed)

theorem sectionFields_error {raw : Obj} {group : String} {names : List String}
    (failed : sectionFields raw group names = .error e) : e.isSettingsError = true := by
  unfold sectionFields at failed
  repeat' split at failed
  all_goals first
    | (obtain rfl := Except.error.inj failed; rfl)
    | simp at failed

theorem spelledOut_error {raw : Json} (failed : spelledOut raw = .error e) : e.isSettingsError = true := by
  unfold spelledOut at failed
  split at failed
  case h_2 =>
    obtain rfl := Except.error.inj failed
    rfl
  split at failed
  case isFalse =>
    obtain rfl := Except.error.inj failed
    rfl
  simp only [bind, Except.bind] at failed
  split at failed
  case h_1 bad =>
    obtain rfl := Except.error.inj failed
    exact sectionFields_error bad
  split at failed
  case h_1 bad =>
    obtain rfl := Except.error.inj failed
    exact sectionFields_error bad
  split at failed
  case h_1 bad =>
    obtain rfl := Except.error.inj failed
    exact sectionFields_error bad
  simp at failed

end

/-! ### Which snapshots are refused with what -/

/-- A number of seconds beyond the floats. -/
def tooLarge (key : String) : Json → Bool
  | .int n => key != "enabled" && key != "attempts" && floatOverflow n
  | _ => false

/-- The setting fails its check. -/
def invalid (kv : String × Json) : Bool :=
  match checkValue "" kv.1 kv.2 with
  | .ok _ => false
  | .error _ => true

/-- Nothing is nested beyond what `asdict` copies, and the first setting that fails its check fails
    it with a `SettingsError`. -/
structure Settings.Judged (py : Interpreter) (s : Settings) : Prop where
  copied : ∀ group ∈ s.sections, ∀ kv ∈ group.2, kv.2.depth ≤ py.copyDepth
  compared : ∀ kv, List.find? invalid (s.sections.flatMap (·.2)) = some kv → tooLarge kv.1 kv.2 = false

section
variable {group key : String} {value : Json}

theorem checkValue_overflow : checkValue group key value = .error .overflowError ↔ tooLarge key value = true := by
  unfold checkValue tooLarge
  split
  case isTrue enabled => cases value <;> simp [enabled]
  split
  case isTrue attempts =>
    cases value with
    | int n =>
      simp only [attempts]
      split <;> simp
    | _ => simp
  case isFalse notEnabled notAttempts =>
    cases value with
    | int n =>
      simp only [bne_iff_ne, ne_eq, notEnabled, notAttempts, not_false_eq_true, Bool.and_eq_true, true_and]
      split
      case isTrue large => simp [large]
      case isFalse small =>
        split <;> simp [small]
    | float x =>
      cases x with
      | finite q =>
        simp only [Bool.false_eq_true, iff_false]
        split <;> simp
      | _ => simp
    | _ => simp

theorem checkValue_group (group' : String) :
    checkValue group key value = .ok () ↔ checkValue group' key value = .ok () := by
  unfold checkValue
  repeat' split
  all_goals simp

theorem not_invalid : invalid (key, value) = false ↔ checkValue group key value = .ok () := by
  rw [checkValue_group ""]
  unfold invalid
  cases checkValue "" key value with
  | ok _ => simp
  | error _ => simp

theorem checkFields_find (values : Obj) : checkFields group values =
    match List.find? invalid values with
    | none => .ok ()
    | some kv => checkValue group kv.1 kv.2 := by
  induction values with
  | nil => rfl
  | cons kv rest ih =>
    obtain ⟨k, v⟩ := kv
    rw [checkFields, List.find?_cons]
    cases first : invalid (k, v) with
    | false =>
      rw [not_invalid.mp first]
      exact ih
    | true =>
      cases checked : checkValue group k v with
      | ok _ => simp [not_invalid.mpr checked] at first
      | error e => exact checked.symm

theorem checkSections_find (sections : List (String × Obj)) : checkSections sections = .error .overflowError ↔
    ∃ kv, List.find? invalid (sections.flatMap (·.2)) = some kv ∧ tooLarge kv.1 kv.2 = true := by
  induction sections with
  | nil => simp [checkSections]
  | cons first rest ih =>
    obtain ⟨group, values⟩ := first
    rw [checkSections, checkFields_find, List.flatMap_cons, List.find?_append]
    cases found : List.find? invalid values with
    | none => simpa [bind, Except.bind] using ih
    | some kv =>
      cases checked : checkValue group kv.1 kv.2 with
      | ok _ =>
        have bad := List.find?_some found
        rw [not_invalid.mpr checked] at bad
        simp at bad
      | error e =>
        simp only [bind, Except.bind, Option.some_or, Option.some.injEq, exists_eq_left']
        rw [← @checkValue_overflow group, checked, Except.error.injEq]

end

section
variable {py : Interpreter} {s : Settings}

theorem snapshot_copied (copied : ∀ group ∈ s.sections, ∀ kv ∈ group.2, kv.2.depth ≤ py.copyDepth) :
    s.snapshot py = .ok (s.sections.map fun group => (group.1, .obj group.2)) := by
  simp only [Settings.snapshot, List.all_eq_true, decide_eq_true_eq]
  rw [if_pos copied]

theorem snapshot_deep (deep : ¬ ∀ group ∈ s.sections, ∀ kv ∈ group.2, kv.2.depth ≤ py.copyDepth) :
    s.snapshot py = .error .recursionError := by
  simp only [Settings.snapshot, List.all_eq_true, decide_eq_true_eq]
  rw [if_neg deep]

/-- Settings that are judged are accepted or refused with a `SettingsError`, and no others are. -/
theorem validate_judged : s.Judged py ↔ ∀ e, s.validate py = .error e → e.isSettingsError = true := by
  constructor
  · intro judged e failed
    simp only [Settings.validate, snapshot_copied judged.copied, bind, Except.bind] at failed
    cases checked : checkSections s.sections with
    | error e' =>
      obtain rfl : e' = e := by simpa [checked] using failed
      rcases checkSections_error checked with settings | rfl
      · exact settings
      · obtain ⟨kv, first, large⟩ := (checkSections_find _).mp checked
        simp [judged.compared kv first] at large
    | ok _ =>
      simp only [checked] at failed
      split at failed
      · obtain rfl := Except.error.inj failed
        rfl
      · simp at failed
  · intro refused
    have copied : ∀ group ∈ s.sections, ∀ kv ∈ group.2, kv.2.depth ≤ py.copyDepth := by
      by_contra deep
      exact absurd (refused .recursionError (by simp [Settings.validate, snapshot_deep deep, bind, Except.bind]))
        (by decide)
    refine ⟨copied, fun kv first => ?_⟩
    by_contra large
    have overflow : checkSections s.sections = .error .overflowError :=
      (checkSections_find _).mpr ⟨kv, first, by simpa using large⟩
    exact absurd (refused .overflowError
      (by simp [Settings.validate, snapshot_copied copied, overflow, bind, Except.bind]))
      (by decide)

/-- A snapshot reads without any other exception than a `SettingsError` where the settings it spells
    out are judged. -/
theorem fromSnapshot_judged {raw : Json} : (∀ s, spelledOut raw = .ok s → s.Judged py) ↔
    ∀ e, fromSnapshot py raw = .error e → e.isSettingsError = true := by
  cases spelled : spelledOut raw with
  | error e =>
    have settings := spelledOut_error spelled
    simp [fromSnapshot, spelled, bind, Except.bind, settings]
  | ok s => simp [fromSnapshot, spelled, bind, Except.bind, validate_judged]

theorem checkValue_positive {group key : String} {value : Json} (checked : checkValue group key value = .ok ())
    (notEnabled : key ≠ "enabled") (notAttempts : key ≠ "attempts") : 0 < seconds value := by
  simp only [checkValue, notEnabled, notAttempts, if_false] at checked
  cases value with
  | int n =>
    simp only at checked
    split at checked
    · simp at checked
    split at checked
    case isTrue bounds => exact Int.cast_pos.mpr bounds.1
    · simp at checked
  | float x =>
    cases x with
    | finite q =>
      simp only at checked
      split at checked
      case isTrue bounds => simpa [seconds, number?] using bounds.1
      · simp at checked
    | _ => simp at checked
  | _ => simp at checked

theorem checkSections_passed {sections : List (String × Obj)} (checked : checkSections sections = .ok ()) :
    ∀ group ∈ sections, ∀ kv ∈ group.2, checkValue group.1 kv.1 kv.2 = .ok () := by
  induction sections with
  | nil => simp
  | cons first rest ih =>
    obtain ⟨group, values⟩ := first
    rw [checkSections, checkFields_find] at checked
    cases found : List.find? invalid values with
    | none =>
      simp only [found, bind, Except.bind] at checked
      rintro g (_ | ⟨_, later⟩) kv inside
      · exact not_invalid.mp (by simpa using List.find?_eq_none.mp found kv inside)
      · exact ih checked g later kv inside
    | some kv =>
      simp only [found, bind, Except.bind] at checked
      cases passed : checkValue group kv.1 kv.2 with
      | ok _ =>
        have bad := List.find?_some found
        rw [not_invalid.mpr passed] at bad
        simp at bad
      | error e => simp [passed] at checked

/-- What validation accepts is what it was given, with every setting in its range. -/
theorem validate_passed {s' : Settings} (accepted : s.validate py = .ok s') :
    s' = s ∧ ∀ group ∈ s.sections, ∀ kv ∈ group.2, checkValue group.1 kv.1 kv.2 = .ok () := by
  simp only [Settings.validate, bind, Except.bind] at accepted
  split at accepted
  · simp at accepted
  cases checked : checkSections s.sections with
  | error e => simp [checked] at accepted
  | ok _ =>
    simp only [checked] at accepted
    split at accepted
    · simp at accepted
    · exact ⟨(Except.ok.inj accepted).symm, checkSections_passed checked⟩

/-- The settings of a snapshot leave time for a check. -/
theorem fromSnapshot_checkTimeout {raw : Json} (accepted : fromSnapshot py raw = .ok s) :
    0 < seconds s.watchdog.checkTimeout := by
  cases spelled : spelledOut raw with
  | error e => simp [fromSnapshot, spelled, bind, Except.bind] at accepted
  | ok s' =>
    obtain ⟨rfl, passed⟩ := validate_passed (s := s')
      (by simpa [fromSnapshot, spelled, bind, Except.bind] using accepted)
    refine checkValue_positive (passed ("watchdog", s.watchdog.fields) ?_ ("check_timeout", s.watchdog.checkTimeout) ?_)
      ?_ ?_
    · simp [Settings.sections]
    · simp [WatchdogSettings.fields]
    · simp
    · simp

end

/-! ### Snapshots read back -/

section
variable {py : Interpreter} {s s' : Settings} {raw : Obj}

theorem snapshot_sections (copied : s.snapshot py = .ok raw) :
    raw = s.sections.map fun group => (group.1, .obj group.2) := by
  unfold Settings.snapshot at copied
  split_ifs at copied
  exact (Except.ok.inj copied).symm

/-- A snapshot spells out the settings it was made of. -/
theorem spelledOut_sections : spelledOut (.obj (s.sections.map fun group => (group.1, .obj group.2))) = .ok s := by
  obtain ⟨⟨_, _, _, _, _, _, _⟩, ⟨_⟩, ⟨_, _, _, _, _⟩⟩ := s
  rfl

/-- The snapshot of validated settings reads as these settings. -/
theorem fromSnapshot_snapshot (accepted : s.validate py = .ok s') (copied : s'.snapshot py = .ok raw) :
    fromSnapshot py (.obj raw) = .ok s' := by
  obtain ⟨rfl, _⟩ := validate_passed accepted
  rw [snapshot_sections copied, fromSnapshot, spelledOut_sections]
  exact accepted

/-- Validated settings say whether the watchdog is enabled. -/
theorem validate_enabled (accepted : s.validate py = .ok s') : ∃ b, s'.watchdog.enabled = .bool b := by
  obtain ⟨rfl, passed⟩ := validate_passed accepted
  have checked := passed ("watchdog", s'.watchdog.fields) (by simp [Settings.sections]) ("enabled", s'.watchdog.enabled)
    (by simp [WatchdogSettings.fields])
  simp only [checkValue, if_true] at checked
  split at checked
  case h_1 b stated => exact ⟨b, stated⟩
  case h_2 => simp at checked

theorem select_enabled {notifications : Option Bool} {b : Bool}
    (selected : s.select py (some b) notifications = .ok s') :
    s'.watchdog.enabled = .bool b := by
  obtain ⟨rfl, _⟩ := validate_passed selected
  rfl

end

/-- The defaults pass their own checks. -/
theorem default_valid (py : Interpreter) : Settings.validate py {} = .ok {} := by
  have shallow : Settings.snapshot py {} = .ok ((Settings.sections {}).map fun group => (group.1, .obj group.2)) := by
    simp [Settings.snapshot, Settings.sections, WatchdogSettings.fields, VerificationSettings.fields,
      NotificationSettings.fields, Json.depth]
  have checked : checkSections (Settings.sections {}) = .ok () := by decide +kernel
  have related : (Settings.relations py {}).find? (·.1) = none := by
    simp [Settings.relations, plus, seconds, number?, Json.truthy]
    decide +kernel
  simp [Settings.validate, shallow, checked, related, bind, Except.bind]

end Ttp.SessionSettings
