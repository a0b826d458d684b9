import Ttp.SessionSettings

/-!
What `validate` of `ttp/settings.py` accepts, and what becomes of it in a
snapshot, on the way through the lock and in a selection from the command line.
-/
namespace Ttp.SessionSettings
open Ttp.Python

/-! ### Consistent settings -/

def Flag (value : Json) : Prop := ∃ b, value = .bool b

/-- A number of seconds that is in range. -/
def Timed (value : Json) : Prop := ∃ q, number? value = some q ∧ 0 < q ∧ q ≤ 3600

def Settings.timeouts (s : Settings) : List Json :=
  [s.watchdog.readinessTimeout, s.watchdog.heartbeatInterval, s.watchdog.serviceTimeout, s.watchdog.checkInterval,
    s.watchdog.checkTimeout,
    s.watchdog.observationMaxAge, s.verification.timeout, s.notifications.readinessTimeout, s.notifications.callTimeout,
    s.notifications.deliveryTimeout]

/-- Settings with every value in its range, and the values in the relations that the deadlines need. -/
structure Settings.Consistent (py : Interpreter) (s : Settings) : Prop where
  watchdogFlag : Flag s.watchdog.enabled
  notificationsFlag : Flag s.notifications.enabled
  attempts : ∃ n, s.notifications.attempts = .int n ∧ 1 ≤ n ∧ n ≤ 10
  timed : ∀ value ∈ s.timeouts, Timed value
  service : 2 * plus py s.watchdog.checkTimeout s.watchdog.heartbeatInterval ≤ seconds s.watchdog.serviceTimeout
  readiness : plus py s.watchdog.checkTimeout s.watchdog.heartbeatInterval ≤ seconds s.watchdog.readinessTimeout
  age : plus py s.watchdog.checkInterval s.watchdog.checkTimeout ≤ seconds s.watchdog.observationMaxAge
  delivery : seconds s.notifications.callTimeout ≤ seconds s.notifications.deliveryTimeout
  notified : s.notifications.enabled = .bool true →
    plus py s.notifications.deliveryTimeout s.watchdog.heartbeatInterval < seconds s.watchdog.serviceTimeout

section
variable {group key : String} {value : Json}

theorem checkValue_flag : checkValue group "enabled" value = .ok () ↔ Flag value := by
  simp only [checkValue, if_true]
  cases value <;> simp [Flag]

theorem checkValue_attempts : checkValue group "attempts" value = .ok () ↔ ∃ n, value = .int n ∧ 1 ≤ n ∧ n ≤ 10 := by
  simp only [checkValue, String.reduceEq, if_false, if_true]
  cases value with
  | int n =>
    by_cases bounds : 1 ≤ n ∧ n ≤ 10 <;> simp [bounds]
  | _ => simp

theorem small_overflow {n : Int} (small : 0 < n ∧ n ≤ 3600) : floatOverflow n = false := by
  have large : 3600 < 2 ^ 1024 - 2 ^ 970 := by decide +kernel
  have inside : n.natAbs ≤ 3600 := by omega
  rw [floatOverflow, decide_eq_false_iff_not, ge_iff_le, not_le]
  exact lt_of_le_of_lt inside large

theorem checkValue_timed (notEnabled : key ≠ "enabled") (notAttempts : key ≠ "attempts") :
    checkValue group key value = .ok () ↔ Timed value := by
  simp only [checkValue, notEnabled, notAttempts, if_false]
  cases value with
  | int n =>
    by_cases bounds : 0 < n ∧ n ≤ 3600
    · have range : (0 : ℚ) < n ∧ (n : ℚ) ≤ 3600 := by exact_mod_cast bounds
      simp [Timed, number?, small_overflow bounds, bounds, range]
    · have range : ¬ ((0 : ℚ) < n ∧ (n : ℚ) ≤ 3600) := by exact_mod_cast bounds
      simp only [Timed, number?, Option.some.injEq, exists_eq_left', range, iff_false, bounds, if_false]
      split_ifs <;> simp
  | float x =>
    cases x with
    | finite q => by_cases bounds : 0 < q ∧ q ≤ 3600 <;> simp [Timed, number?, bounds]
    | _ => simp [Timed, number?]
  | _ => simp [Timed, number?]

end

section
variable {py : Interpreter} {s s' : Settings}

theorem checkSections_ok {sections : List (String × Obj)} :
    checkSections sections = .ok () ↔ ∀ group ∈ sections, ∀ kv ∈ group.2, checkValue group.1 kv.1 kv.2 = .ok () := by
  refine ⟨checkSections_passed, fun passed => ?_⟩
  induction sections with
  | nil => rfl
  | cons first rest ih =>
    obtain ⟨group, values⟩ := first
    have fields : checkFields group values = .ok () := by
      rw [checkFields_find, List.find?_eq_none.mpr fun kv inside => by
        rw [not_invalid.mpr (passed (group, values) (by simp) kv inside)]
        simp]
    rw [checkSections, fields]
    exact ih fun g member => passed g (by simp [member])

/-- Every value is in its range exactly where the checks of the values pass. -/
theorem checkSections_ranges : checkSections s.sections = .ok () ↔
    Flag s.watchdog.enabled ∧ Flag s.notifications.enabled ∧ (∃ n, s.notifications.attempts = .int n ∧ 1 ≤ n ∧ n ≤ 10) ∧
      ∀ value ∈ s.timeouts, Timed value := by
  rw [checkSections_ok]
  simp only [Settings.sections, WatchdogSettings.fields, VerificationSettings.fields, NotificationSettings.fields,
    Settings.timeouts,
    List.forall_mem_cons, List.not_mem_nil, false_implies, implies_true, and_true, checkValue_flag, checkValue_attempts]
  simp only [checkValue_timed, ne_eq, String.reduceEq, not_false_eq_true]
  tauto

theorem relations_none : (s.relations py).find? (·.1) = none ↔
    2 * plus py s.watchdog.checkTimeout s.watchdog.heartbeatInterval ≤ seconds s.watchdog.serviceTimeout ∧
      plus py s.watchdog.checkTimeout s.watchdog.heartbeatInterval ≤ seconds s.watchdog.readinessTimeout ∧
      plus py s.watchdog.checkInterval s.watchdog.checkTimeout ≤ seconds s.watchdog.observationMaxAge ∧
      seconds s.notifications.callTimeout ≤ seconds s.notifications.deliveryTimeout ∧
      (s.notifications.enabled.truthy = true →
        plus py s.notifications.deliveryTimeout s.watchdog.heartbeatInterval < seconds s.watchdog.serviceTimeout) := by
  simp only [Settings.relations, List.find?_eq_none, List.forall_mem_cons, List.not_mem_nil, false_implies,
    implies_true, and_true, Bool.and_eq_true, decide_eq_true_eq, not_and, not_lt, gt_iff_lt, not_le]

/-- The values of settings whose checks pass are no containers, and finite. -/
theorem checkValue_scalar {group key : String} {value : Json}
    (checked : checkValue group key value = .ok ()) (fuel : Nat) :
    value.depth = 0 ∧ value.dumps fuel = .ok () := by
  by_cases enabled : key = "enabled"
  · subst enabled
    obtain ⟨b, rfl⟩ := checkValue_flag.mp checked
    exact ⟨rfl, by simp [Json.dumps]⟩
  by_cases attempts : key = "attempts"
  · subst attempts
    obtain ⟨n, rfl, _⟩ := checkValue_attempts.mp checked
    exact ⟨rfl, by simp [Json.dumps]⟩
  obtain ⟨q, number, _⟩ := (checkValue_timed enabled attempts).mp checked
  unfold number? at number
  split at number
  · exact ⟨rfl, by simp [Json.dumps]⟩
  · exact ⟨rfl, by simp [Json.dumps]⟩
  · cases number

theorem checked_copied (checked : checkSections s.sections = .ok ()) :
    s.snapshot py = .ok (s.sections.map fun group => (group.1, .obj group.2)) :=
  snapshot_copied fun group member kv inside => by
    rw [(checkValue_scalar (checkSections_ok.mp checked group member kv inside) 0).1]
    exact Nat.zero_le _

/-- What validation accepts is what it was given, where that is consistent. -/
theorem validate_consistent : s.validate py = .ok s' ↔ s' = s ∧ s.Consistent py := by
  have truthy (flag : Flag s.notifications.enabled) : s.notifications.enabled.truthy = true ↔
      s.notifications.enabled = .bool true := by
    obtain ⟨b, stated⟩ := flag
    cases b <;> simp [stated, Json.truthy]
  constructor
  · intro accepted
    obtain ⟨rfl, passed⟩ := validate_passed accepted
    have checked := checkSections_ok.mpr passed
    obtain ⟨watchdogFlag, notificationsFlag, attempts, timed⟩ := checkSections_ranges.mp checked
    have related : (s'.relations py).find? (·.1) = none := by
      simp only [Settings.validate, checked_copied checked, checked, bind, Except.bind] at accepted
      split at accepted
      · cases accepted
      case h_2 none => exact none
    obtain ⟨service, readiness, age, delivery, notified⟩ := relations_none.mp related
    exact ⟨rfl,
      { watchdogFlag, notificationsFlag, attempts, timed, service, readiness, age, delivery
        notified := fun on => notified ((truthy notificationsFlag).mpr on) }⟩
  · rintro ⟨rfl, consistent⟩
    have checked := checkSections_ranges.mpr
      ⟨consistent.watchdogFlag, consistent.notificationsFlag, consistent.attempts, consistent.timed⟩
    have related : (s'.relations py).find? (·.1) = none := relations_none.mpr
      ⟨consistent.service, consistent.readiness, consistent.age, consistent.delivery,
        fun on => consistent.notified ((truthy consistent.notificationsFlag).mp on)⟩
    simp only [Settings.validate, checked_copied checked, checked, related, bind, Except.bind]

/-! ### The way through the lock -/

/-- `json.loads(json.dumps(data))`: what can be encoded reads back as it was. -/
def roundTrip (py : Interpreter) (data : Json) : Except Exc Json := (data.dumps py.encodeDepth).map fun _ => data

theorem dumpsFields_ok {fuel : Nat} {fields : Obj} (each : ∀ kv ∈ fields, kv.2.dumps fuel = .ok ()) :
    Json.dumpsFields fuel fields = .ok () := by
  induction fields with
  | nil => simp [Json.dumpsFields]
  | cons kv rest ih =>
    rw [Json.dumpsFields, each kv (by simp)]
    exact ih fun kv' member => each kv' (by simp [member])

/-- The snapshot of consistent settings can be encoded. -/
theorem snapshot_dumps (checked : checkSections s.sections = .ok ()) :
    (Json.obj (s.sections.map fun group => (group.1, .obj group.2))).dumps py.encodeDepth = .ok () := by
  obtain ⟨fuel, deep⟩ : ∃ fuel, py.encodeDepth = fuel + 2 := ⟨py.encodeDepth - 2, by have := py.shallow; omega⟩
  rw [deep, Json.dumps]
  refine dumpsFields_ok fun kv member => ?_
  obtain ⟨group, inside, rfl⟩ := List.mem_map.mp member
  show (Json.obj group.2).dumps (fuel + 1) = .ok ()
  rw [Json.dumps]
  exact dumpsFields_ok fun kv field => (checkValue_scalar (checkSections_ok.mp checked group inside kv field) fuel).2

/-! ### Selections -/

/-- The settings with the choices that were made. -/
def Settings.chosen (s : Settings) (watchdog notifications : Option Bool) : Settings :=
  { s with
    watchdog := { s.watchdog with enabled := (watchdog.map Json.bool).getD s.watchdog.enabled }
    notifications := { s.notifications with enabled := (notifications.map Json.bool).getD s.notifications.enabled } }

theorem chosen_flag {value : Json} (flag : Flag value) (choice : Option Bool) :
    Flag ((choice.map Json.bool).getD value) := by
  cases choice with
  | none => exact flag
  | some b => exact ⟨b, rfl⟩

/-- A choice leaves every value in its range, so it is accepted or refused with a `SettingsError`. -/
theorem select_consistent (consistent : s.Consistent py) (watchdog notifications : Option Bool) :
    (s.select py watchdog notifications = .ok (s.chosen watchdog notifications) ∧
      (s.chosen watchdog notifications).Consistent py) ∨
      ∃ message, s.select py watchdog notifications = .error (.settingsError message) := by
  have checked : checkSections (s.chosen watchdog notifications).sections = .ok () := checkSections_ranges.mpr
    ⟨chosen_flag consistent.watchdogFlag watchdog, chosen_flag consistent.notificationsFlag notifications,
      consistent.attempts, consistent.timed⟩
  cases outcome : s.select py watchdog notifications with
  | ok s' =>
    have accepted : (s.chosen watchdog notifications).validate py = .ok s' := outcome
    obtain ⟨rfl, kept⟩ := validate_consistent.mp accepted
    exact Or.inl ⟨rfl, kept⟩
  | error e =>
    have refused : (s.chosen watchdog notifications).validate py = .error e := outcome
    simp only [Settings.validate, checked_copied checked, checked, bind, Except.bind] at refused
    split at refused
    · exact Or.inr ⟨_, by rw [Except.error.inj refused]⟩
    · cases refused

end

/-- What is claimed of snapshots: one that is read gives consistent settings or a `SettingsError`, consistent settings
    come back from the lock as they were, and a choice changes their flags alone or is refused with a
    `SettingsError`. -/
structure Handled (py : Interpreter) (raw : Json) (s : Settings) (watchdog notifications : Option Bool) : Prop where
  read : (∃ s', fromSnapshot py raw = .ok s' ∧ s'.Consistent py) ∨ ∃ message,
    fromSnapshot py raw = .error (.settingsError message)
  back : s.Consistent py → ∃ data stored, s.snapshot py = .ok data ∧ roundTrip py (.obj data) = .ok stored ∧
    fromSnapshot py stored = .ok s
  selected : s.Consistent py →
    (s.select py watchdog notifications = .ok (s.chosen watchdog notifications) ∧
      (s.chosen watchdog notifications).Consistent py) ∨
      ∃ message, s.select py watchdog notifications = .error (.settingsError message)

/-- Snapshots are handled exactly where the settings that the JSON value spells out are copied by `asdict`, and the
    first of them that fails its check is no number of seconds beyond the floats. -/
theorem snapshots_handled (py : Interpreter) (raw : Json) (s : Settings) (watchdog notifications : Option Bool) :
    Handled py raw s watchdog notifications ↔ ∀ t, spelledOut raw = .ok t → t.Judged py := by
  rw [fromSnapshot_judged]
  constructor
  · intro handled e failed
    rcases handled.read with ⟨s', read, _⟩ | ⟨message, refused⟩
    · rw [failed] at read
      cases read
    · rw [failed] at refused
      rw [Except.error.inj refused]
      rfl
  · intro judged
    refine ⟨?_, fun consistent => ?_, fun consistent => select_consistent consistent watchdog notifications⟩
    · cases outcome : fromSnapshot py raw with
      | error e =>
        have refused := judged e outcome
        cases e <;> simp [Exc.isSettingsError] at refused
        exact Or.inr ⟨_, rfl⟩
      | ok s' =>
        obtain ⟨t, _, accepted⟩ := bind_ok outcome
        obtain ⟨rfl, consistent⟩ := validate_consistent.mp accepted
        exact Or.inl ⟨_, rfl, consistent⟩
    · have accepted := validate_consistent.mpr ⟨rfl, consistent⟩
      have checked := checkSections_ok.mpr (validate_passed accepted).2
      refine ⟨_, _, checked_copied checked, ?_, fromSnapshot_snapshot accepted (checked_copied checked)⟩
      rw [roundTrip, snapshot_dumps checked]
      rfl

/-- Settings with a deadline of 400 digits. -/
def late : Settings := { watchdog := { checkTimeout := .int (10 ^ 400) } }

/-- The snapshot of such settings fails with an `OverflowError`. -/
theorem snapshots_overflow : ¬ Handled .cpython (.obj (late.sections.map fun group => (group.1, .obj group.2)))
    {} none none := by
  have copied : late.snapshot .cpython = .ok (late.sections.map fun group => (group.1, .obj group.2)) :=
    snapshot_copied (by decide)
  have overflow : checkSections late.sections = .error .overflowError := by decide +kernel
  have failed : fromSnapshot .cpython (.obj (late.sections.map fun group => (group.1, .obj group.2))) =
      .error .overflowError := by
    simp [fromSnapshot, spelledOut_sections, Settings.validate, copied, overflow, bind, Except.bind]
  intro handled
  rcases handled.read with ⟨s', read, _⟩ | ⟨message, refused⟩
  · rw [failed] at read
    cases read
  · rw [failed] at refused
    cases refused

end Ttp.SessionSettings
