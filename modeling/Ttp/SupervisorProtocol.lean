import Ttp.Containment
import Ttp.Footprint

/-!
What the supervisor's loop keeps to, whatever its calls come back with: when it says that the
session is healthy, when it checks and heals, when it tells the service manager that it is
ready, and what it does with an event.
-/
namespace Ttp.SupervisorProtocol
open Ttp.Python Ttp.Program Ttp.Machine Ttp.State Ttp.Records Ttp.SessionSafety Ttp.Watchdog
open Ttp.Containment (recordOf unreadable readError_ofExcept decoded_ofExcept)
open Ttp.Evidence (Diagnostic)
open Ttp.SessionSettings (WatchdogSettings seconds)

/-! ### What was seen -/

/-- What the supervisor's calls have come back with. -/
structure Seen where
  /-- Inside the transition lock, where a containment reads for itself. -/
  inside : Bool := false
  /-- The boot identity that was read last. -/
  boot : Option String := none
  /-- This turn found no emergency record of the session. -/
  unlatched : Bool := false
  /-- What the last check of this turn found. -/
  failed : Option (String × String) := none
  /-- Tor was healed in this turn. -/
  healed : Bool := false
  /-- The last check passed, and the clock was not read since. -/
  passed : Bool := false
  /-- The clock after the last check, if that passed and nothing was healed and no event reported since. -/
  stamp : Option ℚ := none
  /-- An event was reported, and the record not invalidated since. -/
  event : Bool := false
  subscribed : Bool := false
  /-- An evaluation or a containment was completed. -/
  completed : Bool := false
  /-- `READY=1` was sent. -/
  announced : Bool := false
  /-- The boot clock never read below zero. -/
  sane : Bool := true

/-- The data of a record. -/
def dataOf : Json → Obj
  | .obj payload =>
    match Obj.get payload "data" with
    | .obj data => data
    | _ => []
  | _ => []

/-- A record that says healthy has the time of a check that passed, and no event was reported since. -/
def vouched (l : Seen) (data : Obj) : Bool :=
  !(data.get "value").isStr "healthy" || (!l.event && match data.get "observed_at", l.stamp with
    | .float (.finite q), some t => q == t
    | _, _ => false)

/-- The time of an evaluation. -/
def isTime : Json → Bool
  | .float _ => true
  | _ => false

variable (py : Interpreter)

/-- The record of the emergency was read as none. -/
def absent (session : String) (boot : Option String) (file : Except Exc Loaded) : Bool :=
  match boot with
  | none => false
  | some boot =>
    match file with
    | .ok file => match recordOf py .emergency session boot file with
      | .ok none => true
      | _ => false
    | .error e => match unreadable .emergency e with
      | .ok none => true
      | _ => false

/-- What the supervisor's calls may be, with what they come back with. -/
def next (l : Seen) : (o : Op) → o.Res → Option Seen
  | .acquire _, .ok _ => some { l with inside := true }
  | .release, _ => some { l with inside := false }
  -- a turn begins
  | .readLock, _ => if l.inside then some l else some { l with unlatched := false, failed := none, healed := false }
  | .bootId, boot => if l.inside then some l else some { l with boot := boot.toOption }
  | .readRecord .emergency session, file =>
    if l.inside then some l else some { l with unlatched := absent py session l.boot file }
  | .clock, now =>
    if l.inside then some l
    else if l.passed then some { l with passed := false, stamp := some now, sane := l.sane && decide (0 ≤ now) }
    else some { l with sane := l.sane && decide (0 ≤ now) }
  | .integrity, found =>
    if l.unlatched then
      match found with
      | .ok none => some { l with failed := none, passed := true, stamp := none }
      | .ok (some failed) => some { l with failed := some failed, passed := false, stamp := none }
      | .error _ => some { l with failed := none, passed := false, stamp := none }
    else none
  | .heal, _ =>
    if l.unlatched && l.failed.map (·.1) == some "tor" &&
      !l.healed then some { l with healed := true, passed := false, stamp := none }
    else none
  | .writeRecord .watchdog _ payload, written =>
    if vouched l (dataOf payload) then
      match written with
      | .ok _ => some { l with
          event := l.event && !(Obj.get (dataOf payload) "value").isStr "unknown"
          completed := l.completed || isTime (Obj.get (dataOf payload) "observed_at") }
      | .error _ => some l
    else none
  | .select _, true => some { l with event := true, passed := false, stamp := none }
  | .external what, done =>
    if what = "subscribe to events" then some { l with subscribed := l.subscribed || done.isOk }
    else if what = "drain the events" then if l.event then none else some l
    else if what = "notify progress, ready" then
      if l.subscribed && !l.announced && (l.completed || !l.sane) then some { l with announced := true } else none
    else some l
  | _, _ => some l

/-! ### Programs that change nothing -/

section
variable {py}
variable {l : Seen} {α : Type} {p : Py α} {lock : Obj} {session : String}

/-- Inside the transition lock, what a containment does changes nothing. -/
theorem inside_same (inside : l.inside = true) : Footprint.Acting fun o => ∀ r, next py l o r = some l where
  boot := by simp [next, inside]
  clock := by simp [next, inside]
  reads := by simp [next, inside]
  writes := by simp [next]
  installs := by simp [next]
  lists := by simp [next]

theorem transition_same {timeout : ℚ} (outside : l.inside = false)
    (used : p.Uses fun o => ∀ r, next py { l with inside := true } o r = some { l with inside := true }) :
    (transition timeout p).Follows (next py) l fun _ l' => l' = l := by
  have left : { ({ l with inside := true } : Seen) with inside := false } = l := by
    cases l
    cases outside
    rfl
  unfold transition
  split
  · rfl
  apply follows_bind (Q := fun x l' => (∀ a, x = .ok a → l' = { l with inside := true }) ∧ ∀ e, x = .error e → l' = l)
  · apply checked_follows
    rintro (e | _)
    · refine ⟨l, rfl, ?_⟩
      constructor
      · rintro _ ⟨⟩
      · exact fun _ _ => rfl
    · refine ⟨_, rfl, ?_⟩
      constructor
      · exact fun _ _ => rfl
      · rintro _ ⟨⟩
  · rintro a _ ⟨entered, _⟩
    obtain rfl := entered a rfl
    apply follows_always (follows_of_uses used fun o r same => same r)
    rintro x _ rfl _
    exact ⟨_, rfl, left⟩
  · exact fun e _ reached => reached.2 e rfl

/-- A containment changes nothing of what was seen. -/
theorem requestEmergency_same {cause : Diagnostic} {repair required : Bool} (outside : l.inside = false) :
    (requestEmergency py lock cause repair required).Follows (next py) l fun _ l' => l' = l := by
  unfold requestEmergency
  split
  · rfl
  apply follows_bind (Q := fun _ l' => l' = l) ((follows_ofExcept _).mpr rfl) ?_ fun _ _ same => same
  rintro ⟨timeout, policy⟩ l rfl
  apply follows_bind (Q := fun _ l' => l' = l) ?_ ?_ fun _ _ same => same
  · apply follows_handle (transition_same outside (Footprint.containLocked_uses (inside_same rfl) ?_ ?_))
    · exact fun _ _ same => same
    · rintro e l rfl
      split <;> rfl
    · exact fun _ => rfl
    · exact fun _ => rfl
  · rintro contained l rfl
    split
    case h_1 => rfl
    case h_2 result newCause =>
      have emits : Prog.Uses (fun o => ∀ r, next py l o r = some l) (notify lock cause result newCause) :=
        Footprint.notify_uses fun _ _ => rfl
      exact follows_of_uses emits fun o r same => same r

/-! ### The record -/

theorem dataOf_envelope {boot : String} {now : ℚ} {data : Obj} : dataOf (envelope session boot now data) = data := by
  simp [dataOf, envelope, Obj.get, find?_cons]

/-- After a record with this data was written. -/
def wrote (l : Seen) (data : Obj) (boot : Option String) (sane : Bool) : Seen :=
  { l with
    boot
    sane := l.sane && sane
    event := l.event && !(data.get "value").isStr "unknown"
    completed := l.completed || isTime (data.get "observed_at") }

theorem write_follows {data : Obj} (outside : l.inside = false) (idle : l.passed = false)
    (allowed : vouched l data = true) :
    (Records.write py .watchdog session data).Follows (next py) l fun x l' =>
      ∀ done, x = .ok done → ∃ boot sane, l' = wrote l data boot sane := by
  have failing {e : Exc} {l' : Seen} : ∀ done : Unit, (Except.error e : Except Exc Unit) = .ok done → ∃ boot sane,
      l' = wrote l data boot sane :=
    fun _ same => by cases same
  cases named : filename py session with
  | error e =>
    rw [Records.write, named]
    exact failing
  | ok _ =>
  rw [Records.write, bind_filename py named]
  apply follows_handle (Q := fun x l' => ∀ done, x = .ok done → ∃ boot sane, l' = wrote l data boot sane)
  · apply follows_bind (Q := fun _ l' => ∃ boot, l' = { l with boot := boot })
    · apply checked_follows
      intro boot
      exact ⟨{ l with boot := boot.toOption }, by simp [next, outside], _, rfl⟩
    · rintro boot _ ⟨known, rfl⟩
      apply follows_bind (Q := fun _ l' => ∃ sane, l' = { l with boot := known, sane := l.sane && sane })
      · intro now
        exact ⟨_, by simp only [next, outside, idle]; rfl, decide (0 ≤ now), rfl⟩
      · rintro now _ ⟨sane, rfl⟩
        apply follows_bind (Q := fun _ l' => l' = { l with boot := known, sane := l.sane && sane })
          ((follows_ofExcept _).mpr rfl)
        · rintro _ _ rfl
          apply checked_follows
          have vouched : vouched { l with boot := known, sane := l.sane && sane } data = true := allowed
          intro written
          cases written with
          | ok done =>
            refine ⟨wrote l data known sane, ?_, fun _ _ => ⟨known, sane, rfl⟩⟩
            simp only [next, dataOf_envelope, vouched, if_true]
            rfl
          | error e =>
            refine ⟨{ l with boot := known, sane := l.sane && sane }, ?_, failing⟩
            simp only [next, dataOf_envelope, vouched, if_true]
        · exact fun _ _ _ => failing
      · exact fun _ _ _ => failing
    · exact fun _ _ _ => failing
  · exact fun _ _ reached => reached
  · intro e l' _
    split <;> exact failing

section
variable {observation : Obj} {value reason : String} {stamp : Json}

theorem said_value : (observation.update [("value", .str value), ("reason", .str reason), ("observed_at", stamp)]).get
    "value" = .str value := by
  simp [Obj.update]

theorem said_time : (observation.update [("value", .str value), ("reason", .str reason), ("observed_at", stamp)]).get
    "observed_at" = stamp := by
  simp [Obj.update]

/-- The record does not say healthy. -/
def Unwell (data : Obj) : Prop := (data.get "value").isStr "healthy" = false

theorem vouched_unwell {data : Obj} (unwell : Unwell data) : vouched l data = true := by
  rw [vouched, unwell]
  rfl

theorem say_unknown (outside : l.inside = false) (idle : l.passed = false) :
    (say py session observation "unknown" reason false).Follows (next py) l fun x l' => ∀ data, x = .ok data →
      Unwell data ∧ ∃ boot sane, l' = { l with boot := boot, sane := l.sane && sane, event := false } := by
  have unwell : Unwell (observation.update
      [("value", .str "unknown"), ("reason", .str reason), ("observed_at", .null)]) := by
    rw [Unwell, said_value]
    rfl
  apply follows_bind (Q := fun x l' => x = .ok .null ∧ l' = l)
  · exact (follows_pure _).mpr ⟨rfl, rfl⟩
  · rintro _ _ ⟨⟨⟩, rfl⟩
    apply follows_bind (write_follows outside idle (vouched_unwell unwell))
    · rintro _ _ written _ ⟨⟩
      obtain ⟨boot, sane, rfl⟩ := written _ rfl
      refine ⟨unwell, boot, sane, ?_⟩
      simp [wrote, said_value, said_time, isTime, Json.isStr]
    · rintro e _ _ _ ⟨⟩
  · rintro e _ ⟨⟨⟩, _⟩

theorem say_emergency (outside : l.inside = false) (idle : l.passed = false) :
    (say py session observation "emergency" reason true).Follows (next py) l fun x l' => ∀ data, x = .ok data →
      Unwell data ∧ ∃ boot sane, l' = { l with boot := boot, sane := l.sane && sane, completed := true } := by
  apply follows_bind (Q := fun x l' => ∃ now sane, x = .ok (.float (.finite now)) ∧
    l' = { l with sane := l.sane && sane })
  · intro now
    exact ⟨{ l with sane := l.sane && decide (0 ≤ now) }, by simp [next, outside, idle], now, _, rfl, rfl⟩
  · rintro _ _ ⟨now, before, ⟨⟩, rfl⟩
    have unwell : Unwell (observation.update
        [("value", .str "emergency"), ("reason", .str reason), ("observed_at", .float (.finite now))]) := by
      rw [Unwell, said_value]
      rfl
    apply follows_bind (write_follows (l := { l with sane := l.sane && before }) outside idle (vouched_unwell unwell))
    · rintro _ _ written _ ⟨⟩
      obtain ⟨boot, sane, rfl⟩ := written _ rfl
      refine ⟨unwell, boot, before && sane, ?_⟩
      simp [wrote, said_value, said_time, isTime, Json.isStr, Bool.and_assoc]
    · rintro e _ _ _ ⟨⟩
  · rintro e _ ⟨_, _, ⟨⟩, _⟩

/-- Healthy is said with the time after a check that passed. -/
theorem say_healthy (outside : l.inside = false) (passed : l.passed = true) (quiet : l.event = false) :
    (say py session observation "healthy" reason true).Follows (next py) l fun x l' =>
      ∀ data, x = .ok data → vouched l' data = true ∧
      ∃ boot now sane, l' = { l with
        passed := false, stamp := some now, boot := boot, sane := l.sane && sane, completed := true } := by
  apply follows_bind (Q := fun x l' => ∃ now sane, x = .ok (.float (.finite now)) ∧
    l' = { l with passed := false, stamp := some now, sane := l.sane && sane })
  · intro now
    exact ⟨{ l with passed := false, stamp := some now, sane := l.sane && decide (0 ≤ now) },
      by simp [next, outside, passed], now, _, rfl, rfl⟩
  · rintro _ _ ⟨now, before, ⟨⟩, rfl⟩
    have allowed (boot : Option String) (sane completed : Bool) :
        vouched { l with passed := false, stamp := some now, boot := boot, sane := sane, completed := completed }
          (observation.update [("value", .str "healthy"), ("reason", .str reason),
            ("observed_at", .float (.finite now))]) = true := by
      simp [vouched, said_time, quiet]
    apply follows_bind (write_follows (l := { l with passed := false, stamp := some now, sane := l.sane && before })
      outside rfl (allowed _ _ _))
    · rintro _ _ written _ ⟨⟩
      obtain ⟨boot, sane, rfl⟩ := written _ rfl
      have same : wrote { l with passed := false, stamp := some now, sane := l.sane && before }
          (observation.update [("value", .str "healthy"), ("reason", .str reason),
            ("observed_at", .float (.finite now))]) boot sane =
          { l with passed := false, stamp := some now, boot := boot, sane := l.sane && (before && sane), completed := true } := by
        simp [wrote, said_value, said_time, isTime, Json.isStr, Bool.and_assoc, quiet]
      rw [same]
      exact ⟨allowed _ _ _, boot, now, _, rfl⟩
    · rintro e _ _ _ ⟨⟩
  · rintro e _ ⟨_, _, ⟨⟩, _⟩

end

/-! ### A turn -/

/-- Between the steps of a turn. -/
structure Steady (ready : Bool) (l : Seen) : Prop where
  outside : l.inside = false
  idle : l.passed = false
  quiet : l.event = false
  subscribed : l.subscribed = true
  announced : l.announced = ready

/-- A record was published that says no more than what was seen. -/
structure Published (ready : Bool) (data : Obj) (l : Seen) : Prop extends Steady ready l where
  vouched : vouched l data = true

section
variable {observation : Obj} {ready : Bool}

theorem contain_follows {cause : Diagnostic} (steady : Steady ready l) :
    (contain py lock session observation cause).Follows (next py) l fun x l' => ∀ data, x = .ok data →
      Published ready data l' ∧ l'.completed = true := by
  apply follows_bind (requestEmergency_same steady.outside)
  · rintro result l rfl
    refine follows_mono (say_emergency steady.outside steady.idle) fun x l' said data same => ?_
    obtain ⟨unwell, boot, sane, rfl⟩ := said data same
    exact ⟨⟨⟨steady.outside, steady.idle, steady.quiet, steady.subscribed, steady.announced⟩, vouched_unwell unwell⟩,
      rfl⟩
  · rintro e _ _ _ ⟨⟩

theorem notified_follows : (onlyIf ready (checked (step (.external "notify progress")))).Follows (next py) l
    fun _ l' => l' = l := by
  unfold onlyIf
  split
  · exact checked_follows fun _ => ⟨l, by simp [next], rfl⟩
  · rfl

/-- After a check of the turn, with what failed in the end. -/
structure Checked (ready : Bool) (failed : Option (String × String)) (l : Seen) : Prop where
  outside : l.inside = false
  passed : l.passed = failed.isNone
  quiet : l.event = false
  subscribed : l.subscribed = true
  announced : l.announced = ready

/-- Tor is healed once, where the last check found it failed, and nothing passes without another check. -/
theorem heal_follows {detail : String} (steady : Steady ready l) (unlatched : l.unlatched = true)
    (failed : l.failed = some ("tor", detail))
    (first : l.healed = false) : (heal (some ("tor", detail)) ready).Follows (next py) l fun x l' =>
    ∀ failed, x = .ok failed →
      Checked ready failed l' := by
  have found (failed last : Option (String × String)) :
      Checked ready failed { l with healed := true, passed := failed.isNone, stamp := none, failed := last } :=
    ⟨steady.outside, rfl, steady.quiet, steady.subscribed, steady.announced⟩
  unfold heal
  apply follows_bind (Q := fun _ l' => l' = { l with healed := true, passed := false, stamp := none })
  · intro r
    exact ⟨_, by simp [next, unlatched, failed, first], rfl⟩
  · rintro r _ rfl
    split
    · split
      · rintro _ ⟨⟩
        exact found (some _) _
      · rintro _ ⟨⟩
    · rintro _ ⟨⟩
      exact found (some _) _
    · apply follows_bind (Q := fun _ l' => l' = { l with healed := true, passed := false, stamp := none })
      · exact notified_follows
      · rintro _ _ rfl
        apply follows_bind (Q := fun x l' => ∃ found, x = .ok found ∧ l' = { l with
          healed := true, stamp := none, passed := found.toOption.any Option.isNone, failed := found.toOption.join })
        · intro second
          rcases second with e | _ | f <;> exact ⟨_, by simp only [next, unlatched]; rfl, _, rfl, rfl⟩
        · rintro _ _ ⟨second, ⟨⟩, rfl⟩
          split
          · split
            · rintro _ ⟨⟩
              exact found (some _) _
            · rintro _ ⟨⟩
          case h_2 again =>
            rintro _ ⟨⟩
            exact found again again
        · rintro e _ ⟨_, ⟨⟩, _⟩
      · rintro e _ _ _ ⟨⟩
  · rintro e _ _ _ ⟨⟩

theorem recover_follows {detail : String} (steady : Steady ready l) (unlatched : l.unlatched = true)
    (failed : l.failed = some ("tor", detail))
    (first : l.healed = false) : (do
      let observation ← say py session observation "unknown" "watchdog.tor_healing" false
      onlyIf ready (checked (step (.external "notify progress")))
      let failed ← heal (some ("tor", detail)) ready
      pure (failed, observation) : Py (Option (String × String) × Obj)).Follows (next py) l fun x l' =>
        ∀ found, x = .ok found →
        Checked ready found.1 l' := by
  apply follows_bind (say_unknown steady.outside steady.idle)
  · intro healing _ said
    obtain ⟨_, boot, sane, rfl⟩ := said healing rfl
    apply follows_bind notified_follows
    · rintro _ _ rfl
      apply follows_bind (Q := fun x l' => ∀ failed, x = .ok failed → Checked ready failed l')
      · exact heal_follows ⟨steady.outside, steady.idle, rfl, steady.subscribed, steady.announced⟩
          unlatched failed first
      · rintro _ l' found _ ⟨⟩
        exact found _ rfl
      · rintro e _ _ _ ⟨⟩
    · rintro e _ _ _ ⟨⟩
  · rintro e _ _ _ ⟨⟩

theorem recovered_follows {recovering : Bool} :
    (onlyIf recovering (do let _ ← checked (step (.emit "recovered" false)))).Follows (next py) l
      fun _ l' => l' = l := by
  have emits : Prog.Uses (fun o => ∀ r, next py l o r = some l)
      (onlyIf recovering (do let _ ← checked (step (.emit "recovered" false)))) :=
    onlyIf_uses (uses_bind (checked_uses ⟨fun _ => rfl, fun _ => trivial⟩) fun _ => trivial)
  exact follows_of_uses emits fun o r same => same r

/-- The end of an evaluation: what failed is contained, and what passed is published. -/
theorem conclude_follows {failed : Option (String × String)} {recovering : Bool} :
    Checked ready failed l → (match failed with
    | some (component, _) => contain py lock session observation
        (superviseCause component s!"watchdog.{component}_integrity_failed")
    | none => do
      let observation ← say py session observation "healthy" "watchdog.local_integrity_verified" true
      onlyIf recovering (do let _ ← checked (step (.emit "recovered" false)))
      pure observation : Py Obj).Follows (next py) l fun x l' =>
        ∀ data, x = .ok data → Published ready data l' ∧ l'.completed = true := by
  intro found
  cases failed with
  | some f => exact contain_follows ⟨found.outside, found.passed, found.quiet, found.subscribed, found.announced⟩
  | none =>
    apply follows_bind (say_healthy found.outside found.passed found.quiet)
    · intro data l' said
      obtain ⟨vouched, boot, now, sane, rfl⟩ := said data rfl
      apply follows_bind recovered_follows
      · rintro _ _ rfl _ ⟨⟩
        exact ⟨⟨⟨found.outside, rfl, found.quiet, found.subscribed, found.announced⟩, vouched⟩, rfl⟩
      · rintro e _ _ _ ⟨⟩
    · rintro e _ _ _ ⟨⟩

theorem evaluate_follows (steady : Steady ready l) (unlatched : l.unlatched = true) (first : l.healed = false) :
    (evaluate py lock session observation ready).Follows (next py) l fun x l' => ∀ data, x = .ok data →
      Published ready data l' ∧ l'.completed = true := by
  unfold evaluate
  apply follows_bind (say_unknown steady.outside steady.idle)
  · intro pending l₁ said
    obtain ⟨_, boot, sane, rfl⟩ := said pending rfl
    apply follows_bind (Q := fun x l' => ∃ found, x = .ok found ∧ l' = { l with
      boot := boot, sane := l.sane && sane, event := false, stamp := none
      passed := found.toOption.any Option.isNone, failed := found.toOption.join })
    · intro found
      rcases found with e | _ | f <;> exact ⟨_, by simp only [next, unlatched]; rfl, _, rfl, rfl⟩
    · rintro _ _ ⟨found, ⟨⟩, rfl⟩
      split
      case h_1 e =>
        split
        · exact contain_follows ⟨steady.outside, rfl, rfl, steady.subscribed, steady.announced⟩
        · rintro _ ⟨⟩
      case h_2 result =>
        apply follows_bind (Q := fun x l' => ∀ found, x = .ok found → Checked ready found.1 l')
        · by_cases recovering : (result.map (·.1) == some "tor") = true
          · obtain ⟨detail, rfl⟩ : ∃ detail, result = some ("tor", detail) := by
              rcases result with _ | ⟨component, detail⟩
              · simp at recovering
              · exact ⟨detail, by simpa using recovering⟩
            simp only [recovering, if_true]
            exact recover_follows ⟨steady.outside, rfl, rfl, steady.subscribed, steady.announced⟩ unlatched rfl first
          · simp only [if_neg recovering]
            rintro _ ⟨⟩
            exact ⟨steady.outside, rfl, rfl, steady.subscribed, steady.announced⟩
        · rintro ⟨failed, data⟩ l' found
          exact conclude_follows (found _ rfl)
        · rintro e _ _ _ ⟨⟩
    · rintro e _ ⟨_, ⟨⟩, _⟩
  · rintro e _ _ _ ⟨⟩

/-! ### The latch -/

/-- A latch that is read as none leaves the turn unlatched. -/
theorem read_follows (outside : l.inside = false) : (Records.read py .emergency session).Follows (next py) l fun x l' =>
    ∃ boot unlatched, l' = { l with boot := boot, unlatched := unlatched } ∧ (x = .ok none → unlatched = true) := by
  cases named : filename py session with
  | error e =>
    rw [Records.read, named]
    exact ⟨l.boot, l.unlatched, rfl, fun same => by cases same⟩
  | ok _ =>
  rw [Records.read, bind_filename py named]
  apply follows_bind (Q := fun x l' => ∃ known, l' = { l with boot := known } ∧ ∀ boot, x = .ok boot →
    known = some boot)
  · apply follows_handle (Q := fun x l' => ∃ known, l' = { l with boot := known } ∧ ∀ boot, x = .ok boot →
      known = some boot)
    · apply checked_follows
      intro r
      refine ⟨{ l with boot := r.toOption }, by simp [next, outside], _, rfl, ?_⟩
      rintro boot same
      cases r with
      | error e => cases same
      | ok b =>
        cases same
        rfl
    · exact fun _ _ known => known
    · rintro e _ ⟨known, rfl, _⟩
      split
      · exact ⟨known, rfl, fun _ same => by cases same⟩
      · exact ⟨known, rfl, fun _ same => by cases same⟩
  · rintro boot _ ⟨known, rfl, same⟩
    obtain rfl := same boot rfl
    intro file
    refine ⟨{ l with boot := some boot, unlatched := absent py session (some boot) file }, by simp [next, outside], ?_⟩
    cases file with
    | error e =>
      show Prog.Follows (next py) ((readError .emergency e).getD (.raise e)) _ _
      rw [readError_ofExcept, follows_ofExcept]
      refine ⟨_, _, rfl, fun none => ?_⟩
      simp only [absent, none]
    | ok file =>
      show Prog.Follows (next py) (Prog.handle (do
        let content ← Prog.ofExcept file.loads
        let payload ← Prog.ofExcept (payloadOf py content)
        if payload.sessionId = session ∧ payload.bootId = boot then pure (some payload) else pure none)
          (readError .emergency)) _ _
      rw [decoded_ofExcept, follows_ofExcept]
      refine ⟨_, _, rfl, fun none => ?_⟩
      simp only [absent, none]
  · rintro e _ ⟨known, rfl, _⟩
    exact ⟨known, l.unlatched, rfl, fun same => by cases same⟩

theorem emergencyLatched_follows (outside : l.inside = false) :
    (emergencyLatched py lock).Follows (next py) l fun x l' =>
    ∃ boot unlatched, l' = { l with boot := boot, unlatched := unlatched } ∧ (x = .ok false → unlatched = true) := by
  unfold emergencyLatched
  split
  · exact ⟨l.boot, l.unlatched, rfl, fun same => by cases same⟩
  apply follows_bind (read_follows outside)
  · rintro record _ ⟨boot, unlatched, rfl, none⟩
    split
    · exact ⟨boot, unlatched, rfl, fun _ => none rfl⟩
    · split <;> exact ⟨boot, unlatched, rfl, fun same => by cases same⟩
  · rintro e _ ⟨boot, unlatched, rfl, _⟩
    exact ⟨boot, unlatched, rfl, fun same => by cases same⟩

/-- What a turn knows of the latch. -/
structure Latched (ready latched : Bool) (data : Obj) (l : Seen) : Prop extends Published ready data l where
  free : latched = false → l.unlatched = true ∧ l.healed = false

theorem latchedNow_follows (published : Published ready observation l) (first : l.healed = false) :
    (latchedNow py lock session observation).Follows (next py) l fun x l' =>
      ∀ found, x = .ok found → Latched ready found.1 found.2 l' := by
  have steady := published.toSteady
  unfold latchedNow
  apply follows_bind (Q := fun x l' => ∃ boot unlatched, l' = { l with boot := boot, unlatched := unlatched } ∧
    (x = .ok (some false) → unlatched = true))
  · apply follows_handle (Q := fun x l' => ∃ boot unlatched, l' = { l with boot := boot, unlatched := unlatched } ∧
      (x = .ok (some false) → unlatched = true))
    · apply follows_bind (emergencyLatched_follows steady.outside)
      · rintro latched _ ⟨boot, unlatched, rfl, none⟩
        refine ⟨boot, unlatched, rfl, ?_⟩
        rintro ⟨⟩
        exact none rfl
      · rintro e _ ⟨boot, unlatched, rfl, _⟩
        exact ⟨boot, unlatched, rfl, fun same => by cases same⟩
    · exact fun _ _ reached => reached
    · rintro e _ ⟨boot, unlatched, rfl, _⟩
      split <;> exact ⟨boot, unlatched, rfl, fun same => by cases same⟩
  · rintro found _ ⟨boot, unlatched, rfl, none⟩
    split
    · rintro _ ⟨⟩
      refine ⟨⟨⟨steady.outside, steady.idle, steady.quiet, steady.subscribed, steady.announced⟩, published.vouched⟩, ?_⟩
      rintro rfl
      exact ⟨none rfl, first⟩
    · apply follows_bind (Q := fun x l' => ∀ data, x = .ok data → Published ready data l' ∧ l'.completed = true)
      · exact contain_follows ⟨steady.outside, steady.idle, steady.quiet, steady.subscribed, steady.announced⟩
      · rintro data l' contained _ ⟨⟩
        exact ⟨(contained data rfl).1, fun same => by cases same⟩
      · rintro e _ _ _ ⟨⟩
  · rintro e _ _ _ ⟨⟩

theorem check_follows {settings : WatchdogSettings} {latched : Bool} {lastCheck : ℚ}
    (turn : Latched ready latched observation l) :
    (check py lock session settings latched ready lastCheck observation).Follows (next py) l fun x l' =>
      ∀ found, x = .ok found →
      Published ready found.1 l' ∧
      (lastCheck = -seconds settings.checkInterval → l'.completed = true ∨ l'.sane = false) := by
  have steady := turn.toSteady
  unfold check
  split
  · apply follows_bind (contain_follows steady)
    · rintro data l' contained _ ⟨⟩
      exact ⟨(contained data rfl).1, fun _ => .inl (contained data rfl).2⟩
    · rintro e _ _ _ ⟨⟩
  case isFalse unlatched =>
    obtain ⟨unlatched, first⟩ := turn.free (by simpa using unlatched)
    apply follows_bind (Q := fun x l' => ∃ now, x = .ok now ∧ l' = { l with sane := l.sane && decide (0 ≤ now) })
    · intro now
      exact ⟨{ l with sane := l.sane && decide (0 ≤ now) }, by simp [next, steady.outside, steady.idle], now, rfl, rfl⟩
    · rintro now _ ⟨_, ⟨⟩, rfl⟩
      split
      · apply follows_bind (Q := fun x l' => ∀ data, x = .ok data → Published ready data l' ∧ l'.completed = true)
        · exact evaluate_follows ⟨steady.outside, steady.idle, steady.quiet, steady.subscribed, steady.announced⟩
            unlatched first
        · intro data l' evaluated
          obtain ⟨published, completed⟩ := evaluated data rfl
          apply follows_bind (Q := fun _ l'' => ∃ sane, l'' = { l' with sane := sane })
          · intro done
            exact ⟨{ l' with sane := l'.sane && decide (0 ≤ done) },
              by simp [next, published.outside, published.idle], _, rfl⟩
          · rintro done _ ⟨sane, rfl⟩ _ ⟨⟩
            refine ⟨⟨⟨published.outside, published.idle, published.quiet, published.subscribed, published.announced⟩,
              published.vouched⟩, ?_⟩
            exact fun _ => .inl completed
          · rintro e _ _ _ ⟨⟩
        · rintro e _ _ _ ⟨⟩
      case isFalse early =>
        rintro _ ⟨⟩
        refine ⟨⟨⟨steady.outside, steady.idle, steady.quiet, steady.subscribed, steady.announced⟩, turn.vouched⟩,
          fun initial => .inr ?_⟩
        have negative : ¬0 ≤ now := by
          rw [initial] at early
          intro positive
          apply early
          rw [sub_neg_eq_add]
          exact le_add_of_nonneg_left positive
        simp [negative]
    · rintro e _ ⟨_, ⟨⟩, _⟩

/-! ### The loop -/

/-- Between two turns. -/
structure Going (settings : WatchdogSettings) (s : Loop) (l : Seen) :
    Prop extends Published s.ready s.observation l where
  initial : s.ready = false → s.lastCheck = -seconds settings.checkInterval

theorem readLock_follows (outside : l.inside = false) : (readLock true).Follows (next py) l fun _ l' =>
    l' = { l with unlatched := false, failed := none, healed := false } := by
  apply follows_bind (Q := fun _ l' => l' = { l with unlatched := false, failed := none, healed := false })
  · intro file
    exact ⟨{ l with unlatched := false, failed := none, healed := false }, by simp [next, outside], rfl⟩
  · intro file l' read
    exact (follows_ofExcept _).mpr read
  · exact fun _ _ read => read

theorem published_wrote {data : Obj} {boot : Option String} {sane : Bool} (published : Published ready data l) :
    Published ready data (wrote l data boot sane) := by
  have quiet : (wrote l data boot sane).event = false := by simp [wrote, published.quiet]
  refine ⟨⟨published.outside, published.idle, quiet, published.subscribed, published.announced⟩, ?_⟩
  have same : vouched (wrote l data boot sane) data = vouched l data := by
    simp only [vouched, quiet, published.quiet]
    rfl
  rw [same]
  exact published.vouched

/-- `READY=1` is sent at the end of the first turn, which has evaluated or contained. -/
theorem ready_follows (published : Published ready observation l)
    (completed : ready = false → l.completed = true ∨ l.sane = false) :
    (checked (step (.external (if ready then "notify progress" else "notify progress, ready")))).Follows
      (next py) l fun _ l' =>
      Published true observation l' := by
  apply checked_follows
  intro done
  cases ready with
  | true => exact ⟨l, by simp [next], published⟩
  | false =>
    have due : (l.subscribed && !l.announced && (l.completed || !l.sane)) = true := by
      rcases completed rfl with ended | insane
      · simp [published.subscribed, published.announced, ended]
      · simp [published.subscribed, published.announced, insane]
    refine ⟨{ l with announced := true }, by simp [next, due], ?_⟩
    exact ⟨⟨published.outside, published.idle, published.quiet, published.subscribed, rfl⟩, published.vouched⟩

theorem drain_follows (quiet : l.event = false) :
    (checked (step (.external "drain the events"))).Follows (next py) l fun _ l' => l' = l :=
  checked_follows fun _ => ⟨l, by simp [next, quiet], rfl⟩

/-- An event that was reported invalidates the record before it is drained. -/
theorem events_follows {settings : WatchdogSettings} {latched : Bool} {lastCheck : ℚ}
    (published : Published true observation l) : (do
      let now ← step .clock
      if ← step (.select (delay settings latched now lastCheck)) then
        let observation ← say py session observation "unknown" "watchdog.event_invalidated" false
        checked (step (.external "drain the events"))
        pure (some ⟨observation, true, -seconds settings.checkInterval⟩)
      else pure (some ⟨observation, true, lastCheck⟩) : Py (Option Loop)).Follows (next py) l fun x l' =>
        ∀ s', x = .ok (some s') → Going settings s' l' := by
  apply follows_bind (Q := fun _ l' => Published true observation l')
  · intro now
    refine ⟨{ l with sane := l.sane && decide (0 ≤ now) }, by simp [next, published.outside, published.idle], ?_⟩
    exact ⟨⟨published.outside, published.idle, published.quiet, published.subscribed, published.announced⟩,
      published.vouched⟩
  · rintro now l published (_ | _)
    · refine ⟨l, rfl, ?_⟩
      rintro _ ⟨⟩
      exact ⟨published, fun initial => by cases initial⟩
    · refine ⟨{ l with event := true, passed := false, stamp := none }, rfl, ?_⟩
      have outside : ({ l with event := true, passed := false, stamp := none } : Seen).inside = false :=
        published.outside
      apply follows_bind (say_unknown outside rfl)
      · intro data _ said
        obtain ⟨unwell, boot, sane, rfl⟩ := said data rfl
        apply follows_bind (drain_follows ?_)
        · rintro _ _ rfl _ ⟨⟩
          exact ⟨⟨⟨published.outside, rfl, rfl, published.subscribed, published.announced⟩, vouched_unwell unwell⟩,
            fun _ => rfl⟩
        · rintro e _ _ _ ⟨⟩
        · rfl
      · rintro e _ _ _ ⟨⟩
  · rintro e _ _ _ ⟨⟩

/-- What one turn preserves. -/
theorem turn_follows {settings : WatchdogSettings} {s : Loop} (going : Going settings s l) :
    (turn py lock session settings s).Follows (next py) l fun x l' =>
      ∀ s', x = .ok (some s') → Going settings s' l' := by
  unfold turn
  apply follows_bind (Q := fun _ l' => Published s.ready s.observation l' ∧ l'.healed = false)
  · refine follows_mono (readLock_follows going.outside) ?_
    rintro _ _ rfl
    exact ⟨⟨⟨going.outside, going.idle, going.quiet, going.subscribed, going.announced⟩, going.vouched⟩, rfl⟩
  · rintro found l' ⟨published, first⟩
    split
    · rintro _ ⟨⟩
    split
    · rintro _ ⟨⟩
    apply follows_bind (latchedNow_follows published first)
    · rintro ⟨latched, data⟩ l' known
      apply follows_bind (check_follows (known _ rfl))
      · rintro ⟨data, lastCheck⟩ l' checked_
        obtain ⟨published, completed⟩ := checked_ _ rfl
        apply follows_bind (write_follows published.outside published.idle published.vouched)
        · rintro _ _ written
          obtain ⟨boot, sane, rfl⟩ := written _ rfl
          apply follows_bind (ready_follows (published_wrote published) ?_)
          · rintro _ l' published
            exact events_follows published
          · rintro e _ _ _ ⟨⟩
          · intro initial
            rcases completed (going.initial initial) with ended | insane
            · exact .inl (by simp [wrote, ended])
            · exact .inr (by simp [wrote, insane])
        · rintro e _ _ _ ⟨⟩
      · rintro e _ _ _ ⟨⟩
    · rintro e _ _ _ ⟨⟩
  · rintro e _ _ _ ⟨⟩

/-- What any number of turns keeps to. -/
theorem turns_follows {settings : WatchdogSettings} {s : Loop} (n : ℕ) (going : Going settings s l) :
    (turns py lock session settings n s).Follows (next py) l fun _ _ => True := by
  induction n generalizing s l with
  | zero => trivial
  | succ n ih =>
    apply follows_bind (turn_follows going)
    · intro found l' reached
      cases found with
      | none => trivial
      | some s => exact ih (reached s rfl)
    · exact fun _ _ _ => trivial

end

end

end Ttp.SupervisorProtocol
