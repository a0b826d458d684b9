import Ttp.LockJournal

/-!
The session lock over any sequence of commands, each of which may fail or be
cut off at any step: `start`, `restart`, `watchdog start`, `watchdog stop` and
`stop`. A lock that asks for a watchdog names its session, carries settings that
enable one and belongs to a session whose Tor is managed, as long as
`watchdog start` keeps away from sessions with an external daemon.
-/
namespace Ttp.LockShape
open Ttp.Python Ttp.Evidence Ttp.Program Ttp.Machine Ttp.State Ttp.Records Ttp.Firewall Ttp.SessionSafety Ttp.Watchdog
open Ttp.Lifecycle Ttp.Start Ttp.Footprint Ttp.LockJournal
open Ttp.SessionSettings (Settings fromSnapshot fromSnapshot_snapshot validate_enabled select_enabled)

/-! ### Commands in succession -/

inductive Call where
  | start (args : StartArgs)
  | restart (args : StartArgs)
  | watchdogStart (config : Except Exc Settings)
  | watchdogStop
  | stop

def program (py : Interpreter) : Call → Py Unit
  | .start args => startCommand py args
  | .restart args => restartCommand py args
  | .watchdogStart config => Watchdog.watchdogStart py config
  | .watchdogStop => Watchdog.watchdogStop
  | .stop => doStop py

/-- A process that is gone holds no lock; in between, anything but the session lock may change. -/
def commands (py : Interpreter) (able : Call → Journal → Prop) : Succession Op Op.Res Exc Journal Fate Call Unit where
  program := program py
  perform := perform
  able := able
  begins _ w := { w with host := { w.host with transition := none } }
  environ w w' := ∃ h, w' = { w with host := h } ∧ h.lock = w.host.lock

/-- A lock that asks for a watchdog has what a watchdog needs. -/
structure WellFormed (py : Interpreter) (lock : Obj) : Prop where
  session : ∃ s, lock.get "session_id" = .str s ∧ s ≠ ""
  settings : ∃ settings, fromSnapshot py (lock.get "settings") = .ok settings ∧ settings.watchdog.enabled = .bool true
  managed : lock.get "external_daemon" = .bool false

/-- `watchdog start` is not run on a session with an external daemon. -/
def Managed : Call → Journal → Prop
  | .watchdogStart _, w => ∀ lock : Obj, w.host.lock = .json (.obj lock) → lock.get "external_daemon" ≠ .bool true
  | _, _ => True

/-- What every lock has. -/
structure Sound (py : Interpreter) (lock : Obj) : Prop where
  session : ∃ s, lock.get "session_id" = .str s ∧ s ≠ ""
  external : ∃ b, lock.get "external_daemon" = .bool b
  requested : (lock.get "watchdog_requested").truthy = true → WellFormed py lock

/-- Every lock that was written is sound, and the one that is there was written. -/
structure Kept (py : Interpreter) (w : Journal) : Prop where
  sound : ∀ lock ∈ w.written, Sound py lock
  held : ∀ lock : Obj, w.host.lock = .json (.obj lock) → lock ∈ w.written

/-! ### Steps -/

section
variable {py : Interpreter} {w w' : Journal} {o : Op} {fate : Fate} {r : o.Res} {kinds : List Kind}

/-- A journal that is kept was kept before its last operation, if the lock was one that was written. -/
theorem perform_back (performed : perform w o fate = some (r, w')) (sound : ∀ lock ∈ w'.written, Sound py lock) :
    ∀ lock ∈ w.written, Sound py lock := by
  obtain ⟨_, _, noted⟩ := perform_some performed
  exact fun lock member => sound lock (noted ▸ note_grows member)

/-! ### Programs -/

theorem kept_closed : Closed (Kept py) := by
  rintro w w' ⟨written, lock⟩ kept
  refine ⟨written ▸ kept.sound, fun l there => ?_⟩
  rcases lock with same | gone
  · exact written ▸ kept.held l (same ▸ there)
  · simp [gone] at there

/-- A sound lock may be written. -/
theorem kept_accepts {data : Obj} (sound : Sound py data) : Accepts (Kept py) data := by
  intro w w' kept written lock
  refine ⟨fun l member => ?_, fun l there => ?_⟩
  · rw [written] at member
    rcases List.mem_cons.mp member with rfl | older
    · exact sound
    · exact kept.sound l older
  · obtain rfl : data = l := by simpa using lock.symm.trans there
    rw [written]
    exact List.mem_cons_self

/-- The program keeps the locks, wherever it starts. -/
abbrev Keeps {α : Type} (py : Interpreter) (p : Py α) : Prop := p.Preserves perform (Kept py)

/-- Keys that say nothing about the watchdog's needs. -/
theorem sound_update {lock changes : Obj} (sound : Sound py lock)
    (others : ∀ key ∈ ["session_id", "settings", "watchdog_requested", "external_daemon"], key ∉ changes.keys) :
    Sound py (lock.update changes) := by
  have session := @get_update _ _ lock "session_id" changes (others "session_id" (by simp))
  have settings := @get_update _ _ lock "settings" changes (others "settings" (by simp))
  have requested := @get_update _ _ lock "watchdog_requested" changes (others "watchdog_requested" (by simp))
  have external := @get_update _ _ lock "external_daemon" changes (others "external_daemon" (by simp))
  refine ⟨session ▸ sound.session, external ▸ sound.external, fun asked => ?_⟩
  obtain ⟨named, enabled, managed⟩ := sound.requested (requested ▸ asked)
  exact ⟨session ▸ named, settings ▸ enabled, external.trans managed⟩

theorem keeps_update {changes : Obj}
    (others : ∀ key ∈ ["session_id", "settings", "watchdog_requested", "external_daemon"], key ∉ changes.keys) :
    Keeps py (updateLockKeys changes) :=
  update_preserves kept_closed fun _ kept lock there =>
    kept_accepts (sound_update (kept.sound lock (kept.held lock there)) others)

/-! ### The programs of the commands -/

theorem stopWatchdog_keeps : Keeps py stopWatchdog := by
  refine preserves_bind (external_preserves kept_closed) fun _ =>
    preserves_bind (external_preserves kept_closed) fun _ => ?_
  refine preserves_bind (external_preserves kept_closed) fun _ => ?_
  exact preserves_catch (keeps_update (by decide)) fun _ => preserves_pure ()

theorem markStopping_keeps {lock : Obj} : Keeps py (markStopping lock) := by
  have marks (session : Json) : Keeps py (writeStopMarker session) :=
    preserves_bind (checked_preserves (preserves_op kept_closed (by decide))) fun _ =>
      checked_preserves (preserves_op kept_closed (by simp [kind]))
  refine preserves_bind (prepare_preserves kept_closed) fun _ => transition_preserves kept_closed ?_
  refine preserves_bind (readLock_preserves kept_closed) fun current => ?_
  split
  · exact preserves_raise _
  split
  · refine preserves_bind (keeps_update (by decide)) fun _ => ?_
    split
    · exact preserves_raise _
    · exact marks _
  · exact preserves_raise _

theorem doStop_keeps : Keeps py (doStop py) := by
  refine preserves_bind (readLock_preserves kept_closed) fun lock => ?_
  split
  · exact preserves_pure ()
  refine preserves_bind (onlyIf_preserves markStopping_keeps) fun _ => ?_
  refine preserves_bind (onlyIf_preserves (logged_preserves stopWatchdog_keeps)) fun _ => ?_
  exact preserves_bind (preserves_uses kept_closed tearDown_uses (by decide)) fun _ => external_preserves kept_closed

theorem watchdogStop_keeps : Keeps py Watchdog.watchdogStop := by
  refine preserves_bind (external_preserves kept_closed) fun _ =>
    preserves_bind (readLock_preserves kept_closed) fun found => ?_
  dsimp only
  split
  · exact preserves_raise _
  · exact stopWatchdog_keeps

/-- The lock asks for a watchdog, if there is one. -/
def Asked (w : Journal) : Prop := ∀ lock :
    Obj, w.host.lock = .json (.obj lock) → (lock.get "watchdog_requested").truthy = true

theorem wellFormed_update {lock changes : Obj} (formed : WellFormed py lock)
    (others : ∀ key ∈ ["session_id", "settings", "external_daemon"], key ∉ changes.keys) :
    WellFormed py (lock.update changes) where
  session := @get_update _ _ lock "session_id" changes (others "session_id" (by simp)) ▸ formed.session
  settings := @get_update _ _ lock "settings" changes (others "settings" (by simp)) ▸ formed.settings
  managed := (get_update changes (others "external_daemon" (by simp))).trans formed.managed

theorem asked_closed : Closed Asked := by
  rintro w w' ⟨_, lock⟩ asked l there
  rcases lock with same | gone
  · exact asked l (same ▸ there)
  · simp [gone] at there

/-- A lock that has what a watchdog needs may be written as one that asks for it. -/
theorem asked_accepts {data : Obj} (formed : WellFormed py data)
    (requested : (data.get "watchdog_requested").truthy = true) :
    Accepts (fun w => Kept py w ∧ Asked w) data := by
  intro w w' held written lock
  refine ⟨kept_accepts ⟨formed.session, ⟨false, formed.managed⟩, fun _ => formed⟩ w w' held.1 written lock,
    fun l there => ?_⟩
  obtain rfl : data = l := by simpa using lock.symm.trans there
  exact requested

/-- Where the lock asks for a watchdog already, starting one keeps it sound. -/
theorem startWatchdog_keeps : (startWatchdog py).Preserves perform fun w => Kept py w ∧ Asked w := by
  have both : Closed fun w => Kept py w ∧ Asked w :=
    fun w w' dropped held => ⟨kept_closed w w' dropped held.1, asked_closed w w' dropped held.2⟩
  have updates {changes : Obj} (others : ∀ key ∈ ["session_id", "settings", "external_daemon"], key ∉ changes.keys)
      (requested : ∀ lock : Obj, (lock.get "watchdog_requested").truthy = true →
        ((lock.update changes).get "watchdog_requested").truthy = true) :
      (updateLockKeys changes).Preserves perform fun w => Kept py w ∧ Asked w := by
    refine update_preserves both fun w held lock there => ?_
    have asked := held.2 lock there
    have formed := (held.1.sound lock (held.1.held lock there)).requested asked
    exact asked_accepts (wellFormed_update formed others) (requested lock asked)
  refine startWatchdog_preserves both
    (updates (by decide) fun lock _ => by simp [Obj.update, Json.truthy]) fun pid => ?_
  exact updates (by simp [Obj.keys]) fun lock asked => by simpa [Obj.update] using asked

/-- The session of a lock, or a new one. -/
theorem session_ensures {lock : Obj} (sound : Sound py lock) :
    (if (lock.get "session_id").truthy then pure (lock.get "session_id") else Json.str <$> step .uuid4 :
      Py Json).Ensures perform w
      fun x w' => Untouched w w' ∧ ∀ v, x = .ok v → ∃ s, v = .str s ∧ s ≠ "" := by
  split
  · refine ⟨⟨rfl, rfl⟩, ?_⟩
    rintro v ⟨⟩
    exact sound.session
  · intro fate r w' performed
    obtain ⟨able, done, noted⟩ := perform_some performed
    obtain ⟨took, outcome, changed⟩ := Host.perform_outcome.mp done
    cases fate <;> simp only [Host.outcome, Option.some.injEq, Prod.mk.injEq, reduceCtorEq] at outcome
    obtain ⟨rfl, rfl⟩ := outcome
    refine ⟨⟨noted, congrArg Host.lock changed⟩, ?_⟩
    rintro v ⟨⟩
    exact ⟨_, rfl, by simpa [possible] using able⟩

/-- The lock that `watchdog start` writes. -/
theorem sound_watchdog {lock : Obj} {session : String} {selected : Settings} {snapshot : Obj} (sound : Sound py lock)
    (managed : lock.get "external_daemon" ≠ .bool true) (named : session ≠ "")
    (read : fromSnapshot py (.obj snapshot) = .ok selected)
    (enabled : selected.watchdog.enabled = .bool true) :
    WellFormed py (lock.update
      [("session_id", .str session), ("settings", .obj snapshot), ("watchdog_requested", .bool true)]) := by
  refine ⟨⟨session, by simp [Obj.update], named⟩, ⟨selected, by simpa [Obj.update] using read, enabled⟩, ?_⟩
  obtain ⟨b, external⟩ := sound.external
  cases b with
  | false => simp [Obj.update, external]
  | true => exact absurd external managed

/-- `watchdog start` writes a lock that has what a watchdog needs, if Tor is managed. -/
theorem watchdogStart_ensures {config : Except Exc Settings} (kept : Kept py w)
    (managed : ∀ lock : Obj, w.host.lock = .json (.obj lock) → lock.get "external_daemon" ≠ .bool true) :
    (Watchdog.watchdogStart py config).Ensures perform w fun _ w' => Kept py w' := by
  have fails : Keeps py (do
      let current ← readLock true
      let result ← requestEmergency py (current.getD [])
        ⟨.watchdogUnavailable, "watchdog.start_failed", "watchdog", "start", "Requested supervisor could not start",
          true⟩ false false
      .raise (.exit result.exitCode.value) : Py Unit) :=
    preserves_bind (readLock_preserves kept_closed) fun current =>
      preserves_bind (preserves_uses kept_closed requestEmergency_uses (by decide)) fun _ => preserves_raise _
  rw [Watchdog.watchdogStart, ensures_bind]
  refine ensures_mono (untouched_ensures (external_uses (List.mem_singleton_self Kind.quiet)) (by decide) (by decide))
    fun x w₁ root => ?_
  have kept₁ := untouched_closed kept_closed root kept
  cases x with
  | error e => exact kept₁
  | ok _ =>
    simp only [afterwards]
    rw [ensures_bind]
    refine ensures_readLock ?_
    cases read : lockOf true w₁.host.lock with
    | error e => exact kept₁
    | ok found =>
      cases found with
      | none => exact kept₁
      | some lock =>
        have there := lockOf_some.mp read
        have sound := kept₁.sound lock (kept₁.held lock there)
        simp only [afterwards]
        rw [ensures_bind]
        -- the update, after which the lock asks for a watchdog
        have updates : ∀ snapshot selected, fromSnapshot py (.obj snapshot) = .ok selected →
          selected.watchdog.enabled = .bool true →
            ∀ session w₂, session ≠ "" → Untouched w₁ w₂ →
            (updateLockKeys [("session_id", .str session), ("settings", .obj snapshot),
              ("watchdog_requested", .bool true)]).Ensures
              perform w₂ fun x w' => Kept py w' ∧ (x = .ok () → Asked w') := by
          intro snapshot selected read enabled session w₂ named untouched
          have formed : WellFormed py (lock.update
              [("session_id", .str session), ("settings", .obj snapshot), ("watchdog_requested", .bool true)]) :=
            sound_watchdog sound (managed lock (root.2 ▸ there)) named read enabled
          have only (current : Obj) (holds : w₂.host.lock = .json (.obj current)) : current = lock := by
            simpa using (holds.symm.trans (untouched.2.trans there))
          have kept₂ := untouched_closed kept_closed untouched kept₁
          refine ensures_mono (update_ensures kept_closed kept₂ fun current holds => ?_) fun x w' updated => ?_
          · rw [only current holds]
            exact kept_accepts ⟨formed.session, ⟨false, formed.managed⟩, fun _ => formed⟩
          · refine ⟨updated.1, fun ok l holds => ?_⟩
            obtain ⟨current, _, written⟩ := updated.2 ok
            obtain rfl : current.update _ = l := by simpa using written.symm.trans holds
            simp [Obj.update, Json.truthy]
        refine ensures_mono (Q := fun x w' => Kept py w' ∧ (x = .ok () → Asked w')) ?_ fun x w' ended => ?_
        · -- an exception that is caught becomes another one
          have refused (e : Exc) (w' : Journal) (kept' : Kept py w') : caught perform (fun e =>
              if e.isSettingsError || e.isOSError then some (.raise (.exit 5) : Py Unit) else none)
              (fun x w' => Kept py w' ∧ (x = .ok () → Asked w')) (.error e) w' := by
            simp only [caught]
            split <;> exact ⟨kept', by simp⟩
          rw [ensures_handle, ensures_bind, ensures_ofExcept]
          cases (if (lock.get "settings").truthy then fromSnapshot py (lock.get "settings") else config) with
          | error e => exact refused e w₁ kept₁
          | ok settings =>
            simp only [afterwards]
            rw [ensures_bind, ensures_ofExcept]
            cases chosen : settings.select py (some true) none with
            | error e => exact refused e w₁ kept₁
            | ok selected =>
              simp only [afterwards]
              rw [ensures_bind]
              refine ensures_mono (session_ensures sound) fun x w₂ found => ?_
              cases x with
              | error e => exact refused e w₂ (untouched_closed kept_closed found.1 kept₁)
              | ok value =>
                obtain ⟨session, rfl, named⟩ := found.2 value rfl
                simp only [afterwards]
                rw [ensures_bind]
                refine ensures_mono (untouched_ensures (prepare_uses (List.mem_singleton_self _)) (by decide)
                  (by decide)) fun x w₃ prepared => ?_
                have untouched := untouched_trans found.1 prepared
                cases x with
                | error e => exact refused e w₃ (untouched_closed kept_closed untouched kept₁)
                | ok _ =>
                  simp only [afterwards]
                  rw [ensures_bind, ensures_ofExcept]
                  cases copied : selected.snapshot py with
                  | error e => exact refused e w₃ (untouched_closed kept_closed untouched kept₁)
                  | ok snapshot =>
                    refine ensures_mono (updates snapshot selected (fromSnapshot_snapshot chosen copied)
                      (select_enabled chosen)
                      session w₃ named untouched) fun x w' updated => ?_
                    cases x with
                    | ok _ => exact updated
                    | error e => exact refused e w' updated.1
        · cases x with
          | error e => exact ended.1
          | ok _ =>
            have starts : (do
                checked (step (.external "require the watchdog's dependency"))
                startWatchdog py).Ensures perform w' fun _ w'' => Kept py w'' := by
              rw [ensures_bind]
              refine ensures_mono (untouched_ensures (external_uses (List.mem_singleton_self Kind.quiet)) (by decide)
                (by decide)) fun x w'' same => ?_
              cases x with
              | error e => exact untouched_closed kept_closed same ended.1
              | ok _ =>
                have held := And.intro (untouched_closed kept_closed same ended.1)
                  (untouched_closed asked_closed same (ended.2 rfl))
                exact ensures_mono (startWatchdog_keeps w'' held) fun _ _ held => held.1
            simp only [afterwards]
            rw [ensures_handle]
            refine ensures_mono starts fun x w'' kept'' => ?_
            cases x with
            | ok _ => exact kept''
            | error e =>
              simp only [caught]
              split
              · exact fails w'' kept''
              · exact kept''

/-- The lock of a session that starts. -/
theorem sound_start {a : StartArgs} {selected : Settings} {backup : Json} {snapshot : Obj} {session : String}
    (chosen : Chosen py a selected) (copied : selected.snapshot py = .ok snapshot) (named : session ≠ "") :
    Sound py (startData a selected backup snapshot session) := by
  obtain ⟨⟨settings, validated⟩, allowed⟩ := chosen
  refine ⟨⟨session, rfl, named⟩, ⟨a.externalDaemon, rfl⟩, fun asked => ?_⟩
  have enabled : selected.watchdog.enabled.truthy = true := asked
  obtain ⟨b, stated⟩ := validate_enabled validated
  obtain rfl : b = true := by simpa [stated, Json.truthy] using enabled
  refine ⟨⟨session, rfl, named⟩, ⟨selected, fromSnapshot_snapshot validated copied, stated⟩, ?_⟩
  have external : a.externalDaemon = false := by simpa [enabled] using allowed
  show Json.bool a.externalDaemon = .bool false
  rw [external]

theorem startCommand_keeps {a : StartArgs} : Keeps py (startCommand py a) := by
  intro w kept
  have closes (selected : Settings) : Closed fun w => selected.watchdog.enabled.truthy = true → Asked w :=
    fun w w' dropped asked enabled => asked_closed w w' dropped (asked enabled)
  refine ensures_mono (startCommand_ensures kept_closed kept
    (fun selected backup snapshot session chosen copied named => kept_accepts (sound_start chosen copied named))
    closes ?_ ?_)
    fun _ _ ended => ended.1
  · intro w selected backup snapshot session holds enabled lock there
    obtain rfl : startData a selected backup snapshot session = lock := by simpa using holds.symm.trans there
    exact enabled
  · intro selected enabled w held
    exact ensures_mono (startWatchdog_keeps w ⟨held.1, held.2 enabled⟩) fun _ _ held => ⟨held.1, fun _ => held.2⟩

theorem restartCommand_keeps {a : StartArgs} : Keeps py (restartCommand py a) := by
  refine preserves_bind (external_preserves kept_closed) fun _ =>
    preserves_bind (external_preserves kept_closed) fun _ => ?_
  refine preserves_bind (external_preserves kept_closed) fun _ => ?_
  refine preserves_bind (preserves_catch ?_ fun _ => preserves_raise _) fun _ =>
    preserves_bind (readLock_preserves kept_closed) fun current => ?_
  · refine preserves_bind (preserves_ofExcept _) fun _ =>
      preserves_bind (readLock_preserves kept_closed) fun found => ?_
    refine preserves_bind ?_ fun latched => onlyIf_preserves (preserves_raise _)
    split
    · exact preserves_uses kept_closed (emergencyLatched_uses (List.mem_singleton_self _)) (by decide)
    · exact preserves_pure _
  · exact preserves_bind (onlyIf_preserves (preserves_bind doStop_keeps fun _ => (external_preserves kept_closed)))
      fun _ => startCommand_keeps

theorem program_keeps {c : Call} (kept : Kept py w) (managed : Managed c w) :
    (program py c).Ensures perform w fun _ w' => Kept py w' := by
  cases c with
  | start args => exact startCommand_keeps w kept
  | restart args => exact restartCommand_keeps w kept
  | watchdogStart config => exact watchdogStart_ensures kept managed
  | watchdogStop => exact watchdogStop_keeps w kept
  | stop => exact doStop_keeps w kept

end

/-- A host without a lock. -/
def Absent (w : Journal) : Prop := w.host.lock = .missing ∧ w.written = []

/-- In every sequence of commands, cut off anywhere, in which `watchdog start` is not run on a session with an
    external daemon, a lock that asks for a watchdog is well formed. -/
theorem locks_wellFormed {py : Interpreter} {w : Journal} (visited : (commands py Managed).Visited Absent w) :
    ∀ lock : Obj, w.host.lock = .json (.obj lock) → lock.get "watchdog_requested" = .bool true →
      WellFormed py lock := by
  have kept : Held w ∧ ∀ lock ∈ w.written, Sound py lock := by
    refine Succession.visited_invariant visited ?_ (fun c w held => held) (fun w o fate r w' => perform_held)
      (fun c w managed held sound => ?_)
      ?_ perform_total fun w o fate r w' => perform_back
    · rintro w ⟨missing, unwritten⟩
      exact ⟨fun lock there => by simp [missing] at there, by simp [unwritten]⟩
    · have begun : Kept py ((commands py Managed).begins c w) := ⟨sound, held⟩
      have managed' : Managed c ((commands py Managed).begins c w) := by cases c <;> exact managed
      exact ensures_mono (program_keeps begun managed') fun _ _ kept => kept.sound
    · rintro w w' ⟨h, rfl, same⟩ ⟨held, sound⟩
      exact ⟨fun lock there => held lock (same ▸ there), sound⟩
  intro lock there asked
  exact (kept.2 lock (kept.1 lock there)).requested (by simp [asked, Json.truthy])

/-! ### Sequences with and without an external daemon -/

def nowhere : Journal := ⟨Host.fresh, []⟩

/-- A start with or without an external daemon. -/
def startArgs (externalDaemon : Bool) : StartArgs :=
  { config := .ok {}, externalDaemon, lock := {}
    rules := ⟨107, 9041, 9054, true, false, true, none, none, none, false⟩ }

/-- The steps of a start up to the lock. -/
def untilLock : List Fate :=
  List.replicate 6 .ok ++ .ready true :: List.replicate 8 .ok ++ .ready false :: List.replicate 4 .ok ++
    [.name "a", .ok, .ok]

/-- The steps of `watchdog start` up to the lock. -/
def untilUpdate : List Fate := List.replicate 6 .ok

/-- What a lock tells of the watchdog and of the daemon. -/
def stated (w : Journal) : Option (Json × Json) :=
  match w.host.lock with
  | .json (.obj lock) => some (Obj.get lock "watchdog_requested", Obj.get lock "external_daemon")
  | _ => none

theorem stated_some {w : Journal} {requested external : Json} (told : stated w = some (requested, external)) :
    ∃ lock : Obj, w.host.lock = .json (.obj lock) ∧ lock.get "watchdog_requested" = requested ∧
      lock.get "external_daemon" = external := by
  unfold stated at told
  split at told
  case h_1 lock there =>
    obtain ⟨rfl, rfl⟩ := Prod.mk.inj (Option.some.inj told)
    exact ⟨lock, there, rfl, rfl⟩
  case h_2 => simp at told

/-- The steps `fates` of a command. -/
def ran (c : Call) (fates : List Fate) (w : Journal) : Option Journal :=
  (program .cpython c).replay perform ((commands .cpython Managed).begins c w) fates

theorem ran_visited {able : Call → Journal → Prop} {c : Call} {fates : List Fate} {w w' : Journal}
    (visited : (commands .cpython able).Visited Absent w) (permitted : able c w) (run : ran c fates w = some w') :
    (commands .cpython able).Visited Absent w' :=
  .call visited permitted (replay_visits run)

/-- What the lock tells after a start, and after `watchdog start` on it. -/
def locksOf (externalDaemon : Bool) : Option (Option (Json × Json) × Option (Json × Json)) :=
  (ran (.start (startArgs externalDaemon)) untilLock nowhere).bind fun w =>
    (ran (.watchdogStart (.ok {})) untilUpdate w).map fun w' => (stated w, stated w')

theorem locksOf_managed : locksOf false = some (some (.bool false, .bool false), some (.bool true, .bool false)) := by
  decide +kernel

theorem locksOf_external : locksOf true = some (some (.bool false, .bool true), some (.bool true, .bool true)) := by
  decide +kernel

theorem managed_wellFormed : ∃ (w : Journal) (lock : Obj), w.host.lock = .json (.obj lock) ∧
    lock.get "watchdog_requested" = .bool true ∧ WellFormed .cpython lock := by
  obtain ⟨w, started, rest⟩ := Option.bind_eq_some_iff.mp locksOf_managed
  obtain ⟨w', updated, told⟩ := Option.map_eq_some_iff.mp rest
  obtain ⟨before, after⟩ := Prod.mk.inj told
  obtain ⟨lock, there, asked, _⟩ := stated_some after
  obtain ⟨lock₁, there₁, _, external⟩ := stated_some before
  have permitted : Managed (.start (startArgs false)) nowhere := trivial
  have visited : (commands .cpython Managed).Visited Absent w := ran_visited (.start ⟨rfl, rfl⟩) permitted started
  have managed : Managed (.watchdogStart (.ok {})) w := by
    intro l holds
    obtain rfl : lock₁ = l := by simpa using there₁.symm.trans holds
    simp [external]
  have ended : (commands .cpython Managed).Visited Absent w' := ran_visited visited managed updated
  exact ⟨w', lock, there, asked, locks_wellFormed ended lock there asked⟩

/-- After a start with an external daemon, `watchdog start` asks for a watchdog beside it. -/
theorem external_illFormed : ¬ ∀ (py : Interpreter) (w : Journal), (commands py fun _ _ => True).Visited Absent w →
    ∀ lock : Obj, w.host.lock = .json (.obj lock) → lock.get "watchdog_requested" = .bool true →
    WellFormed py lock := by
  intro all
  obtain ⟨w, started, rest⟩ := Option.bind_eq_some_iff.mp locksOf_external
  obtain ⟨w', updated, told⟩ := Option.map_eq_some_iff.mp rest
  obtain ⟨lock, there, asked, external⟩ := stated_some (Prod.mk.inj told).2
  have visited : (commands .cpython fun _ _ => True).Visited Absent w := ran_visited (.start ⟨rfl, rfl⟩) trivial started
  have formed := all .cpython w' (ran_visited visited trivial updated) lock there asked
  simp [formed.managed] at external

end Ttp.LockShape
