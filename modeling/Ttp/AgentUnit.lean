import Mathlib.Data.List.Basic
import Ttp.CommandLine
import Ttp.SessionSettings

/-!
The systemd unit of the notification agent (`notifications/service.py`): how `_quote` writes
an argument and `start_agent` the unit, and what systemd reads of it.
-/
namespace Ttp.AgentUnit
open Ttp.CommandLine Ttp.Python Ttp.SessionSettings

structure NotificationError where
  message : String
deriving DecidableEq, Repr

/-- `str.replace`, of one character. -/
def replace (text : List Char) (old : Char) (new : List Char) : List Char :=
  text.flatMap fun c => if c = old then new else [c]

/-- `_quote`. -/
def quote (value : List Char) : Except NotificationError (List Char) :=
  if value.any (·.toNat < 32) then .error ⟨"Invalid systemd argument"⟩
  else
    .ok (['"'] ++ replace (replace (replace (replace value '\\' ['\\', '\\']) '"' ['\\', '"']) '%' ['%', '%']) '$'
      ['$', '$'] ++ ['"'])

/-- What `ExecStart` is set to. -/
def execStart (argv : List (List Char)) : Except NotificationError (List Char) := do
  let quoted ← argv.mapM quote
  return List.intercalate [' '] quoted

/-! ### The unit -/

/-- How Python writes numbers: `str`, and the format `:g`. -/
structure Numbers where
  str : Json → List Char
  general : Json → List Char
  printable : ∀ value, (str value).all (32 ≤ ·.toNat) ∧ (general value).all (32 ≤ ·.toNat)

/-- What `start_agent` makes the unit from. -/
structure Launch where
  executable : List Char
  uid : ℕ
  gid : ℕ
  sessionId : List Char
  watchdogUid : ℕ
  settings : Settings

def argv (numbers : Numbers) (launch : Launch) : List (List Char) :=
  [launch.executable,
    "-I".toList,
    "-m".toList,
    "ttp.notifications.agent".toList,
    "--uid".toList,
    Nat.toDigits 10 launch.uid,
    "--session".toList,
    launch.sessionId,
    "--watchdog-uid".toList,
    Nat.toDigits 10 launch.watchdogUid,
    "--call-timeout".toList,
    numbers.str launch.settings.notifications.callTimeout,
    "--delivery-timeout".toList,
    numbers.str launch.settings.notifications.deliveryTimeout,
    "--attempts".toList,
    numbers.str launch.settings.notifications.attempts,
    "--heartbeat".toList,
    numbers.str launch.settings.watchdog.heartbeatInterval]

/-- The lines of the unit, around that of the command. -/
def unitLines (numbers : Numbers) (launch : Launch) (command : List Char) : List (List Char) :=
  ["[Unit]".toList,
    "Description=TTP optional desktop notification agent".toList,
    "StartLimitIntervalSec=60".toList,
    "StartLimitBurst=5".toList,
    "[Service]".toList,
    "Type=notify".toList,
    "NotifyAccess=main".toList,
    "User=".toList ++ Nat.toDigits 10 launch.uid,
    "Group=".toList ++ Nat.toDigits 10 launch.gid,
    "ExecStart=".toList ++ command,
    "RuntimeDirectory=ttp-notify-".toList ++ Nat.toDigits 10 launch.uid,
    "RuntimeDirectoryMode=0755".toList,
    "TimeoutStartSec=".toList ++ numbers.general launch.settings.notifications.readinessTimeout,
    "WatchdogSec=".toList ++ numbers.general launch.settings.watchdog.serviceTimeout,
    "WatchdogSignal=SIGKILL".toList,
    "TimeoutStopSec=".toList ++ numbers.general launch.settings.notifications.deliveryTimeout,
    "Restart=on-failure".toList,
    "RestartSec=3".toList,
    "NoNewPrivileges=yes".toList,
    "CapabilityBoundingSet=".toList,
    "PrivateTmp=yes".toList,
    "ProtectSystem=strict".toList,
    "ProtectHome=read-only".toList,
    "RestrictAddressFamilies=AF_UNIX".toList,
    "RestrictNamespaces=yes".toList,
    "RestrictSUIDSGID=yes".toList,
    "ProtectKernelTunables=yes".toList,
    "ProtectControlGroups=yes".toList,
    "LockPersonality=yes".toList,
    "StandardOutput=journal".toList,
    "StandardError=journal".toList,
    []]

/-- The text that `start_agent` writes to the unit's path. -/
def unit (numbers : Numbers) (launch : Launch) : Except NotificationError (List Char) := do
  let command ← execStart (argv numbers launch)
  return List.intercalate ['\n'] (unitLines numbers launch command)

/-- The values that the lines of a unit give to a setting. -/
def valuesOf (key : List Char) (text : List Char) : List (List Char) :=
  (text.splitOn '\n').filterMap fun line =>
    if (key ++ ['=']).isPrefixOf line then some (line.drop (key.length + 1)) else none

/-! ### Quoting -/

/-- Without control characters. -/
def Printable (text : List Char) : Prop := ∀ c ∈ text, 32 ≤ c.toNat

/-- The four replacements together write each character as it is spelled in double quotes. -/
theorem replace_spelled (value : List Char) :
    replace (replace (replace (replace value '\\' ['\\', '\\']) '"' ['\\', '"']) '%' ['%', '%']) '$'
      ['$', '$'] = value.flatMap spellChar := by
  simp only [replace, List.flatMap_assoc]
  congr 1
  funext c
  by_cases backslash : c = '\\'
  · subst backslash
    rfl
  by_cases mark : c = '"'
  · subst mark
    rfl
  by_cases percent : c = '%'
  · subst percent
    rfl
  by_cases dollar : c = '$'
  · subst dollar
    rfl
  simp [spellChar, backslash, mark, percent, dollar]

theorem quote_spelled {value : List Char} (printable : Printable value) : quote value = .ok (spell value) := by
  have none : ¬ value.any (·.toNat < 32) = true := by
    rw [List.any_eq_true]
    rintro ⟨c, member, control⟩
    exact absurd (printable c member) (Nat.not_le.mpr (by simpa using control))
  rw [quote, if_neg none, replace_spelled]
  rfl

theorem quote_refuses {value : List Char} (control : ¬ Printable value) :
    quote value = .error ⟨"Invalid systemd argument"⟩ := by
  have some' : value.any (·.toNat < 32) = true := by
    by_contra none
    refine control fun c member => Nat.not_lt.mp fun below => none ?_
    exact List.any_eq_true.mpr ⟨c, member, by simpa using below⟩
  rw [quote, if_pos some']

theorem mapM_quote {argv : List (List Char)} (printable : ∀ arg ∈ argv, Printable arg) :
    argv.mapM quote = .ok (argv.map spell) := by
  induction argv with
  | nil => rfl
  | cons arg argv ih =>
    rw [List.mapM_cons, quote_spelled (printable arg (by simp)),
      ih fun other member => printable other (by simp [member])]
    rfl

theorem mapM_refuses {argv : List (List Char)} (control : ∃ arg ∈ argv, ¬ Printable arg) :
    argv.mapM quote = .error ⟨"Invalid systemd argument"⟩ := by
  induction argv with
  | nil => simp at control
  | cons arg argv ih =>
    rw [List.mapM_cons]
    by_cases here : Printable arg
    · obtain ⟨other, member, unprintable⟩ := control
      rcases List.mem_cons.mp member with rfl | later
      · exact absurd here unprintable
      · rw [quote_spelled here, ih ⟨other, later, unprintable⟩]
        rfl
    · rw [quote_refuses here]
      rfl

theorem execStart_spelled {argv : List (List Char)} (printable : ∀ arg ∈ argv, Printable arg) :
    execStart argv = .ok (List.intercalate [' '] (argv.map spell)) := by
  rw [execStart, mapM_quote printable]
  rfl

/-- One argument with a control character, and there is no unit. -/
theorem execStart_refuses {argv : List (List Char)} (control : ∃ arg ∈ argv, ¬ Printable arg) :
    execStart argv = .error ⟨"Invalid systemd argument"⟩ := by
  rw [execStart, mapM_refuses control]
  rfl

/-- Arguments without control characters come out of systemd's reading of `ExecStart` as they went
    in, whatever the reading makes of other escapes, specifiers and variables; where the dollar
    signs in the name of the program stand for themselves, it is that name exactly when there are
    none. An argument with a control character is refused. -/
theorem exec_start_round_trip (rules : Rules) :
    (∀ argv, (∀ arg ∈ argv, Printable arg) →
        ∃ text, execStart argv = .ok text ∧ arguments rules text = some argv ∧
          ∀ program args, argv = program :: args →
            ∃ name, command rules text = some (name, args) ∧ (name = program ↔ '$' ∉ program)) ∧
      ∀ arg, ¬ Printable arg → quote arg = .error ⟨"Invalid systemd argument"⟩ := by
  refine ⟨fun argv printable => ?_, fun arg control => quote_refuses control⟩
  refine ⟨_, execStart_spelled printable, arguments_spelled rules argv, ?_⟩
  rintro program args rfl
  exact ⟨_, command_spelled rules program args, double_eq_self⟩

/-- Reading that knows no specifiers and no variables. -/
def bareRules : Rules where
  escape _ _ := none
  specifiers _ := none
  substitute _ := []

theorem exec_start_round_trip_hostile :
    ∃ text, execStart ["/usr/bin/python3".toList, "a\\\" $HOME %h ; ".toList, []] = .ok text ∧
      arguments bareRules text = some ["/usr/bin/python3".toList, "a\\\" $HOME %h ; ".toList, []] := by
  have printable : ∀ arg ∈ ["/usr/bin/python3".toList, "a\\\" $HOME %h ; ".toList, []], Printable arg := by
    simp [Printable]
  obtain ⟨text, built, read, _⟩ := (exec_start_round_trip bareRules).1 _ printable
  exact ⟨text, built, read⟩

/-! ### The lines of the unit -/

theorem printable_append {front rest : List Char} (first : Printable front) (second : Printable rest) :
    Printable (front ++ rest) := by
  intro c member
  rcases List.mem_append.mp member with member | member
  · exact first c member
  · exact second c member

theorem printable_literal {text : List Char} (each : text.all (32 ≤ ·.toNat) = true) : Printable text :=
  fun c member => by
  simpa using List.all_eq_true.mp each c member

theorem printable_digits (n : ℕ) : Printable (Nat.toDigits 10 n) := by
  intro c member
  have digit := Nat.isDigit_of_mem_toDigits (by decide) (by decide) member
  have range : 48 ≤ c.val ∧ c.val ≤ 57 := by simpa [Char.isDigit] using digit
  have low : 48 ≤ c.toNat := range.1
  omega

theorem printable_spell {word : List Char} (printable : Printable word) : Printable (spell word) := by
  intro c member
  simp only [spell, List.mem_cons, List.mem_append, List.mem_flatMap, List.not_mem_nil, or_false] at member
  rcases member with rfl | ⟨d, inside, written⟩ | rfl
  · decide
  · have either : c = d ∨ c = '\\' := by
      simp only [spellChar] at written
      split_ifs at written <;> simp at written <;> tauto
    rcases either with rfl | rfl
    · exact printable c inside
    · decide
  · decide

theorem printable_line {words : List (List Char)} (printable : ∀ word ∈ words, Printable word) :
    Printable (List.intercalate [' '] words) := by
  induction words with
  | nil => simp [Printable, List.intercalate]
  | cons word words ih =>
    have later := ih fun other member => printable other (by simp [member])
    cases words with
    | nil => simpa [List.intercalate] using printable word (by simp)
    | cons next words =>
      rw [List.intercalate_cons_cons]
      exact printable_append (printable_append (printable word (by simp)) (printable_literal (by decide))) later

theorem printable_unit {numbers : Numbers} {launch : Launch} {command : List Char} (printable : Printable command) :
    ∀ line ∈ unitLines numbers launch command, Printable line := by
  have number (value : Json) : Printable (numbers.general value) := printable_literal (numbers.printable value).2
  simp only [unitLines, List.forall_mem_cons]
  repeat' apply And.intro
  all_goals first
    | exact printable_literal (by decide)
    | exact printable_append (printable_literal (by decide)) (printable_digits _)
    | exact printable_append (printable_literal (by decide)) (number _)
    | exact printable_append (printable_literal (by decide)) printable
    | simp

/-- The unit has one command, that which the arguments were quoted for. -/
theorem unit_starts {numbers : Numbers} {launch : Launch} {text : List Char} (built : unit numbers launch = .ok text) :
    ∃ command, execStart (argv numbers launch) = .ok command ∧ valuesOf "ExecStart".toList text = [command] := by
  have printable : ∀ arg ∈ argv numbers launch, Printable arg := by
    by_contra control
    push Not at control
    rw [unit, execStart_refuses control] at built
    cases built
  have quoted := execStart_spelled printable
  have line : Printable (List.intercalate [' '] ((argv numbers launch).map spell)) := by
    apply printable_line
    intro word member
    obtain ⟨arg, inside, rfl⟩ := List.mem_map.mp member
    exact printable_spell (printable arg inside)
  rw [unit, quoted] at built
  obtain rfl := Except.ok.inj built
  refine ⟨_, quoted, ?_⟩
  have single : ∀ line ∈ unitLines numbers launch
      (List.intercalate [' '] ((argv numbers launch).map spell)), '\n' ∉ line :=
    fun other member inside => absurd (printable_unit line other member '\n' inside) (by decide)
  rw [valuesOf, List.splitOn_intercalate '\n' single (by simp [unitLines])]
  rfl

end Ttp.AgentUnit
