import Ttp.Ini
import Ttp.Snapshots

/-!
`load_settings` of `ttp/settings.py`, and the choices from the command line: the
values of the administrator's file over the defaults, with where each comes from.
-/
namespace Ttp.LoadSettings
open Ttp.Python Ttp.SessionSettings

/-- `CONFIG_PATH`. -/
def configPath : String := "/etc/ttp/ttp.conf"

def maxConfigBytes : Nat := 16384

/-! ### The file -/

inductive ConfigFile where
  | missing
  /-- It is there and cannot be opened or read, by the class of the error. -/
  | unreadable (kind : String)
  | found (regular : Bool) (uid mode : Nat) (content : ByteArray)

/-- `_read_file`. -/
def readFile : ConfigFile → Except Exc (Option String)
  | .missing => .ok none
  | .unreadable kind => .error (.osError kind)
  | .found regular uid mode content =>
    if !regular || uid ≠ 0 || mode &&& 0o022 ≠ 0 then
      .error (.settingsError s!"{configPath} must be a root-owned regular file, not writable by group or others")
    else if maxConfigBytes < content.size then .error (.settingsError s!"{configPath} exceeds {maxConfigBytes} bytes")
    else match String.fromUTF8? content with
      | some text => .ok (some text)
      | none => .error .unicodeDecodeError

/-- The numbers that texts stand for: none where `int` and `float` raise a `ValueError`. -/
structure Literals where
  int : String → Option Int
  float : String → Option Flt

/-! ### Loading -/

structure LoadedSettings where
  settings : Settings
  origins : Obj

def settingName (group key : String) : String := s!"{group}.{key}"

def defaultOrigins : Obj := (Settings.sections {}).flatMap fun group => group.2.map fun field =>
    (settingName group.1 field.1, .str "default")

/-- The fields of a section of `_SECTIONS`, with their defaults. -/
def defaultsOf (group : String) : Option Obj := ((Settings.sections {}).find? (·.1 == group)).map (·.2)

/-- What has been parsed: the values of each section, and where they come from. -/
structure Parsed where
  values : String → Obj
  origins : Obj

section
variable (py : Interpreter) (lit : Literals)

/-- The value of a setting, as the file spells it. -/
def readSetting (group key text : String) : Except Exc Json :=
  if key = "enabled" then
    if text = "true" then .ok (.bool true)
    else if text = "false" then .ok (.bool false)
    else .error (.settingsError s!"{group}.{key} must be true or false")
  else if key = "attempts" then
    match lit.int text with
    | some n => .ok (.int n)
    | none => .error (.valueError "invalid literal for int() with base 10")
  else
    match lit.float text with
    | some x => .ok (.float x)
    | none => .error (.valueError "could not convert string to float")

/-- One turn of the inner loop. -/
def loadItem (group : String) (defaults : Obj) (acc : Obj × Obj) (item : String × String) : Except Exc (Obj × Obj) :=
  if item.1 ∈ defaults.keys then do
    let value ← readSetting lit group item.1 item.2
    .ok (acc.1.set item.1 value, acc.2.set (settingName group item.1) (.str configPath))
  else .error (.settingsError s!"Unknown setting: {group}.{item.1}")

/-- One turn of the outer loop. -/
def loadSection (doc : Ini.Document) (acc : Parsed) (group : String) : Except Exc Parsed :=
  match defaultsOf group with
  | none => .error (.settingsError s!"Unknown settings section: {group}")
  | some defaults => do
    let (values, origins) ← (doc.items group).foldlM (loadItem lit group defaults) ([], acc.origins)
    .ok ⟨Function.update acc.values group values, origins⟩

/-- `kind(**values)`, as fields. -/
def filled (defaults values : Obj) : Obj := defaults.map fun field => (field.1, (values.find? field.1).getD field.2)

/-- `Settings(**parsed)`. -/
def Parsed.settings (parsed : Parsed) : Settings where
  watchdog := .ofFields (filled (WatchdogSettings.fields {}) (parsed.values "watchdog"))
  verification := .ofFields (filled (VerificationSettings.fields {}) (parsed.values "verification"))
  notifications := .ofFields (filled (NotificationSettings.fields {}) (parsed.values "notifications"))

/-- The `except` clause: what the interpreter says of a text that is no INI text is left out. -/
def cannotLoad (e : Exc) : Exc := if e.isOSError ||
    e.isValueError then .settingsError s!"Cannot load {configPath}: {e.text}" else e

/-- The body of `load_settings`. -/
def loadBody (file : ConfigFile) : Except Exc LoadedSettings := do
  match ← readFile file with
  | none => .ok ⟨{}, defaultOrigins⟩
  | some content =>
    match Ini.read content.toList with
    | .error _ => .error (.settingsError s!"Cannot load {configPath}: ")
    | .ok doc =>
      if doc.items "DEFAULT" ≠ [] then
        .error (.settingsError "[DEFAULT] inheritance is not supported; set each value in its section")
      else do
        let parsed ← doc.groups.foldlM (loadSection lit doc) ⟨fun _ => [], defaultOrigins⟩
        let settings ← parsed.settings.validate py
        .ok ⟨settings, parsed.origins⟩

/-- `load_settings`. -/
def loadSettings (file : ConfigFile) : Except Exc LoadedSettings :=
  match loadBody py lit file with
  | .ok loaded => .ok loaded
  | .error e => .error (cannotLoad e)

/-- `LoadedSettings.select`. -/
def LoadedSettings.select (loaded : LoadedSettings) (watchdog notifications : Option Bool) :
    Except Exc LoadedSettings := do
  let origins := [("watchdog", watchdog), ("notifications", notifications)].foldl
    (fun origins choice => if choice.2.isSome then origins.set (settingName choice.1 "enabled")
      (.str "command line") else origins)
    loaded.origins
  let settings ← loaded.settings.select py watchdog notifications
  .ok ⟨settings, origins⟩

end

/-! ### Values and origins -/

/-- The value of a setting. -/
def valueOf (s : Settings) (group key : String) : Option Json :=
  (s.sections.find? (·.1 == group)).bind fun fields => Obj.find? fields.2 key

/-- What the file sets a setting to. -/
def ConfigFile.sets (file : ConfigFile) (group key : String) : Option String :=
  match readFile file with
  | .ok (some content) =>
    match Ini.read content.toList with
    | .ok doc => doc.value? group key
    | .error _ => none
  | _ => none

/-- Each setting that is set has the value that was set, from the file, and each other one its default. -/
def Traced (lit : Literals) (sets : String → String → Option String) (loaded : LoadedSettings) : Prop :=
  ∀ group key default, valueOf {} group key = some default →
    match sets group key with
    | some text => loaded.origins.find? (settingName group key) = some (.str configPath) ∧
        ∃ value, readSetting lit group key text = .ok value ∧ valueOf loaded.settings group key = some value
    | none => loaded.origins.find? (settingName group key) = some (.str "default") ∧
        valueOf loaded.settings group key = some default

/-- The choice for a setting. -/
def choiceOf (watchdog notifications : Option Bool) (group key : String) : Option Bool :=
  if (group, key) = ("watchdog", "enabled") then watchdog
  else if (group, key) = ("notifications", "enabled") then notifications
  else none

/-- Each setting that was chosen has the value that was chosen, from the command line, and each other one is as it
    was. -/
def Selected (watchdog notifications : Option Bool) (loaded selected : LoadedSettings) : Prop :=
  ∀ group key default, valueOf {} group key = some default →
    (selected.origins.find? (settingName group key) = some (.str "command line") ↔
      (choiceOf watchdog notifications group key).isSome = true) ∧
      match choiceOf watchdog notifications group key with
      | some b => valueOf selected.settings group key = some (.bool b)
      | none => selected.origins.find? (settingName group key) = loaded.origins.find? (settingName group key) ∧
          valueOf selected.settings group key = valueOf loaded.settings group key

/-! ### Names and defaults -/

theorem settings_sections (parsed : Parsed) : parsed.settings.sections =
    (Settings.sections {}).map fun fields => (fields.1, filled fields.2 (parsed.values fields.1)) := rfl

theorem find_filled {defaults values : Obj} {key : String} :
    (filled defaults values).find? key = (defaults.find? key).map fun default => (values.find? key).getD default := by
  induction defaults with
  | nil => rfl
  | cons field rest ih =>
    obtain ⟨k, v⟩ := field
    rw [filled, List.map_cons, find?_cons, find?_cons]
    by_cases here : k = key
    · subst here
      simp
    · rw [if_neg here, if_neg here]
      exact ih

theorem keys_find {fields : Obj} {key : String} : key ∈ fields.keys ↔ ∃ value, fields.find? key = some value := by
  induction fields with
  | nil => simp [Obj.keys]
  | cons field rest ih =>
    obtain ⟨k, v⟩ := field
    rw [find?_cons]
    by_cases here : k = key
    · simp [Obj.keys, here]
    · rw [if_neg here, ← ih]
      simp [Obj.keys, Ne.symm here]

def settingNames : List (String × String) :=
  (Settings.sections {}).flatMap fun fields => fields.2.keys.map fun key => (fields.1, key)

/-- Two settings have two names. -/
theorem settingName_injective : ∀ p ∈ settingNames, ∀ q ∈ settingNames,
    settingName p.1 p.2 = settingName q.1 q.2 → p = q := by
  decide

theorem defaultOrigins_default : ∀ p ∈ settingNames,
    defaultOrigins.find? (settingName p.1 p.2) = some (.str "default") := by
  decide

section
variable {group key : String}

theorem defaultsOf_names {defaults : Obj} (known : defaultsOf group = some defaults) (member : key ∈ defaults.keys) :
    (group, key) ∈ settingNames := by
  obtain ⟨⟨g, fields⟩, found, rfl⟩ := Option.map_eq_some_iff.mp known
  have same : g = group := by simpa using List.find?_some found
  exact List.mem_flatMap.mpr
    ⟨(g, fields), List.mem_of_find?_eq_some found, List.mem_map.mpr ⟨key, member, by rw [same]⟩⟩

theorem valueOf_default : valueOf {} group key = (defaultsOf group).bind fun defaults => defaults.find? key := by
  rw [valueOf, defaultsOf]
  cases (Settings.sections {}).find? (·.1 == group) <;> rfl

theorem valueOf_names {default : Json} (setting : valueOf {} group key = some default) :
    (group, key) ∈ settingNames := by
  rw [valueOf_default] at setting
  obtain ⟨defaults, known, found⟩ := Option.bind_eq_some_iff.mp setting
  exact defaultsOf_names known (keys_find.mpr ⟨default, found⟩)

/-- A setting has the value that was parsed, or its default. -/
theorem valueOf_parsed (parsed : Parsed) {default : Json} (setting : valueOf {} group key = some default) :
    valueOf parsed.settings group key = some (((parsed.values group).find? key).getD default) := by
  rw [valueOf_default] at setting
  obtain ⟨defaults, known, found⟩ := Option.bind_eq_some_iff.mp setting
  obtain ⟨⟨g, fields⟩, first, rfl⟩ := Option.map_eq_some_iff.mp known
  have same : g = group := by simpa using List.find?_some first
  rw [valueOf, settings_sections, List.find?_map]
  have first' : List.find? ((fun fields : String × Obj => fields.1 == group) ∘ fun fields =>
    (fields.1, filled fields.2 (parsed.values fields.1)))
      (Settings.sections {}) = some (g, fields) := first
  rw [first', Option.map_some, Option.bind_some, find_filled, found, same]
  rfl

end

/-! ### The loops -/

section
variable {lit : Literals} {group : String} {defaults values values' origins origins' : Obj}
  {items : List (String × String)}

/-- What a run over the options of a section has set. -/
structure ItemsSet (lit : Literals) (group : String) (defaults : Obj) (items : List (String × String))
    (values origins values' origins' : Obj) : Prop where
  known : ∀ item ∈ items, item.1 ∈ defaults.keys
  set : ∀ item ∈ items, ∃ value, readSetting lit group item.1 item.2 = .ok value ∧ values'.find? item.1 = some value
  origin : ∀ item ∈ items, origins'.find? (settingName group item.1) = some (.str configPath)
  unset : ∀ key, (∀ item ∈ items, item.1 ≠ key) → values'.find? key = values.find? key
  others : ∀ name, (∀ item ∈ items, settingName group item.1 ≠ name) → origins'.find? name = origins.find? name

theorem loadItems_set (once : (items.map (·.1)).Nodup)
    (named : ∀ key ∈ defaults.keys, (group, key) ∈ settingNames)
    (done : items.foldlM (loadItem lit group defaults) (values, origins) = .ok (values', origins')) :
    ItemsSet lit group defaults items values origins values' origins' := by
  induction items generalizing values origins with
  | nil =>
    obtain ⟨rfl, rfl⟩ := Prod.mk.inj (Except.ok.inj done)
    exact ⟨by simp, by simp, by simp, fun _ _ => rfl, fun _ _ => rfl⟩
  | cons item rest ih =>
    rw [List.foldlM_cons] at done
    rw [List.map_cons, List.nodup_cons] at once
    obtain ⟨⟨values₁, origins₁⟩, first, onwards⟩ := bind_ok done
    rw [loadItem] at first
    split_ifs at first with known
    obtain ⟨value, spelled, same⟩ := bind_ok first
    obtain ⟨rfl, rfl⟩ := Prod.mk.inj (Except.ok.inj same)
    have later := ih once.2 onwards
    have fresh : ∀ other ∈ rest, other.1 ≠ item.1 :=
      fun other member same => once.1 (List.mem_map.mpr ⟨other, member, same⟩)
    have freshName : ∀ other ∈ rest, settingName group other.1 ≠ settingName group item.1 := fun other member same =>
      fresh other member (Prod.mk.inj
        (settingName_injective _ (named _ (later.known other member)) _ (named _ known) same)).2
    exact
      { known := List.forall_mem_cons.mpr ⟨known, later.known⟩
        set := List.forall_mem_cons.mpr
          ⟨⟨value, spelled, by rw [later.unset _ fresh, find?_set, if_pos rfl]⟩, later.set⟩
        origin := List.forall_mem_cons.mpr ⟨by rw [later.others _ freshName, find?_set, if_pos rfl], later.origin⟩
        unset := fun key other => by
          obtain ⟨here, there⟩ := List.forall_mem_cons.mp other
          rw [later.unset key there, find?_set, if_neg here]
        others := fun name other => by
          obtain ⟨here, there⟩ := List.forall_mem_cons.mp other
          rw [later.others name there, find?_set, if_neg here] }

end

section
variable {lit : Literals} {doc : Ini.Document} {groups : List String} {p p' : Parsed}

/-- What a run over sections of the file has set. -/
structure GroupsSet (lit : Literals) (doc : Ini.Document) (groups : List String) (p p' : Parsed) : Prop where
  known : ∀ g ∈ groups, ∀ item ∈ doc.items g, (g, item.1) ∈ settingNames
  set : ∀ g ∈ groups, ∀ item ∈ doc.items g, ∃ value, readSetting lit g item.1 item.2 = .ok value ∧
    (p'.values g).find? item.1 = some value
  origin : ∀ g ∈ groups, ∀ item ∈ doc.items g, p'.origins.find? (settingName g item.1) = some (.str configPath)
  unset : ∀ g ∈ groups, ∀ key, (∀ item ∈ doc.items g, item.1 ≠ key) → (p'.values g).find? key = none
  untouched : ∀ g, g ∉ groups → p'.values g = p.values g
  others : ∀ name, (∀ g ∈ groups, ∀ item ∈ doc.items g, settingName g item.1 ≠ name) →
    p'.origins.find? name = p.origins.find? name

theorem loadSections_set (strict : doc.Strict) (once : groups.Nodup)
    (done : groups.foldlM (loadSection lit doc) p = .ok p') :
    GroupsSet lit doc groups p p' := by
  induction groups generalizing p with
  | nil =>
    obtain rfl := Except.ok.inj done
    exact ⟨by simp, by simp, by simp, by simp, fun _ _ => rfl, fun _ _ => rfl⟩
  | cons group rest ih =>
    rw [List.foldlM_cons] at done
    obtain ⟨here, onwards⟩ := List.nodup_cons.mp once
    obtain ⟨p₁, first, later⟩ := bind_ok done
    have others := ih onwards later
    rw [loadSection] at first
    split at first
    · cases first
    case h_2 defaults known =>
      obtain ⟨⟨values, origins⟩, looped, same⟩ := bind_ok first
      obtain rfl := Except.ok.inj same
      have now := loadItems_set (Ini.items_nodup strict group) (fun key member => defaultsOf_names known member) looped
      have stays : p'.values group = values := by
        rw [others.untouched group here]
        exact Function.update_self ..
      have names : ∀ item ∈ doc.items group, (group, item.1) ∈ settingNames :=
        fun item member => defaultsOf_names known (now.known item member)
      have apart : ∀ item ∈ doc.items group, ∀ g ∈ rest, ∀ other ∈ doc.items g,
          settingName g other.1 ≠ settingName group item.1 := by
        intro item member g inside other member' same
        have pair := settingName_injective _ (others.known g inside other member') _ (names item member) same
        exact here ((Prod.mk.inj pair).1 ▸ inside)
      exact
        { known := List.forall_mem_cons.mpr ⟨names, others.known⟩
          set := List.forall_mem_cons.mpr ⟨fun item member => by rw [stays]; exact now.set item member, others.set⟩
          origin := List.forall_mem_cons.mpr
            ⟨fun item member => by rw [others.others _ (apart item member)]; exact now.origin item member, others.origin⟩
          unset := List.forall_mem_cons.mpr ⟨fun key none => by rw [stays]; exact now.unset key none, others.unset⟩
          untouched := fun g outside => by
            rw [others.untouched g fun member => outside (List.mem_cons_of_mem _ member)]
            exact Function.update_of_ne (fun same => outside (by simp [same])) ..
          others := fun name other => by
            obtain ⟨first, rest⟩ := List.forall_mem_cons.mp other
            rw [others.others name rest]
            exact now.others name first }

/-- Every setting has the value and the origin that the file gives it. -/
theorem parsed_traced (strict : doc.Strict)
    (done : doc.groups.foldlM (loadSection lit doc) ⟨fun _ => [], defaultOrigins⟩ = .ok p) :
    Traced lit doc.value? ⟨p.settings, p.origins⟩ := by
  have loaded := loadSections_set strict strict.groups done
  intro group key default setting
  have named := valueOf_names setting
  rw [valueOf_parsed p setting]
  cases stated : doc.value? group key with
  | some text =>
    have item := (Ini.value_some strict).mp stated
    have member : group ∈ doc.groups := by
      rcases Ini.value_known strict stated with member | rfl
      · exact member
      · rw [valueOf_default, show defaultsOf "DEFAULT" = none by decide] at setting
        cases setting
    obtain ⟨value, spelled, found⟩ := loaded.set group member _ item
    exact ⟨loaded.origin group member _ item, value, spelled, by rw [found]; rfl⟩
  | none =>
    have missing : ∀ item ∈ doc.items group, item.1 ≠ key := by
      rintro ⟨k, text⟩ member rfl
      rw [(Ini.value_some strict).mpr member] at stated
      cases stated
    have unset : (p.values group).find? key = none := by
      by_cases member : group ∈ doc.groups
      · exact loaded.unset group member key missing
      · rw [loaded.untouched group member]
        rfl
    refine ⟨?_, by rw [unset]; rfl⟩
    rw [loaded.others _ fun g member item inside same => ?_]
    · exact defaultOrigins_default _ named
    · obtain ⟨rfl, rfl⟩ := Prod.mk.inj (settingName_injective _ (loaded.known g member item inside) _ named same)
      exact missing item inside rfl

end

/-! ### What loading can raise -/

/-- A value that `asdict` copies, and no number of seconds beyond the floats. -/
def plain (kv : String × Json) : Bool := kv.2.depth == 0 && !tooLarge kv.1 kv.2

section
variable {py : Interpreter} {lit : Literals} {group key text : String} {e : Exc}

theorem readSetting_plain {value : Json} (spelled : readSetting lit group key text = .ok value) :
    plain (key, value) = true := by
  unfold readSetting at spelled
  split_ifs at spelled with enabled yes no attempts
  · obtain rfl := Except.ok.inj spelled
    rfl
  · obtain rfl := Except.ok.inj spelled
    rfl
  · split at spelled
    · obtain rfl := Except.ok.inj spelled
      simp [plain, Json.depth, tooLarge, attempts]
    · cases spelled
  · split at spelled
    · obtain rfl := Except.ok.inj spelled
      rfl
    · cases spelled

/-- The errors that `load_settings` turns into a `SettingsError`, and that error itself. -/
def Expected (e : Exc) : Prop := e.isSettingsError = true ∨ e.isOSError = true ∨ e.isValueError = true

theorem cannotLoad_settings (expected : Expected e) : ∃ message, cannotLoad e = .settingsError message := by
  unfold cannotLoad
  split_ifs with caught
  · exact ⟨_, rfl⟩
  · rcases expected with settings | io | value
    · cases e <;> simp [Exc.isSettingsError] at settings
      exact ⟨_, rfl⟩
    · simp [io] at caught
    · simp [value] at caught

theorem readSetting_expected (failed : readSetting lit group key text = .error e) : Expected e := by
  unfold readSetting at failed
  split_ifs at failed
  · obtain rfl := Except.error.inj failed
    exact Or.inl rfl
  · split at failed
    · cases failed
    · obtain rfl := Except.error.inj failed
      exact Or.inr (Or.inr rfl)
  · split at failed
    · cases failed
    · obtain rfl := Except.error.inj failed
      exact Or.inr (Or.inr rfl)

theorem readFile_expected {file : ConfigFile} (failed : readFile file = .error e) : Expected e := by
  unfold readFile at failed
  split at failed
  · cases failed
  · obtain rfl := Except.error.inj failed
    exact Or.inr (Or.inl rfl)
  · split_ifs at failed
    · obtain rfl := Except.error.inj failed
      exact Or.inl rfl
    · obtain rfl := Except.error.inj failed
      exact Or.inl rfl
    · split at failed
      · cases failed
      · obtain rfl := Except.error.inj failed
        exact Or.inr (Or.inr rfl)

/-- A loop fails with what one of its turns failed with. -/
theorem foldlM_error {α β : Type} {f : β → α → Except Exc β} {P : Exc → Prop} (each : ∀ b a e, f b a = .error e → P e)
    {items : List α} {b : β}
    (failed : items.foldlM f b = .error e) : P e := by
  induction items generalizing b with
  | nil => cases failed
  | cons a rest ih =>
    rw [List.foldlM_cons] at failed
    cases first : f b a with
    | error e' =>
      obtain rfl : e' = e := by simpa [first, bind, Except.bind] using failed
      exact each b a e' first
    | ok b' => exact ih (by simpa [first, bind, Except.bind] using failed)

theorem loadSection_expected {doc : Ini.Document} {p : Parsed} (failed : loadSection lit doc p group = .error e) :
    Expected e := by
  unfold loadSection at failed
  split at failed
  · obtain rfl := Except.error.inj failed
    exact Or.inl rfl
  case h_2 defaults known =>
    cases looped : (doc.items group).foldlM (loadItem lit group defaults) ([], p.origins) with
    | ok done => simp [looped, bind, Except.bind] at failed
    | error e' =>
      obtain rfl : e' = e := by simpa [looped, bind, Except.bind] using failed
      refine foldlM_error (fun acc item e failed => ?_) looped
      rw [loadItem] at failed
      split_ifs at failed
      · cases spelled : readSetting lit group item.1 item.2 with
        | ok value => simp [spelled, bind, Except.bind] at failed
        | error e' =>
          obtain rfl : e' = e := by simpa [spelled, bind, Except.bind] using failed
          exact readSetting_expected spelled
      · obtain rfl := Except.error.inj failed
        exact Or.inl rfl

theorem plain_judged {s : Settings} (all : ∀ fields ∈ s.sections, ∀ kv ∈ fields.2, plain kv = true) : s.Judged py := by
  have each {fields : String × Obj} {kv : String × Json} (member : fields ∈ s.sections) (inside : kv ∈ fields.2) :
      kv.2.depth = 0 ∧ tooLarge kv.1 kv.2 = false := by
    simpa [plain] using all fields member kv inside
  refine ⟨fun fields member kv inside => by rw [(each member inside).1]; exact Nat.zero_le _, fun kv first => ?_⟩
  obtain ⟨fields, member, inside⟩ := List.mem_flatMap.mp (List.mem_of_find?_eq_some first)
  exact (each member inside).2

/-- What was parsed is judged: what is set was read as a plain value, and the defaults are plain. -/
theorem parsed_judged {doc : Ini.Document} {p : Parsed} (strict : doc.Strict)
    (done : doc.groups.foldlM (loadSection lit doc) ⟨fun _ => [], defaultOrigins⟩ = .ok p) : p.settings.Judged py := by
  refine plain_judged fun fields member kv inside => ?_
  have defaults : ∀ fields ∈ (Settings.sections {}), ∀ kv ∈ fields.2, plain kv = true ∧
    valueOf {} fields.1 kv.1 = some kv.2 := by decide +kernel
  rw [settings_sections] at member
  obtain ⟨⟨g, d⟩, known, rfl⟩ := List.mem_map.mp member
  obtain ⟨⟨k, default⟩, field, rfl⟩ := List.mem_map.mp inside
  obtain ⟨plainDefault, setting⟩ := defaults _ known _ field
  have traced := parsed_traced strict done g k default setting
  have value := valueOf_parsed p setting
  cases stated : doc.value? g k with
  | none =>
    simp only [stated] at traced
    rw [traced.2, Option.some.injEq] at value
    show plain (k, ((p.values g).find? k).getD default) = true
    rw [← value]
    exact plainDefault
  | some text =>
    simp only [stated] at traced
    obtain ⟨_, read, spelled, found⟩ := traced
    rw [found, Option.some.injEq] at value
    show plain (k, ((p.values g).find? k).getD default) = true
    rw [← value]
    exact readSetting_plain spelled

end

/-! ### Choices -/

section
variable {watchdog notifications : Option Bool}

theorem valueOf_chosen (s : Settings) : ∀ p ∈ settingNames, valueOf (s.chosen watchdog notifications) p.1 p.2 =
    match choiceOf watchdog notifications p.1 p.2 with
    | some b => some (.bool b)
    | none => valueOf s p.1 p.2 := by
  have all : settingNames =
    [("watchdog", "enabled"), ("watchdog", "readiness_timeout"), ("watchdog", "heartbeat_interval"),
      ("watchdog", "service_timeout"), ("watchdog", "check_interval"), ("watchdog", "check_timeout"),
      ("watchdog", "observation_max_age"),
      ("verification", "timeout"), ("notifications", "enabled"), ("notifications", "readiness_timeout"),
      ("notifications", "call_timeout"),
      ("notifications", "delivery_timeout"), ("notifications", "attempts")] := rfl
  rw [all]
  simp only [List.forall_mem_cons, List.not_mem_nil, false_implies, implies_true, and_true]
  refine ⟨?_, rfl, rfl, rfl, rfl, rfl, rfl, rfl, ?_, rfl, rfl, rfl, rfl⟩
  · cases watchdog <;> rfl
  · cases notifications <;> rfl

/-- The origins after the choices. -/
theorem select_origins (origins : Obj) {group key : String} (named : (group, key) ∈ settingNames) :
    Obj.find? ([("watchdog", watchdog), ("notifications", notifications)].foldl
      (fun origins choice => if choice.2.isSome then origins.set (settingName choice.1 "enabled")
        (.str "command line") else origins) origins)
        (settingName group key) =
      if (choiceOf watchdog notifications group key).isSome then some (.str "command line")
      else origins.find? (settingName group key) := by
  have same {other : String} (known : (other, "enabled") ∈ settingNames) :
      settingName other "enabled" = settingName group key ↔ (group, key) = (other, "enabled") :=
    ⟨fun equal => (settingName_injective _ known _ named equal).symm,
      fun equal => by rw [(Prod.mk.inj equal).1, (Prod.mk.inj equal).2]⟩
  have watchdogName := same (show ("watchdog", "enabled") ∈ settingNames by decide)
  have notificationsName := same (show ("notifications", "enabled") ∈ settingNames by decide)
  simp only [List.foldl_cons, List.foldl_nil, choiceOf]
  cases watchdog <;> cases notifications <;>
    simp only [Option.isSome_none, Option.isSome_some, Bool.false_eq_true, if_false, if_true, find?_set, watchdogName,
      notificationsName] <;>
    split_ifs <;> simp_all

/-- A selection of consistent settings follows the choices, or is refused with a `SettingsError`. -/
theorem select_selected {py : Interpreter} {lit : Literals} {sets : String → String → Option String}
    {loaded : LoadedSettings}
    (consistent : loaded.settings.Consistent py) (traced : Traced lit sets loaded)
    (watchdog notifications : Option Bool) :
    (∃ message, loaded.select py watchdog notifications = .error (.settingsError message)) ∨
      ∃ selected, loaded.select py watchdog notifications = .ok selected ∧ selected.settings.Consistent py ∧
        Selected watchdog notifications loaded selected := by
  unfold LoadedSettings.select
  rcases select_consistent consistent watchdog notifications with ⟨accepted, kept⟩ | ⟨message, refused⟩
  · right
    rw [accepted]
    refine ⟨_, rfl, kept, fun group key default setting => ?_⟩
    have named := valueOf_names setting
    have given : ∀ origin, loaded.origins.find? (settingName group key) = some origin →
        origin ≠ .str "command line" := by
      intro origin found
      have from_ := traced group key default setting
      cases stated : sets group key with
      | none =>
        simp only [stated, found, Option.some.injEq] at from_
        rw [from_.1]
        decide
      | some text =>
        simp only [stated, found, Option.some.injEq] at from_
        rw [from_.1]
        decide
    rw [valueOf_chosen loaded.settings _ named, select_origins loaded.origins named]
    cases choiceOf watchdog notifications group key with
    | some b => simp
    | none =>
      refine ⟨iff_of_false (fun chosen => given _ chosen rfl) (by simp), rfl, rfl⟩
  · left
    rw [refused]
    exact ⟨message, rfl⟩

end

/-! ### What is loaded -/

theorem default_traced (lit : Literals) : Traced lit (fun _ _ => none) ⟨{}, defaultOrigins⟩ := fun _ _ _ setting =>
  ⟨defaultOrigins_default _ (valueOf_names setting), setting⟩

/-- Loading fails with an error that `load_settings` expects, or gives consistent settings that follow the file. -/
theorem loadBody_traced (py : Interpreter) (lit : Literals) (file : ConfigFile) :
    (∃ e, loadBody py lit file = .error e ∧ Expected e) ∨
      ∃ loaded, loadBody py lit file = .ok loaded ∧ loaded.settings.Consistent py ∧ Traced lit file.sets loaded := by
  unfold loadBody ConfigFile.sets
  cases opened : readFile file with
  | error e => exact Or.inl ⟨e, rfl, readFile_expected opened⟩
  | ok found =>
    cases found with
    | none => exact Or.inr ⟨_, rfl, (validate_consistent.mp (default_valid py)).2, default_traced lit⟩
    | some text =>
      simp only [bind, Except.bind]
      cases said : Ini.read text.toList with
      | error _ => exact Or.inl ⟨_, rfl, Or.inl rfl⟩
      | ok doc =>
        have strict := Ini.read_strict said
        by_cases inherited : doc.items "DEFAULT" ≠ []
        · simp only [if_pos inherited]
          exact Or.inl ⟨_, rfl, Or.inl rfl⟩
        simp only [if_neg inherited]
        cases looped : doc.groups.foldlM (loadSection lit doc) ⟨fun _ => [], defaultOrigins⟩ with
        | error e => exact Or.inl ⟨e, rfl, foldlM_error (fun _ _ _ failed => loadSection_expected failed) looped⟩
        | ok parsed =>
          cases valid : parsed.settings.validate py with
          | error e =>
            refine Or.inl ⟨e, by simp [valid], Or.inl ?_⟩
            exact validate_judged.mp (parsed_judged strict looped) e valid
          | ok settings =>
            obtain ⟨rfl, consistent⟩ := validate_consistent.mp valid
            exact Or.inr ⟨⟨parsed.settings, parsed.origins⟩, by simp [valid], consistent, parsed_traced strict looped⟩

/-- Whatever the file holds, loading raises a `SettingsError` or gives consistent settings, each with the value and the
    origin that the file or the defaults give it, and a selection changes those that were chosen. -/
theorem settings_traced (py : Interpreter) (lit : Literals) (file : ConfigFile) :
    (∃ message, loadSettings py lit file = .error (.settingsError message)) ∨
      ∃ loaded, loadSettings py lit file = .ok loaded ∧ loaded.settings.Consistent py ∧ Traced lit file.sets loaded ∧
        ∀ watchdog notifications, (∃ message, loaded.select py watchdog notifications = .error (.settingsError message)) ∨
          ∃ selected, loaded.select py watchdog notifications = .ok selected ∧ selected.settings.Consistent py ∧
            Selected watchdog notifications loaded selected := by
  rcases loadBody_traced py lit file with ⟨e, failed, expected⟩ | ⟨loaded, done, consistent, traced⟩
  · obtain ⟨message, refused⟩ := cannotLoad_settings expected
    exact Or.inl ⟨message, by rw [loadSettings, failed, ← refused]⟩
  · refine Or.inr ⟨loaded, by rw [loadSettings, done], consistent, traced, select_selected consistent traced⟩

example : (match loadSettings .cpython ⟨fun _ => none, fun _ => some (.finite 20)⟩
      (.found true 0 0o644 "[watchdog]\nenabled = true\ncheck_interval:20".toUTF8) with
    | .ok loaded => (valueOf loaded.settings "watchdog" "enabled", loaded.origins.find? "watchdog.enabled")
    | .error _ => (none, none)) = (some (.bool true), some (.str configPath)) := by
  decide +kernel

end Ttp.LoadSettings
