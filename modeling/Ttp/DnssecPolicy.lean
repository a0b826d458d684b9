import Ttp.Python
import Ttp.Text

/-!
The check of the DNSSEC policy of all links before a start: what networkd and
resolved have saved of each link, read twice, against what resolved says it does.
-/
namespace Ttp.DnssecPolicy
open Ttp.Python Ttp.Text

/-! ### `shlex.split` -/

/-- Where `shlex` is in a text: between words, in a word, in quotes, or after a backslash in a word or in quotes. -/
inductive Lexer where
  | between
  | word
  | quoted (quote : Char)
  | escaped (quote : Option Char)

def isQuote (c : Char) : Bool := c == '"' || c == '\x27'

/-- `shlex.whitespace`. -/
def isGap (c : Char) : Bool := c ∈ [' ', '\t', '\r', '\n']

/-- The words of the rest of a text, after a part of a word, in quotes or not. -/
def lex : Lexer → (token : List Char) → (quoted : Bool) → List Char → Except Exc (List (List Char))
  | .between, _, _, [] => .ok []
  | .word, token, quoted, [] => .ok (if token != [] || quoted then [token] else [])
  | .quoted _, _, _, [] => .error (.valueError "No closing quotation")
  | .escaped _, _, _, [] => .error (.valueError "No escaped character")
  | .between, token, quoted, c :: rest =>
    if isGap c then lex .between token quoted rest
    else if c == '\\' then lex (.escaped none) token quoted rest
    else if isQuote c then lex (.quoted c) token quoted rest
    else lex .word [c] quoted rest
  | .word, token, quoted, c :: rest =>
    if isGap c then
      if token != [] || quoted then (lex .between [] false rest).map (token :: ·) else lex .between token quoted rest
    else if isQuote c then lex (.quoted c) token quoted rest
    else if c == '\\' then lex (.escaped none) token quoted rest
    else lex .word (token ++ [c]) quoted rest
  | .quoted quote, token, _, c :: rest =>
    if c == quote then lex .word token true rest
    else if c == '\\' && quote == '"' then lex (.escaped (some quote)) token true rest
    else lex (.quoted quote) (token ++ [c]) true rest
  | .escaped none, token, quoted, c :: rest => lex .word (token ++ [c]) quoted rest
  | .escaped (some quote), token, quoted, c :: rest =>
    -- In quotes a backslash escapes only itself and the quote.
    lex (.quoted quote) (if c != '\\' && c != quote then token ++ ['\\', c] else token ++ [c]) quoted rest

/-- `shlex.split`. -/
def shlexSplit (text : List Char) : Except Exc (List (List Char)) := lex .between [] false text

/-! ### What is read -/

inductive Mode where
  | yes
  | no
  | allowDowngrade
  deriving DecidableEq, Repr

def Mode.text : Mode → String
  | .yes => "yes"
  | .no => "no"
  | .allowDowngrade => "allow-downgrade"

/-- The mode of a text in `_MODES`. -/
def mode? (text : String) : Option Mode := [Mode.yes, .no, .allowDowngrade].find? (·.text == text)

/-- `subprocess.SubprocessError`. -/
def isSubprocessError : Exc → Bool
  | .calledProcessError | .timeoutExpired => true
  | _ => false

/-- The exceptions that the check turns into its own. -/
def isExpected (e : Exc) : Bool := e.isOSError || e.isValueError || isSubprocessError e || e.isUnsafeBinaryError

/-- What reading a file, running `busctl` and decoding what it prints raise. -/
structure Refusal where
  exc : Exc
  expected : isExpected exc = true

/-- The text of a file. -/
abbrev Reading := Except Refusal (List Char)

/-- A reply on the bus, as `busctl` prints it in JSON. -/
abbrev Reply := Except Refusal Json

def orRaise {α : Type} : Except Refusal α → Except Exc α
  | .ok a => .ok a
  | .error refusal => .error refusal.exc

/-- The files of networkd and of resolved for one link. -/
structure Files where
  networkd : Reading
  resolved : Reading

structure Link where
  index : Nat
  name : String
  deriving DecidableEq

/-- What is read of one link, in this order. -/
structure Look where
  first : Files
  getLink : Reply
  effective : Reply
  second : Files

/-- What is read in one run of the check, in this order. -/
structure Preflight where
  globalMode : Reply
  links : Except Refusal (List (Link × Look))
  linksAgain : Except Refusal (List Link)
  globalAgain : Reply

/-! ### The check -/

/-- `_bus_json`, of a reply. -/
def busJson (signature : String) (reply : Reply) : Except Exc Json := do
  let payload ← orRaise reply
  match payload with
  | .obj fields =>
    match Obj.find? fields "type", Obj.find? fields "data" with
    | some (.str type), some data =>
      if type = signature then .ok data else .error (.valueError "Unexpected systemd-resolved D-Bus reply")
    | _, _ => .error (.valueError "Unexpected systemd-resolved D-Bus reply")
  | _ => .error (.valueError "Unexpected systemd-resolved D-Bus reply")

/-- `_dnssec`. -/
def dnssec (reply : Reply) : Except Exc Mode := do
  let value ← busJson "s" reply
  match value with
  | .str text =>
    match mode? text with
    | some mode => .ok mode
    | none => .error (.valueError "Unrecognized DNSSEC mode from systemd-resolved")
  | _ => .error (.valueError "Unrecognized DNSSEC mode from systemd-resolved")

/-- The keys that are read of a file. -/
inductive Key where
  | dnssec
  | adminState
  deriving DecidableEq

def Key.text : Key → String
  | .dnssec => "DNSSEC"
  | .adminState => "ADMIN_STATE"

def key? (text : List Char) : Option Key := [Key.dnssec, .adminState].find? (·.text.toList == text)

/-- The key and the value of a line that sets one of the keys. -/
def setting? (line : List Char) : Option (Key × List Char) :=
  match line.dropWhile (· != '=') with
  | [] => none
  | _ :: value => (key? (line.takeWhile (· != '='))).map (·, value)

abbrev Fields := List (Key × List Char)

def addField (path : String) (fields : Fields) (line : List Char) : Except Exc Fields :=
  match setting? line with
  | none => .ok fields
  | some (key, value) =>
    if (fields.lookup key).isSome then .error (.valueError s!"Duplicate {key.text} in {path}")
    else do
      let words ← shlexSplit value
      match words with
      | [word] => .ok (fields ++ [(key, word)])
      | _ => .error (.valueError s!"Unrecognized {key.text} in {path}")

/-- `_link_state`: none where there is no file. -/
def linkState (path : String) : Reading → Except Exc (Option Fields)
  | .error refusal => if refusal.exc = .osError "FileNotFoundError" then .ok none else .error refusal.exc
  | .ok content => do
    let fields ← (splitLines content).foldlM (addField path) []
    match fields.lookup .dnssec with
    | some word =>
      if (mode? (String.ofList word)).isSome then .ok (some fields)
      else .error (.valueError s!"Unrecognized DNSSEC mode in {path}")
    | none => .ok (some fields)

/-- `fields.get("DNSSEC")`, of the fields of a file or of none. -/
def modeOf (fields : Option Fields) : Option Mode :=
  (fields.getD []).lookup .dnssec |>.bind fun word => mode? (String.ofList word)

/-- The states in which networkd does not administer a link. -/
def idleStates : List String := ["pending", "initialized", "unmanaged"]

def ownedStates : List String := ["configuring", "configured", "failed", "linger"]

def resolvedMode (index : Nat) (reading : Reading) : Except Exc (Option Mode) := do
  let fields ← linkState s!"/run/systemd/resolve/netif/{index}" reading
  .ok (modeOf fields)

/-- `_configured_mode`. -/
def configuredMode (index : Nat) (files : Files) : Except Exc (Option Mode) := do
  let networkd ← linkState s!"/run/systemd/netif/links/{index}" files.networkd
  match networkd with
  | none => resolvedMode index files.resolved
  | some fields =>
    match fields.lookup .adminState with
    | none => .error (.valueError s!"Missing networkd administrative state for interface {index}")
    | some admin =>
      if String.ofList admin ∉ idleStates ++ ownedStates then
        .error (.valueError s!"Unrecognized networkd link state for interface {index}")
      else if String.ofList admin ∈ ownedStates then .ok (modeOf (some fields))
      else resolvedMode index files.resolved

/-- What leaves the check. -/
inductive Fault where
  /-- `DNSSECConflictError`. -/
  | conflict (message : String)
  | raised (e : Exc)

def orFault {α : Type} : Except Exc α → Except Fault α
  | .ok a => .ok a
  | .error e => .error (.raised e)

def help : String := "https://github.com/onyks-os/TransparentTorProxy/blob/main/docs/web/how-to/dnssec.md"

def conflictText (name : String) : String :=
  s!"Interface {name} explicitly requires DNSSEC=yes. " ++
  "Tor's DNSPort cannot provide the records needed for local DNSSEC validation. " ++
  "TTP refused to start and did not change this policy. " ++
  "Keep DNSSEC and use a separate Tor environment, or review the interface policy yourself. " ++ s!"See {help}"

/-- The only output argument of a reply to `GetLink`. -/
def objectPath (reply : Json) : Except Exc String :=
  match reply with
  | .arr [.str path] => .ok path
  | _ => .error (.valueError "Unexpected GetLink reply")

def checkLink (globalMode : Mode) (link : Link) (look : Look) : Except Fault Unit :=
  if link.name = "lo" then .ok ()
  else do
    let mode ← orFault (configuredMode link.index look.first)
    if mode = some .yes then .error (.conflict (conflictText link.name))
    else orFault do
      let reply ← busJson "o" look.getLink
      let _ ← objectPath reply
      let effective ← dnssec look.effective
      let again ← configuredMode link.index look.second
      if mode ≠ again ∨ effective ≠ mode.getD globalMode then
        .error (.valueError s!"DNSSEC policy for {link.name} changed or disagrees with saved configuration")
      else .ok ()

def checkLinks (globalMode : Mode) : List (Link × Look) → Except Fault Unit
  | [] => .ok ()
  | (link, look) :: rest => do
    checkLink globalMode link look
    checkLinks globalMode rest

def inspect (p : Preflight) : Except Fault Unit := do
  let globalMode ← orFault (dnssec p.globalMode)
  let links ← orFault (orRaise p.links)
  checkLinks globalMode links
  orFault do
    let again ← orRaise p.linksAgain
    if links.map Prod.fst ≠ again then
      .error (.valueError "Network or DNSSEC configuration changed during preflight; retry on a stable network")
    else do
      let globalAgain ← dnssec p.globalAgain
      if globalMode ≠ globalAgain then
        .error (.valueError "Network or DNSSEC configuration changed during preflight; retry on a stable network")
      else .ok ()

/-- `is_resolved_active(strict=True)`, of what `systemctl is-active` prints and its code. -/
def isResolvedActive : Except Exc (List Char × Int) → Except Exc Bool
  | .ok (printed, code) =>
    let status := String.ofList (strip printed)
    if status = "active" ∧ code = 0 then .ok true
    else if status ∈ ["inactive", "failed", "unknown"] ∧ code ∈ [3, 4] then .ok false
    else
      .error
        (.dnsError "Cannot inspect systemd-resolved service state: Cannot determine whether systemd-resolved is active")
  | .error e => if e.isException then .error
      (.dnsError s!"Cannot inspect systemd-resolved service state: {e.text}") else .error e

/-- `check_dnssec_policy`. -/
def checkDnssecPolicy (service : Except Exc (List Char × Int)) (p : Preflight) : Except Fault Unit := do
  let active ← orFault (isResolvedActive service)
  if active then
    match inspect p with
    | .error (.raised e) =>
      if isExpected e then
        .error (.raised (.dnsError s!"Cannot determine the per-interface DNSSEC policy: {e.text}. See {help}"))
      else .error (.raised e)
    | outcome => outcome
  else .ok ()

/-! ### What is claimed -/

/-- The value of a line `KEY=value`. -/
def value? (key : Key) (line : List Char) : Option (List Char) :=
  if key.text.toList ++ ['='] <+: line then some (line.drop (key.text.toList ++ ['=']).length) else none

/-- The values that some lines give a key. -/
def values (key : Key) (lines : List (List Char)) : List (List Char) := lines.filterMap (value? key)

/-- A file gives a key one word, or does not have it. -/
inductive Gives (content : List Char) (key : Key) : Option String → Prop
  | unset (unset : values key (splitLines content) = []) : Gives content key none
  | word {value word : List Char} (once : values key (splitLines content) = [value])
      (split : shlexSplit value = .ok [word]) :
    Gives content key (some (String.ofList word))

/-- What a file says of DNSSEC, and of the state of networkd. -/
structure States (content : List Char) (mode : Option Mode) (admin : Option String) : Prop where
  mode : Gives content .dnssec (mode.map Mode.text)
  admin : Gives content .adminState admin

def Missing (reading : Reading) : Prop :=
  ∃ refusal, reading = .error refusal ∧ refusal.exc = .osError "FileNotFoundError"

/-- The mode that resolved has saved. -/
inductive Saved (reading : Reading) : Option Mode → Prop
  | missing (missing : Missing reading) : Saved reading none
  | file {content : List Char} {mode : Option Mode} {admin : Option String} (read : reading = .ok content)
      (states : States content mode admin) :
    Saved reading mode

/-- The mode that is configured for a link: networkd's, if it administers the link, else resolved's. -/
inductive Configured (files : Files) : Option Mode → Prop
  | owned {content : List Char} {mode : Option Mode} {admin : String} (read : files.networkd = .ok content)
    (states : States content mode (some admin)) (owned : admin ∈ ownedStates) : Configured files mode
  | idle {content : List Char} {other mode : Option Mode} {admin : String} (read : files.networkd = .ok content)
    (states : States content other (some admin)) (idle : admin ∈ idleStates) (saved : Saved files.resolved mode) :
    Configured files mode
  | absent {mode : Option Mode} (missing : Missing files.networkd) (saved : Saved files.resolved mode) :
      Configured files mode

/-- A reply is of a type and has some data. -/
def Replies (reply : Reply) (signature : String) (data : Json) : Prop :=
  ∃ fields, reply = .ok (.obj fields) ∧ Obj.find? fields "type" = some (.str signature) ∧
    Obj.find? fields "data" = some data

/-- A link has a policy that can be kept: it is configured the same at both readings, not to `yes`, and resolved does
    what is configured, or what holds for all links. -/
structure Keeps (globalMode : Mode) (look : Look) (mode : Option Mode) : Prop where
  first : Configured look.first mode
  unrequired : mode ≠ some .yes
  path : ∃ path, Replies look.getLink "o" (.arr [.str path])
  effective : Replies look.effective "s" (.str (mode.getD globalMode).text)
  second : Configured look.second mode

/-- All links but `lo` have such a policy, and the links and the mode for all of them are at the end what they were at
    the start. -/
structure Settled (p : Preflight) (globalMode : Mode) (links : List (Link × Look)) : Prop where
  globalStart : Replies p.globalMode "s" (.str globalMode.text)
  linksStart : p.links = .ok links
  kept : ∀ seen ∈ links, seen.1.name ≠ "lo" → ∃ mode, Keeps globalMode seen.2 mode
  linksEnd : p.linksAgain = .ok (links.map Prod.fst)
  globalEnd : Replies p.globalAgain "s" (.str globalMode.text)

/-! ### Files -/

theorem mode_text (mode : Mode) : mode? mode.text = some mode := by
  cases mode <;> decide

theorem text_mode {text : String} {mode : Mode} (found : mode? text = some mode) : text = mode.text := by
  have same := List.find?_some found
  exact (by simpa using same : mode.text = text).symm

theorem key_text (key : Key) : key? key.text.toList = some key := by
  cases key <;> decide

theorem text_key {text : List Char} {key : Key} (found : key? text = some key) : text = key.text.toList := by
  have same := List.find?_some found
  exact (by simpa using same : key.text.toList = text).symm

/-- The lines that are taken for settings are those of the form. -/
theorem setting_value {line value : List Char} {key : Key} :
    setting? line = some (key, value) ↔ value? key line = some value := by
  have plain (key : Key) : ∀ c ∈ key.text.toList, (c != '=') = true := by
    have all : key.text.toList.all (· != '=') = true := by cases key <;> decide
    exact List.all_eq_true.mp all
  constructor
  · intro found
    unfold setting? at found
    split at found
    · cases found
    case h_2 c rest after =>
      obtain ⟨key', known, same⟩ := Option.map_eq_some_iff.mp found
      obtain ⟨rfl, rfl⟩ := Prod.mk.inj same
      have sign : c = '=' := by
        have stops := List.head?_dropWhile_not (· != '=') line
        simpa [after] using stops
      have whole : line = key'.text.toList ++ '=' :: rest := by
        rw [sign] at after
        rw [← text_key known, ← after, List.takeWhile_append_dropWhile]
      rw [value?, whole, if_pos ⟨rest, by simp⟩]
      simp
  · intro found
    unfold value? at found
    split_ifs at found with starts
    obtain ⟨rest, rfl⟩ := starts
    obtain rfl : rest = value := by simpa using found
    rw [setting?, List.append_assoc, List.singleton_append, List.dropWhile_append_of_pos (plain key),
      List.takeWhile_append_of_pos (plain key),
      List.dropWhile_cons_of_neg (by decide), List.takeWhile_cons_of_neg (by decide), List.append_nil]
    simp [key_text]

section
variable {path : String} {lines : List (List Char)} {acc fields : Fields} {line : List Char}

theorem values_other {key : Key} (other : setting? line = none) : value? key line = none := by
  cases found : value? key line with
  | none => rfl
  | some value =>
    rw [setting_value.mpr found] at other
    cases other

theorem values_own {key key' : Key} {value : List Char} (found : setting? line = some (key, value)) :
    value? key' line = if key' = key then some value else none := by
  by_cases same : key' = key
  · obtain rfl := same
    rw [if_pos rfl, setting_value.mp found]
  · rw [if_neg same]
    cases other : value? key' line with
    | none => rfl
    | some value' =>
      have both := found.symm.trans (setting_value.mpr other)
      exact absurd (Prod.mk.inj (Option.some.inj both)).1.symm same

/-- What a loop over some lines does to a key: nothing, or it gives it its word. -/
def Grown (lines : List (List Char)) (acc fields : Fields) (key : Key) : Prop :=
  (values key lines = [] ∧ fields.lookup key = acc.lookup key) ∨
    (acc.lookup key = none ∧ ∃ value word, values key lines = [value] ∧ shlexSplit value = .ok [word] ∧
      fields.lookup key = some word)

theorem lookup_added {key key' : Key} {word : List Char} (fresh : acc.lookup key = none) :
    (acc ++ [(key, word)]).lookup key' = if key' = key then some word else acc.lookup key' := by
  rw [List.lookup_append]
  by_cases same : key' = key
  · obtain rfl := same
    simp [fresh]
  · have unequal : (key' == key) = false := by simpa using same
    simp [List.lookup_cons, unequal, same]

theorem addField_grown (added : addField path acc line = .ok fields) (key : Key) : Grown [line] acc fields key := by
  unfold addField at added
  split at added
  case h_1 other =>
    obtain rfl := Except.ok.inj added
    exact Or.inl ⟨by simp [values, values_other other], rfl⟩
  case h_2 key' value found =>
    split_ifs at added with there
    obtain ⟨words, split, added⟩ := bind_ok added
    split at added
    case h_2 => cases added
    case h_1 word =>
      obtain rfl := Except.ok.inj added
      have fresh : acc.lookup key' = none := Option.not_isSome_iff_eq_none.mp there
      by_cases same : key = key'
      · obtain rfl := same
        refine Or.inr ⟨fresh, value, word, ?_, split, ?_⟩
        · simp [values, values_own found]
        · rw [lookup_added fresh, if_pos rfl]
      · refine Or.inl ⟨?_, ?_⟩
        · simp [values, values_own found, same]
        · rw [lookup_added fresh, if_neg same]

theorem fields_grown (read : lines.foldlM (addField path) acc = .ok fields) (key : Key) :
    Grown lines acc fields key := by
  induction lines generalizing acc with
  | nil =>
    obtain rfl : acc = fields := by simpa [pure, Except.pure] using read
    exact Or.inl ⟨rfl, rfl⟩
  | cons line lines ih =>
    rw [List.foldlM_cons] at read
    obtain ⟨next, first, later⟩ := bind_ok read
    have parts : values key (line :: lines) = values key [line] ++ values key lines := by
      rw [← List.singleton_append, values, List.filterMap_append]
      rfl
    rcases addField_grown first key with ⟨none, same⟩ | ⟨fresh, value, word, once, split, given⟩
    · rcases ih later with ⟨none', same'⟩ | ⟨fresh', value, word, once, split, given⟩
      · exact Or.inl ⟨by rw [parts, none, none']; rfl, same'.trans same⟩
      · exact Or.inr ⟨same ▸ fresh', value, word, by rw [parts, none, once]; rfl, split, given⟩
    · rcases ih later with ⟨none', same'⟩ | ⟨fresh', _⟩
      · exact Or.inr ⟨fresh, value, word, by rw [parts, once, none']; rfl, split, same'.trans given⟩
      · rw [given] at fresh'
        cases fresh'

/-- Lines that give each key one word at most are read. -/
theorem fields_read (path : String)
    (given : ∀ key, values key lines = [] ∨ (acc.lookup key = none ∧ ∃ value word, values key lines = [value] ∧
    shlexSplit value = .ok [word])) : ∃ fields, lines.foldlM (addField path) acc = .ok fields := by
  induction lines generalizing acc with
  | nil => exact ⟨acc, rfl⟩
  | cons line lines ih =>
    have parts (key : Key) : values key (line :: lines) = values key [line] ++ values key lines := by
      rw [← List.singleton_append, values, List.filterMap_append]
      rfl
    obtain ⟨next, first⟩ : ∃ next, addField path acc line = .ok next := by
      unfold addField
      cases found : setting? line with
      | none => exact ⟨acc, rfl⟩
      | some setting =>
        obtain ⟨key, value⟩ := setting
        have own : values key [line] = [value] := by simp [values, values_own found]
        rcases given key with none | ⟨fresh, value', word, once, split⟩
        · rw [parts, own] at none
          cases none
        · rw [parts, own] at once
          obtain rfl : value = value' := (List.cons.inj once).1
          exact ⟨acc ++ [(key, word)], by simp [fresh, split, bind, Except.bind]⟩
    rw [List.foldlM_cons, first]
    refine ih fun key => ?_
    rcases given key with none | ⟨fresh, value, word, once, split⟩
    · rw [parts] at none
      exact Or.inl (List.append_eq_nil_iff.mp none).2
    · rw [parts] at once
      rcases addField_grown first key with ⟨empty, same⟩ | ⟨_, value', word', once', _⟩
      · rw [empty] at once
        exact Or.inr ⟨same.trans fresh, value, word, once, split⟩
      · rw [once'] at once
        exact Or.inl (List.cons.inj once).2

theorem grown_gives {content : List Char} {key : Key} (grown : Grown (splitLines content) [] fields key) :
    Gives content key ((fields.lookup key).map String.ofList) := by
  rcases grown with ⟨none, same⟩ | ⟨_, value, word, once, split, given⟩
  · rw [same]
    exact .unset none
  · rw [given]
    exact .word once split

theorem gives_unique {content : List Char} {key : Key} {word other : Option String} (gives : Gives content key word)
    (also : Gives content key other) : word = other := by
  cases gives with
  | unset none =>
    cases also with
    | unset => rfl
    | word once =>
      rw [none] at once
      cases once
  | word once split =>
    cases also with
    | unset none =>
      rw [none] at once
      cases once
    | word once' split' =>
      obtain ⟨rfl, _⟩ := List.cons.inj (once.symm.trans once')
      obtain ⟨rfl, _⟩ := List.cons.inj (Except.ok.inj (split.symm.trans split'))
      rfl

theorem modeOf_text {mode : Option Mode} (given : (fields.lookup .dnssec).map String.ofList = mode.map Mode.text) :
    modeOf (some fields) = mode := by
  cases found : fields.lookup .dnssec with
  | none =>
    cases mode with
    | none => simp [modeOf, found]
    | some mode => simp [found] at given
  | some word =>
    cases mode with
    | none => simp [found] at given
    | some mode =>
      have text : String.ofList word = mode.text := by simpa [found] using given
      simp [modeOf, found, text, mode_text]

theorem linkState_read {reading : Reading} {result : Option Fields} (read : linkState path reading = .ok result) :
    (result = none ∧ Missing reading) ∨ ∃ content fields, reading = .ok content ∧ result = some fields ∧
      States content (modeOf result) ((fields.lookup .adminState).map String.ofList) := by
  unfold linkState at read
  split at read
  case h_1 refusal =>
    split_ifs at read with missing
    exact Or.inl ⟨(Except.ok.inj read).symm, refusal, rfl, missing⟩
  case h_2 content =>
    obtain ⟨fields, looped, read⟩ := bind_ok read
    have gives (key : Key) := grown_gives (fields_grown looped key)
    have dnssec := gives .dnssec
    split at read
    case h_1 word found =>
      split_ifs at read with known
      obtain rfl := Except.ok.inj read
      obtain ⟨mode, named⟩ := Option.isSome_iff_exists.mp known
      refine Or.inr ⟨content, fields, rfl, rfl, ?_, gives .adminState⟩
      simpa [modeOf, found, named, ← text_mode named] using dnssec
    case h_2 none =>
      obtain rfl := Except.ok.inj read
      refine Or.inr ⟨content, fields, rfl, rfl, ?_, gives .adminState⟩
      simpa [modeOf, none] using dnssec

theorem linkState_states (path : String) {content : List Char} {mode : Option Mode} {admin : Option String}
    (states : States content mode admin) :
    ∃ fields, linkState path (.ok content) = .ok (some fields) ∧ (fields.lookup .adminState).map String.ofList = admin ∧
      modeOf (some fields) = mode := by
  have given (key : Key) : values key (splitLines content) = [] ∨ (([] : Fields).lookup key = none ∧ ∃ value word,
      values key (splitLines content) = [value] ∧ shlexSplit value = .ok [word]) := by
    have some : ∃ word, Gives content key word := by
      cases key with
      | dnssec => exact ⟨_, states.mode⟩
      | adminState => exact ⟨_, states.admin⟩
    obtain ⟨_, gives⟩ := some
    cases gives with
    | unset none => exact Or.inl none
    | word once split => exact Or.inr ⟨rfl, _, _, once, split⟩
  obtain ⟨fields, looped⟩ := fields_read path given
  have gives (key : Key) := grown_gives (fields_grown looped key)
  have dnssec := gives_unique (gives .dnssec) states.mode
  have modes := modeOf_text dnssec
  refine ⟨fields, ?_, gives_unique (gives .adminState) states.admin, modes⟩
  simp only [linkState, looped, bind, Except.bind]
  cases found : fields.lookup .dnssec with
  | none => rfl
  | some word =>
    cases mode with
    | none => simp [found] at dnssec
    | some mode =>
      have text : String.ofList word = mode.text := by simpa [found] using dnssec
      simp [text, mode_text]

theorem linkState_missing {reading : Reading} (missing : Missing reading) : linkState path reading = .ok none := by
  obtain ⟨refusal, rfl, kind⟩ := missing
  exact if_pos kind

/-! ### The configured mode -/

theorem resolvedMode_iff {index : Nat} {reading : Reading} {mode : Option Mode} :
    resolvedMode index reading = .ok mode ↔ Saved reading mode := by
  constructor
  · intro read
    obtain ⟨result, opened, same⟩ := bind_ok read
    obtain rfl := Except.ok.inj same
    rcases linkState_read opened with ⟨rfl, missing⟩ | ⟨content, fields, rfl, rfl, states⟩
    · exact .missing missing
    · exact .file rfl states
  · intro saved
    cases saved with
    | missing missing => simp [resolvedMode, linkState_missing missing, bind, Except.bind, modeOf]
    | file read states =>
      obtain ⟨fields, opened, _, modes⟩ := linkState_states s!"/run/systemd/resolve/netif/{index}" states
      simp only [resolvedMode, read, opened, modes, bind, Except.bind]

theorem configuredMode_iff {index : Nat} {files : Files} {mode : Option Mode} :
    configuredMode index files = .ok mode ↔ Configured files mode := by
  constructor
  · intro read
    obtain ⟨networkd, opened, read⟩ := bind_ok read
    rcases linkState_read opened with ⟨rfl, missing⟩ | ⟨content, fields, first, rfl, states⟩
    · exact .absent missing (resolvedMode_iff.mp read)
    · dsimp only at read
      split at read
      case h_1 => cases read
      case h_2 admin found =>
        rw [found] at states
        split_ifs at read with unknown owned
        · obtain rfl := Except.ok.inj read
          exact .owned first states owned
        · have idle : String.ofList admin ∈ idleStates := by
            exact (List.mem_append.mp unknown).resolve_right owned
          exact .idle first states idle (resolvedMode_iff.mp read)
  · have apart : ∀ admin ∈ idleStates, admin ∉ ownedStates := by decide
    intro configured
    cases configured with
    | absent missing saved =>
      simp [configuredMode, linkState_missing missing, bind, Except.bind, resolvedMode_iff.mpr saved]
    | owned read states owned =>
      obtain ⟨fields, opened, admin, modes⟩ := linkState_states s!"/run/systemd/netif/links/{index}" states
      obtain ⟨word, found, rfl⟩ := Option.map_eq_some_iff.mp admin
      simp only [configuredMode, read, opened, bind, Except.bind]
      simp [found, owned, modes]
    | idle read states idle saved =>
      obtain ⟨fields, opened, admin, modes⟩ := linkState_states s!"/run/systemd/netif/links/{index}" states
      obtain ⟨word, found, rfl⟩ := Option.map_eq_some_iff.mp admin
      simp only [configuredMode, read, opened, bind, Except.bind]
      simp [found, idle, apart _ idle, resolvedMode_iff.mpr saved]

end

/-! ### Replies -/

section
variable {reply : Reply} {signature : String} {data : Json} {mode : Mode}

theorem orRaise_ok {α : Type} {x : Except Refusal α} {a : α} : orRaise x = .ok a ↔ x = .ok a := by
  cases x <;> simp [orRaise]

theorem busJson_iff : busJson signature reply = .ok data ↔ Replies reply signature data := by
  constructor
  · intro read
    obtain ⟨payload, arrived, checked⟩ := bind_ok read
    obtain rfl : reply = .ok payload := orRaise_ok.mp arrived
    split at checked
    case h_2 => cases checked
    case h_1 fields =>
      split at checked
      case h_2 => cases checked
      case h_1 type data' typed held =>
        split_ifs at checked with same
        obtain rfl := Except.ok.inj checked
        exact ⟨fields, rfl, same ▸ typed, held⟩
  · rintro ⟨fields, rfl, typed, held⟩
    simp [busJson, orRaise, typed, held, bind, Except.bind]

theorem dnssec_iff : dnssec reply = .ok mode ↔ Replies reply "s" (.str mode.text) := by
  rw [← busJson_iff]
  constructor
  · intro read
    obtain ⟨value, arrived, read⟩ := bind_ok read
    split at read
    case h_2 => cases read
    case h_1 text =>
      split at read
      case h_2 => cases read
      case h_1 mode' named =>
        obtain rfl := Except.ok.inj read
        rw [arrived, text_mode named]
  · intro arrived
    simp [dnssec, arrived, mode_text, bind, Except.bind]

theorem objectPath_iff {path : String} : objectPath data = .ok path ↔ data = .arr [.str path] := by
  constructor
  · intro read
    unfold objectPath at read
    split at read
    · rw [Except.ok.inj read]
    · cases read
  · rintro rfl
    rfl

/-! ### The links -/

theorem orFault_ok {α : Type} {x : Except Exc α} {a : α} : orFault x = .ok a ↔ x = .ok a := by
  cases x <;> simp [orFault]

theorem bound {ε α β : Type} {x : Except ε α} {f : α → Except ε β} {b : β} :
    (x >>= f) = .ok b ↔ ∃ a, x = .ok a ∧ f a = .ok b := by
  cases x <;> simp [bind, Except.bind]

theorem checkLink_iff {globalMode : Mode} {link : Link} {look : Look} (other : link.name ≠ "lo") :
    checkLink globalMode link look = .ok () ↔ ∃ mode, Keeps globalMode look mode := by
  rw [checkLink, if_neg other, bound]
  constructor
  · rintro ⟨mode, first, checked⟩
    split_ifs at checked with required
    obtain ⟨reply, called, checked⟩ := bound.mp (orFault_ok.mp checked)
    obtain ⟨path, pathed, checked⟩ := bound.mp checked
    obtain ⟨effective, applied, checked⟩ := bound.mp checked
    obtain ⟨again, second, checked⟩ := bound.mp checked
    split_ifs at checked with changed
    obtain ⟨rfl, rfl⟩ : mode = again ∧ effective = mode.getD globalMode := by simpa [not_or] using changed
    obtain rfl := objectPath_iff.mp pathed
    exact ⟨mode, configuredMode_iff.mp (orFault_ok.mp first), required, ⟨path, busJson_iff.mp called⟩,
      dnssec_iff.mp applied, configuredMode_iff.mp second⟩
  · rintro ⟨mode, first, required, ⟨path, called⟩, applied, second⟩
    refine ⟨mode, orFault_ok.mpr (configuredMode_iff.mpr first), ?_⟩
    rw [if_neg required, orFault_ok, busJson_iff.mpr called]
    simp [objectPath, dnssec_iff.mpr applied, configuredMode_iff.mpr second, bind, Except.bind]

theorem checkLinks_iff {globalMode : Mode} {links : List (Link × Look)} :
    checkLinks globalMode links = .ok () ↔ ∀ seen ∈ links, seen.1.name ≠ "lo" → ∃ mode,
      Keeps globalMode seen.2 mode := by
  induction links with
  | nil => simp [checkLinks]
  | cons seen links ih =>
    obtain ⟨link, look⟩ := seen
    rw [checkLinks, bound, List.forall_mem_cons, ← ih]
    by_cases loopback : link.name = "lo"
    · simp [checkLink, loopback]
    · simp [checkLink_iff loopback, loopback]

theorem inspect_iff {p : Preflight} : inspect p = .ok () ↔ ∃ globalMode links, Settled p globalMode links := by
  constructor
  · intro inspected
    obtain ⟨globalMode, globalStart, inspected⟩ := bound.mp inspected
    obtain ⟨links, linksStart, inspected⟩ := bound.mp inspected
    obtain ⟨_, checked, inspected⟩ := bound.mp inspected
    obtain ⟨again, linksEnd, inspected⟩ := bound.mp (orFault_ok.mp inspected)
    split_ifs at inspected with changed
    obtain ⟨globalAgain, globalEnd, inspected⟩ := bound.mp inspected
    split_ifs at inspected with other
    obtain rfl := not_not.mp changed
    obtain rfl := not_not.mp other
    exact ⟨globalMode, links, dnssec_iff.mp (orFault_ok.mp globalStart), orRaise_ok.mp (orFault_ok.mp linksStart),
      checkLinks_iff.mp checked, orRaise_ok.mp linksEnd, dnssec_iff.mp globalEnd⟩
  · rintro ⟨globalMode, links, settled⟩
    have globalStart := orFault_ok.mpr (dnssec_iff.mpr settled.globalStart)
    have linksStart := orFault_ok.mpr (orRaise_ok.mpr settled.linksStart)
    refine bound.mpr ⟨globalMode, globalStart,
      bound.mpr ⟨links, linksStart, bound.mpr ⟨(), checkLinks_iff.mpr settled.kept, ?_⟩⟩⟩
    rw [orFault_ok, orRaise_ok.mpr settled.linksEnd]
    simp [dnssec_iff.mpr settled.globalEnd, bind, Except.bind]

/-! ### What leaves the check -/

/-- What raises only exceptions that the check turns into its own. -/
def Tame {α : Type} (x : Except Exc α) : Prop := ∀ e, x = .error e → isExpected e = true

theorem tame_ok {α : Type} {a : α} : Tame (.ok a : Except Exc α) := fun _ failed => by cases failed

theorem tame_valueError {α : Type} {message : String} : Tame (.error (.valueError message) : Except Exc α) :=
  fun e failed => by
  obtain rfl := Except.error.inj failed
  rfl

theorem tame_bind {α β : Type} {x : Except Exc α} {f : α → Except Exc β} (first : Tame x) (rest : ∀ a, Tame (f a)) :
    Tame (x >>= f) := by
  intro e failed
  cases x with
  | error e' => exact first e (by simpa [bind, Except.bind] using failed)
  | ok a => exact rest a e (by simpa [bind, Except.bind] using failed)

theorem tame_orRaise {α : Type} {x : Except Refusal α} : Tame (orRaise x) := by
  intro e failed
  cases x with
  | ok a => cases failed
  | error refusal => exact Except.error.inj failed ▸ refusal.expected

theorem tame_busJson : Tame (busJson signature reply) := by
  refine tame_bind tame_orRaise fun payload => ?_
  split
  · split
    · split_ifs
      · exact tame_ok
      · exact tame_valueError
    · exact tame_valueError
  · exact tame_valueError

theorem tame_dnssec : Tame (dnssec reply) := by
  refine tame_bind tame_busJson fun value => ?_
  split
  · split
    · exact tame_ok
    · exact tame_valueError
  · exact tame_valueError

theorem tame_objectPath : Tame (objectPath data) := by
  unfold objectPath
  split
  · exact tame_ok
  · exact tame_valueError

theorem tame_lex (state : Lexer) (token : List Char) (quoted : Bool) (text : List Char) :
    Tame (lex state token quoted text) := by
  have goesOn {word : List Char} {x : Except Exc (List (List Char))} (tame : Tame x) : Tame (x.map (word :: ·)) := by
    intro e failed
    cases x with
    | error e' => exact tame e (by simpa [Except.map] using failed)
    | ok words => cases failed
  fun_induction lex state token quoted text with
  | _ => first | assumption | exact tame_ok | exact tame_valueError | exact goesOn (by assumption)

theorem tame_addField {path : String} {fields : Fields} {line : List Char} : Tame (addField path fields line) := by
  unfold addField
  split
  · exact tame_ok
  · split_ifs
    · exact tame_valueError
    · refine tame_bind (tame_lex _ _ _ _) fun words => ?_
      split
      · exact tame_ok
      · exact tame_valueError

theorem tame_fields {path : String} {fields : Fields} {lines : List (List Char)} :
    Tame (lines.foldlM (addField path) fields) := by
  induction lines generalizing fields with
  | nil => exact tame_ok
  | cons line lines ih =>
    rw [List.foldlM_cons]
    exact tame_bind tame_addField fun _ => ih

theorem tame_linkState {path : String} {reading : Reading} : Tame (linkState path reading) := by
  unfold linkState
  split
  case h_1 refusal =>
    split_ifs
    · exact tame_ok
    · intro e failed
      exact Except.error.inj failed ▸ refusal.expected
  case h_2 content =>
    refine tame_bind tame_fields fun fields => ?_
    split
    · split_ifs
      · exact tame_ok
      · exact tame_valueError
    · exact tame_ok

theorem tame_configuredMode {index : Nat} {files : Files} : Tame (configuredMode index files) := by
  have resolved : Tame (resolvedMode index files.resolved) := tame_bind tame_linkState fun _ => tame_ok
  refine tame_bind tame_linkState fun networkd => ?_
  split
  · exact resolved
  · split
    · exact tame_valueError
    · split_ifs
      · exact tame_ok
      · exact resolved
      · exact tame_valueError

theorem orFault_tame {α : Type} {x : Except Exc α} {fault : Fault} (tame : Tame x) (failed : orFault x = .error fault) :
    ∃ e, fault = .raised e ∧ isExpected e = true := by
  cases x with
  | ok a => cases failed
  | error e => exact ⟨e, (Except.error.inj failed).symm, tame e rfl⟩

theorem fault_bind {α β : Type} {x : Except Fault α} {f : α → Except Fault β} {fault : Fault}
    (failed : (x >>= f) = .error fault) :
    x = .error fault ∨ ∃ a, x = .ok a ∧ f a = .error fault := by
  cases x <;> simpa [bind, Except.bind] using failed

/-- A fault is a conflict only if networkd or resolved has `yes` for one of the links. -/
def Grounded (links : List (Link × Look)) (fault : Fault) : Prop :=
  (∃ message, fault = .conflict message ∧ ∃ seen ∈ links, seen.1.name ≠ "lo" ∧ Configured seen.2.first (some .yes)) ∨
    ∃ e, fault = .raised e ∧ isExpected e = true

theorem checkLink_grounded {globalMode : Mode} {link : Link} {look : Look} {fault : Fault}
    (failed : checkLink globalMode link look = .error fault) : Grounded [(link, look)] fault := by
  unfold checkLink at failed
  split_ifs at failed with other
  rcases fault_bind failed with unread | ⟨mode, first, failed⟩
  · exact Or.inr (orFault_tame tame_configuredMode unread)
  · split_ifs at failed with required
    · obtain rfl := required
      exact Or.inl ⟨conflictText link.name, (Except.error.inj failed).symm, (link, look), by simp, other,
        configuredMode_iff.mp (orFault_ok.mp first)⟩
    · refine Or.inr (orFault_tame ?_ failed)
      refine tame_bind tame_busJson fun reply => tame_bind tame_objectPath fun _ =>
        tame_bind tame_dnssec fun effective =>
        tame_bind tame_configuredMode fun again => ?_
      split_ifs
      · exact tame_valueError
      · exact tame_ok

theorem checkLinks_grounded {globalMode : Mode} {links : List (Link × Look)} {fault : Fault}
    (failed : checkLinks globalMode links = .error fault) : Grounded links fault := by
  induction links with
  | nil => cases failed
  | cons seen links ih =>
    obtain ⟨link, look⟩ := seen
    rw [checkLinks] at failed
    rcases fault_bind failed with here | ⟨_, _, later⟩
    · rcases checkLink_grounded here with ⟨message, same, seen, member, required⟩ | raised
      · exact Or.inl ⟨message, same, seen, by simp [List.mem_singleton.mp member], required⟩
      · exact Or.inr raised
    · rcases ih later with ⟨message, same, seen, member, required⟩ | raised
      · exact Or.inl ⟨message, same, seen, List.mem_cons_of_mem _ member, required⟩
      · exact Or.inr raised

theorem inspect_grounded {p : Preflight} {fault : Fault} (failed : inspect p = .error fault) :
    (∃ links, p.links = .ok links ∧ Grounded links fault) ∨ ∃ e, fault = .raised e ∧ isExpected e = true := by
  rcases fault_bind failed with unread | ⟨globalMode, _, failed⟩
  · exact Or.inr (orFault_tame tame_dnssec unread)
  rcases fault_bind failed with unlisted | ⟨links, listed, failed⟩
  · exact Or.inr (orFault_tame tame_orRaise unlisted)
  rcases fault_bind failed with refused | ⟨_, _, failed⟩
  · exact Or.inl ⟨links, orRaise_ok.mp (orFault_ok.mp listed), checkLinks_grounded refused⟩
  · refine Or.inr (orFault_tame (tame_bind tame_orRaise fun again => ?_) failed)
    split_ifs
    · exact tame_valueError
    · refine tame_bind tame_dnssec fun globalAgain => ?_
      split_ifs
      · exact tame_valueError
      · exact tame_ok

end

/-- With resolved active, the check returns exactly if the policy of all links is settled, it raises
    `DNSSECConflictError` only if one of them is configured to `yes`, and otherwise `DNSError`. -/
theorem policy_checked {service : Except Exc (List Char × Int)} (active : isResolvedActive service = .ok true)
    (p : Preflight) :
    (checkDnssecPolicy service p = .ok () ↔ ∃ globalMode links, Settled p globalMode links) ∧
      (∀ message, checkDnssecPolicy service p = .error (.conflict message) →
        ∃ links, p.links = .ok links ∧ ∃ seen ∈ links, seen.1.name ≠ "lo" ∧ Configured seen.2.first (some .yes)) ∧
      ∀ e, checkDnssecPolicy service p = .error (.raised e) → ∃ message, e = .dnsError message := by
  have checked : checkDnssecPolicy service p = match inspect p with
      | .error (.raised e) =>
        if isExpected e then
          .error (.raised (.dnsError s!"Cannot determine the per-interface DNSSEC policy: {e.text}. See {help}"))
        else .error (.raised e)
      | outcome => outcome := by
    simp [checkDnssecPolicy, active, orFault, bind, Except.bind]
  rw [← inspect_iff, checked]
  cases inspected : inspect p with
  | ok done => simp
  | error fault =>
    cases fault with
    | conflict message =>
      refine ⟨by simp, fun _ _ => ?_, fun e failed => by cases failed⟩
      rcases inspect_grounded inspected with ⟨links, listed, ⟨_, _, required⟩ | ⟨e, same, _⟩⟩ | ⟨e, same, _⟩
      · exact ⟨links, listed, required⟩
      · cases same
      · cases same
    | raised e =>
      have expected : isExpected e = true := by
        rcases inspect_grounded inspected with ⟨_, _, ⟨_, same, _⟩ | ⟨e', same, expected⟩⟩ | ⟨e', same, expected⟩
        · cases same
        · exact Fault.raised.inj same ▸ expected
        · exact Fault.raised.inj same ▸ expected
      simp only [expected, if_true]
      refine ⟨by simp, fun message failed => ?_, fun e' failed => ?_⟩
      · cases failed
      · exact ⟨_, (Fault.raised.inj (Except.error.inj failed)).symm⟩

/-- Two links, one that networkd administers without a mode of its own and one that resolved has `no` for. -/
def twoLinks : Preflight where
  globalMode := .ok (.obj [("type", .str "s"), ("data", .str "yes")])
  links :=
    let property (mode : Mode) : Reply := .ok (.obj [("type", .str "s"), ("data", .str mode.text)])
    let object (path : String) : Reply := .ok (.obj [("type", .str "o"), ("data", .arr [.str path])])
    let absent : Reading := .error ⟨.osError "FileNotFoundError", rfl⟩
    let managed : Files := ⟨.ok "# a link\nADMIN_STATE=configured\n".toList, .ok "DNSSEC=yes\n".toList⟩
    let unmanaged : Files := ⟨absent, .ok "DNSSEC=\"no\"\n".toList⟩
    .ok [(⟨1, "lo"⟩, ⟨managed, property .no, property .no, managed⟩),
      (⟨2, "eth0"⟩, ⟨managed, object "/org/freedesktop/resolve1/link/_32", property .yes, managed⟩),
      (⟨3, "wlo1"⟩, ⟨unmanaged, object "/org/freedesktop/resolve1/link/_33", property .no, unmanaged⟩)]
  linksAgain := .ok [⟨1, "lo"⟩, ⟨2, "eth0"⟩, ⟨3, "wlo1"⟩]
  globalAgain := .ok (.obj [("type", .str "s"), ("data", .str "yes")])

theorem policy_checked_two : checkDnssecPolicy (.ok ("active\n".toList, 0)) twoLinks = .ok () ∧
    ∃ globalMode links, Settled twoLinks globalMode links := by
  have active : isResolvedActive (.ok ("active\n".toList, 0)) = .ok true := by decide
  have returned : checkDnssecPolicy (.ok ("active\n".toList, 0)) twoLinks = .ok () := by rfl
  exact ⟨returned, (policy_checked active twoLinks).1.mp returned⟩

end Ttp.DnssecPolicy
