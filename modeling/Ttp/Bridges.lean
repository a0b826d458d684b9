import Mathlib.Data.List.Nodup
import Ttp.IpAddress
import Ttp.Python
import Ttp.Torrc

/-!
Tor bridges, from the options of a start to the torrc: the lines that are
accepted, the file that is written for them, and what Tor reads in it.
-/
namespace Ttp.Bridges
open Ttp.Python Ttp.Text Ttp.IpAddress Ttp.Torrc

abbrev Line := List Char

/-! ### Validation -/

/-- `_BRIDGE_ILLEGAL_CHARS`: what is neither printable ASCII nor a tab. -/
def isIllegal (c : Char) : Bool := !(' ' ≤ c && c ≤ '~') && c != '\t'

/-- `\d{1,5}`. A token of a legal line has ASCII digits only. -/
def isPort (text : List Char) : Bool := text != [] && text.length ≤ 5 && text.all Char.isDigit

/-- The host, the version of its address and the port of a token that `_BRIDGE_ADDRESS` matches. -/
def bridgeAddress? : List Char → Option (List Char × Nat × List Char)
  | '[' :: rest =>
    let host := rest.takeWhile (· != ']')
    match rest.dropWhile (· != ']') with
    | ']' :: ':' :: port =>
      if host != [] && host.all (fun c => isHexDigit c || c == ':' || c == '.') &&
        isPort port then some (host, 6, port) else none
    | _ => none
  | token =>
    let host := token.takeWhile (· != ':')
    match token.dropWhile (· != ':') with
    | ':' :: port => if host != [] && host.all (fun c => c.isDigit || c == '.') &&
        isPort port then some (host, 4, port) else none
    | _ => none

/-- `_is_bridge_address`. -/
def isBridgeAddress (token : List Char) : Bool :=
  match bridgeAddress? token with
  | none => false
  | some (host, version, port) =>
    match ipAddress host with
    | none => false
    | some address =>
      let number := ofDigits 10 (fun c => c.toNat - 48) port
      address.version == version && 1 ≤ number && number ≤ 65535

/-- `str.lower`, of ASCII. -/
def lower (text : List Char) : List Char := text.map Char.toLower

/-- The first words that stand for a transport, in any case. -/
def transports : List (List Char) := ["obfs4", "snowflake", "meek", "meek_lite"].map String.toList

/-- `validate_bridge_line`, with the message of its `ValueError`. -/
def validateBridgeLine (line : Line) : Except String Unit :=
  if line.any isIllegal then
    .error ("A bridge line must be a single line of printable ASCII. To configure several bridges, repeat --bridge once per line " ++
      "or pass them with --bridge-file.")
  else
    match split line with
    | [] => .error "Empty bridge line"
    | first :: rest =>
      if isBridgeAddress first then .ok ()
      else if rest.head?.any isBridgeAddress then
        if lower first ∈ transports then .ok ()
        else .error s!"Unsupported pluggable transport: '{String.ofList first}'"
      else .error "Invalid bridge format. Expected '<ip>:<port>' or '<transport> <ip>:<port>'"

/-! ### The options of a start -/

/-- What `_read_as_invoking_user` raises. -/
inductive Unread where
  | fileNotFoundError
  | osError (text : String)
  | other (e : Exc)

structure BridgeFile where
  path : String
  text : Except Unread (List Char)

/-- How a command ends: with a title and a message for the user and code 1, or by an exception that goes on. -/
inductive Ending where
  | exit (title message : String)
  | raised (e : Exc)
  deriving DecidableEq

/-- The lines of a file from some line on. The message has the number of a line, never the line. -/
def fileLines (path : String) (number : Nat) : List (List Char) → Except Ending (List Line)
  | [] => .ok []
  | raw :: rest =>
    let line := strip raw
    if line = [] || line.head? == some '#' then fileLines path (number + 1) rest
    else
      match validateBridgeLine line with
      | .error _ =>
        .error (.exit "Invalid Bridge Line"
          s!"Line {number} of '{path}' is not a valid bridge line. Expected '<ip>:<port>' or '<transport> <ip>:<port>'.")
      | .ok _ => (fileLines path (number + 1) rest).map (line :: ·)

def optionLines : List (List Char) → Except Ending (List Line)
  | [] => .ok []
  | raw :: rest =>
    let line := strip raw
    if line = [] then optionLines rest
    else
      match validateBridgeLine line with
      | .error message => .error (.exit "Invalid Bridge Line" s!"Bridge '{String.ofList line}': {message}")
      | .ok _ => (optionLines rest).map (line :: ·)

def readFile : Option BridgeFile → Except Ending (List Line)
  | none => .ok []
  | some file =>
    match file.text with
    | .error .fileNotFoundError => .error (.exit "Bridge File Missing" s!"File '{file.path}' not found.")
    | .error (.osError text) => .error (.exit "Failed to read bridge file" text)
    | .error (.other e) => .error (.raised e)
    | .ok text => fileLines file.path 1 (splitLines text)

/-- `_parse_bridges`: the lines, and whether bridges are used. -/
def parseBridges (bridgeFile : Option BridgeFile) (bridge : Option (List (List Char))) (useBridges : Bool) :
    Except Ending (List Line × Bool) := do
  let fromFile ← readFile bridgeFile
  let fromOptions ← optionLines (bridge.getD [])
  let lines := fromFile ++ fromOptions
  if useBridges && lines.isEmpty then
    .error (.exit "No Bridges Provided" "Bridges are enabled but no bridge lines or bridge files were specified.")
  else .ok (lines, useBridges || !lines.isEmpty)

/-! ### The torrc -/

def bridgeName : List Char := "Bridge".toList

def pluginName : List Char := "ClientTransportPlugin".toList

def useName : List Char := "UseBridges".toList

/-- `f"{name} {value}"`. -/
def optionLine (name value : List Char) : Line := name ++ ' ' :: value

/-- `TRUSTED_DIRS`. -/
def trustedDirs : List String := ["/usr/sbin", "/sbin", "/usr/bin", "/bin", "/usr/local/sbin", "/usr/local/bin"]

/-- What there is at a path: no file that can be executed, one that others than root can replace, or one of root's. -/
inductive Candidate where
  | missing
  | replaceable
  | safe
  deriving DecidableEq

/-- `resolve_optional`, in the directories that are left. -/
def resolveOptional (candidate : String → Candidate) (binary : String) : List String → Except Exc (Option String)
  | [] => .ok none
  | directory :: rest =>
    let path := s!"{directory}/{binary}"
    match candidate path with
    | .missing => resolveOptional candidate binary rest
    | .replaceable =>
      .error (.unsafeBinaryError
        (s!"{path} is executable but not owned exclusively by root, so a non-root user could replace it " ++
        "before TTP runs it with full privileges. Refusing to execute it."))
    | .safe => .ok (some path)

/-- `PT_MAP`: the transports and their binaries. -/
def ptMap : List (List Char × String) :=
  [("obfs4".toList, "obfs4proxy"), ("meek_lite".toList, "obfs4proxy"), ("snowflake".toList, "snowflake-client")]

/-- The lines that do not depend on the bridges. `tor_user` is not read. -/
def baseLines (transportPort dnsPort : Int) (blockDoh ipv6Avail : Bool) : List String :=
  ["# Generated by TTP: runtime volatile config", "VirtualAddrNetworkIPv4 10.192.0.0/10", "AutomapHostsOnResolve 1",
    s!"TransPort {transportPort}", s!"DNSPort {dnsPort}", "SocksPort 0", "ControlSocket /run/tor/ttp/control.sock",
    "ControlSocketsGroupWritable 1", "CookieAuthentication 1", "CookieAuthFile /run/tor/ttp/auth_cookie",
    "CookieAuthFileGroupReadable 1", "ClientUseIPv4 1"] ++
  (if ipv6Avail then
    [s!"TransPort [::1]:{transportPort}", s!"DNSPort [::1]:{dnsPort}", "ClientUseIPv6 1",
      "VirtualAddrNetworkIPv6 fc00::/7"]
  else ["ClientUseIPv6 0"]) ++
  ["DataDirectory /var/lib/tor/ttp"] ++
  (if blockDoh then
    ["use-application-dns.net", "cloudflare-dns.com", "dns.google", "dns.quad9.net", "doh.opendns.com",
      "dns.adguard.com"].map
      fun domain => s!"MapAddress {domain} 0.0.0.0"
  else [])

/-- The transport of a line that needs a plugin, by its name in `PT_MAP`. -/
def mapped? (line : Line) : Option (List Char) :=
  (split line).head?.bind fun first => if ((ptMap.lookup (lower first)).isSome) then some (lower first) else none

def addTransport (required : List (List Char)) (line : Line) : List (List Char) :=
  match mapped? line with
  | some name => if name ∈ required then required else required ++ [name]
  | none => required

/-- The transports, in the order in which the lines name them first. -/
def requiredTransports (bridges : List Line) : List (List Char) := bridges.foldl addTransport []

def pluginLine (candidate : String → Candidate) (name : List Char) : Except Exc Line := do
  let binary := (ptMap.lookup name).getD ""
  let path ← resolveOptional candidate binary trustedDirs
  .ok (optionLine pluginName (name ++ " exec ".toList ++ (path.getD s!"/usr/bin/{binary}").toList))

def bridgeLine (line : Line) : Except Exc Line :=
  if line.any (· ∈ ['\n', '\r', '\x0b', '\x0c', '\x00']) then
    .error (.valueError "Bridge value contains a line separator; refusing to write torrc")
  else .ok (optionLine bridgeName line)

/-- `_build_torrc_content`. -/
def buildTorrcContent (candidate : String → Candidate) (transportPort dnsPort : Int) (blockDoh useBridges : Bool)
    (bridges : List Line)
    (ipv6Avail : Bool) : Except Exc (List Char) := do
  let base := (baseLines transportPort dnsPort blockDoh ipv6Avail).map String.toList
  if useBridges && !bridges.isEmpty then
    let plugins ← (requiredTransports bridges).mapM (pluginLine candidate)
    let lines ← bridges.mapM bridgeLine
    .ok (written (base ++ [optionLine useName ['1']] ++ plugins ++ lines))
  else .ok (written base)

/-! ### What is claimed -/

/-- The transport that the words of a line name: the first of them, unless it is an address. -/
def transport? (words : List (List Char)) : Option (List Char) := words.head?.filter (!isBridgeAddress ·)

def bridge? (d : Directive) : Option (List (List Char)) := if d.name = bridgeName then some d.words else none

/-- The transport of a plugin. -/
def plugin? (d : Directive) : Option (List Char) := if d.name = pluginName then d.words.head? else none

/-- Some bridge of a torrc names the transport. -/
def Names (options : List Directive) (name : List Char) : Prop :=
  ∃ words ∈ options.filterMap bridge?, transport? words = some name

/-- A torrc has each line as one bridge with the words of the line, one plugin under the name of each transport of a
    bridge, and no other option that it has not without bridges, `UseBridges` apart. -/
structure Agrees (lines : List Line) (options base : List Directive) : Prop where
  bridges : (options.filterMap bridge?).Perm (lines.map split)
  plugins : ∀ name, Names options name → (options.filterMap plugin?).count name = 1
  others : ∀ d ∈ options, d ∈ base ∨ d.name = useName ∨ (bridge? d).isSome ∨ ∃ name, plugin? d = some name ∧
    Names options name

/-- A line that Tor reads as it stands: without a comment, not carried on, and with a transport as `PT_MAP` spells
    it. -/
structure Clean (line : Line) : Prop where
  uncommented : '#' ∉ line
  ends : line.getLast? ≠ some '\\'
  spelled : ∀ name, transport? (split line) = some name → name ∈ ptMap.map Prod.fst

/-! ### Accepted lines -/

section
variable {line : Line} {lines : List Line} {name : List Char}

theorem valid_legal (valid : validateBridgeLine line = .ok ()) : ∀ c ∈ line, isIllegal c = false := by
  by_contra illegal
  have found : line.any isIllegal = true := by simpa using illegal
  simp [validateBridgeLine, found] at valid

theorem grown_valid {rest : Except Ending (List Line)} (valid : validateBridgeLine line = .ok ())
    (others : ∀ lines, rest = .ok lines → ∀ line ∈ lines, validateBridgeLine line = .ok ())
    (accepted : rest.map (line :: ·) = .ok lines) : ∀ line ∈ lines, validateBridgeLine line = .ok () := by
  cases rest with
  | error e => cases accepted
  | ok more =>
    obtain rfl : line :: more = lines := by simpa [Except.map] using accepted
    intro other member
    obtain rfl | member := List.mem_cons.mp member
    · exact valid
    · exact others more rfl other member

theorem fileLines_valid {path : String} {number : Nat} {raws : List (List Char)}
    (accepted : fileLines path number raws = .ok lines) :
    ∀ line ∈ lines, validateBridgeLine line = .ok () := by
  induction raws generalizing number lines with
  | nil => simp_all [fileLines]
  | cons raw rest ih =>
    rw [fileLines] at accepted
    split at accepted
    · exact ih accepted
    · cases valid : validateBridgeLine (strip raw) with
      | error message => simp [valid] at accepted
      | ok _ => exact grown_valid valid (fun _ => ih) (by simpa only [valid] using accepted)

theorem optionLines_valid {raws : List (List Char)} (accepted : optionLines raws = .ok lines) :
    ∀ line ∈ lines, validateBridgeLine line = .ok () := by
  induction raws generalizing lines with
  | nil => simp_all [optionLines]
  | cons raw rest ih =>
    rw [optionLines] at accepted
    split at accepted
    · exact ih accepted
    · cases valid : validateBridgeLine (strip raw) with
      | error message => simp [valid] at accepted
      | ok _ => exact grown_valid valid (fun _ => ih) (by simpa only [valid] using accepted)

theorem readFile_valid {file : Option BridgeFile} (accepted : readFile file = .ok lines) :
    ∀ line ∈ lines, validateBridgeLine line = .ok () := by
  unfold readFile at accepted
  split at accepted
  · simp_all
  · split at accepted
    · cases accepted
    · cases accepted
    · cases accepted
    · exact fileLines_valid accepted

/-- Each accepted line is valid, and there are some only if bridges are used. -/
theorem parsed {bridgeFile : Option BridgeFile} {bridge : Option (List (List Char))} {useBridges used : Bool}
    (accepted : parseBridges bridgeFile bridge useBridges = .ok (lines, used)) :
    (∀ line ∈ lines, validateBridgeLine line = .ok ()) ∧ (lines ≠ [] → used = true) := by
  cases first : readFile bridgeFile with
  | error e => simp [parseBridges, first, bind, Except.bind] at accepted
  | ok fromFile =>
    cases second : optionLines (bridge.getD []) with
    | error e => simp [parseBridges, first, second, bind, Except.bind] at accepted
    | ok fromOptions =>
      simp only [parseBridges, first, second, bind, Except.bind] at accepted
      split at accepted
      · cases accepted
      · obtain ⟨rfl, rfl⟩ := Prod.mk.inj (Except.ok.inj accepted)
        refine ⟨fun line member => ?_, fun more => by simp_all⟩
        obtain member | member := List.mem_append.mp member
        · exact readFile_valid first line member
        · exact optionLines_valid second line member

theorem valid_single (valid : validateBridgeLine line = .ok ()) : '\n' ∉ line := fun member =>
  absurd (valid_legal valid '\n' member) (by decide)

end

/-! ### The lines without bridges -/

/-- A line that is read on its own, and is neither a bridge nor a plugin. -/
structure Apart (line : Line) : Prop where
  single : '\n' ∉ line
  ends : '\\' ∉ line
  begins : line.head?.any isBlank = false
  bridge : ¬bridgeName <+: line
  plugin : ¬pluginName <+: line

instance (line : Line) : Decidable (Apart line) :=
  decidable_of_iff ('\n' ∉ line ∧ '\\' ∉ line ∧ line.head?.any isBlank = false ∧ ¬bridgeName <+: line ∧
      ¬pluginName <+: line)
    ⟨fun ⟨single, ends, begins, bridge, plugin⟩ => ⟨single, ends, begins, bridge, plugin⟩,
      fun ⟨single, ends, begins, bridge, plugin⟩ => ⟨single, ends, begins, bridge, plugin⟩⟩

theorem port_chars (port : Int) : ∀ c ∈ (toString port).toList, c.isDigit = true ∨ c = '-' := by
  have natural (n : Nat) : ∀ c ∈ (toString n).toList, c.isDigit = true := fun c member => by
    simp only [toString, Nat.toList_repr] at member
    exact Nat.isDigit_of_mem_toDigits (by decide) (by decide) member
  intro c member
  cases port with
  | ofNat n => exact Or.inl (natural n c member)
  | negSucc n =>
    have parts : c = '-' ∨ c ∈ (toString (n + 1)).toList := by simpa [toString, Int.repr] using member
    obtain sign | digit := parts
    · exact Or.inr sign
    · exact Or.inl (natural _ c digit)

theorem apart_port {option : String} (port : Int) (named : Apart option.toList)
    (other : option.toList.head? ∉ [none, some 'B', some 'C']) : Apart (option ++ toString port).toList := by
  rw [String.toList_append]
  obtain ⟨first, rest, spelled⟩ : ∃ first rest, option.toList = first :: rest := by
    refine List.exists_cons_of_ne_nil fun empty => ?_
    simp [empty] at other
  rw [spelled] at named other ⊢
  refine ⟨fun member => ?_, fun member => ?_, ?_, fun starts => ?_, fun starts => ?_⟩
  · obtain member | member := List.mem_append.mp member
    · exact named.single member
    · exact absurd (port_chars port _ member) (by decide)
  · obtain member | member := List.mem_append.mp member
    · exact named.ends member
    · exact absurd (port_chars port _ member) (by decide)
  · simpa using named.begins
  · obtain rfl : 'B' = first := (List.cons_prefix_cons.mp starts).1
    simp at other
  · obtain rfl : 'C' = first := (List.cons_prefix_cons.mp starts).1
    simp at other

/-- The lines with a port, up to the port. -/
def portOptions : List String := ["TransPort ", "DNSPort ", "TransPort [::1]:", "DNSPort [::1]:"]

theorem base_cases {transportPort dnsPort : Int} {blockDoh ipv6Avail : Bool} {s : String}
    (member : s ∈ baseLines transportPort dnsPort blockDoh ipv6Avail) :
    s ∈ baseLines 0 0 blockDoh ipv6Avail ∨ ∃ option ∈ portOptions, ∃ port : Int, s = option ++ toString port := by
  have ported (option : String) (known : option ∈ portOptions) (port : Int) :
      ∃ option' ∈ portOptions, ∃ port' : Int, option ++ toString port = option' ++ toString port' :=
        ⟨option, known, port, rfl⟩
  simp only [baseLines, List.mem_append] at member ⊢
  obtain ((member | member) | member) | member := member
  · simp only [List.mem_cons, List.not_mem_nil, or_false] at member ⊢
    obtain same | same | same | rfl | rfl | same := member
    · simp [same]
    · simp [same]
    · simp [same]
    · exact Or.inr (ported "TransPort " (by simp [portOptions]) transportPort)
    · exact Or.inr (ported "DNSPort " (by simp [portOptions]) dnsPort)
    · exact Or.inl (Or.inl (Or.inl (Or.inl (by simp [same]))))
  · cases ipv6Avail with
    | true =>
      simp only [if_true, List.mem_cons, List.not_mem_nil, or_false] at member ⊢
      obtain rfl | rfl | same := member
      · exact Or.inr (ported "TransPort [::1]:" (by simp [portOptions]) transportPort)
      · exact Or.inr (ported "DNSPort [::1]:" (by simp [portOptions]) dnsPort)
      · exact Or.inl (Or.inl (Or.inl (Or.inr (by simp [same]))))
    | false => exact Or.inl (Or.inl (Or.inl (Or.inr member)))
  · exact Or.inl (Or.inl (Or.inr member))
  · exact Or.inl (Or.inr member)

theorem base_apart (transportPort dnsPort : Int) (blockDoh ipv6Avail : Bool) :
    ∀ s ∈ baseLines transportPort dnsPort blockDoh ipv6Avail, Apart s.toList := by
  have options : ∀ option ∈ portOptions, Apart option.toList ∧ option.toList.head? ∉ [none, some 'B', some 'C'] := by
    decide
  have fixed : ∀ blockDoh ipv6Avail, ∀ s ∈ baseLines 0 0 blockDoh ipv6Avail, Apart s.toList := by decide +kernel
  intro s member
  obtain member | ⟨option, known, port, rfl⟩ := base_cases member
  · exact fixed blockDoh ipv6Avail s member
  · exact apart_port port (options option known).1 (options option known).2

theorem apart_carries {line : Line} (apart : Apart line) : carries line = false := by
  by_contra on
  have last : line.getLast? = some '\\' := by
    simp only [carries, Bool.not_eq_false, Bool.and_eq_true, beq_iff_eq] at on
    exact on.2
  exact apart.ends (List.mem_of_getLast? last)

theorem apart_named {line : Line} (apart : Apart line) :
    bridge? (directive (body line)) = none ∧ plugin? (directive (body line)) = none := by
  have front : body line <+: line := by
    rw [body, apart_carries apart, if_neg Bool.false_ne_true]
    exact List.takeWhile_prefix _
  have unblanked : (body line).dropWhile isBlank = body line := by
    cases same : body line with
    | nil => rfl
    | cons c rest =>
      have first : line.head? = some c := by
        obtain ⟨after, whole⟩ := front
        rw [same] at whole
        rw [← whole]
        rfl
      have begins : isBlank c = false := by simpa [first] using apart.begins
      rw [List.dropWhile_cons_of_neg (by simp [begins])]
  have named : (directive (body line)).name <+: line := by
    rw [directive, unblanked]
    exact (List.takeWhile_prefix _).trans front
  have noBridge : (directive (body line)).name ≠ bridgeName := fun same => apart.bridge (same ▸ named)
  have noPlugin : (directive (body line)).name ≠ pluginName := fun same => apart.plugin (same ▸ named)
  exact ⟨if_neg noBridge, if_neg noPlugin⟩

/-- Without bridges, there is no bridge and no plugin. -/
theorem directives_apart {lines : List Line} (apart : ∀ line ∈ lines, Apart line) :
    (directives none lines).filterMap bridge? = [] ∧ (directives none lines).filterMap plugin? = [] := by
  induction lines with
  | nil => simp [directives]
  | cons line lines ih =>
    have here := apart line (by simp)
    have later := ih fun other member => apart other (by simp [member])
    rw [directives, apart_carries here, if_neg Bool.false_ne_true]
    by_cases blank : (body line).all isBlank = true
    · rw [if_pos blank]
      exact later
    · rw [if_neg blank]
      have named := apart_named here
      simp [named, later]

/-! ### Plugins -/

section
variable {candidate : String → Candidate} {binary path : String} {name : List Char} {line : Line} {lines : List Line}

theorem resolve_trusted {directories : List String}
    (found : resolveOptional candidate binary directories = .ok (some path)) :
    ∃ directory ∈ directories, path = s!"{directory}/{binary}" := by
  induction directories with
  | nil => simp [resolveOptional] at found
  | cons directory rest ih =>
    rw [resolveOptional] at found
    split at found
    · obtain ⟨other, member, same⟩ := ih found
      exact ⟨other, by simp [member], same⟩
    · cases found
    · obtain rfl := Option.some.inj (Except.ok.inj found)
      exact ⟨directory, by simp, rfl⟩

/-- The value of a plugin. -/
def pluginText (name : List Char) (directory : String) : List Char :=
  let binary := (ptMap.lookup name).getD ""
  name ++ " exec ".toList ++ s!"{directory}/{binary}".toList

theorem pluginLine_trusted (found : pluginLine candidate name = .ok line) :
    ∃ directory ∈ trustedDirs, line = optionLine pluginName (pluginText name directory) := by
  obtain ⟨path, resolved, same⟩ := bind_ok found
  cases path with
  | none => exact ⟨"/usr/bin", by simp [trustedDirs], (Except.ok.inj same).symm⟩
  | some path =>
    obtain ⟨directory, member, rfl⟩ := resolve_trusted resolved
    exact ⟨directory, member, (Except.ok.inj same).symm⟩

/-- Nothing in the line of a plugin means more to Tor than it says. -/
theorem pluginText_plain : ∀ name ∈ ptMap.map Prod.fst, ∀ directory ∈ trustedDirs,
    ('\n' ∉ pluginText name directory ∧ '#' ∉ pluginText name directory ∧ '\\' ∉ pluginText name directory) ∧
      (split (' ' :: pluginText name directory)).head? = some name := by decide +kernel

/-- A line whose value has nothing that means more to Tor than it says is read as one option. -/
theorem directives_plain {option value : List Char} (solid : ∀ c ∈ option, isBlank c = false ∧ c ≠ '#')
    (more : option ≠ [])
    (plain : '#' ∉ value) (ends : value.getLast? ≠ some '\\') (lines : List Line) :
    directives none (optionLine option value :: lines) = ⟨option, ' ' :: value⟩ :: directives none lines := by
  refine directives_option (fun c member => (solid c member).1) more (fun member => ?_) ?_ lines
  · obtain member | member := List.mem_append.mp member
    · exact (solid '#' member).2 rfl
    · exact plain (by simpa using member)
  · have last : (option ++ ' ' :: value).getLast? ≠ some '\\' := by
      cases value with
      | nil => simp
      | cons c value => simpa [List.getLast?_append, List.getLast?_cons_cons] using ends
    rw [carries, Bool.and_eq_false_iff]
    exact Or.inr (by simpa using last)

theorem names_solid : ∀ option ∈ [bridgeName, pluginName, useName], (∀ c ∈ option, isBlank c = false ∧ c ≠ '#') ∧
    option ≠ [] := by
  have solid : ∀ option ∈ [bridgeName, pluginName, useName], option.all (fun c => !isBlank c && c != '#') = true ∧
      option ≠ [] := by
    decide
  intro option known
  obtain ⟨chars, more⟩ := solid option known
  exact ⟨fun c member => by simpa using List.all_eq_true.mp chars c member, more⟩

theorem optionLine_single {option value : List Char} (known : option ∈ [bridgeName, pluginName, useName])
    (single : '\n' ∉ value) :
    '\n' ∉ optionLine option value := by
  have names : ∀ option ∈ [bridgeName, pluginName, useName], '\n' ∉ option := by decide
  simp [optionLine, names option known, single]

/-- The plugins are read as they were written, one for each name. -/
theorem directives_plugins {names : List (List Char)} (known : ∀ name ∈ names, name ∈ ptMap.map Prod.fst)
    {plugins : List Line}
    (found : names.mapM (pluginLine candidate) = .ok plugins) (rest : List Line) :
    ∃ read, directives none (plugins ++ rest) = read ++ directives none rest ∧ read.filterMap plugin? = names ∧
      read.filterMap bridge? = [] ∧ (∀ d ∈ read, ∃ name ∈ names, plugin? d = some name) ∧ ∀ line ∈ plugins,
      '\n' ∉ line := by
  induction names generalizing plugins with
  | nil =>
    obtain rfl : [] = plugins := by simpa [pure, Except.pure] using found
    exact ⟨[], by simp⟩
  | cons name names ih =>
    rw [List.mapM_cons] at found
    obtain ⟨line, first, found⟩ := bind_ok found
    obtain ⟨others, later, found⟩ := bind_ok found
    obtain rfl : line :: others = plugins := by simpa [pure, Except.pure] using found
    obtain ⟨directory, trusted, rfl⟩ := pluginLine_trusted first
    obtain ⟨⟨single, uncommented, ends⟩, spelled⟩ := pluginText_plain name (known name (by simp)) directory trusted
    obtain ⟨solid, more⟩ := names_solid pluginName (by simp)
    obtain ⟨read, same, names', apart, each, singles⟩ := ih (fun other member => known other (by simp [member])) later
    have other : pluginName ≠ bridgeName := by decide
    have unended : (pluginText name directory).getLast? ≠ some '\\' := fun last => ends (List.mem_of_getLast? last)
    have plugin : plugin? ⟨pluginName, ' ' :: pluginText name directory⟩ = some name := by
      rw [plugin?, if_pos rfl, Directive.words, spelled]
    have bridge : bridge? ⟨pluginName, ' ' :: pluginText name directory⟩ = none := if_neg other
    refine ⟨⟨pluginName, ' ' :: pluginText name directory⟩ :: read, ?_, ?_, ?_, ?_, ?_⟩
    · rw [List.cons_append, directives_plain solid more uncommented unended, same, List.cons_append]
    · rw [List.filterMap_cons_some plugin, names']
    · rw [List.filterMap_cons_none bridge, apart]
    · intro d member
      obtain rfl | member := List.mem_cons.mp member
      · exact ⟨name, by simp, plugin⟩
      · obtain ⟨other, known, told⟩ := each d member
        exact ⟨other, by simp [known], told⟩
    · intro line member
      obtain rfl | member := List.mem_cons.mp member
      · exact optionLine_single (by simp) single
      · exact singles line member

end

/-! ### Transports -/

section
variable {line : Line} {lines : List Line} {name word : List Char}

theorem addTransport_spec {required : List (List Char)} (distinct : required.Nodup) (line : Line) :
    (addTransport required line).Nodup ∧ ∀ name, name ∈ addTransport required line ↔ name ∈ required ∨
      mapped? line = some name := by
  cases found : mapped? line with
  | none => simpa [addTransport, found] using distinct
  | some first =>
    by_cases there : first ∈ required
    · simp only [addTransport, found, there, if_true, Option.some.injEq]
      refine ⟨distinct, fun name => ⟨Or.inl, ?_⟩⟩
      rintro (member | rfl)
      · exact member
      · exact there
    · simp only [addTransport, found, there, if_false, List.mem_append, List.mem_singleton, Option.some.injEq,
        List.nodup_append]
      refine ⟨⟨distinct, by simp, ?_⟩, fun name => by rw [eq_comm]⟩
      rintro a member b rfl rfl
      exact there member

theorem requiredTransports_spec (lines : List Line) :
    (requiredTransports lines).Nodup ∧ ∀ name, name ∈ requiredTransports lines ↔ ∃ line ∈ lines,
      mapped? line = some name := by
  have onwards (lines : List Line) {required : List (List Char)} (distinct : required.Nodup) :
      (lines.foldl addTransport required).Nodup ∧
        ∀ name, name ∈ lines.foldl addTransport required ↔ name ∈ required ∨ ∃ line ∈ lines,
        mapped? line = some name := by
    induction lines generalizing required with
    | nil => simpa using distinct
    | cons line lines ih =>
      obtain ⟨distinct', first⟩ := addTransport_spec distinct line
      obtain ⟨distinct'', later⟩ := ih distinct'
      refine ⟨distinct'', fun name => ?_⟩
      rw [List.foldl_cons, later, first]
      simp [or_assoc]
  simpa [requiredTransports] using onwards lines List.nodup_nil

theorem mapped_known (named : mapped? line = some name) :
    name ∈ ptMap.map Prod.fst ∧ ∃ first, (split line).head? = some first ∧ name = lower first := by
  obtain ⟨first, begins, told⟩ := Option.bind_eq_some_iff.mp named
  split_ifs at told with found
  obtain rfl := Option.some.inj told
  refine ⟨?_, first, begins, rfl⟩
  obtain ⟨binary, there⟩ := Option.isSome_iff_exists.mp found
  obtain ⟨before, after, whole, _⟩ := List.lookup_eq_some_iff.mp there
  exact List.mem_map.mpr ⟨(lower first, binary), by simp [whole], rfl⟩

theorem lower_known : ∀ name ∈ ptMap.map Prod.fst, lower name = name ∧ (ptMap.lookup name).isSome = true := by decide

theorem address_colon (address : isBridgeAddress word = true) : ':' ∈ word := by
  unfold isBridgeAddress at address
  cases found : bridgeAddress? word with
  | none => simp [found] at address
  | some parts =>
    unfold bridgeAddress? at found
    split at found
    · split at found
      case h_1 rest _ port after =>
        have member : ':' ∈ rest.dropWhile (· != ']') := by simp [after]
        exact List.mem_cons_of_mem _ (List.dropWhile_subset _ member)
      · cases found
    · split at found
      case h_1 port after =>
        have member : ':' ∈ word.dropWhile (· != ':') := by simp [after]
        exact List.dropWhile_subset _ member
      · cases found

/-- A word of `PT_MAP`, in any case, is no address. -/
theorem known_named (known : lower word ∈ ptMap.map Prod.fst) : isBridgeAddress word = false := by
  have plain : ∀ name ∈ ptMap.map Prod.fst, ':' ∉ name := by decide
  by_contra address
  have colon : ':' ∈ word := address_colon (by simpa using address)
  exact plain _ known (List.mem_map.mpr ⟨':', colon, by decide⟩)

end

/-! ### Bridges -/

section
variable {line : Line} {lines : List Line}

theorem bridgeLine_named {written : Line} (found : bridgeLine line = .ok written) :
    written = optionLine bridgeName line := by
  unfold bridgeLine at found
  split_ifs at found
  exact (Except.ok.inj found).symm

theorem bridgeLines_named {written : List Line} (found : lines.mapM bridgeLine = .ok written) :
    written = lines.map (optionLine bridgeName) := by
  induction lines generalizing written with
  | nil => simpa [pure, Except.pure, eq_comm] using found
  | cons line lines ih =>
    rw [List.mapM_cons] at found
    obtain ⟨first, here, found⟩ := bind_ok found
    obtain ⟨others, later, found⟩ := bind_ok found
    obtain rfl : first :: others = written := by simpa [pure, Except.pure] using found
    rw [bridgeLine_named here, ih later, List.map_cons]

/-- What Tor reads in the lines of some bridges. -/
def bridgeOptions (lines : List Line) : List Directive := directives none (lines.map (optionLine bridgeName))

/-- An option that starts on the line of a bridge is a bridge, wherever its value goes on. -/
theorem bridge_begins (line : Line) : (directive (body (optionLine bridgeName line))).name = bridgeName := by
  obtain ⟨solid, more⟩ := names_solid bridgeName (by simp)
  obtain ⟨rest, starts⟩ : ∃ rest, body (optionLine bridgeName line) = bridgeName ++ ' ' :: rest := by
    unfold body
    split_ifs with on
    · cases line with
      | nil =>
        have unended : carries (optionLine bridgeName []) = false := by decide
        rw [unended] at on
        cases on
      | cons c line => exact ⟨(c :: line).dropLast, by simp [optionLine]⟩
    · have plain : ∀ c ∈ bridgeName, (c != '#') = true := fun c member => by simp [(solid c member).2]
      refine ⟨line.takeWhile (· != '#'), ?_⟩
      rw [optionLine, List.takeWhile_append_of_pos plain, List.takeWhile_cons_of_pos (by decide)]
  rw [starts, directive_option (fun c member => (solid c member).1) more]

theorem bridgeOptions_named (lines : List Line) : ∀ d ∈ bridgeOptions lines, d.name = bridgeName := by
  refine directives_named (fun line member => ?_) (by simp)
  obtain ⟨bridge, _, rfl⟩ := List.mem_map.mp member
  exact bridge_begins bridge

theorem bridges_words (lines : List Line) :
    (bridgeOptions lines).filterMap bridge? = (bridgeOptions lines).map Directive.words := by
  have each : ∀ d ∈ bridgeOptions lines, bridge? d = some d.words := fun d member =>
    if_pos (bridgeOptions_named lines d member)
  rw [List.filterMap_congr each, List.filterMap_eq_map']

theorem bridges_unplugged (lines : List Line) : (bridgeOptions lines).filterMap plugin? = [] := by
  have other : bridgeName ≠ pluginName := by decide
  rw [List.filterMap_eq_nil_iff]
  intro d member
  rw [plugin?, bridgeOptions_named lines d member, if_neg other]

theorem bridge_carries (uncommented : '#' ∉ line) (last : line.getLast? = some '\\') :
    carries (optionLine bridgeName line) = true := by
  obtain ⟨solid, _⟩ := names_solid bridgeName (by simp)
  have plain : '#' ∉ optionLine bridgeName line := by
    have name : '#' ∉ bridgeName := fun member => (solid '#' member).2 rfl
    simp [optionLine, name, uncommented]
  have last' : (optionLine bridgeName line).getLast? = some '\\' := by
    obtain ⟨front, rfl⟩ := List.getLast?_eq_some_iff.mp last
    rw [optionLine, ← List.cons_append, ← List.append_assoc, List.getLast?_concat]
  simp [carries, commented, plain, last']

/-- Clean lines are read one by one. -/
theorem bridgeOptions_clean (clean : ∀ line ∈ lines, '#' ∉ line ∧ line.getLast? ≠ some '\\') :
    bridgeOptions lines = lines.map fun line => ⟨bridgeName, ' ' :: line⟩ := by
  obtain ⟨solid, more⟩ := names_solid bridgeName (by simp)
  induction lines with
  | nil => rfl
  | cons line lines ih =>
    obtain ⟨uncommented, ends⟩ := clean line (by simp)
    rw [bridgeOptions, List.map_cons, List.map_cons, directives_plain solid more uncommented ends, ← bridgeOptions,
      ih fun other member => clean other (by simp [member])]

theorem words_value (name : List Char) (line : Line) : Directive.words ⟨name, ' ' :: line⟩ = split line := by
  have spaces : ∀ c ∈ [' '], isSpace c = true := by simp [isSpace]
  exact splitFrom_spaces spaces line

/-- Where the bridges have the words of the lines, no line has a comment. -/
theorem same_uncommented (same : ((bridgeOptions lines).map Directive.words).Perm (lines.map split)) :
    ∀ line ∈ lines, '#' ∉ line := by
  intro line member commented
  have words : split line ∈ (bridgeOptions lines).map Directive.words :=
    same.mem_iff.mpr (List.mem_map_of_mem member)
  obtain ⟨d, read, words⟩ := List.mem_map.mp words
  have there : '#' ∈ (split line).flatten := by
    rw [split_flatten]
    exact List.mem_filter.mpr ⟨commented, by decide⟩
  rw [← words, Directive.words, split_flatten] at there
  exact directives_uncommented _ (by simp) d read (List.mem_filter.mp there).1

/-- And none goes on on the next one: each that does loses its backslash. -/
theorem same_ends (same : ((bridgeOptions lines).map Directive.words).Perm (lines.map split)) :
    ∀ line ∈ lines, carries (optionLine bridgeName line) = false := by
  have glued (texts : List (List Char)) :
      ((texts.map split).map List.flatten).flatten.count '\\' = texts.flatten.count '\\' := by
    induction texts with
    | nil => rfl
    | cons text texts ih =>
      rw [List.map_cons, List.map_cons, List.flatten_cons, List.count_append, ih, split_flatten,
        List.count_filter (by decide), List.flatten_cons, List.count_append]
  have told : ((bridgeOptions lines).map (·.value)).flatten.count '\\' = lines.flatten.count '\\' := by
    have counted := (same.map List.flatten).flatten.count_eq '\\'
    have values : (bridgeOptions lines).map Directive.words = ((bridgeOptions lines).map (·.value)).map split := by
      simp [Directive.words]
    rwa [values, glued, glued] at counted
  have fewer (read : List Directive) :
      (read.map (·.value)).flatten.count '\\' ≤ (read.flatMap Directive.text).count '\\' := by
    induction read with
    | nil => simp
    | cons d read ih =>
      simp only [List.map_cons, List.flatten_cons, List.flatMap_cons, List.count_append, Directive.text]
      omega
  have written (lines : List Line) : (lines.map (optionLine bridgeName)).flatten.count '\\' =
      lines.flatten.count '\\' := by
    have none : bridgeName.count '\\' = 0 := by decide
    induction lines with
    | nil => rfl
    | cons line lines ih => simp [optionLine, none, ih]
  have lost := directives_backslashes none (lines.map (optionLine bridgeName))
  rw [← bridgeOptions] at lost
  have kept := fewer (bridgeOptions lines)
  simp only [written, Option.toList_none, List.flatMap_nil, List.count_nil] at lost
  have few : (lines.map (optionLine bridgeName)).countP carries = 0 := by omega
  intro line member
  simpa using List.countP_eq_zero.mp few (optionLine bridgeName line) (List.mem_map_of_mem member)

end

/-! ### The whole torrc -/

section
variable {candidate : String → Candidate} {transportPort dnsPort : Int} {blockDoh used ipv6Avail : Bool}
  {lines : List Line}
  {content base : List Char}

theorem base_lines {line : Line} (member :
    line ∈ (baseLines transportPort dnsPort blockDoh ipv6Avail).map String.toList) : Apart line := by
  obtain ⟨s, known, rfl⟩ := List.mem_map.mp member
  exact base_apart transportPort dnsPort blockDoh ipv6Avail s known

/-- Without bridges the torrc is read as the lines that do not depend on them. -/
theorem base_options (unbridged : buildTorrcContent candidate transportPort dnsPort blockDoh used
    [] ipv6Avail = .ok base) :
    options base = directives none ((baseLines transportPort dnsPort blockDoh ipv6Avail).map String.toList) := by
  obtain rfl : written ((baseLines transportPort dnsPort blockDoh ipv6Avail).map String.toList) = base := by
    simpa [buildTorrcContent] using unbridged
  rw [options_written fun line member => (base_lines member).single, directives_end]

/-- With bridges, three parts more are read: that they are used, the plugins, and what the lines of the bridges are
    read as. -/
theorem bridged_options (single : ∀ line ∈ lines, '\n' ∉ line) (more : lines ≠ [])
    (built : buildTorrcContent candidate transportPort dnsPort blockDoh true lines ipv6Avail = .ok content)
    (unbridged : buildTorrcContent candidate transportPort dnsPort blockDoh used [] ipv6Avail = .ok base) :
    ∃ read, options content = options base ++ ⟨useName, [' ', '1']⟩ :: (read ++ bridgeOptions lines) ∧
      read.filterMap plugin? = requiredTransports lines ∧ read.filterMap bridge? = [] ∧
      ∀ d ∈ read, ∃ name ∈ requiredTransports lines, plugin? d = some name := by
  have some : (true && !lines.isEmpty) = true := by simpa using more
  rw [buildTorrcContent] at built
  rw [if_pos some] at built
  obtain ⟨plugins, found, built⟩ := bind_ok built
  obtain ⟨bridges, named, built⟩ := bind_ok built
  obtain rfl := bridgeLines_named named
  obtain rfl := Except.ok.inj built
  obtain ⟨_, required⟩ := requiredTransports_spec lines
  have known : ∀ name ∈ requiredTransports lines, name ∈ ptMap.map Prod.fst := fun name member => by
    obtain ⟨line, _, mapped⟩ := (required name).mp member
    exact (mapped_known mapped).1
  obtain ⟨read, plugged, names, apart, each, singles⟩ :=
    directives_plugins known found (lines.map (optionLine bridgeName))
  refine ⟨read, ?_, names, apart, each⟩
  have singles' : ∀ line ∈ (baseLines transportPort dnsPort blockDoh ipv6Avail).map String.toList ++
    [optionLine useName ['1']] ++ plugins ++
      lines.map (optionLine bridgeName), '\n' ∉ line := by
    simp only [List.forall_mem_append]
    refine ⟨⟨⟨fun line member => (base_lines member).single, fun line member => ?_⟩, singles⟩, fun line member => ?_⟩
    · rw [List.mem_singleton.mp member]
      exact optionLine_single (by simp) (by decide)
    · obtain ⟨bridge, there, rfl⟩ := List.mem_map.mp member
      exact optionLine_single (by simp) (single bridge there)
  obtain ⟨solid, more⟩ := names_solid useName (by simp)
  rw [options_written singles', directives_end, List.append_assoc, List.append_assoc,
    directives_append fun line member => apart_carries (base_lines member), List.singleton_append,
    directives_plain solid more (by decide) (by decide), plugged, base_options unbridged, bridgeOptions]

theorem base_plain (unbridged : buildTorrcContent candidate transportPort dnsPort blockDoh used
    [] ipv6Avail = .ok base) :
    (options base).filterMap bridge? = [] ∧ (options base).filterMap plugin? = [] := by
  rw [base_options unbridged]
  exact directives_apart fun line member => base_lines member

/-- A line that names a transport as `PT_MAP` has it is one that needs its plugin. -/
theorem mapped_spelled {line : Line} {name : List Char} (named : transport? (split line) = some name)
    (known : name ∈ ptMap.map Prod.fst) :
    mapped? line = some name := by
  obtain ⟨begins, _⟩ := Option.filter_eq_some_iff.mp named
  obtain ⟨same, there⟩ := lower_known name known
  simp [mapped?, begins, same, there]

theorem transport_mapped {line : Line} {name : List Char} (mapped : mapped? line = some name)
    (spelled : ∀ name, transport? (split line) = some name → name ∈ ptMap.map Prod.fst) :
    transport? (split line) = some name := by
  obtain ⟨known, first, begins, rfl⟩ := mapped_known mapped
  have named : transport? (split line) = some first := by
    rw [transport?, begins, Option.filter_some_pos (by simp [known_named known])]
  rw [named, (lower_known first (spelled first named)).1]

theorem bridged_agrees {read : List Directive} (options' : options content = options base ++
      ⟨useName, [' ', '1']⟩ :: (read ++ bridgeOptions lines))
    (plain : (options base).filterMap bridge? = [] ∧ (options base).filterMap plugin? = [])
    (plugins : read.filterMap plugin? = requiredTransports lines) (apart : read.filterMap bridge? = [])
    (each : ∀ d ∈ read, ∃ name ∈ requiredTransports lines, plugin? d = some name) :
    Agrees lines (options content) (options base) ↔ ∀ line ∈ lines, Clean line := by
  obtain ⟨distinct, required⟩ := requiredTransports_spec lines
  have bridges : (options content).filterMap bridge? = (bridgeOptions lines).map Directive.words := by
    have other : bridge? ⟨useName, [' ', '1']⟩ = none := if_neg (show useName ≠ bridgeName by decide)
    rw [options', List.filterMap_append, plain.1, List.filterMap_cons_none other, List.filterMap_append,
      apart, bridges_words]
    rfl
  have plugged : (options content).filterMap plugin? = requiredTransports lines := by
    have other : plugin? ⟨useName, [' ', '1']⟩ = none := if_neg (show useName ≠ pluginName by decide)
    rw [options', List.filterMap_append, plain.2, List.filterMap_cons_none other, List.filterMap_append, plugins,
      bridges_unplugged]
    simp
  have named (same : ((options content).filterMap bridge?).Perm (lines.map split)) (name : List Char) :
      Names (options content) name ↔ ∃ line ∈ lines, transport? (split line) = some name := by
    simp [Names, same.mem_iff]
  constructor
  · intro agrees line member
    have same := agrees.bridges
    rw [bridges] at same
    have uncommented := same_uncommented same line member
    have ends := same_ends same line member
    refine ⟨uncommented, fun last => ?_, fun name told => ?_⟩
    · rw [bridge_carries uncommented last] at ends
      cases ends
    · have once := agrees.plugins name ((named agrees.bridges name).mpr ⟨line, member, told⟩)
      rw [plugged] at once
      obtain ⟨other, _, mapped⟩ := (required name).mp (List.count_pos_iff.mp (by omega))
      exact (mapped_known mapped).1
  · intro clean
    have read' : bridgeOptions lines = lines.map fun line => ⟨bridgeName, ' ' :: line⟩ :=
      bridgeOptions_clean fun line member => ⟨(clean line member).uncommented, (clean line member).ends⟩
    have same : ((options content).filterMap bridge?).Perm (lines.map split) := by
      rw [bridges, read', List.map_map]
      exact (List.map_congr_left fun line _ => words_value bridgeName line) ▸ List.Perm.refl _
    refine ⟨same, fun name told => ?_, fun d member => ?_⟩
    · obtain ⟨line, member, transport⟩ := (named same name).mp told
      rw [plugged]
      exact List.count_eq_one_of_mem distinct
        ((required name).mpr ⟨line, member, mapped_spelled transport ((clean line member).spelled name transport)⟩)
    · rw [options'] at member
      obtain member | member := List.mem_append.mp member
      · exact Or.inl member
      obtain rfl | member := List.mem_cons.mp member
      · exact Or.inr (Or.inl rfl)
      obtain member | member := List.mem_append.mp member
      · obtain ⟨name, known, told⟩ := each d member
        obtain ⟨line, there, mapped⟩ := (required name).mp known
        exact Or.inr (Or.inr (Or.inr
          ⟨name, told, (named same name).mpr ⟨line, there, transport_mapped mapped (clean line there).spelled⟩⟩))
      · have bridge : bridge? d = some d.words := if_pos (bridgeOptions_named lines d member)
        exact Or.inr (Or.inr (Or.inl (by simp [bridge])))

end

/-! ### What the writer refuses -/

section
variable {candidate : String → Candidate} {e : Exc}

theorem resolve_unsafe {binary : String} {directories : List String}
    (failed : resolveOptional candidate binary directories = .error e) :
    e.isUnsafeBinaryError = true := by
  induction directories with
  | nil => cases failed
  | cons directory rest ih =>
    rw [resolveOptional] at failed
    split at failed
    · exact ih failed
    · obtain rfl := Except.error.inj failed
      rfl
    · cases failed

theorem mapM_error {α β : Type} {f : α → Except Exc β} {items : List α} (failed : items.mapM f = .error e) :
    ∃ a ∈ items, f a = .error e := by
  induction items with
  | nil => cases failed
  | cons a rest ih =>
    rw [List.mapM_cons] at failed
    cases first : f a with
    | error e' =>
      obtain rfl : e' = e := by simpa [first, bind, Except.bind] using failed
      exact ⟨a, by simp, first⟩
    | ok b =>
      cases others : rest.mapM f with
      | error e' =>
        obtain rfl : e' = e := by simpa [first, others, bind, Except.bind] using failed
        obtain ⟨other, member, same⟩ := ih others
        exact ⟨other, by simp [member], same⟩
      | ok bs => simp [first, others, bind, Except.bind, pure, Except.pure] at failed

theorem valid_written {line : Line} (valid : validateBridgeLine line = .ok ()) :
    bridgeLine line = .ok (optionLine bridgeName line) := by
  refine if_neg fun broken => ?_
  obtain ⟨c, member, separator⟩ := List.any_eq_true.mp broken
  have illegal : ['\n', '\r', '\x0b', '\x0c', '\x00'].all isIllegal = true := by decide
  have legal := valid_legal valid c member
  rw [List.all_eq_true.mp illegal c (by simpa using separator)] at legal
  cases legal

/-- For accepted lines a torrc is written, unless a binary is one that others than root can replace. -/
theorem written_unless {bridgeFile : Option BridgeFile} {bridge : Option (List (List Char))} {useBridges used : Bool}
    {lines : List Line}
    {transportPort dnsPort : Int} {blockDoh ipv6Avail : Bool}
    (accepted : parseBridges bridgeFile bridge useBridges = .ok (lines, used))
    (failed : buildTorrcContent candidate transportPort dnsPort blockDoh used lines ipv6Avail = .error e) :
    e.isUnsafeBinaryError = true := by
  obtain ⟨valid, _⟩ := parsed accepted
  unfold buildTorrcContent at failed
  split at failed
  · cases plugins : (requiredTransports lines).mapM (pluginLine candidate) with
    | error e' =>
      obtain rfl : e' = e := by simpa [plugins, bind, Except.bind] using failed
      obtain ⟨name, _, refused⟩ := mapM_error plugins
      cases path : resolveOptional candidate ((ptMap.lookup name).getD "") trustedDirs with
      | error e =>
        obtain rfl : e = e' := by simpa [pluginLine, path, bind, Except.bind] using refused
        exact resolve_unsafe path
      | ok path' => simp [pluginLine, path, bind, Except.bind] at refused
    | ok written =>
      cases named : lines.mapM bridgeLine with
      | error e' =>
        obtain ⟨line, member, failed⟩ := mapM_error named
        simp [valid_written (valid line member)] at failed
      | ok bridges => simp [plugins, named, bind, Except.bind] at failed
  · cases failed

end

/-- A torrc agrees with the accepted lines exactly if each of them has no comment, does not end in a backslash and
    names its transport, if it names one, as `PT_MAP` does. -/
theorem torrc_agrees {bridgeFile : Option BridgeFile} {bridge : Option (List (List Char))} {useBridges used : Bool}
    {lines : List Line}
    {candidate : String → Candidate} {transportPort dnsPort : Int} {blockDoh ipv6Avail : Bool}
    {content base : List Char}
    (accepted : parseBridges bridgeFile bridge useBridges = .ok (lines, used))
    (built : buildTorrcContent candidate transportPort dnsPort blockDoh used lines ipv6Avail = .ok content)
    (unbridged : buildTorrcContent candidate transportPort dnsPort blockDoh used [] ipv6Avail = .ok base) :
    Agrees lines (options content) (options base) ↔ ∀ line ∈ lines, Clean line := by
  obtain ⟨valid, uses⟩ := parsed accepted
  have plain := base_plain unbridged
  by_cases more : lines = []
  · obtain rfl := more
    obtain rfl := Except.ok.inj (built.symm.trans unbridged)
    refine iff_of_true ⟨by simp [plain.1], fun name told => ?_, fun d member => Or.inl member⟩ (by simp)
    simp [Names, plain.1] at told
  · obtain rfl := uses more
    obtain ⟨read, options', plugins, apart, each⟩ :=
      bridged_options (fun line member => valid_single (valid line member)) more built unbridged
    exact bridged_agrees options' plain plugins apart each

/-- The bridge of a user, in a torrc that agrees. -/
theorem torrc_agrees_obfs4 :
    ∃ content base, parseBridges none (some [" obfs4 192.0.2.10:9001 cert=a iat-mode=0".toList]) false =
        .ok (["obfs4 192.0.2.10:9001 cert=a iat-mode=0".toList], true) ∧
      Agrees ["obfs4 192.0.2.10:9001 cert=a iat-mode=0".toList] (options content) (options base) := by
  have accepted : parseBridges none (some [" obfs4 192.0.2.10:9001 cert=a iat-mode=0".toList]) false =
      .ok (["obfs4 192.0.2.10:9001 cert=a iat-mode=0".toList], true) := by decide
  obtain ⟨content, built⟩ : ∃ content, buildTorrcContent (fun _ => .missing) 9041 9054 true true
      ["obfs4 192.0.2.10:9001 cert=a iat-mode=0".toList] true = .ok content := ⟨_, rfl⟩
  obtain ⟨base, unbridged⟩ : ∃ base, buildTorrcContent (fun _ => .missing) 9041 9054 true true [] true = .ok base :=
    ⟨_, rfl⟩
  have clean : Clean "obfs4 192.0.2.10:9001 cert=a iat-mode=0".toList := by
    have named : transport? (split "obfs4 192.0.2.10:9001 cert=a iat-mode=0".toList) = some "obfs4".toList := by decide
    refine ⟨by decide, by decide, fun name told => ?_⟩
    obtain rfl := Option.some.inj (named.symm.trans told)
    decide
  exact ⟨content, base, accepted, (torrc_agrees accepted built unbridged).mpr (by simpa using clean)⟩

/-- A backslash at the end of an accepted bridge takes the next one into it. -/
theorem torrc_disagrees :
    ∃ content base, parseBridges none (some ["192.0.2.1:443 \\".toList, "192.0.2.2:443".toList]) false =
        .ok (["192.0.2.1:443 \\".toList, "192.0.2.2:443".toList], true) ∧
      buildTorrcContent (fun _ => .missing) 9041 9054 true true
      ["192.0.2.1:443 \\".toList, "192.0.2.2:443".toList] true = .ok content ∧
      buildTorrcContent (fun _ => .missing) 9041 9054 true true [] true = .ok base ∧
      ¬Agrees ["192.0.2.1:443 \\".toList, "192.0.2.2:443".toList] (options content) (options base) := by
  have accepted : parseBridges none (some ["192.0.2.1:443 \\".toList, "192.0.2.2:443".toList]) false =
      .ok (["192.0.2.1:443 \\".toList, "192.0.2.2:443".toList], true) := by decide
  refine ⟨_, _, accepted, rfl, rfl, fun agrees => ?_⟩
  have two := agrees.bridges.length_eq
  revert two
  decide +kernel

end Ttp.Bridges
