import Ttp.EmergencyContract
import Ttp.Firewall

/-!
The script that `apply_emergency_killswitch` pipes to `nft -f -`, and what `nft`
does with it: the text is a list of commands, which are one transaction on the
table `inet ttp`, and `nft -j` lists the objects that are installed in the end.
Only the part of the language that the script is written in is read.
-/
namespace Ttp.NftScript
open Ttp.Python Ttp.Program Ttp.Machine Ttp.Firewall
open Ttp.Nft (Table Chain Rule Match Verdict)

/-! ### Installed objects -/

inductive Statement where
  /-- `iifname "name"`, `oifname "name"`. -/
  | interface (key name : String)
  | accept
  | drop
  /-- A statement the script does not use, as `nft -j` words it. -/
  | other (worded : Json)

/-- Where a base chain is bound. -/
structure Binding where
  type : String
  hook : String
  priority : Int
  policy : String
  devices : List String
  deriving DecidableEq

structure InstalledChain where
  name : String
  /-- A regular chain is bound nowhere. -/
  binding : Option Binding
  rules : List (List Statement)

/-- The table `inet ttp` in the kernel; sets, maps, counters and the like as `nft -j` words them. -/
structure Installed where
  flags : List String
  chains : List InstalledChain
  objects : List (String × Obj)

/-! ### Commands -/

inductive Command where
  | addTable
  | deleteTable
  | addCounter (name : String)
  | addChain (name : String) (binding : Option Binding)
  | addRule (chain : String) (rule : List Statement)

/-- A new counter. -/
def counterObject (name : String) : String × Obj :=
  ("counter", [("name", .str name), ("packets", .int 0), ("bytes", .int 0)])

/-- A counter that exists keeps its packets. -/
def Installed.addCounter (t : Installed) (name : String) : Installed :=
  if t.objects.any fun (kind, o) => kind == "counter" && o.get "name" == .str name then t
  else { t with objects := t.objects ++ [counterObject name] }

/-- A chain that exists stays as it is, if the command does not bind it elsewhere. -/
def Installed.addChain (t : Installed) (name : String) (binding : Option Binding) : Option Installed :=
  match t.chains.find? (·.name == name) with
  | some chain => if chain.binding = binding then some t else none
  | none => some { t with chains := t.chains ++ [⟨name, binding, []⟩] }

def Installed.addRule (t : Installed) (chain : String) (rule : List Statement) : Option Installed :=
  if t.chains.any (·.name == chain) then
    some { t with chains := t.chains.map fun c => if c.name == chain then { c with rules := c.rules ++ [rule] } else c }
  else none

/-- One command, on the table if there is one; `none` is an error. -/
def Command.run : Command → Option Installed → Option (Option Installed)
  | .addTable, none => some (some ⟨[], [], []⟩)
  | .addTable, some t => some (some t)
  | .deleteTable, some _ => some none
  | .addCounter name, some t => some (some (t.addCounter name))
  | .addChain name binding, some t => (t.addChain name binding).map some
  | .addRule chain rule, some t => (t.addRule chain rule).map some
  | _, none => none

/-- The commands in turn; an error anywhere leaves nothing. -/
def runAll (script : List Command) (t : Option Installed) : Option (Option Installed) :=
  script.foldlM (fun t c => c.run t) t

/-! ### The text -/

/-- What the text is made of; lines end in a separator. -/
inductive Token where
  | word (s : String)
  | quoted (s : String)
  /-- A newline or a semicolon. -/
  | sep
  | left
  | right

/-- The names `nft` has for priorities of the `inet` family. -/
def priorityOf : String → Option Int
  | "raw" => some (-300)
  | "mangle" => some (-150)
  | "dstnat" => some (-100)
  | "filter" => some 0
  | "security" => some 50
  | "srcnat" => some 100
  | _ => none

def verdictOf : String → Option Statement
  | "accept" => some .accept
  | "drop" => some .drop
  | _ => none

/-- How far into its blocks the text is. -/
inductive Place where
  | top
  | table
  /-- After the head of a chain, before its `type` line. -/
  | head (chain : String)
  | chain (chain : String)

/-- The commands of a script. -/
def parse : Place → List Token → Option (List Command)
  | .top, [] => some []
  | place, .sep :: rest => parse place rest
  | .top, .word "add" :: .word "table" :: .word "inet" :: .word "ttp" :: .sep :: rest =>
    (parse .top rest).map (.addTable :: ·)
  | .top, .word "delete" :: .word "table" :: .word "inet" :: .word "ttp" :: .sep :: rest =>
    (parse .top rest).map (.deleteTable :: ·)
  | .top, .word "table" :: .word "inet" :: .word "ttp" :: .left :: rest => (parse .table rest).map (.addTable :: ·)
  | .table, .right :: rest => parse .top rest
  | .table, .word "chain" :: .word name :: .left :: rest => parse (.head name) rest
  | .head name, .word "type" :: .word type :: .word "hook" :: .word hook :: .word "priority" :: .word
      priority :: .sep ::
      .word "policy" :: .word policy :: .sep :: rest =>
    match priorityOf priority with
    | some n => (parse (.chain name) rest).map (.addChain name (some ⟨type, hook, n, policy, []⟩) :: ·)
    | none => none
  | .chain _, .right :: rest => parse .table rest
  | .chain name, .word key :: .quoted interface :: .word verdict :: .sep :: rest =>
    if key = "iifname" ∨ key = "oifname" then
      match verdictOf verdict with
      | some v => (parse (.chain name) rest).map (.addRule name [.interface key interface, v] :: ·)
      | none => none
    else none
  | _, _ => none

/-- `_TABLE_RESET_PREAMBLE`, line by line. -/
def tableResetPreamble : List (List Token) := [
  [.word "add", .word "table", .word "inet", .word "ttp"],
  [.word "delete", .word "table", .word "inet", .word "ttp"]]

/-- The ruleset of `apply_emergency_killswitch`, line by line. -/
def emergencyRuleset : List (List Token) := [
  [.word "table", .word "inet", .word "ttp", .left],
  [.word "chain", .word "filter_out", .left],
  [.word "type", .word "filter", .word "hook", .word "output", .word "priority", .word "filter", .sep,
    .word "policy", .word "drop", .sep],
  [.word "oifname", .quoted "lo", .word "accept"],
  [.right],
  [.word "chain", .word "filter_forward", .left],
  [.word "type", .word "filter", .word "hook", .word "forward", .word "priority", .word "filter", .sep,
    .word "policy", .word "drop", .sep],
  [.right],
  [.word "chain", .word "filter_input", .left],
  [.word "type", .word "filter", .word "hook", .word "input", .word "priority", .word "filter", .sep,
    .word "policy", .word "drop", .sep],
  [.word "iifname", .quoted "lo", .word "accept"],
  [.right],
  [.right]]

/-- The text that `_apply_table_atomically` hands to `nft -f -`. -/
def scriptOf (ruleset : List (List Token)) : List Token := (tableResetPreamble ++ ruleset).flatMap (· ++ [.sep])

/-! ### Replacing the table -/

/-- The words `nft -j` has for what the emergency rules do not use. -/
structure Wording where
  cond : Match → Json
  dnat : Nft.Addr → Nat → Json

section
variable (words : Wording)

def statementOf : Match → Statement
  | .iifname name => .interface "iifname" name
  | .oifname name => .interface "oifname" name
  | m => .other (words.cond m)

def verdictStatement : Verdict → Statement
  | .accept => .accept
  | .drop => .drop
  | .reject => .other (.obj [("reject", .null)])
  | .rejectTcpReset => .other (.obj [("reject", .obj [("type", .str "tcp reset")])])
  | .dnat target port => .other (words.dnat target port)

def counterStatement (name : String) : Statement := .other (.obj [("counter", .str name)])

def ruleStatements (r : Rule) : List Statement :=
  r.conds.map (statementOf words) ++ r.counter.toList.map counterStatement ++ [verdictStatement words r.verdict]

def bindingOf (c : Chain) : Binding := ⟨c.type, c.hook, c.priority, if c.policy = .drop then "drop" else "accept", []⟩

/-- The commands of a `chain` block. -/
def chainCommands (c : Chain) : List Command :=
  .addChain c.name (some (bindingOf c)) :: c.rules.map fun r => .addRule c.name (ruleStatements words r)

/-- The commands of a `table inet ttp` block. -/
def tableCommands (t : Table) : List Command :=
  .addTable :: (t.counters.map .addCounter ++ t.chains.flatMap (chainCommands words))

/-- The script that replaces the table. -/
def replacing (t : Table) : List Command := .addTable :: .deleteTable :: tableCommands words t

def chainOf (c : Chain) : InstalledChain := ⟨c.name, some (bindingOf c), c.rules.map (ruleStatements words)⟩

/-- The table that the kernel has after the script. -/
def installedOf (t : Table) : Installed := ⟨[], t.chains.map (chainOf words), t.counters.map counterObject⟩

end

section
variable {words : Wording}

theorem runAll_append (front back : List Command) (t : Option Installed) :
    runAll (front ++ back) t = (runAll front t).bind (runAll back) :=
  List.foldlM_append

@[simp] theorem runAll_cons (c : Command) (rest : List Command) (t : Option Installed) :
    runAll (c :: rest) t = (c.run t).bind (runAll rest) :=
  List.foldlM_cons

@[simp] theorem runAll_nil (t : Option Installed) : runAll [] t = some t := rfl

/-- Rules go to the end of their chain. -/
theorem run_rules {t : Installed} {front : List InstalledChain} {chain : InstalledChain}
    (last : t.chains = front ++ [chain]) (fresh : chain.name ∉ front.map (·.name)) (rules : List (List Statement)) :
    runAll (rules.map (.addRule chain.name)) (some t) =
      some (some { t with chains := front ++ [{ chain with rules := chain.rules ++ rules }] }) := by
  induction rules generalizing t chain with
  | nil => simp [← last]
  | cons rule rest ih =>
    have others : front.map (fun c => if c.name == chain.name then { c with rules := c.rules ++ [rule] } else c) =
        front := by
      refine (List.map_congr_left fun c member => ?_).trans (List.map_id front)
      have different : c.name ≠ chain.name := fun same => fresh (same ▸ List.mem_map_of_mem member)
      simp [different]
    have first : t.addRule chain.name rule =
        some { t with chains := front ++ [{ chain with rules := chain.rules ++ [rule] }] } := by
      simp only [Installed.addRule, last, List.map_append, others]
      simp
    have later := ih (t := { t with chains := front ++ [{ chain with rules := chain.rules ++ [rule] }] }) rfl fresh
    simpa [Command.run, first] using later

/-- A chain block adds the chain with its rules. -/
theorem run_chain {t : Installed} (c : Chain) (fresh : c.name ∉ t.chains.map (·.name)) :
    runAll (chainCommands words c) (some t) = some (some { t with chains := t.chains ++ [chainOf words c] }) := by
  have absent : t.chains.find? (·.name == c.name) = none := by
    rw [List.find?_eq_none]
    intro chain member same
    exact fresh (List.mem_map.mpr ⟨chain, member, by simpa using same⟩)
  have rules := run_rules (t := { t with chains := t.chains ++ [⟨c.name, some (bindingOf c), []⟩] }) rfl fresh
    (c.rules.map (ruleStatements words))
  simpa [chainCommands, chainOf, Command.run, Installed.addChain, absent, List.map_map, Function.comp_def] using rules

theorem run_chains {t : Installed} {chains : List Chain}
    (distinct : (t.chains.map (·.name) ++ chains.map (·.name)).Nodup) :
    runAll (chains.flatMap (chainCommands words)) (some t) =
      some (some { t with chains := t.chains ++ chains.map (chainOf words) }) := by
  induction chains generalizing t with
  | nil => simp
  | cons c rest ih =>
    have fresh : c.name ∉ t.chains.map (·.name) := by
      intro member
      exact (List.nodup_append.mp distinct).2.2 _ member _ (by simp) rfl
    have later := ih (t := { t with chains := t.chains ++ [chainOf words c] })
      (by simpa [chainOf] using distinct)
    rw [List.flatMap_cons, runAll_append, run_chain c fresh, Option.bind_some, later]
    simp

theorem run_counters {t : Installed} {done names : List String} (made : t.objects = done.map counterObject)
    (distinct : (done ++ names).Nodup) : runAll (names.map .addCounter) (some t) =
      some (some { t with objects := (done ++ names).map counterObject }) := by
  induction names generalizing t done with
  | nil => simp [← made]
  | cons name rest ih =>
    have fresh : name ∉ done := fun member => (List.nodup_append.mp distinct).2.2 _ member _ (by simp) rfl
    have first : t.addCounter name = { t with objects := (done ++ [name]).map counterObject } := by
      have absent : (t.objects.any fun (kind, o) => kind == "counter" && o.get "name" == .str name) = false := by
        rw [made, List.any_eq_false]
        intro object member
        obtain ⟨old, present, rfl⟩ := List.mem_map.mp member
        have different : old ≠ name := fun same => fresh (same ▸ present)
        simp [counterObject, Obj.get, find?_cons, different]
      rw [Installed.addCounter, absent, made]
      simp
    have later := @ih (t.addCounter name) (done ++ [name]) (by simp [first]) (by simpa using distinct)
    simpa [Command.run, first] using later

/-- From every table, also from none, the script reaches the table it describes. -/
theorem run_replacing {t : Table} (counters : t.counters.Nodup) (chains : (t.chains.map (·.name)).Nodup)
    (prior : Option Installed) : runAll (replacing words t) prior = some (some (installedOf words t)) := by
  have added : ∃ u, Command.addTable.run prior = some (some u) := by cases prior <;> exact ⟨_, rfl⟩
  obtain ⟨u, added⟩ := added
  have named := @run_counters ⟨[], [], []⟩ [] t.counters rfl (by simpa using counters)
  have bound := @run_chains words ⟨[], [], t.counters.map counterObject⟩ t.chains (by simpa using chains)
  have deleted : Command.deleteTable.run (some u) = some none := rfl
  have created : Command.addTable.run none = some (some ⟨[], [], []⟩) := rfl
  simp only [replacing, tableCommands, runAll_cons, added, deleted, created, Option.bind_some, runAll_append, named,
    List.nil_append, bound, installedOf]

end

/-! ### The listing -/

def Statement.json : Statement → Json
  | .interface key name => .obj [("match", .obj [("op", .str "=="), ("left", .obj [("meta", .obj [("key", .str key)])]),
      ("right", .str name)])]
  | .accept => .obj [("accept", .null)]
  | .drop => .obj [("drop", .null)]
  | .other worded => worded

/-- The fields that every object of the table starts with. -/
def ownFields (name : String) (handle : Int) : Obj :=
  [("family", .str "inet"), ("table", .str "ttp"), ("name", .str name), ("handle", .int handle)]

def Binding.fields (b : Binding) : Obj :=
  (match b.devices with
    | [] => []
    | [device] => [("dev", .str device)]
    | devices => [("dev", .arr (devices.map .str))]) ++
  [("type", .str b.type), ("hook", .str b.hook), ("prio", .int b.priority), ("policy", .str b.policy)]

/-- The handles that the kernel gave the table, its chains and its rules. -/
structure Handles where
  table : Int
  chain : String → Int
  rule : String → Nat → Int

def tableEntry (handles : Handles) (t : Installed) : Json :=
  .obj [("table", .obj ([("family", .str "inet"), ("name", .str "ttp"), ("handle", .int handles.table)] ++
    if t.flags.isEmpty then [] else [("flags", .arr (t.flags.map .str))]))]

def objectEntry (object : String × Obj) : Json :=
  .obj [(object.1, .obj ([("family", .str "inet"), ("table", .str "ttp")] ++ object.2))]

def chainEntry (handles : Handles) (c : InstalledChain) : Json :=
  .obj [("chain", .obj (ownFields c.name (handles.chain c.name) ++ (c.binding.map Binding.fields).getD []))]

def ruleEntry (handles : Handles) (c : InstalledChain) (rule : List Statement × Nat) : Json :=
  .obj [("rule", .obj [("family", .str "inet"), ("table", .str "ttp"), ("chain", .str c.name),
    ("handle", .int (handles.rule c.name rule.2)), ("expr", .arr (rule.1.map Statement.json))])]

/-- `nft -j list table inet ttp`: the metadata, the table, its objects and chains, and then the rules. -/
def listing (metainfo : Json) (handles : Handles) (t : Installed) : Json :=
  .obj [("nftables", .arr (.obj [("metainfo", metainfo)] :: tableEntry handles t :: (t.objects.map objectEntry ++
    t.chains.map (chainEntry handles) ++ t.chains.flatMap fun c => c.rules.zipIdx.map (ruleEntry handles c))))]

/-! ### The emergency table -/

/-- What a call of `nft` comes back with, and whether the kernel has committed the script: a call
    that is cut off may come after it. -/
inductive Ending where
  | ok
  | fails (e : Exc) (committed : Bool)

/-- The table, and whether the script of this call was committed. -/
structure Ruled where
  table : Option Installed
  committed : Bool

/-- A call with the script that replaces the table; the other operations are not asked for here. -/
def perform (words : Wording) (w : Ruled) : (o : Op) → Ending → Option (o.Res × Ruled)
  | .nftTransaction t _, .ok => (runAll (replacing words t) w.table).map fun after => (.ok (), ⟨after, true⟩)
  | .nftTransaction t _, .fails e true =>
    (runAll (replacing words t) w.table).map fun after => (.error e, ⟨after, true⟩)
  | .nftTransaction _ _, .fails e false => some (.error e, w)
  | _, _ => none

theorem forall_ending {P : Ending → Prop} : (∀ ending, P ending) ↔ P .ok ∧ ∀ e committed, P (.fails e committed) := by
  constructor
  · exact fun all => ⟨all _, fun _ _ => all _⟩
  · rintro ⟨ok, fails⟩ ending
    cases ending with
    | ok => exact ok
    | fails e committed => exact fails e committed

section
variable {words : Wording}

/-- The text of `apply_emergency_killswitch` is the script that replaces the table by the emergency one. -/
theorem parse_emergency : parse .top (scriptOf emergencyRuleset) = some (replacing words emergencyTable) := rfl

/-- The contract accepts the emergency table under whatever handles. -/
theorem emergency_accepted (metainfo : Json) (handles : Handles) :
    EmergencyContract.matchesEmergencyContract (listing metainfo handles (installedOf words emergencyTable)) = true :=
  rfl

theorem run_emergency (prior : Option Installed) :
    runAll (replacing words emergencyTable) prior = some (some (installedOf words emergencyTable)) :=
  run_replacing (by decide) (by decide) prior

theorem ensures_transaction {timeout : ℚ} {prior : Option Installed} {Q : Except Exc Unit → Ruled → Prop} :
    (checked (step (.nftTransaction emergencyTable timeout))).Ensures (perform words) ⟨prior, false⟩ Q ↔
      Q (.ok ()) ⟨some (installedOf words emergencyTable), true⟩ ∧
        ∀ e, Q (.error e) ⟨some (installedOf words emergencyTable), true⟩ ∧ Q (.error e) ⟨prior, false⟩ := by
  rw [ensures_checked, ensures_op, forall_ending]
  simp [perform, run_emergency, Except.bind, forall_and, and_comm]

/-- From every table the killswitch reaches the same one, which the contract accepts; it changes nothing
    where the table is there already, and nothing when the script is not committed. -/
theorem killswitch_verifies (words : Wording) (metainfo : Json) (handles : Handles) (timeout : ℚ)
    (prior : Option Installed) :
    parse .top (scriptOf emergencyRuleset) = some (replacing words emergencyTable) ∧
      EmergencyContract.matchesEmergencyContract (listing metainfo handles (installedOf words emergencyTable)) = true ∧
      (applyEmergencyKillswitch timeout).Ensures (perform words) ⟨prior, false⟩ fun result after =>
        (result = .ok () → after.committed = true) ∧
          after.table = if after.committed then some (installedOf words emergencyTable) else prior := by
  refine ⟨parse_emergency, emergency_accepted metainfo handles, ?_⟩
  rw [applyEmergencyKillswitch, applyTableAtomically, ensures_handle, ensures_handle, ensures_transaction]
  have raised (e : Exc) (after : Ruled)
      (whole : after.table = if after.committed then some (installedOf words emergencyTable) else prior) :
      caught (perform words) (fun e => if e.isOSError ||
        e = .calledProcessError then some (.raise (.firewallError e.text)) else none)
        (caught (perform words) (fun e =>
          if e.isFirewallError then some (.raise e)
          else if e.isException then
            some (.raise (.firewallError s!"Failed to apply emergency killswitch: {e.text}"))
          else none) fun result after => (result = .ok () → after.committed = true) ∧
            after.table = if after.committed then some (installedOf words emergencyTable) else prior)
        (.error e) after := by
    simp only [caught]
    split
    · exact ⟨by simp, whole⟩
    · simp only [Option.getD_none, ensures_raise, caught]
      split
      · exact ⟨by simp, whole⟩
      · split
        · exact ⟨by simp, whole⟩
        · exact ⟨by simp, whole⟩
  exact ⟨⟨by simp, by simp⟩, fun e => ⟨raised e _ rfl, raised e _ rfl⟩⟩

end

end Ttp.NftScript
