import Ttp.Nft
import Ttp.Python

/-!
`matches_emergency_contract` of `ttp/firewall/verification.py`, on the JSON that
`nft -j list table inet ttp` prints, and what the listed table does with a
packet. The contract reads the listing object by object; a packet meets the base
chains bound to its hook, and what one of them drops no other brings back.
-/
namespace Ttp.EmergencyContract
open Ttp.Python
open Ttp.Nft (Packet Verdict)

/-! ### The contract -/

/-- `_loopback_expression`. -/
def loopbackExpression (direction : String) : Json :=
  .arr [
    .obj [("match", .obj [("op", .str "=="), ("left", .obj [("meta", .obj [("key", .str direction)])]),
      ("right", .str "lo")])],
    .obj [("accept", .null)]]

/-- What the loop over the entries has collected. -/
structure Seen where
  tables : List Obj
  chains : List (String × Obj)
  rules : Obj

def Seen.start : Seen := ⟨[], [], []⟩

/-- The chains seen so far have one of this name. -/
def Seen.knows (seen : Seen) (name : String) : Bool := seen.chains.any (·.1 == name)

/-- The expressions collected for a chain. -/
def rulesFor (rules : Obj) (name : String) : List Json :=
  match rules.find? name with
  | some (.arr exprs) => exprs
  | _ => []

/-- `rules.setdefault(name, []).append(expr)`. -/
def appendRule (rules : Obj) (name : String) (expr : Json) : Obj :=
  rules.set name (.arr (rulesFor rules name ++ [expr]))

/-- One entry of the listing; `none` is `return False`. -/
def Seen.note (seen : Seen) : Json → Option Seen
  | .obj [(kind, item)] =>
    if kind = "metainfo" then some seen
    else
      match item with
      | .obj item =>
        if !(Obj.get item "family").isStr "inet" then none
        else if kind = "table" then
          if !(Obj.get item "name").isStr "ttp" || (Obj.get item "flags").truthy then none
          else some { seen with tables := seen.tables ++ [item] }
        else if !(Obj.get item "table").isStr "ttp" then none
        else if kind = "chain" then
          match Obj.get item "name" with
          | .str name => if seen.knows name then none else some { seen with chains := seen.chains ++ [(name, item)] }
          | _ => none
        else if kind = "rule" then
          match Obj.get item "chain" with
          | .str name => some { seen with rules := appendRule seen.rules name (Obj.get item "expr") }
          | _ => none
        else if kind = "counter" then some seen
        else none
      | _ => none
  | _ => none

/-- The chains that have to drop, with their hooks. -/
def expected : List (String × String) :=
  [("filter_out", "output"), ("filter_forward", "forward"), ("filter_input", "input")]

/-- `chains.get(name, {})`. -/
def Seen.chain (seen : Seen) (name : String) : Obj := ((seen.chains.find? (·.1 == name)).map (·.2)).getD []

/-- A filter chain of this hook that drops by default, for every device. -/
def guards (chain : Obj) (hook : String) : Bool :=
  (chain.get "type").isStr "filter" && (chain.get "hook").isStr hook && (chain.get "policy").isStr "drop" &&
    (match chain.get "prio" with
      | .int n => n == 0
      | _ => false) &&
    !(["dev", "device", "devices"].any fun key => (chain.find? key).isSome) && !(chain.get "flags").truthy

/-- The rules the table has to hold, by their chain. -/
def expectedRules : Json :=
  .obj [("filter_out", .arr [loopbackExpression "oifname"]), ("filter_input", .arr [loopbackExpression "iifname"])]

/-- What is asked of the collected objects. -/
def Seen.accepted (seen : Seen) : Bool :=
  seen.tables.length == 1 &&
    seen.chains.all (fun c => (expected.map (·.1) ++ ["output", "prerouting"]).contains c.1) &&
    expected.all (fun (name, hook) => guards (seen.chain name) hook) &&
    expectedRules.eq (.obj seen.rules)

/-- `matches_emergency_contract`. -/
def matchesEmergencyContract : Json → Bool
  | .obj payload =>
    match Obj.get payload "nftables" with
    | .arr entries =>
      match entries.foldlM Seen.note .start with
      | some seen => seen.accepted
      | none => false
    | _ => false
  | _ => false

/-! ### The listed table -/

/-- The objects of one kind that belong to `inet ttp`. -/
def ownItem (kind : String) : String × Json → Option Obj
  | (k, .obj item) =>
    if k = kind ∧ (Obj.get item "family").isStr "inet" ∧
      (Obj.get item (if kind = "table" then "name" else "table")).isStr "ttp" then
      some item
    else none
  | _ => none

def itemsOf (kind : String) (entries : List Json) : List Obj :=
  entries.flatMap fun
    | .obj fields => fields.filterMap (ownItem kind)
    | _ => []

/-- The table `inet ttp` as a listing describes it. -/
structure Listed where
  tables : List Obj
  chains : List Obj
  rules : List Obj

def Listed.ofEntries (entries : List Json) : Listed :=
  ⟨itemsOf "table" entries, itemsOf "chain" entries, itemsOf "rule" entries⟩

def describe : Json → Listed
  | .obj payload =>
    match Obj.get payload "nftables" with
    | .arr entries => .ofEntries entries
    | _ => .ofEntries []
  | _ => .ofEntries []

/-! ### Packets -/

/-- What a statement does with a packet: on to the next one, on to the next rule, or a verdict. -/
inductive Effect where
  | next
  | skip
  | decides (v : Verdict)

/-- What the kernel makes of the statements and the chains that the contract has no words for. -/
structure Kernel where
  statement : Json → Packet → Effect
  /-- Whether a chain of its hook sees the packet. -/
  sees : Obj → Packet → Bool

/-- The interface name a meta key stands for. -/
def interfaceOf (p : Packet) : String → Option String
  | "iifname" => some p.iifname
  | "oifname" => some p.oifname
  | _ => none

/-- `iifname "…"` or `oifname "…"`: the key and the name, which is not a pattern. -/
def interfaceMatch (fields : Obj) : Option (String × String) :=
  match fields.get "op", fields.get "left", fields.get "right" with
  | .str "==", .obj [("meta", .obj [("key", .str key)])], .str name =>
    if fields.length = 3 ∧ name.toList.getLast? ≠ some '*' then some (key, name) else none
  | _, _, _ => none

def statementEffect (kernel : Kernel) (p : Packet) (s : Json) : Effect :=
  match s with
  | .obj [("accept", .null)] => .decides .accept
  | .obj [("drop", .null)] => .decides .drop
  | .obj [("match", .obj fields)] =>
    match interfaceMatch fields with
    | some (key, name) =>
      match interfaceOf p key with
      | some actual => if actual = name then .next else .skip
      | none => kernel.statement s p
    | none => kernel.statement s p
  | _ => kernel.statement s p

/-- The statements of a rule in turn. -/
def statementsVerdict (kernel : Kernel) (p : Packet) : List Json → Option Verdict
  | [] => none
  | s :: rest =>
    match statementEffect kernel p s with
    | .next => statementsVerdict kernel p rest
    | .skip => none
    | .decides v => some v

def ruleVerdict (kernel : Kernel) (p : Packet) (rule : Obj) : Option Verdict :=
  match rule.get "expr" with
  | .arr statements => statementsVerdict kernel p statements
  | other =>
    match kernel.statement other p with
    | .decides v => some v
    | _ => none

/-- The rules of a chain, in order. -/
def Listed.rulesOf (listed : Listed) (chain : Obj) : List Obj :=
  listed.rules.filter fun rule => rule.get "chain" == chain.get "name"

/-- The first verdict of its rules, or the chain's policy. -/
def Listed.chainVerdict (listed : Listed) (kernel : Kernel) (p : Packet) (chain : Obj) : Verdict :=
  ((listed.rulesOf chain).findSome? (ruleVerdict kernel p)).getD
    (if (chain.get "policy").isStr "drop" then .drop else .accept)

/-- The flag of a table that takes its chains off their hooks. -/
def dormant (table : Obj) : Bool :=
  match table.get "flags" with
  | .str flag => flag == "dormant"
  | .arr flags => flags.any (·.isStr "dormant")
  | _ => false

/-- The table is there, and awake. -/
def Listed.live (listed : Listed) : Bool := !listed.tables.isEmpty && !listed.tables.any dormant

/-- A filter chain without devices sees every packet of its hook; of other chains the kernel knows. -/
def sees (kernel : Kernel) (chain : Obj) (p : Packet) : Bool :=
  if (chain.get "type").isStr "filter" && !(["dev", "device", "devices"].any fun key => (chain.find? key).isSome) &&
      !(chain.get "flags").truthy then true
  else kernel.sees chain p

/-- A base chain bound to this hook drops the packet, whatever the other ones say. -/
def Listed.drops (listed : Listed) (kernel : Kernel) (hook : String) (p : Packet) : Bool :=
  listed.live && listed.chains.any fun chain =>
    (chain.get "hook").isStr hook && sees kernel chain p && listed.chainVerdict kernel p chain == .drop

/-! ### What the loop collects -/

section
variable {seen after : Seen} {entry : Json} {entries : List Json}

/-- An entry that does not end the loop: metadata, a counter, or an object that is collected. -/
theorem note_cases (noted : seen.note entry = some after) : ∃ kind item, entry = .obj [(kind, item)] ∧
    ((kind = "metainfo" ∧ after = seen) ∨ ∃ o, item = .obj o ∧ (Obj.get o "family").isStr "inet" = true ∧
      ((kind = "table" ∧ (Obj.get o "name").isStr "ttp" = true ∧ (Obj.get o "flags").truthy = false ∧
          after = { seen with tables := seen.tables ++ [o] }) ∨
        ((Obj.get o "table").isStr "ttp" = true ∧
          ((kind = "chain" ∧ ∃ name, Obj.get o "name" = .str name ∧ seen.knows name = false ∧
              after = { seen with chains := seen.chains ++ [(name, o)] }) ∨
            (kind = "rule" ∧ ∃ name, Obj.get o "chain" = .str name ∧
              after = { seen with rules := appendRule seen.rules name (Obj.get o "expr") }) ∨
            (kind = "counter" ∧ after = seen))))) := by
  unfold Seen.note at noted
  split at noted
  case h_2 => simp at noted
  case h_1 kind item =>
    refine ⟨kind, item, rfl, ?_⟩
    by_cases metainfo : kind = "metainfo"
    · rw [if_pos metainfo, Option.some.injEq] at noted
      exact Or.inl ⟨metainfo, noted.symm⟩
    · rw [if_neg metainfo] at noted
      cases item with
      | obj o =>
        refine Or.inr ⟨o, rfl, ?_⟩
        simp only at noted
        split_ifs at noted with family table named ours chain rule counter
        · rw [Bool.not_eq_true, Bool.or_eq_false_iff, Bool.not_eq_false'] at named
          exact ⟨by simpa using family, Or.inl ⟨table, named.1, named.2, by simpa using noted.symm⟩⟩
        · refine ⟨by simpa using family, Or.inr ⟨by simpa using ours, Or.inl ⟨chain, ?_⟩⟩⟩
          split at noted
          case h_2 => simp at noted
          case h_1 _ name stated =>
            split_ifs at noted with known
            exact ⟨name, stated, by simpa using known, by simpa using noted.symm⟩
        · refine ⟨by simpa using family, Or.inr ⟨by simpa using ours, Or.inr (Or.inl ⟨rule, ?_⟩)⟩⟩
          split at noted
          case h_2 => simp at noted
          case h_1 _ name stated => exact ⟨name, stated, by simpa using noted.symm⟩
        · exact ⟨by simpa using family, Or.inr ⟨by simpa using ours,
            Or.inr (Or.inr ⟨counter, by simpa using noted.symm⟩)⟩⟩
      | _ => simp at noted

/-- The loop has collected the objects of the entries so far. -/
structure Tracks (entries : List Json) (seen : Seen) : Prop where
  tables : itemsOf "table" entries = seen.tables
  awake : ∀ table ∈ seen.tables, (Obj.get table "flags").truthy = false
  chains : itemsOf "chain" entries = seen.chains.map (·.2)
  named : ∀ chain ∈ seen.chains, Obj.get chain.2 "name" = .str chain.1
  distinct : (seen.chains.map (·.1)).Nodup
  rules : ∀ name, rulesFor seen.rules name =
    ((itemsOf "rule" entries).filter fun rule => Obj.get rule "chain" == .str name).map (Obj.get · "expr")

@[simp] theorem itemsOf_append (kind : String) (front back : List Json) :
    itemsOf kind (front ++ back) = itemsOf kind front ++ itemsOf kind back := by
  simp [itemsOf]

@[simp] theorem itemsOf_single (kind : String) (field : String × Json) :
    itemsOf kind [.obj [field]] = (ownItem kind field).toList := by
  cases own : ownItem kind field <;> simp [itemsOf, own]

theorem rulesFor_appendRule (rules : Obj) (name other : String) (expr : Json) :
    rulesFor (appendRule rules name expr) other = if name = other then rulesFor rules other ++ [expr]
      else rulesFor rules other := by
  unfold appendRule
  conv => lhs; unfold rulesFor
  rw [find?_set]
  by_cases same : name = other
  · simp only [same, if_true]
    rfl
  · simp [same, rulesFor]

theorem note_tracks (tracked : Tracks entries seen) (noted : seen.note entry = some after) :
    Tracks (entries ++ [entry]) after := by
  obtain ⟨kind, item, rfl, case⟩ := note_cases noted
  rcases case with ⟨rfl, rfl⟩ | ⟨o, rfl, family, case⟩
  · have skipped (kind : String) (other : kind ≠ "metainfo") : itemsOf kind [.obj [("metainfo", item)]] = [] := by
      cases item <;> simp [itemsOf, ownItem, Ne.symm other]
    obtain ⟨tables, awake, chains, named, distinct, rules⟩ := tracked
    refine ⟨?_, awake, ?_, named, distinct, fun name => ?_⟩
    · rw [itemsOf_append, skipped _ (by decide), List.append_nil, tables]
    · rw [itemsOf_append, skipped _ (by decide), List.append_nil, chains]
    · rw [itemsOf_append, skipped _ (by decide), List.append_nil, rules]
  · obtain ⟨tables, awake, chains, named, distinct, rules⟩ := tracked
    rcases case with ⟨rfl, name, flags, rfl⟩ | ⟨ours,
      ⟨rfl, name, stated, fresh, rfl⟩ | ⟨rfl, name, stated, rfl⟩ | ⟨rfl, rfl⟩⟩
    · refine ⟨?_, ?_, ?_, named, distinct, fun other => ?_⟩
      · simp [tables, ownItem, family, name]
      · intro table member
        rcases List.mem_append.mp member with old | new
        · exact awake table old
        · rw [List.mem_singleton.mp new]
          exact flags
      · simp [chains, ownItem]
      · simp [rules, ownItem]
    · refine ⟨?_, awake, ?_, ?_, ?_, fun other => ?_⟩
      · simp [tables, ownItem]
      · simp [chains, ownItem, family, ours]
      · intro chain member
        rcases List.mem_append.mp member with old | new
        · exact named chain old
        · rw [List.mem_singleton.mp new]
          exact stated
      · rw [List.map_append, List.nodup_append]
        refine ⟨distinct, by simp, ?_⟩
        intro old member new last
        obtain ⟨chain, present, rfl⟩ := List.mem_map.mp member
        have same : new = name := by simpa using last
        subst same
        intro clash
        have known : seen.knows chain.1 = true := List.any_eq_true.mpr ⟨chain, present, by simp⟩
        rw [clash, fresh] at known
        exact Bool.false_ne_true known
      · simp [rules, ownItem]
    · refine ⟨?_, awake, ?_, named, distinct, fun other => ?_⟩
      · simp [tables, ownItem]
      · simp [chains, ownItem]
      · rw [rulesFor_appendRule, rules other, itemsOf_append, List.filter_append, List.map_append]
        have own : itemsOf "rule" [.obj [("rule", .obj o)]] = [o] := by simp [ownItem, family, ours]
        rw [own]
        by_cases same : name = other
        · simp [same, stated]
        · simp [same, stated]
    · refine ⟨?_, awake, ?_, named, distinct, fun other => ?_⟩
      · simp [tables, ownItem]
      · simp [chains, ownItem]
      · simp [rules, ownItem]

theorem start_tracks : Tracks [] .start where
  tables := rfl
  awake := by simp [Seen.start]
  chains := rfl
  named := by simp [Seen.start]
  distinct := by simp [Seen.start]
  rules := fun _ => rfl

theorem foldlM_tracks {done : List Json} (tracked : Tracks done seen)
    (noted : entries.foldlM Seen.note seen = some after) :
    Tracks (done ++ entries) after := by
  induction entries generalizing done seen with
  | nil =>
    obtain rfl : seen = after := by simpa using noted
    simpa using tracked
  | cons entry rest ih =>
    rw [List.foldlM_cons] at noted
    obtain ⟨middle, first, later⟩ := Option.bind_eq_some_iff.mp noted
    have extended := ih (note_tracks tracked first) later
    rwa [List.append_assoc, List.singleton_append] at extended

end

/-! ### What is accepted drops -/

section
variable {payload : Json} {entries : List Json} {seen : Seen} {kernel : Kernel} {p : Packet}

/-- What `matches_emergency_contract` accepts is a listing it went through to the end. -/
theorem matches_seen (accepted : matchesEmergencyContract payload = true) : ∃ entries seen,
    describe payload = .ofEntries entries ∧ Tracks entries seen ∧ seen.accepted = true := by
  unfold matchesEmergencyContract at accepted
  split at accepted
  case h_2 => simp at accepted
  case h_1 fields =>
    split at accepted
    case h_2 => simp at accepted
    case h_1 entries listed =>
      split at accepted
      case h_2 => simp at accepted
      case h_1 seen noted =>
        exact ⟨entries, seen, by simp [describe, listed], by simpa using foldlM_tracks start_tracks noted, accepted⟩

/-- An expression that equals the loopback one is an interface match and an accept. -/
theorem loopback_shape {direction : String} {expr : Json} (same : (loopbackExpression direction).eq expr = true) :
    ∃ fields, expr = .arr [.obj [("match", .obj fields)], .obj [("accept", .null)]] ∧
      interfaceMatch fields = some (direction, "lo") := by
  simp only [loopbackExpression, eq_arr, eqItems_cons, eqItems_nil, eq_single, eq_null] at same
  obtain ⟨_, rfl, _, _, rfl, ⟨found, rfl, inside⟩, _, _, rfl, ⟨_, rfl, rfl⟩, rfl⟩ := same
  obtain ⟨fields, rfl, length, each⟩ := eq_obj.mp inside
  simp only [eqFields_cons, eqFields_nil, and_true, eq_single, eq_str] at each
  obtain ⟨⟨_, op, rfl⟩, ⟨_, left, _, rfl, _, rfl, rfl⟩, _, right, rfl⟩ := each
  refine ⟨fields, rfl, ?_⟩
  have size : List.length fields = 3 := length.symm
  simp [interfaceMatch, Obj.get, op, left, right, size]

/-- Such a rule says nothing about a packet of another interface. -/
theorem loopback_silent {direction actual : String} {rule : Obj}
    (same : (loopbackExpression direction).eq (rule.get "expr") = true)
    (interface : interfaceOf p direction = some actual) (other : actual ≠ "lo") :
    ruleVerdict kernel p rule = none := by
  obtain ⟨fields, shape, names⟩ := loopback_shape same
  simp [ruleVerdict, shape, statementsVerdict, statementEffect, names, interface, other]

/-- A chain that the contract asks for drops what none of its rules decides. -/
theorem guarded_drops {name hook : String} (tracked : Tracks entries seen) (single : seen.tables.length = 1)
    (guarded : guards (seen.chain name) hook = true)
    (silent : ∀ rule : Obj, rule.get "expr" ∈ rulesFor seen.rules name → ruleVerdict kernel p rule = none) :
    (Listed.ofEntries entries).drops kernel hook p = true := by
  obtain ⟨chain, member, stated, guarded⟩ : ∃ chain ∈ itemsOf "chain" entries,
      Obj.get chain "name" = .str name ∧ guards chain hook = true := by
    cases found : seen.chains.find? (·.1 == name) with
    | none => simp [Seen.chain, found, guards, Obj.get, Json.isStr] at guarded
    | some chain =>
      have member := List.mem_of_find?_eq_some found
      have same : chain.1 = name := by simpa using List.find?_some found
      refine ⟨chain.2, ?_, same ▸ tracked.named chain member, by simpa [Seen.chain, found] using guarded⟩
      rw [tracked.chains]
      exact List.mem_map_of_mem member
  simp only [guards, Bool.and_eq_true] at guarded
  obtain ⟨⟨⟨⟨⟨type, bound⟩, policy⟩, _⟩, devices⟩, flags⟩ := guarded
  have awake : (Listed.ofEntries entries).live = true := by
    obtain ⟨table, only⟩ := List.length_eq_one_iff.mp single
    have flags := tracked.awake table (by simp [only])
    have up : dormant table = false := by
      unfold dormant
      split
      · simp_all [Json.truthy]
      · simp_all [Json.truthy]
      · rfl
    simp [Listed.ofEntries, Listed.live, tracked.tables, only, up]
  have undecided : ((Listed.ofEntries entries).rulesOf chain).findSome? (ruleVerdict kernel p) = none := by
    rw [List.findSome?_eq_none_iff]
    intro rule member
    obtain ⟨present, own⟩ := List.mem_filter.mp member
    refine silent rule ?_
    rw [tracked.rules]
    exact List.mem_map.mpr ⟨rule, List.mem_filter.mpr ⟨present, by simpa [stated] using own⟩, rfl⟩
  have seeing : sees kernel chain p = true := if_pos (by rw [type, devices, flags]; rfl)
  have verdict : (Listed.ofEntries entries).chainVerdict kernel p chain = .drop := by
    simp [Listed.chainVerdict, undecided, policy]
  simp only [Listed.drops, awake, Bool.true_and, List.any_eq_true]
  exact ⟨chain, member, by simp [bound, verdict, seeing]⟩

/-- The rules of an accepted listing are the loopback ones. -/
theorem rules_expected {rules : Obj} (same : expectedRules.eq (.obj rules) = true) :
    (∃ expr, rulesFor rules "filter_out" = [expr] ∧ (loopbackExpression "oifname").eq expr = true) ∧
      (∃ expr, rulesFor rules "filter_input" = [expr] ∧ (loopbackExpression "iifname").eq expr = true) ∧
      rulesFor rules "filter_forward" = [] := by
  obtain ⟨others, rfl, length, fields⟩ : ∃ others, rules = others ∧ _ := by
    simpa only [expectedRules, eq_obj, Json.obj.injEq] using same
  simp only [eqFields_cons, eqFields_nil, and_true, eq_arr, eqItems_cons, eqItems_nil] at fields
  obtain ⟨⟨_, out, _, rfl, outExpr, _, rfl, outSame, rfl⟩, _, input, _, rfl, inExpr, _, rfl, inSame, rfl⟩ := fields
  refine ⟨⟨outExpr, by simp [rulesFor, out], outSame⟩, ⟨inExpr, by simp [rulesFor, input], inSame⟩, ?_⟩
  have forward : rules.find? "filter_forward" = none := by
    obtain ⟨⟨k, v⟩, ⟨l, w⟩, rfl⟩ := List.length_eq_two.mp length.symm
    simp only [find?_cons, find?_nil] at out input ⊢
    split_ifs at out input ⊢ <;> simp_all
  simp [rulesFor, forward]

/-- A table whose listing the contract accepts drops, at the output and the input hook, what does not
    belong to loopback, and everything at the forward hook. -/
theorem accepted_drops (kernel : Kernel) (accepted : matchesEmergencyContract payload = true) (p : Packet) :
    (p.oifname ≠ "lo" → (describe payload).drops kernel "output" p = true) ∧
      (p.iifname ≠ "lo" → (describe payload).drops kernel "input" p = true) ∧
      (describe payload).drops kernel "forward" p = true := by
  obtain ⟨entries, seen, described, tracked, accepted⟩ := matches_seen accepted
  rw [described]
  simp only [Seen.accepted, Bool.and_eq_true, beq_iff_eq, expected, List.all_cons, List.all_nil, and_true] at accepted
  obtain ⟨⟨⟨single, _⟩, out, forward, input⟩, rules⟩ := accepted
  obtain ⟨⟨outExpr, outRules, outSame⟩, ⟨inExpr, inRules, inSame⟩, forwardRules⟩ := rules_expected rules
  refine ⟨fun other => guarded_drops tracked single out ?_, fun other => guarded_drops tracked single input ?_,
    guarded_drops tracked single forward ?_⟩
  · intro rule member
    have same : rule.get "expr" = outExpr := by simpa [outRules] using member
    exact loopback_silent (same ▸ outSame) rfl other
  · intro rule member
    have same : rule.get "expr" = inExpr := by simpa [inRules] using member
    exact loopback_silent (same ▸ inSame) rfl other
  · intro rule member
    simp [forwardRules] at member

end

/-- The listing that the tests of the contract start from. -/
def ruleset : Json :=
  .obj [("nftables", .arr [
    .obj [("metainfo", .obj [("json_schema_version", .int 1)])],
    .obj [("table", .obj [("family", .str "inet"), ("name", .str "ttp"), ("handle", .int 20)])],
    .obj [("chain", .obj [("family", .str "inet"), ("table", .str "ttp"), ("name", .str "filter_out"),
      ("type", .str "filter"), ("hook", .str "output"), ("prio", .int 0), ("policy", .str "drop")])],
    .obj [("chain", .obj [("family", .str "inet"), ("table", .str "ttp"), ("name", .str "filter_forward"),
      ("type", .str "filter"), ("hook", .str "forward"), ("prio", .int 0), ("policy", .str "drop")])],
    .obj [("chain", .obj [("family", .str "inet"), ("table", .str "ttp"), ("name", .str "filter_input"),
      ("type", .str "filter"), ("hook", .str "input"), ("prio", .int 0), ("policy", .str "drop")])],
    .obj [("rule", .obj [("family", .str "inet"), ("table", .str "ttp"), ("chain", .str "filter_out"),
      ("expr", loopbackExpression "oifname")])],
    .obj [("rule", .obj [("family", .str "inet"), ("table", .str "ttp"), ("chain", .str "filter_input"),
      ("expr", loopbackExpression "iifname")])]])]

/-- A packet that leaves through a network card, whatever the kernel makes of anything else. -/
theorem ruleset_drops :
    (describe ruleset).drops ⟨fun _ _ => .decides .accept, fun _ _ => false⟩ "output"
      ⟨.v4 0, .tcp, 80, none, none, [], "", "eth0", none⟩ = true :=
  (accepted_drops _ (by decide : matchesEmergencyContract ruleset = true) _).1 (by decide)

end Ttp.EmergencyContract
