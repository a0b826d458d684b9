import Mathlib.Data.List.Basic

/-!
A first-match packet filter: addresses and subnets, packets, rules, and the
evaluation of a rule list. A rule list yields the verdict of its first matching
terminal rule and the named counters of every rule the packet reached on the
way. Evaluation is a homomorphism from list concatenation to `Trace.andThen`,
so a chain is analysed one section of rules at a time.

The reading of nftables this follows: a match on a missing datum (no socket, no
connection tracking entry, an address of the other family) fails; `accept`,
`drop` and `reject` end the chain; a `dnat` whose address is of the packet's
family rewrites the destination and ends the chain, and one of the other family
counts the packet and does nothing.
-/
namespace Ttp.Nft

/-! ### Addresses -/

inductive Family where
  | ip
  | ip6
  deriving DecidableEq, Repr

inductive Addr where
  | v4 (bits : BitVec 32)
  | v6 (bits : BitVec 128)
  deriving DecidableEq, Repr

def Addr.family : Addr → Family
  | .v4 _ => .ip
  | .v6 _ => .ip6

/-- The IPv4 address `a.b.c.d`. -/
def ip4 (a b c d : Nat) : Addr := .v4 (BitVec.ofNat 32 (((a * 256 + b) * 256 + c) * 256 + d))

/-- The IPv6 address of eight groups, the most significant first. -/
def ip6 (groups : List Nat) : Addr := .v6 (BitVec.ofNat 128 (groups.foldl (fun n g => n * 65536 + g) 0))

/-- An address block: the addresses that agree with `base` on the first `len` bits. -/
structure Subnet where
  base : Addr
  len : Nat
  deriving DecidableEq, Repr

def Subnet.contains (net : Subnet) (a : Addr) : Bool :=
  match net.base, a with
  | .v4 b, .v4 x => b >>> (32 - net.len) == x >>> (32 - net.len)
  | .v6 b, .v6 x => b >>> (128 - net.len) == x >>> (128 - net.len)
  | _, _ => false

/-- The block of one address. -/
def Subnet.single : Addr → Subnet
  | .v4 b => ⟨.v4 b, 32⟩
  | .v6 b => ⟨.v6 b, 128⟩

@[simp] theorem single_base (a : Addr) : (Subnet.single a).base = a := by cases a <;> rfl

@[simp] theorem contains_single (a b : Addr) : (Subnet.single a).contains b = decide (b = a) := by
  rw [Bool.eq_iff_iff]
  cases a <;> cases b <;> simp [Subnet.single, Subnet.contains] <;> exact eq_comm

@[simp] theorem any_single (ips : List Addr) (a : Addr) :
    (ips.map Subnet.single).any (·.contains a) = decide (a ∈ ips) := by
  rw [Bool.eq_iff_iff]
  simp

theorem contains_family {net : Subnet} {a : Addr} (inside : net.contains a = true) :
    a.family = net.base.family := by
  obtain ⟨base, len⟩ := net
  cases base <;> cases a <;> simp_all [Subnet.contains, Addr.family]

/-! ### Packets -/

inductive Proto where
  | tcp
  | udp
  | other (number : Nat)
  deriving DecidableEq, Repr

theorem proto_cases (proto : Proto) : proto = .tcp ∨ proto = .udp ∨ (proto ≠ .tcp ∧ proto ≠ .udp) := by
  cases proto <;> simp

inductive Direction where
  | original
  | reply
  deriving DecidableEq, Repr

/-- The connection tracking entry of a packet, as far as rules look at it. -/
structure Conntrack where
  direction : Direction
  protoDst : Nat
  deriving DecidableEq, Repr

/-- A packet at a hook, with its current destination. The owner fields belong to
    the sending socket; `cgroup` is the socket's cgroup path from the root down. -/
structure Packet where
  daddr : Addr
  proto : Proto
  dport : Nat
  skuid : Option Nat
  skgid : Option Nat
  cgroup : List String
  iifname : String
  oifname : String
  ct : Option Conntrack
  deriving DecidableEq, Repr

def Packet.family (p : Packet) : Family := p.daddr.family

/-! ### Rules -/

inductive Match where
  | skuid (uid : Nat)
  | skuidNot (uid : Nat)
  | skgid (gid : Nat)
  | cgroupv2 (level : Nat) (name : String)
  | daddr (nets : List Subnet)
  | daddrNot (net : Subnet)
  | nfproto (family : Family)
  | l4proto (protos : List Proto)
  | ipProtocol (proto : Proto)
  | dport (proto : Proto) (port : Nat)
  | ctOriginal
  | ctOriginalProtoDst (port : Nat)
  | fibLocal
  | iifname (name : String)
  | oifname (name : String)
  | oifnameNot (name : String)
  deriving DecidableEq, Repr

/-- Whether a match holds; `isLocal` is the host's address table (`fib daddr type local`). -/
def Match.holds (isLocal : Addr → Bool) (p : Packet) : Match → Bool
  | .skuid uid => p.skuid == some uid
  | .skuidNot uid => p.skuid.any (· != uid)
  | .skgid gid => p.skgid == some gid
  | .cgroupv2 level name => p.cgroup[level - 1]? == some name
  | .daddr nets => nets.any (·.contains p.daddr)
  | .daddrNot net => p.family == net.base.family && !net.contains p.daddr
  | .nfproto family => p.family == family
  | .l4proto protos => protos.contains p.proto
  | .ipProtocol proto => p.family == .ip && p.proto == proto
  | .dport proto port => p.proto == proto && p.dport == port
  | .ctOriginal => p.ct.any (·.direction == .original)
  | .ctOriginalProtoDst port => p.ct.any (·.protoDst == port)
  | .fibLocal => isLocal p.daddr
  | .iifname name => p.iifname == name
  | .oifname name => p.oifname == name
  | .oifnameNot name => p.oifname != name

@[simp] theorem holds_daddrNot_single (isLocal : Addr → Bool) (p : Packet) (a : Addr) :
    (Match.daddrNot (.single a)).holds isLocal p = decide (p.family = a.family ∧ p.daddr ≠ a) := by
  by_cases same : p.daddr = a <;> by_cases family : p.family = a.family <;> simp [Match.holds, same, family]

inductive Verdict where
  | accept
  | drop
  | reject
  | rejectTcpReset
  | dnat (target : Addr) (port : Nat)
  deriving DecidableEq, Repr

def Verdict.isDnat : Verdict → Bool
  | .dnat .. => true
  | _ => false

structure Rule where
  conds : List Match
  counter : Option String := none
  verdict : Verdict
  deriving DecidableEq, Repr

def Rule.hits (isLocal : Addr → Bool) (p : Packet) (r : Rule) : Bool := r.conds.all (·.holds isLocal p)

/-- The verdict a matching rule gives a packet: a `dnat` of the other family gives none. -/
def Verdict.applied (p : Packet) : Verdict → Option Verdict
  | .dnat target port => if p.family = target.family then some (.dnat target port) else none
  | v => some v

/-! ### Evaluation -/

/-- What a rule list did to a packet: the deciding verdict, if any, and the named
    counters of the rules the packet matched. -/
structure Trace where
  verdict : Option Verdict
  counted : List String
  deriving DecidableEq, Repr

/-- The packet matched nothing. -/
def Trace.skip : Trace := ⟨none, []⟩

/-- The later rules only see what the earlier ones did not decide. -/
def Trace.andThen (first second : Trace) : Trace :=
  if first.verdict.isSome then first else ⟨second.verdict, first.counted ++ second.counted⟩

def Rule.eval (isLocal : Addr → Bool) (p : Packet) (r : Rule) : Trace :=
  if r.hits isLocal p then ⟨r.verdict.applied p, r.counter.toList⟩ else .skip

def eval (isLocal : Addr → Bool) (p : Packet) : List Rule → Trace
  | [] => .skip
  | r :: rest => (r.eval isLocal p).andThen (eval isLocal p rest)

structure Chain where
  name : String
  type : String
  hook : String
  priority : Int
  policy : Verdict
  rules : List Rule
  deriving DecidableEq, Repr

structure Table where
  counters : List String
  chains : List Chain
  deriving DecidableEq, Repr

/-- What the chain does with a packet in the end: its policy when no rule decides. -/
def Chain.verdict (isLocal : Addr → Bool) (c : Chain) (p : Packet) : Verdict :=
  (eval isLocal p c.rules).verdict.getD c.policy

/-- The packet after the chain: a `dnat` replaced its destination, port included. -/
def Packet.rewritten (p : Packet) : Verdict → Packet
  | .dnat target port => { p with daddr := target, dport := port }
  | _ => p

/-! ### Sections of a chain -/

section
variable {isLocal : Addr → Bool} {p : Packet}

@[simp] theorem skip_andThen (t : Trace) : Trace.skip.andThen t = t := by
  simp [Trace.skip, Trace.andThen]

@[simp] theorem decided_andThen (v : Verdict) (names : List String) (t : Trace) :
    (Trace.mk (some v) names).andThen t = ⟨some v, names⟩ := rfl

@[simp] theorem andThen_skip (t : Trace) : t.andThen .skip = t := by
  obtain ⟨verdict, counted⟩ := t
  cases verdict <;> simp [Trace.skip, Trace.andThen]

theorem andThen_assoc (a b c : Trace) : (a.andThen b).andThen c = a.andThen (b.andThen c) := by
  obtain ⟨va, _⟩ := a
  obtain ⟨vb, _⟩ := b
  cases va <;> cases vb <;> simp [Trace.andThen]

@[simp] theorem eval_nil : eval isLocal p [] = .skip := rfl

theorem eval_cons (r : Rule) (rest : List Rule) :
    eval isLocal p (r :: rest) = (r.eval isLocal p).andThen (eval isLocal p rest) := rfl

@[simp] theorem eval_append (front back : List Rule) :
    eval isLocal p (front ++ back) = (eval isLocal p front).andThen (eval isLocal p back) := by
  induction front with
  | nil => simp
  | cons r rest ih => rw [List.cons_append, eval_cons, eval_cons, ih, andThen_assoc]

@[simp] theorem eval_single (r : Rule) : eval isLocal p [r] = r.eval isLocal p := by
  simp [eval_cons]

theorem verdict_andThen (a b : Trace) : (a.andThen b).verdict = a.verdict.or b.verdict := by
  obtain ⟨va, _⟩ := a
  cases va <;> simp [Trace.andThen]

theorem mem_counted_andThen (name : String) (a b : Trace) :
    name ∈ (a.andThen b).counted ↔ name ∈ a.counted ∨ (a.verdict = none ∧ name ∈ b.counted) := by
  obtain ⟨va, _⟩ := a
  cases va <;> simp [Trace.andThen]

/-- A list of uncounted accept rules accepts exactly what one of them matches. -/
theorem eval_accepting {rules : List Rule}
    (accepting : ∀ r ∈ rules, r.verdict = .accept ∧ r.counter = none) :
    eval isLocal p rules = if ∃ r ∈ rules, r.hits isLocal p = true then ⟨some .accept, []⟩ else .skip := by
  induction rules with
  | nil => simp
  | cons r rest ih =>
    obtain ⟨verdict, counter⟩ := accepting r (by simp)
    have tail := ih (fun s member => accepting s (by simp [member]))
    rw [eval_cons, tail]
    by_cases hit : r.hits isLocal p = true
    · have found : ∃ s ∈ r :: rest, s.hits isLocal p = true := ⟨r, by simp, hit⟩
      rw [if_pos found]
      simp [Rule.eval, hit, verdict, counter, Verdict.applied, Trace.andThen]
    · simp [Rule.eval, hit]

/-- Every counted name is the counter of some rule of the list. -/
theorem counted_of_rule {rules : List Rule} {name : String} (reached : name ∈ (eval isLocal p rules).counted) :
    ∃ r ∈ rules, r.counter = some name := by
  induction rules with
  | nil => simp [Trace.skip] at reached
  | cons r rest ih =>
    rw [eval_cons, mem_counted_andThen] at reached
    rcases reached with here | ⟨_, later⟩
    · refine ⟨r, by simp, ?_⟩
      by_cases hit : r.hits isLocal p = true
      · simpa [Rule.eval, hit, eq_comm] using here
      · simp [Rule.eval, hit, Trace.skip] at here
    · obtain ⟨s, member, counter⟩ := ih later
      exact ⟨s, by simp [member], counter⟩

/-- A `dnat` verdict keeps the family of the packet. -/
theorem rewritten_family {rules : List Rule} {v : Verdict} (decided : (eval isLocal p rules).verdict = some v) :
    (p.rewritten v).family = p.family := by
  induction rules with
  | nil => simp [Trace.skip] at decided
  | cons r rest ih =>
    rw [eval_cons, verdict_andThen] at decided
    by_cases hit : r.hits isLocal p = true
    · cases applied : r.verdict.applied p with
      | none => exact ih (by simpa [Rule.eval, hit, applied] using decided)
      | some w =>
        have same : w = v := by simpa [Rule.eval, hit, applied] using decided
        subst same
        cases shape : r.verdict <;> simp [Verdict.applied, shape] at applied
        case dnat target port =>
          obtain ⟨family, rfl⟩ := applied
          exact family.symm
        all_goals subst applied; rfl
    · exact ih (by simpa [Rule.eval, hit, Trace.skip] using decided)

end

end Ttp.Nft
