import Ttp.Guillotine

/-!
The `output` chain and its composition with `filter_out`. For a packet of an
enabled family the chain is one decision (`verdict_output`): an exempt sender is
left alone, DNS goes to Tor's DNSPort before the LAN bypass is looked at, and
the rest of TCP goes to Tor's TransPort. What a `dnat` of this chain rewrote is
headed for a loopback address, and `filter_out` accepts every such packet.

An exemption is written twice, once in each chain. The two agree except for the
one of root, which only `filter_out` has (`agree_iff`).
-/
namespace Ttp.Redirect
open Ttp.Nft Ttp.Builder Ttp.Guillotine

/-- The loopback address that redirects of the family are headed for. -/
def loopbackOf : Family → Addr
  | .ip => localhost
  | .ip6 => localhost6

/-- A packet to the DNS port, by its destination port as the sender wrote it. -/
def DnsPort (p : Packet) : Prop := (p.proto = .tcp ∨ p.proto = .udp) ∧ p.dport = 53

/-- A packet that opens a connection: its tracking entry is the one it just created. -/
def Opens (p : Packet) : Prop := p.ct = some ⟨.original, p.dport⟩

/-- One of the rules of sections 1 and 1b of `output` takes the packet out of the redirect. -/
def NatExempt (c : Config) (isLocal : Addr → Bool) (p : Packet) : Prop :=
  ∃ r ∈ torRule c ++ bypassRulesNat c, r.hits isLocal p = true

/-- The packet as the `output` chain leaves it. -/
def redirected (c : Config) (isLocal : Addr → Bool) (p : Packet) : Packet :=
  p.rewritten ((output c).verdict isLocal p)

instance (p : Packet) : Decidable (Opens p) := inferInstanceAs (Decidable (_ = _))
instance (p : Packet) : Decidable (DnsPort p) := inferInstanceAs (Decidable (_ ∧ _))
instance (c : Config) (isLocal : Addr → Bool) (p : Packet) : Decidable (NatExempt c isLocal p) :=
  inferInstanceAs (Decidable (∃ r ∈ _, _))

@[simp] theorem loopbackOf_family (f : Family) : (loopbackOf f).family = f := by cases f <;> rfl

theorem loopbackOf_loopback (f : Family) : IsLoopback (loopbackOf f) := by
  cases f
  · exact Or.inl localhost_loopback
  · exact Or.inr rfl

theorem isDnat_iff {v : Verdict} : v.isDnat = true ↔ ∃ target port, v = .dnat target port := by
  cases v <;> simp [Verdict.isDnat]

section
variable {c : Config} {isLocal : Addr → Bool} {p : Packet}

/-! ### The groups one by one -/

theorem natExemptions_accept : ∀ r ∈ torRule c ++ bypassRulesNat c, r.verdict = .accept ∧ r.counter = none := by
  have one : ∀ owner, ∀ r ∈ bypassNat c owner, r.verdict = .accept ∧ r.counter = none := by
    intro owner r member
    rw [bypassNat, List.mem_cons] at member
    rcases member with rfl | six
    · exact ⟨rfl, rfl⟩
    · rw [when] at six
      split at six
      · obtain rfl := List.mem_singleton.mp six
        exact ⟨rfl, rfl⟩
      · simp at six
  intro r member
  simp only [torRule, bypassRulesNat, bypassSlice, when, List.mem_append, List.mem_flatMap] at member
  rcases member with tor | (slice | ⟨uid, _, user⟩) | ⟨gid, _, group⟩
  · obtain rfl := List.mem_singleton.mp tor
    exact ⟨rfl, rfl⟩
  · split at slice
    · obtain rfl := List.mem_singleton.mp slice
      exact ⟨rfl, rfl⟩
    · simp at slice
  · exact one _ r user
  · exact one _ r group

theorem eval_natExemptions :
    eval isLocal p (torRule c ++ bypassRulesNat c) =
      if NatExempt c isLocal p then ⟨some .accept, []⟩ else .skip :=
  eval_accepting natExemptions_accept

/-- The rules of one bypassed owner match its packets that are headed away from loopback. -/
theorem hits_bypassNat (enabled : Enabled c p) (owner : Match) :
    (∃ r ∈ bypassNat c owner, r.hits isLocal p = true) ↔
      owner.holds isLocal p = true ∧ p.daddr ≠ localhost ∧ p.daddr ≠ localhost6 := by
  cases family : p.family with
  | ip =>
    have v4 := ne_localhost6 family
    cases avail : c.ipv6Avail <;> simp [bypassNat, when, avail, rule, Rule.hits, family, v4]
  | ip6 =>
    have v6 := ne_localhost family
    have avail : c.ipv6Avail = true := by simpa [Enabled, family] using enabled
    simp [bypassNat, when, avail, rule, Rule.hits, family, v6]

theorem natExempt_iff (enabled : Enabled c p) (away : ¬ IsLoopback p.daddr) :
    NatExempt c isLocal p ↔ p.skuid = some c.torUid ∨ Bypassed c p := by
  obtain ⟨v4, v6⟩ : p.daddr ≠ localhost ∧ p.daddr ≠ localhost6 := by
    refine ⟨?_, fun same => away (Or.inr same)⟩
    intro same
    exact away (Or.inl (same ▸ localhost_loopback))
  have lists : NatExempt c isLocal p ↔
      (∃ r ∈ torRule c, r.hits isLocal p = true) ∨ (∃ r ∈ bypassSlice c, r.hits isLocal p = true) ∨
        (∃ uid ∈ c.bypassUids.getD [], ∃ r ∈ bypassNat c (.skuid uid), r.hits isLocal p = true) ∨
        (∃ gid ∈ c.bypassGids.getD [], ∃ r ∈ bypassNat c (.skgid gid), r.hits isLocal p = true) := by
    simp only [NatExempt, bypassRulesNat, List.mem_append, List.mem_flatMap, or_and_right, exists_or, or_assoc]
    constructor
    · rintro (tor | slice | ⟨r, ⟨uid, listed, member⟩, hit⟩ | ⟨r, ⟨gid, listed, member⟩, hit⟩)
      · exact Or.inl tor
      · exact Or.inr (Or.inl slice)
      · exact Or.inr (Or.inr (Or.inl ⟨uid, listed, r, member, hit⟩))
      · exact Or.inr (Or.inr (Or.inr ⟨gid, listed, r, member, hit⟩))
    · rintro (tor | slice | ⟨uid, listed, r, member, hit⟩ | ⟨gid, listed, r, member, hit⟩)
      · exact Or.inl tor
      · exact Or.inr (Or.inl slice)
      · exact Or.inr (Or.inr (Or.inl ⟨r, ⟨uid, listed, member⟩, hit⟩))
      · exact Or.inr (Or.inr (Or.inr ⟨r, ⟨gid, listed, member⟩, hit⟩))
  rw [lists]
  simp only [hits_bypassNat enabled, Bypassed]
  cases slice : c.cgroupBypass <;>
    simp [torRule, bypassSlice, when, slice, rule, Rule.hits, Match.holds, v4, v6]

/-- The two redirect rules of one family. -/
theorem verdict_dnsRules (target : Addr) (port : Nat) :
    (eval isLocal p [counted [.dport .udp 53] "dns_redirected" (.dnat target port),
      counted [.dport .tcp 53] "dns_redirected" (.dnat target port)]).verdict =
      if DnsPort p ∧ p.family = target.family then some (.dnat target port) else none := by
  have hit : ∀ proto, (Match.dport proto 53).holds isLocal p = decide (p.proto = proto ∧ p.dport = 53) := by
    intro proto
    simp [Match.holds, beq_eq_decide]
  rw [eval_cons, eval_single, eval_counted, eval_counted]
  by_cases family : p.family = target.family <;> by_cases dns : p.dport = 53 <;>
    rcases proto_cases p.proto with tcp | udp | ⟨tcp, udp⟩ <;>
    simp [Verdict.applied, DnsPort, verdict_andThen, Trace.skip, *]

theorem verdict_dnsRedirect (enabled : Enabled c p) :
    (eval isLocal p (dnsRedirectIpv4 c ++ dnsRedirectIpv6 c)).verdict =
      if DnsPort p then some (.dnat (loopbackOf p.family) c.dnsPort) else none := by
  rw [eval_append, verdict_andThen, dnsRedirectIpv4, dnsRedirectIpv6, verdict_dnsRules, eval_when]
  cases family : p.family with
  | ip =>
    have skipped : ∀ q : Prop, [Decidable q] → ∀ t : Trace, t.verdict = none →
        (if q then t else Trace.skip).verdict = none := by
      intro q _ t undecided
      split
      · exact undecided
      · rfl
    rw [skipped _ _ (by simp [verdict_dnsRules, family])]
    simp [loopbackOf]
  | ip6 =>
    have avail : c.ipv6Avail = true := by simpa [Enabled, family] using enabled
    simp [avail, verdict_dnsRules, family, loopbackOf]

theorem verdict_tcpRedirect (enabled : Enabled c p) :
    (eval isLocal p (tcpRedirectIpv4 c ++ tcpRedirectIpv6 c)).verdict =
      if p.proto = .tcp then some (.dnat (loopbackOf p.family) c.transportPort) else none := by
  have avail : p.family = .ip6 → c.ipv6Avail = true := by
    intro v6
    simpa [Enabled, v6] using enabled
  rw [eval_append]
  by_cases tcp : p.proto = .tcp <;> cases family : p.family <;>
    simp [tcpRedirectIpv4, tcpRedirectIpv6, eval_counted, Match.holds, Verdict.applied, loopbackOf,
      verdict_andThen, Trace.skip, *]

/-! ### The chain as one decision -/

theorem verdict_output (enabled : Enabled c p) :
    (eval isLocal p (output c).rules).verdict =
      if NatExempt c isLocal p then some .accept
      else if DnsPort p then some (.dnat (loopbackOf p.family) c.dnsPort)
      else if InLan c p.daddr ∨ IsLoopback p.daddr then some .accept
      else if p.proto = .tcp then some (.dnat (loopbackOf p.family) c.transportPort)
      else none := by
  have grouped : (output c).rules = (torRule c ++ bypassRulesNat c) ++ ((dnsRedirectIpv4 c ++ dnsRedirectIpv6 c) ++
      ((lanRule c ++ lan6Rule c) ++ ((loopbackIpv4 ++ loopbackIpv6 c) ++
        (tcpRedirectIpv4 c ++ tcpRedirectIpv6 c)))) := by
    simp only [output, List.append_assoc]
  rw [grouped, eval_append, eval_append (dnsRedirectIpv4 c ++ _), eval_append (lanRule c ++ _),
    eval_append (loopbackIpv4 ++ _), eval_natExemptions, eval_lanRules enabled, eval_loopbackRules enabled]
  simp only [verdict_andThen, verdict_dnsRedirect enabled, verdict_tcpRedirect enabled, Trace.skip]
  by_cases exempt : NatExempt c isLocal p
  · simp [exempt]
  · by_cases dns : DnsPort p
    · simp [exempt, dns]
    · by_cases lan : InLan c p.daddr <;> by_cases loopback : IsLoopback p.daddr <;>
        simp [exempt, dns, lan, loopback]

theorem redirected_eq (enabled : Enabled c p) :
    redirected c isLocal p =
      if NatExempt c isLocal p then p
      else if DnsPort p then { p with daddr := loopbackOf p.family, dport := c.dnsPort }
      else if InLan c p.daddr ∨ IsLoopback p.daddr then p
      else if p.proto = .tcp then { p with daddr := loopbackOf p.family, dport := c.transportPort }
      else p := by
  have policy : (output c).policy = .accept := rfl
  rw [redirected, Chain.verdict, verdict_output enabled, policy]
  repeat' split
  all_goals rfl

/-- A `dnat` of this chain is headed for the loopback address of the packet's family. -/
theorem output_target {target : Addr} {port : Nat} (enabled : Enabled c p)
    (decided : (output c).verdict isLocal p = .dnat target port) : target = loopbackOf p.family := by
  rw [Chain.verdict, verdict_output enabled] at decided
  have policy : (output c).policy = .accept := rfl
  simp only [policy] at decided
  repeat' split at decided
  all_goals simp at decided
  all_goals exact decided.1.symm

/-- `filter_out` accepts whatever of an enabled family is headed for its loopback address. -/
theorem loopback_accepted (enabled : Enabled c p) (target : p.daddr = loopbackOf p.family) :
    (filterOut c).verdict isLocal p = .accept := by
  have loopback : IsLoopback p.daddr := target ▸ loopbackOf_loopback p.family
  have own : ¬ ResolvedLeak c p := by
    rintro ⟨_, v4, v6⟩
    cases family : p.family <;> simp_all [loopbackOf]
  rw [verdict_filterOut, decision]
  repeat' split
  all_goals first | rfl | simp_all

end

/-! ### Redirect completeness -/

/-- The senders no rule of `output` exempts: DNS is rewritten to the DNSPort whatever its
    destination, other TCP that is not for the host or an allowed LAN range to the TransPort, and
    `filter_out` accepts whatever was rewritten. -/
theorem output_redirects (c : Config) (isLocal : Addr → Bool) (p : Packet) (enabled : Enabled c p)
    (exempt : ∀ r ∈ torRule c ++ bypassRulesNat c, r.hits isLocal p = false) :
    (DnsPort p → redirected c isLocal p = { p with daddr := loopbackOf p.family, dport := c.dnsPort }) ∧
    (p.proto = .tcp → ¬ DnsPort p → ¬ IsLoopback p.daddr → ¬ InLan c p.daddr →
      redirected c isLocal p = { p with daddr := loopbackOf p.family, dport := c.transportPort }) ∧
    (((output c).verdict isLocal p).isDnat = true →
      (filterOut c).verdict isLocal (redirected c isLocal p) = .accept) := by
  have plain : ¬ NatExempt c isLocal p := by
    rintro ⟨r, member, hit⟩
    simp [exempt r member] at hit
  refine ⟨?_, ?_, ?_⟩
  · intro dns
    rw [redirected_eq enabled, if_neg plain, if_pos dns]
  · intro tcp dns away lan
    rw [redirected_eq enabled, if_neg plain, if_neg dns, if_neg (by simp [away, lan]), if_pos tcp]
  · intro rewritten
    obtain ⟨target, port, decided⟩ := isDnat_iff.mp rewritten
    have dest := output_target enabled decided
    have moved : redirected c isLocal p = { p with daddr := target, dport := port } := by
      rw [redirected, decided, Packet.rewritten]
    have family : (redirected c isLocal p).family = p.family := by
      rw [moved, dest, Packet.family, loopbackOf_family]
    apply loopback_accepted
    · simpa [Enabled, family] using enabled
    · rw [family, moved, dest]

/-- A session of the defaults, with systemd-resolved on the host. -/
def session : Config where
  torUid := 107
  transportPort := 9040
  dnsPort := 9053
  ipv6Avail := true
  allowRoot := false
  lanBypass := false
  bypassUids := none
  bypassGids := none
  resolvedUid := some 991
  cgroupBypass := false

/-- A packet of user `uid` that opens a connection. -/
def opened (uid : Nat) (daddr : Addr) (proto : Proto) (dport : Nat) : Packet where
  daddr
  proto
  dport
  skuid := some uid
  skgid := some uid
  cgroup := ["user.slice"]
  iifname := ""
  oifname := "eth0"
  ct := some ⟨.original, dport⟩

/-- The upstream query of systemd-resolved itself reaches Tor. -/
theorem resolved_query_redirected :
    let query := opened 991 (ip4 8 8 8 8) .udp 53
    redirected session (fun _ => false) query = { query with daddr := localhost, dport := 9053 } ∧
      (filterOut session).verdict (fun _ => false) (redirected session (fun _ => false) query) = .accept := by
  have ⟨dns, _, accepted⟩ := output_redirects session (fun _ => false) (opened 991 (ip4 8 8 8 8) .udp 53)
    (by decide) (by decide)
  exact ⟨dns (by decide), accepted (by decide)⟩

/-! ### Exemptions in both chains -/

/-- The principals that a session can exempt. -/
inductive Exemption where
  | tor
  | user (uid : Nat)
  | group (gid : Nat)
  | slice
  | root
  deriving DecidableEq, Repr

/-- The configuration exempts the principal. -/
def Exemption.Granted (c : Config) : Exemption → Prop
  | .tor => True
  | .user uid => uid ∈ c.bypassUids.getD []
  | .group gid => gid ∈ c.bypassGids.getD []
  | .slice => c.cgroupBypass = true
  | .root => c.allowRoot = true

/-- The principal sends the packet. -/
def Exemption.Sends (c : Config) (p : Packet) : Exemption → Prop
  | .tor => p.skuid = some c.torUid
  | .user uid => p.skuid = some uid
  | .group gid => p.skgid = some gid
  | .slice => p.cgroup[0]? = some "ttp-bypass.slice"
  | .root => p.skuid = some 0

/-- `output` leaves the destination as it is. -/
def Unredirected (c : Config) (isLocal : Addr → Bool) (p : Packet) : Prop :=
  ((output c).verdict isLocal p).isDnat = false

/-- A sender rule of `filter_out` accepts the packet: all of those that accept are exemptions. -/
def AcceptedAsExempt (c : Config) (isLocal : Addr → Bool) (p : Packet) : Prop :=
  (eval isLocal p (senderRules c)).verdict = some .accept

section
variable {c : Config} {isLocal : Addr → Bool} {p : Packet}

instance : Decidable (Unredirected c isLocal p) := inferInstanceAs (Decidable (_ = _))
instance : Decidable (AcceptedAsExempt c isLocal p) := inferInstanceAs (Decidable (_ = _))

theorem exempt_cases {e : Exemption} (granted : e.Granted c) (sender : e.Sends c p) :
    (p.skuid = some c.torUid ∨ Bypassed c p) ∨ (e = .root ∧ c.allowRoot = true ∧ p.skuid = some 0) := by
  cases e with
  | tor => exact Or.inl (Or.inl sender)
  | user uid => exact Or.inl (Or.inr (Or.inr (Or.inl ⟨uid, granted, sender⟩)))
  | group gid => exact Or.inl (Or.inr (Or.inr (Or.inr ⟨gid, granted, sender⟩)))
  | slice => exact Or.inl (Or.inr (Or.inl ⟨granted, sender⟩))
  | root => exact Or.inr ⟨rfl, granted, sender⟩

theorem unredirected_iff (enabled : Enabled c p) (away : ¬ IsLoopback p.daddr) :
    Unredirected c isLocal p ↔
      (p.skuid = some c.torUid ∨ Bypassed c p) ∨ (¬ DnsPort p ∧ (p.proto = .tcp → InLan c p.daddr)) := by
  have listed : NatExempt c isLocal p ↔ p.skuid = some c.torUid ∨ Bypassed c p := natExempt_iff enabled away
  rw [Unredirected, Chain.verdict, verdict_output enabled, ← listed]
  have policy : (output c).policy = .accept := rfl
  by_cases exempt : NatExempt c isLocal p
  · simp [exempt, Verdict.isDnat]
  · by_cases dns : DnsPort p
    · simp [exempt, dns, Verdict.isDnat]
    · by_cases lan : InLan c p.daddr
      · simp [exempt, dns, lan, Verdict.isDnat]
      · by_cases tcp : p.proto = .tcp <;> simp [exempt, dns, lan, away, tcp, policy, Verdict.isDnat]

theorem acceptedAsExempt_iff (enabled : Enabled c p) :
    AcceptedAsExempt c isLocal p ↔ (p.skuid = some c.torUid ∨ Bypassed c p) ∨
      (¬ ResolvedLeak c p ∧ c.allowRoot = true ∧ p.skuid = some 0) := by
  rw [AcceptedAsExempt, senderRules, eval_append, eval_append, eval_append, eval_append, eval_torRule,
    eval_ipv6LeakPrevention, eval_bypassRulesFilter, eval_rootRule, eval_resolvedRules enabled, if_pos enabled,
    skip_andThen, if_andThen, if_andThen, if_andThen]
  by_cases tor : p.skuid = some c.torUid
  · simp [tor]
  · by_cases bypassed : Bypassed c p
    · simp [tor, bypassed]
    · by_cases leak : ResolvedLeak c p
      · simp [tor, bypassed, leak]
      · by_cases root : c.allowRoot = true ∧ p.skuid = some 0 <;> simp [tor, bypassed, leak, root, Trace.skip]

theorem resolvedLeak_root (root : p.skuid = some 0) (away : ¬ IsLoopback p.daddr) :
    ResolvedLeak c p ↔ c.resolvedUid = some 0 := by
  have v4 : p.daddr ≠ localhost := fun same => away (Or.inl (same ▸ localhost_loopback))
  have v6 : p.daddr ≠ localhost6 := fun same => away (Or.inr same)
  cases resolved : c.resolvedUid <;> simp [ResolvedLeak, resolved, root, v4, v6, eq_comm]

end

/-- The chains agree on every exemption of Tor, a user, a group or the slice. On root they agree
    exactly on what `output` has no redirect for anyway, unless root is systemd-resolved's user. -/
theorem agree_iff (c : Config) (isLocal : Addr → Bool) (p : Packet) (e : Exemption) (granted : e.Granted c)
    (sender : e.Sends c p) (enabled : Enabled c p) (away : ¬ IsLoopback p.daddr) :
    (Unredirected c isLocal p ↔ AcceptedAsExempt c isLocal p) ↔
      (p.skuid = some c.torUid ∨ Bypassed c p) ∨
        ((¬ DnsPort p ∧ (p.proto = .tcp → InLan c p.daddr)) ↔ c.resolvedUid ≠ some 0) := by
  rw [unredirected_iff enabled away, acceptedAsExempt_iff enabled]
  rcases exempt_cases granted sender with both | ⟨_, allowed, root⟩
  · simp [both]
  · have granted : (¬ ResolvedLeak c p ∧ c.allowRoot = true ∧ p.skuid = some 0) ↔ c.resolvedUid ≠ some 0 := by
      simp [resolvedLeak_root root away, allowed, root]
    rw [granted]
    by_cases both : p.skuid = some c.torUid ∨ Bypassed c p <;> simp only [both, true_or, false_or, iff_self]

/-- The session with `--allow-root`. -/
def rootSession : Config := { session with allowRoot := true }

/-- With `--allow-root`, root's web traffic is redirected although `filter_out` exempts it. -/
theorem root_redirected :
    ¬ ∀ (c : Config) (isLocal : Addr → Bool) (p : Packet) (e : Exemption), e.Granted c → e.Sends c p →
      Opens p → Enabled c p → ¬ IsLoopback p.daddr →
        (Unredirected c isLocal p ↔ AcceptedAsExempt c isLocal p) := by
  intro agree
  have here := agree rootSession (fun _ => false) (opened 0 (ip4 93 184 216 34) .tcp 443) .root rfl rfl rfl
    (by decide) (by decide)
  revert here
  decide

/-- The chains agree on root's UDP. -/
theorem root_udp_agrees :
    Unredirected rootSession (fun _ => false) (opened 0 (ip4 93 184 216 34) .udp 123) ↔
      AcceptedAsExempt rootSession (fun _ => false) (opened 0 (ip4 93 184 216 34) .udp 123) := by
  refine (agree_iff rootSession (fun _ => false) (opened 0 (ip4 93 184 216 34) .udp 123) .root rfl rfl
    (by decide) (by decide)).mpr (Or.inr ?_)
  decide

end Ttp.Redirect
