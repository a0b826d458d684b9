import Ttp.Builder

/-!
The `filter_out` chain fails closed. The chain is read in two parts: the rules
that decide by the sender (`senderRules`), which accept only an exempt sender,
and the rules that decide by the packet (`trafficRules`), which accept only
traffic that stays on the host or, with the LAN bypass, on a listed LAN range.
-/
namespace Ttp.Guillotine
open Ttp.Nft Ttp.Builder

/-- The sender is one of the principals that a bypass rule names. -/
def Bypassed (c : Config) (p : Packet) : Prop :=
  (c.cgroupBypass = true ∧ p.cgroup[0]? = some "ttp-bypass.slice") ∨
    (∃ uid ∈ c.bypassUids.getD [], p.skuid = some uid) ∨ (∃ gid ∈ c.bypassGids.getD [], p.skgid = some gid)

/-- The sender is exempt: Tor, a bypassed principal, or root when it is allowed. -/
def Exempt (c : Config) (p : Packet) : Prop :=
  p.skuid = some c.torUid ∨ Bypassed c p ∨ (c.allowRoot = true ∧ p.skuid = some 0)

def IsLoopback (a : Addr) : Prop := loopbackNet.contains a = true ∨ a = localhost6

/-- A listed LAN range of an enabled family, with the LAN bypass. -/
def InLan (c : Config) (a : Addr) : Prop :=
  c.lanBypass = true ∧ (lanNets.any (·.contains a) = true ∨ (c.ipv6Avail = true ∧ lan6Nets.any (·.contains a) = true))

/-- An original-direction TCP or UDP packet of a connection that was opened to port 53. -/
def DnsQuery (p : Packet) : Prop :=
  (p.proto = .tcp ∨ p.proto = .udp) ∧ ∃ ct ∈ p.ct, ct.direction = .original ∧ ct.protoDst = 53

/-- systemd-resolved itself sending anywhere but to one of the two loopback addresses. -/
def ResolvedLeak (c : Config) (p : Packet) : Prop :=
  (∃ uid ∈ c.resolvedUid, p.skuid = some uid) ∧ p.daddr ≠ localhost ∧ p.daddr ≠ localhost6

/-- The family takes part in the session: IPv4 always, IPv6 when it is available. -/
def Enabled (c : Config) (p : Packet) : Prop := p.family = .ip ∨ c.ipv6Avail = true

/-- Port 443 of a listed DNS-over-HTTPS resolver, over TCP or QUIC. -/
def DohTarget (p : Packet) : Prop :=
  (p.proto = .tcp ∨ p.proto = .udp) ∧ p.dport = 443 ∧ (p.daddr ∈ dohIpsV4 ∨ p.daddr ∈ dohIpsV6)

instance (c : Config) (p : Packet) : Decidable (Bypassed c p) := inferInstanceAs (Decidable (_ ∨ _))
instance (c : Config) (p : Packet) : Decidable (Exempt c p) := inferInstanceAs (Decidable (_ ∨ _))
instance (a : Addr) : Decidable (IsLoopback a) := inferInstanceAs (Decidable (_ ∨ _))
instance (c : Config) (a : Addr) : Decidable (InLan c a) := inferInstanceAs (Decidable (_ ∧ _))
instance (c : Config) (p : Packet) : Decidable (ResolvedLeak c p) := inferInstanceAs (Decidable (_ ∧ _))
instance (p : Packet) : Decidable (DnsQuery p) := inferInstanceAs (Decidable (_ ∧ _))
instance (p : Packet) : Decidable (DohTarget p) := inferInstanceAs (Decidable (_ ∧ _))
instance (c : Config) (p : Packet) : Decidable (Enabled c p) := inferInstanceAs (Decidable (_ ∨ _))

section
variable {c : Config} {isLocal : Addr → Bool} {p : Packet}

/-! ### The groups one by one -/

theorem eval_torRule :
    eval isLocal p (torRule c) = if p.skuid = some c.torUid then ⟨some .accept, []⟩ else .skip := by
  simp [torRule, eval_rule, Match.holds, Verdict.applied]

theorem eval_ipv6LeakPrevention :
    eval isLocal p (ipv6LeakPrevention c) = if Enabled c p then .skip else ⟨some .drop, []⟩ := by
  cases avail : c.ipv6Avail <;> cases fam : p.family <;>
    simp [ipv6LeakPrevention, eval_rule, Match.holds, Verdict.applied, Enabled, avail, fam]

theorem eval_bypassRulesFilter :
    eval isLocal p (bypassRulesFilter c) = if Bypassed c p then ⟨some .accept, []⟩ else .skip := by
  have accepting : ∀ r ∈ bypassRulesFilter c, r.verdict = .accept ∧ r.counter = none := by
    intro r member
    simp only [bypassRulesFilter, bypassSlice, when, List.mem_append, List.mem_map] at member
    rcases member with (slice | ⟨uid, _, rfl⟩) | ⟨gid, _, rfl⟩
    · split at slice
      · simp only [List.mem_singleton] at slice
        subst slice
        exact ⟨rfl, rfl⟩
      · simp at slice
    · exact ⟨rfl, rfl⟩
    · exact ⟨rfl, rfl⟩
  have hit : (∃ r ∈ bypassRulesFilter c, r.hits isLocal p = true) ↔ Bypassed c p := by
    cases slice : c.cgroupBypass <;>
      simp [bypassRulesFilter, bypassSlice, when, slice, rule, Rule.hits, Match.holds, Bypassed, or_and_right,
        exists_or]
  rw [eval_accepting accepting]
  simp only [hit]

theorem eval_resolvedRules (enabled : Enabled c p) :
    eval isLocal p (resolvedRules c) = if ResolvedLeak c p then ⟨some .drop, []⟩ else .skip := by
  cases resolved : c.resolvedUid with
  | none => simp [resolvedRules, ResolvedLeak, resolved]
  | some uid =>
    have owner : (Match.skuid uid).holds isLocal p = decide (p.skuid = some uid) := by
      simp [Match.holds, beq_eq_decide]
    cases family : p.family with
    | ip =>
      have v4 := ne_localhost6 family
      by_cases own : p.skuid = some uid <;>
        simp [resolvedRules, ResolvedLeak, resolved, eval_cons, eval_rule, owner, own, family, v4, Verdict.applied]
    | ip6 =>
      have v6 := ne_localhost family
      have avail : c.ipv6Avail = true := by simpa [Enabled, family] using enabled
      by_cases own : p.skuid = some uid <;>
        simp [resolvedRules, ResolvedLeak, resolved, eval_cons, eval_rule, owner, own, family, v6, avail,
          Verdict.applied]

theorem eval_rootRule :
    eval isLocal p (rootRule c) =
      if c.allowRoot = true ∧ p.skuid = some 0 then ⟨some .accept, []⟩ else .skip := by
  cases root : c.allowRoot <;> simp [rootRule, root, eval_rule, Match.holds, Verdict.applied]

theorem eval_lanRules (enabled : Enabled c p) :
    eval isLocal p (lanRule c ++ lan6Rule c) = if InLan c p.daddr then ⟨some .accept, []⟩ else .skip := by
  cases lan : c.lanBypass <;> cases avail : c.ipv6Avail <;> cases dest : p.daddr <;>
    simp [lanRule, lan6Rule, lan, avail, eval_rule, Match.holds, Verdict.applied, InLan, dest, lanNets, lan6Nets,
      Subnet.contains, ip4, ip6, Enabled, Packet.family, Addr.family] at enabled ⊢

theorem eval_loopbackRules (enabled : Enabled c p) :
    eval isLocal p (loopbackIpv4 ++ loopbackIpv6 c) =
      if IsLoopback p.daddr then ⟨some .accept, []⟩ else .skip := by
  rw [eval_append]
  cases family : p.family with
  | ip =>
    have v4 := ne_localhost6 family
    by_cases inside : loopbackNet.contains p.daddr = true <;>
      simp [loopbackIpv4, loopbackIpv6, eval_rule, Match.holds, Verdict.applied, IsLoopback, inside, v4]
  | ip6 =>
    have v6 := outside_loopbackNet family
    have avail : c.ipv6Avail = true := by simpa [Enabled, family] using enabled
    simp [loopbackIpv4, loopbackIpv6, eval_rule, Match.holds, Verdict.applied, IsLoopback, v6, avail]

theorem eval_unredirectedDns (net : Subnet) :
    (unredirectedDns net).eval isLocal p =
      if DnsQuery p ∧ p.family = net.base.family ∧ net.contains p.daddr = false then
        ⟨some .reject, ["dns_unredirected_rejected"]⟩ else .skip := by
  cases tracked : p.ct with
  | none => simp [unredirectedDns, eval_counted, Match.holds, DnsQuery, tracked]
  | some ct =>
    simp [unredirectedDns, eval_counted, Match.holds, Verdict.applied, DnsQuery, tracked, and_assoc]

theorem eval_unredirectedRules (enabled : Enabled c p) :
    eval isLocal p (unredirectedDnsIpv4 ++ unredirectedDnsIpv6 c) =
      if DnsQuery p ∧ ¬ IsLoopback p.daddr then ⟨some .reject, ["dns_unredirected_rejected"]⟩ else .skip := by
  rw [eval_append]
  cases family : p.family with
  | ip =>
    have v4 := ne_localhost6 family
    by_cases query : DnsQuery p <;>
      simp [unredirectedDnsIpv4, unredirectedDnsIpv6, eval_unredirectedDns, query, family, v4, IsLoopback]
  | ip6 =>
    have v6 := outside_loopbackNet family
    have avail : c.ipv6Avail = true := by simpa [Enabled, family] using enabled
    by_cases query : DnsQuery p <;>
      simp [unredirectedDnsIpv4, unredirectedDnsIpv6, eval_unredirectedDns, query, family, v6, avail, IsLoopback]

theorem eval_dotReject :
    eval isLocal p dotReject =
      if p.proto = .tcp ∧ p.dport = 853 then ⟨some .reject, ["dot_rejected"]⟩ else .skip := by
  simp [dotReject, eval_counted, Match.holds, Verdict.applied]

theorem eval_dohReject (ips : List Addr) (proto : Proto) :
    (dohReject ips proto).eval isLocal p =
      if p.daddr ∈ ips ∧ p.proto = proto ∧ p.dport = 443 then ⟨some .reject, ["doh_rejected"]⟩ else .skip := by
  have listed : (Match.daddr (ips.map .single)).holds isLocal p = decide (p.daddr ∈ ips) := by
    simp only [Match.holds, any_single]
  have port : (Match.dport proto 443).holds isLocal p = decide (p.proto = proto ∧ p.dport = 443) := by
    simp [Match.holds, beq_eq_decide]
  simp [dohReject, eval_counted, listed, port, Verdict.applied]

theorem eval_dohRules (enabled : Enabled c p) :
    eval isLocal p (dohRejectIpv4 ++ (dohRejectIpv6 c ++ (quicDohRejectIpv4 ++ quicDohRejectIpv6 c))) =
      if DohTarget p then ⟨some .reject, ["doh_rejected"]⟩ else .skip := by
  have listed6 : p.daddr ∈ dohIpsV6 → c.ipv6Avail = true := by
    intro member
    have families : ∀ a ∈ dohIpsV6, a.family = .ip6 := by decide
    simpa [Enabled, Packet.family, families _ member] using enabled
  simp only [eval_append, dohRejectIpv4, dohRejectIpv6, quicDohRejectIpv4, quicDohRejectIpv6, eval_when, eval_single,
    eval_dohReject, DohTarget]
  by_cases port : p.dport = 443
  · by_cases six : p.daddr ∈ dohIpsV6
    · have avail := listed6 six
      rcases proto_cases p.proto with tcp | udp | ⟨tcp, udp⟩ <;> by_cases four : p.daddr ∈ dohIpsV4 <;> simp [*]
    · rcases proto_cases p.proto with tcp | udp | ⟨tcp, udp⟩ <;> by_cases four : p.daddr ∈ dohIpsV4 <;> simp [*]
  · simp [port]

theorem eval_catchAll :
    eval isLocal p catchAll =
      if p.proto = .tcp then ⟨some .rejectTcpReset, ["cleartext_rejected"]⟩
      else ⟨some .reject, ["cleartext_rejected"]⟩ := by
  by_cases tcp : p.proto = .tcp <;>
    simp [catchAll, eval_cons, eval_counted, Match.holds, Verdict.applied, tcp]

/-! ### The chain as one decision -/

/-- What `filter_out` does with a packet, read off the packet and its sender. -/
def decision (c : Config) (isLocal : Addr → Bool) (p : Packet) : Trace :=
  if p.skuid = some c.torUid then ⟨some .accept, []⟩
  else if ¬ Enabled c p then ⟨some .drop, []⟩
  else if Bypassed c p then ⟨some .accept, []⟩
  else if ResolvedLeak c p then ⟨some .drop, []⟩
  else if c.allowRoot = true ∧ p.skuid = some 0 then ⟨some .accept, []⟩
  else if DnsQuery p ∧ ¬ IsLoopback p.daddr then ⟨some .reject, ["dns_unredirected_rejected"]⟩
  else if InLan c p.daddr ∨ IsLoopback p.daddr ∨ isLocal p.daddr = true then ⟨some .accept, []⟩
  else if p.proto = .tcp ∧ p.dport = 853 then ⟨some .reject, ["dot_rejected"]⟩
  else if DohTarget p then ⟨some .reject, ["doh_rejected"]⟩
  else if p.proto = .tcp then ⟨some .rejectTcpReset, ["cleartext_rejected"]⟩
  else ⟨some .reject, ["cleartext_rejected"]⟩

theorem if_andThen (q : Prop) [Decidable q] (v : Verdict) (names : List String) (t : Trace) :
    (if q then Trace.mk (some v) names else .skip).andThen t = if q then ⟨some v, names⟩ else t := by
  split <;> simp

theorem eval_trafficRules (enabled : Enabled c p) :
    eval isLocal p (trafficRules c) =
      if DnsQuery p ∧ ¬ IsLoopback p.daddr then ⟨some .reject, ["dns_unredirected_rejected"]⟩
      else if InLan c p.daddr ∨ IsLoopback p.daddr ∨ isLocal p.daddr = true then ⟨some .accept, []⟩
      else if p.proto = .tcp ∧ p.dport = 853 then ⟨some .reject, ["dot_rejected"]⟩
      else if DohTarget p then ⟨some .reject, ["doh_rejected"]⟩
      else if p.proto = .tcp then ⟨some .rejectTcpReset, ["cleartext_rejected"]⟩
      else ⟨some .reject, ["cleartext_rejected"]⟩ := by
  have grouped : trafficRules c = (unredirectedDnsIpv4 ++ unredirectedDnsIpv6 c) ++ ((lanRule c ++ lan6Rule c) ++
      ((loopbackIpv4 ++ loopbackIpv6 c) ++ (fibRule ++ (dotReject ++
        ((dohRejectIpv4 ++ (dohRejectIpv6 c ++ (quicDohRejectIpv4 ++ quicDohRejectIpv6 c))) ++ catchAll))))) := by
    simp only [trafficRules, List.append_assoc]
  have fib : eval isLocal p fibRule = if isLocal p.daddr = true then ⟨some .accept, []⟩ else .skip := by
    simp [fibRule, eval_rule, Match.holds, Verdict.applied]
  rw [grouped]
  simp only [eval_append]
  rw [← eval_append unredirectedDnsIpv4, ← eval_append (lanRule c), ← eval_append loopbackIpv4,
    ← eval_append quicDohRejectIpv4, ← eval_append (dohRejectIpv6 c), ← eval_append dohRejectIpv4,
    eval_unredirectedRules enabled, eval_lanRules enabled, eval_loopbackRules enabled, fib, eval_dotReject,
    eval_dohRules enabled, eval_catchAll]
  simp only [if_andThen]
  by_cases lan : InLan c p.daddr <;> by_cases loopback : IsLoopback p.daddr <;> simp [lan, loopback]

theorem eval_filterOut : eval isLocal p (filterOut c).rules = decision c isLocal p := by
  have sender : eval isLocal p ((filterOut c).rules) =
      (eval isLocal p (torRule c)).andThen ((eval isLocal p (ipv6LeakPrevention c)).andThen
        ((eval isLocal p (bypassRulesFilter c)).andThen ((eval isLocal p (resolvedRules c)).andThen
          ((eval isLocal p (rootRule c)).andThen (eval isLocal p (trafficRules c)))))) := by
    simp only [filterOut, senderRules, eval_append, andThen_assoc]
  rw [sender, eval_torRule, eval_ipv6LeakPrevention, eval_bypassRulesFilter, eval_rootRule]
  unfold decision
  by_cases enabled : Enabled c p
  · rw [eval_resolvedRules enabled, eval_trafficRules enabled]
    simp only [if_andThen, enabled, if_true, skip_andThen, not_true_eq_false, if_false]
  · simp [if_andThen, enabled]

/-! ### The chain fails closed -/

theorem verdict_filterOut :
    (filterOut c).verdict isLocal p = (decision c isLocal p).verdict.getD .accept := by
  rw [Chain.verdict, eval_filterOut]
  rfl

theorem disabled_family (avail : c.ipv6Avail = false) (v6 : p.family = .ip6) : ¬ Enabled c p := by
  simp [Enabled, avail, v6]

theorem dropped_of_disabled (tor : p.skuid ≠ some c.torUid) (disabled : ¬ Enabled c p) :
    (filterOut c).verdict isLocal p = .drop := by
  simp [verdict_filterOut, decision, tor, disabled]

/-- A packet of a sender that is not exempt is accepted only on the host or on the LAN. -/
theorem accepted_destination (exempt : ¬ Exempt c p) (accepted : (filterOut c).verdict isLocal p = .accept) :
    Enabled c p ∧ (InLan c p.daddr ∨ IsLoopback p.daddr ∨ isLocal p.daddr = true) ∧
      (DnsQuery p → IsLoopback p.daddr) := by
  obtain ⟨tor, bypassed, root⟩ :
      p.skuid ≠ some c.torUid ∧ ¬ Bypassed c p ∧ ¬ (c.allowRoot = true ∧ p.skuid = some 0) := by
    simpa [Exempt, not_or] using exempt
  rw [verdict_filterOut, decision, if_neg tor] at accepted
  by_cases enabled : Enabled c p
  · rw [if_neg (by simpa using enabled), if_neg bypassed] at accepted
    by_cases leak : ResolvedLeak c p
    · simp [leak] at accepted
    · rw [if_neg leak, if_neg root] at accepted
      by_cases query : DnsQuery p ∧ ¬ IsLoopback p.daddr
      · simp [query] at accepted
      · rw [if_neg query] at accepted
        by_cases stays : InLan c p.daddr ∨ IsLoopback p.daddr ∨ isLocal p.daddr = true
        · exact ⟨enabled, stays, fun dns => by_contra fun away => query ⟨dns, away⟩⟩
        · rw [if_neg stays] at accepted
          -- only rejecting rules are left
          repeat' split at accepted
          all_goals simp at accepted
  · simp [enabled] at accepted

/-- A loopback address of a family that takes part in the session. -/
theorem loopback_enabled (enabled : Enabled c p) (loopback : IsLoopback p.daddr) :
    loopbackNet.contains p.daddr = true ∨ (c.ipv6Avail = true ∧ p.daddr = localhost6) := by
  rcases loopback with v4 | v6
  · exact Or.inl v4
  · refine Or.inr ⟨?_, v6⟩
    simpa [Enabled, Packet.family, v6] using enabled

end

/-- Whatever a foreign NAT chain did to the packet before, `filter_out` accepts a sender that is
    not exempt only to the host itself or to an allowed LAN range, accepts its DNS only to a
    loopback address, and drops IPv6 altogether where it is not available. -/
theorem filterOut_fails_closed (c : Config) (isLocal : Addr → Bool) (p : Packet) :
    (¬ Exempt c p → (filterOut c).verdict isLocal p = .accept →
      (loopbackNet.contains p.daddr = true ∨ (c.ipv6Avail = true ∧ p.daddr = localhost6) ∨
        isLocal p.daddr = true ∨ InLan c p.daddr) ∧
      (DnsQuery p → loopbackNet.contains p.daddr = true ∨ (c.ipv6Avail = true ∧ p.daddr = localhost6))) ∧
    (c.ipv6Avail = false → p.family = .ip6 → p.skuid ≠ some c.torUid →
      (filterOut c).verdict isLocal p = .drop) := by
  constructor
  · intro exempt accepted
    obtain ⟨enabled, stays, dns⟩ := accepted_destination exempt accepted
    refine ⟨?_, fun query => loopback_enabled enabled (dns query)⟩
    rcases stays with lan | loopback | own
    · exact Or.inr (Or.inr (Or.inr lan))
    · rcases loopback_enabled enabled loopback with v4 | v6
      · exact Or.inl v4
      · exact Or.inr (Or.inl v6)
    · exact Or.inr (Or.inr (Or.inl own))
  · intro avail v6 tor
    exact dropped_of_disabled tor (disabled_family avail v6)

/-- DNS that a foreign chain sent to a LAN resolver is not accepted, LAN bypass or not. -/
theorem lan_dns_refused :
    let c : Config := ⟨107, 9040, 9053, true, false, true, none, none, some 991, false⟩
    let p : Packet := ⟨ip4 192 168 1 1, .udp, 5353, some 1000, some 1000, [], "", "eth0", some ⟨.original, 53⟩⟩
    (filterOut c).verdict (fun _ => false) p ≠ .accept := by
  intro c p accepted
  have dns := ((filterOut_fails_closed c (fun _ => false) p).1 (by decide) accepted).2 (by decide)
  revert dns
  decide

end Ttp.Guillotine
