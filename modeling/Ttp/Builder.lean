import Ttp.Nft

/-!
`ttp/firewall/builder.py`: the session ruleset. Each rule group keeps the name
of the Python variable that holds its text, and a group that renders as the
empty string is the empty list. `output` and `filterOut` list the groups in the
order in which the two chains interpolate them.
-/
namespace Ttp.Builder
open Ttp.Nft

/-- The arguments of `_build_ruleset`. -/
structure Config where
  torUid : Nat
  transportPort : Nat
  dnsPort : Nat
  ipv6Avail : Bool
  allowRoot : Bool
  lanBypass : Bool
  bypassUids : Option (List Nat)
  bypassGids : Option (List Nat)
  resolvedUid : Option Nat
  cgroupBypass : Bool
  deriving DecidableEq, Repr

def localhost : Addr := ip4 127 0 0 1
def localhost6 : Addr := ip6 [0, 0, 0, 0, 0, 0, 0, 1]
/-- `127.0.0.0/8`. -/
def loopbackNet : Subnet := ⟨ip4 127 0 0 0, 8⟩

@[simp] theorem localhost_family : localhost.family = .ip := rfl
@[simp] theorem localhost6_family : localhost6.family = .ip6 := rfl
@[simp] theorem loopbackNet_family : loopbackNet.base.family = .ip := rfl
@[simp] theorem localhost_loopback : loopbackNet.contains localhost = true := by decide

theorem ne_localhost6 {a : Addr} (v4 : a.family = .ip) : a ≠ localhost6 := by
  rintro rfl
  simp at v4

theorem ne_localhost {a : Addr} (v6 : a.family = .ip6) : a ≠ localhost := by
  rintro rfl
  simp at v6

theorem outside_loopbackNet {a : Addr} (v6 : a.family = .ip6) : loopbackNet.contains a = false := by
  rw [Bool.eq_false_iff]
  intro inside
  simp [contains_family inside] at v6

/-- `10.0.0.0/8, 172.16.0.0/12, 192.168.0.0/16, 169.254.0.0/16`. -/
def lanNets : List Subnet :=
  [⟨ip4 10 0 0 0, 8⟩, ⟨ip4 172 16 0 0, 12⟩, ⟨ip4 192 168 0 0, 16⟩, ⟨ip4 169 254 0 0, 16⟩]
/-- `fc00::/7, fe80::/10`. -/
def lan6Nets : List Subnet :=
  [⟨ip6 [0xfc00, 0, 0, 0, 0, 0, 0, 0], 7⟩, ⟨ip6 [0xfe80, 0, 0, 0, 0, 0, 0, 0], 10⟩]

def dohIpsV4 : List Addr :=
  [ip4 1 1 1 1, ip4 1 0 0 1, ip4 8 8 8 8, ip4 8 8 4 4, ip4 9 9 9 9, ip4 149 112 112 112,
    ip4 208 67 222 222, ip4 208 67 220 220]
def dohIpsV6 : List Addr :=
  [ip6 [0x2606, 0x4700, 0x4700, 0, 0, 0, 0, 0x1111], ip6 [0x2606, 0x4700, 0x4700, 0, 0, 0, 0, 0x1001],
    ip6 [0x2001, 0x4860, 0x4860, 0, 0, 0, 0, 0x8888], ip6 [0x2001, 0x4860, 0x4860, 0, 0, 0, 0, 0x8844],
    ip6 [0x2620, 0xfe, 0, 0, 0, 0, 0, 0xfe], ip6 [0x2620, 0xfe, 0, 0, 0, 0, 0, 9],
    ip6 [0x2620, 0, 0xccc, 0, 0, 0, 0, 2], ip6 [0x2620, 0, 0xccd, 0, 0, 0, 0, 2]]

/-! ### Rule groups -/

def rule (conds : List Match) (verdict : Verdict) : Rule := { conds, verdict }
def counted (conds : List Match) (counter : String) (verdict : Verdict) : Rule :=
  { conds, counter := some counter, verdict }
/-- A group that is only rendered when the flag is set. -/
def when (flag : Bool) (rules : List Rule) : List Rule := if flag then rules else []

section
variable {isLocal : Addr → Bool} {p : Packet}

theorem eval_rule (conds : List Match) (v : Verdict) :
    (rule conds v).eval isLocal p =
      if conds.all (·.holds isLocal p) then ⟨v.applied p, []⟩ else .skip := rfl

theorem eval_counted (conds : List Match) (name : String) (v : Verdict) :
    (counted conds name v).eval isLocal p =
      if conds.all (·.holds isLocal p) then ⟨v.applied p, [name]⟩ else .skip := rfl

@[simp] theorem eval_when (flag : Bool) (rules : List Rule) :
    eval isLocal p (when flag rules) = if flag then eval isLocal p rules else .skip := by
  cases flag <;> simp [when]

end

variable (c : Config)

def torRule : List Rule := [rule [.skuid c.torUid] .accept]
def lanRule : List Rule := when c.lanBypass [rule [.daddr lanNets] .accept]
def lan6Rule : List Rule := when c.lanBypass (when c.ipv6Avail [rule [.daddr lan6Nets] .accept])
def rootRule : List Rule := when c.allowRoot [rule [.skuid 0] .accept]

/-- `socket cgroupv2 level 1 "ttp-bypass.slice" accept`. -/
def bypassSlice : List Rule := when c.cgroupBypass [rule [.cgroupv2 1 "ttp-bypass.slice"] .accept]

/-- The `output` rules of one bypassed user or group: one for each family, since
    each names an address. -/
def bypassNat (owner : Match) : List Rule :=
  rule [owner, .daddrNot (.single localhost)] .accept ::
    when c.ipv6Avail [rule [owner, .daddrNot (.single localhost6)] .accept]

def bypassRulesNat : List Rule :=
  bypassSlice c ++ (c.bypassUids.getD []).flatMap (fun uid => bypassNat c (.skuid uid)) ++
    (c.bypassGids.getD []).flatMap (fun gid => bypassNat c (.skgid gid))

def bypassRulesFilter : List Rule :=
  bypassSlice c ++ (c.bypassUids.getD []).map (fun uid => rule [.skuid uid] .accept) ++
    (c.bypassGids.getD []).map (fun gid => rule [.skgid gid] .accept)

def resolvedRules : List Rule :=
  match c.resolvedUid with
  | none => []
  | some uid =>
    rule [.skuid uid, .daddrNot (.single localhost)] .drop ::
      when c.ipv6Avail [rule [.skuid uid, .daddrNot (.single localhost6)] .drop]

def loopbackIpv4 : List Rule := [rule [.daddr [loopbackNet]] .accept]
def loopbackIpv6 : List Rule := when c.ipv6Avail [rule [.daddr [.single localhost6]] .accept]

def dnsRedirectIpv4 : List Rule :=
  [counted [.dport .udp 53] "dns_redirected" (.dnat localhost c.dnsPort),
    counted [.dport .tcp 53] "dns_redirected" (.dnat localhost c.dnsPort)]
def dnsRedirectIpv6 : List Rule :=
  when c.ipv6Avail [counted [.dport .udp 53] "dns_redirected" (.dnat localhost6 c.dnsPort),
    counted [.dport .tcp 53] "dns_redirected" (.dnat localhost6 c.dnsPort)]

def tcpRedirectIpv4 : List Rule :=
  [counted [.ipProtocol .tcp] "tcp_redirected" (.dnat localhost c.transportPort)]
def tcpRedirectIpv6 : List Rule :=
  when c.ipv6Avail [counted [.l4proto [.tcp]] "tcp_redirected" (.dnat localhost6 c.transportPort)]

/-- `meta nfproto ipv6 drop`, rendered when IPv6 is not available. -/
def ipv6LeakPrevention : List Rule := when (!c.ipv6Avail) [rule [.nfproto .ip6] .drop]

/-- DNS by its original destination port that is not headed for `net`. -/
def unredirectedDns (net : Subnet) : Rule :=
  counted [.l4proto [.tcp, .udp], .ctOriginal, .ctOriginalProtoDst 53, .daddrNot net]
    "dns_unredirected_rejected" .reject
def unredirectedDnsIpv4 : List Rule := [unredirectedDns loopbackNet]
def unredirectedDnsIpv6 : List Rule := when c.ipv6Avail [unredirectedDns (.single localhost6)]

def dotReject : List Rule := [counted [.dport .tcp 853] "dot_rejected" .reject]

/-- Port 443 of one of the listed resolvers, over one transport. -/
def dohReject (ips : List Addr) (proto : Proto) : Rule :=
  counted [.daddr (ips.map .single), .dport proto 443] "doh_rejected" .reject
def dohRejectIpv4 : List Rule := [dohReject dohIpsV4 .tcp]
def dohRejectIpv6 : List Rule := when c.ipv6Avail [dohReject dohIpsV6 .tcp]
def quicDohRejectIpv4 : List Rule := [dohReject dohIpsV4 .udp]
def quicDohRejectIpv6 : List Rule := when c.ipv6Avail [dohReject dohIpsV6 .udp]

def fibRule : List Rule := [rule [.fibLocal] .accept]

def catchAll : List Rule :=
  [counted [.l4proto [.tcp]] "cleartext_rejected" .rejectTcpReset, counted [] "cleartext_rejected" .reject]

/-! ### Chains -/

/-- `chain prerouting`: traffic of other network namespaces and interfaces. -/
def prerouting : Chain where
  name := "prerouting"
  type := "nat"
  hook := "prerouting"
  priority := -100
  policy := .accept
  rules := dnsRedirectIpv4 c ++ dnsRedirectIpv6 c ++ lanRule c ++ lan6Rule c ++ tcpRedirectIpv4 c ++ tcpRedirectIpv6 c

/-- `chain output`: the redirect of locally generated connections. -/
def output : Chain where
  name := "output"
  type := "nat"
  hook := "output"
  priority := -150
  policy := .accept
  rules := torRule c ++ (bypassRulesNat c ++ (dnsRedirectIpv4 c ++ (dnsRedirectIpv6 c ++ (lanRule c ++ (lan6Rule c ++
    (loopbackIpv4 ++ (loopbackIpv6 c ++ (tcpRedirectIpv4 c ++ tcpRedirectIpv6 c))))))))

/-- The part of `filter_out` that decides by the sender, up to `{root_rule}`. -/
def senderRules : List Rule :=
  torRule c ++ (ipv6LeakPrevention c ++ (bypassRulesFilter c ++ (resolvedRules c ++ rootRule c)))

/-- The part of `filter_out` that decides by the packet, from `{unredirected_dns_ipv4}` on. -/
def trafficRules : List Rule :=
  unredirectedDnsIpv4 ++ (unredirectedDnsIpv6 c ++ (lanRule c ++ (lan6Rule c ++ (loopbackIpv4 ++ (loopbackIpv6 c ++
    (fibRule ++ (dotReject ++ (dohRejectIpv4 ++ (dohRejectIpv6 c ++ (quicDohRejectIpv4 ++ (quicDohRejectIpv6 c ++
      catchAll)))))))))))

/-- `chain filter_out`: the guillotine. -/
def filterOut : Chain where
  name := "filter_out"
  type := "filter"
  hook := "output"
  priority := 0
  policy := .accept
  rules := senderRules c ++ trafficRules c

/-- `chain filter_forward`: nothing is forwarded. -/
def filterForward : Chain where
  name := "filter_forward"
  type := "filter"
  hook := "forward"
  priority := 0
  policy := .drop
  rules := []

/-- `_build_ruleset`. -/
def buildRuleset : Table where
  counters := ["dns_redirected", "tcp_redirected", "dot_rejected", "doh_rejected", "cleartext_rejected",
    "dns_unredirected_rejected"]
  chains := [prerouting c, output c, filterOut c, filterForward]

end Ttp.Builder
