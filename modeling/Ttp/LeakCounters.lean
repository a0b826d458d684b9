import Mathlib.Data.List.Induction
import Mathlib.Logic.Function.Basic
import Ttp.Redirect

/-!
The reject counters that `check_system_integrity` (`ttp/watchdog/integrity.py`)
reads as alarms, over the packets that a host really sends: those that open a
connection pass `output` before `filter_out`, those of a connection that was
open before the table was loaded pass `filter_out` only.

The comment above the check calls the three rules unreachable while the
redirect works. `reaches_iff` says which packets reach one of them, and
`monitor_alarms_iff` that a run of sends and checks raises an alarm exactly
when one of these was sent.
-/
namespace Ttp.LeakCounters
open Ttp.Nft Ttp.Builder Ttp.Guillotine Ttp.Redirect

/-- A locally generated packet: the first of a connection, or one of a connection that was open
    when the table was loaded, for which NAT is not evaluated. -/
inductive Sent where
  | opening (p : Packet) (opens : Opens p)
  | established (p : Packet)

/-- The named counters of the rules that the packet reaches. -/
def reached (c : Config) (isLocal : Addr → Bool) : Sent → List String
  | .opening p _ =>
    (eval isLocal p (output c).rules).counted ++ (eval isLocal (redirected c isLocal p) (filterOut c).rules).counted
  | .established p => (eval isLocal p (filterOut c).rules).counted

/-- The counters the integrity check watches, with the word its message has for each. -/
def leakCounters : List (String × String) :=
  [("doh_rejected", "DoH"), ("dot_rejected", "DoT"), ("dns_unredirected_rejected", "Un-redirected DNS")]

/-- A rule that counts for an alarm is reached. -/
def Reaches (c : Config) (isLocal : Addr → Bool) (s : Sent) : Prop :=
  ∃ w ∈ leakCounters, w.1 ∈ reached c isLocal s

/-- No rule that decides by the sender decides the packet. -/
def Undecided (c : Config) (p : Packet) : Prop := Enabled c p ∧ ¬ Exempt c p ∧ ¬ ResolvedLeak c p

/-- The packets that reach an alarm although the redirect is in place. -/
def Alarming (c : Config) (isLocal : Addr → Bool) : Sent → Prop
  | .opening p _ => Undecided c p ∧ p.proto = .udp ∧ DohTarget p ∧ isLocal p.daddr = false
  | .established p =>
    Undecided c p ∧ ¬ IsLoopback p.daddr ∧ (DnsQuery p ∨
      (¬ InLan c p.daddr ∧ isLocal p.daddr = false ∧ ((p.proto = .tcp ∧ p.dport = 853) ∨ DohTarget p)))

instance (c : Config) (p : Packet) : Decidable (Undecided c p) := inferInstanceAs (Decidable (_ ∧ _))
instance (c : Config) (isLocal : Addr → Bool) (s : Sent) : Decidable (Reaches c isLocal s) :=
  inferInstanceAs (Decidable (∃ w ∈ _, _))

section
variable {c : Config} {isLocal : Addr → Bool} {p : Packet}

/-! ### Which packets reach an alarm -/

theorem doh_destination (a : Addr) (listed : a ∈ dohIpsV4 ∨ a ∈ dohIpsV6) : ¬ IsLoopback a ∧ ¬ InLan c a := by
  have clear : ∀ a ∈ dohIpsV4 ++ dohIpsV6, ¬ IsLoopback a ∧ lanNets.any (·.contains a) = false ∧
      lan6Nets.any (·.contains a) = false := by decide
  obtain ⟨away, lan, lan6⟩ := clear a (List.mem_append.mpr listed)
  refine ⟨away, ?_⟩
  rintro ⟨_, v4 | ⟨_, v6⟩⟩
  · simp [lan] at v4
  · simp [lan6] at v6

/-- `filter_out` counts an alarm for what its sender rules leave undecided and its accepting
    traffic rules do not take. -/
theorem filterOut_reaches_iff :
    (∃ w ∈ leakCounters, w.1 ∈ (eval isLocal p (filterOut c).rules).counted) ↔
      Alarming c isLocal (.established p) := by
  rw [eval_filterOut, decision]
  by_cases tor : p.skuid = some c.torUid
  · simp [Alarming, Undecided, Exempt, tor]
  by_cases enabled : Enabled c p
  swap
  · simp [Alarming, Undecided, tor, enabled]
  by_cases bypassed : Bypassed c p
  · simp [Alarming, Undecided, Exempt, enabled, bypassed]
  by_cases leak : ResolvedLeak c p
  · simp [Alarming, Undecided, tor, enabled, bypassed, leak]
  by_cases root : c.allowRoot = true ∧ p.skuid = some 0
  · simp only [if_neg tor, if_neg (not_not.mpr enabled), if_neg bypassed, if_neg leak, if_pos root]
    simp [Alarming, Undecided, Exempt, root.1, root.2]
  have undecided : Undecided c p := by
    refine ⟨enabled, ?_, leak⟩
    rintro (own | listed | allowed)
    · exact tor own
    · exact bypassed listed
    · exact root allowed
  rw [if_neg tor, if_neg (not_not.mpr enabled), if_neg bypassed, if_neg leak, if_neg root]
  simp only [Alarming, undecided, true_and]
  by_cases loopback : IsLoopback p.daddr
  · simp [loopback]
  by_cases dns : DnsQuery p
  · simp [loopback, dns, leakCounters]
  by_cases lan : InLan c p.daddr
  · simp [loopback, dns, lan]
  by_cases own : isLocal p.daddr = true
  · simp [loopback, dns, own]
  by_cases dot : p.proto = .tcp ∧ p.dport = 853
  · simp [loopback, dns, lan, own, dot, leakCounters]
  by_cases doh : DohTarget p
  · simp [loopback, dns, lan, own, dot, doh, leakCounters]
  rw [if_neg (by simp [dns]), if_neg (by simp [lan, loopback, own]), if_neg dot, if_neg doh]
  by_cases tcp : p.proto = .tcp <;> simp_all [leakCounters]

/-- The `output` chain only counts redirects. -/
theorem output_counts {name : String} (found : name ∈ (eval isLocal p (output c).rules).counted) :
    name = "dns_redirected" ∨ name = "tcp_redirected" := by
  obtain ⟨r, member, counter⟩ := counted_of_rule found
  have exemptions : ∀ r ∈ torRule c ++ bypassRulesNat c, r.counter = none := by
    intro r member
    exact (natExemptions_accept r member).2
  have split : (output c).rules = (torRule c ++ bypassRulesNat c) ++ (dnsRedirectIpv4 c ++ (dnsRedirectIpv6 c ++
      (lanRule c ++ (lan6Rule c ++ (loopbackIpv4 ++ (loopbackIpv6 c ++ (tcpRedirectIpv4 c ++
        tcpRedirectIpv6 c))))))) := by
    simp only [output, List.append_assoc]
  have redirects : ∀ r ∈ dnsRedirectIpv4 c ++ (dnsRedirectIpv6 c ++ (lanRule c ++ (lan6Rule c ++ (loopbackIpv4 ++
      (loopbackIpv6 c ++ (tcpRedirectIpv4 c ++ tcpRedirectIpv6 c)))))),
      r.counter = none ∨ r.counter = some "dns_redirected" ∨ r.counter = some "tcp_redirected" := by
    cases avail : c.ipv6Avail <;> cases lan : c.lanBypass <;>
      simp [dnsRedirectIpv4, dnsRedirectIpv6, lanRule, lan6Rule, loopbackIpv4, loopbackIpv6, tcpRedirectIpv4,
        tcpRedirectIpv6, when, rule, counted, avail, lan]
  rw [split, List.mem_append] at member
  rcases member with exempt | redirect
  · simp [exemptions r exempt] at counter
  · rcases redirects r redirect with uncounted | dns | tcp
    · simp [uncounted] at counter
    · exact Or.inl (by simpa [dns, eq_comm] using counter)
    · exact Or.inr (by simpa [tcp, eq_comm] using counter)

theorem dnsQuery_iff (opens : Opens p) : DnsQuery p ↔ DnsPort p := by
  rw [Opens] at opens
  simp [DnsQuery, DnsPort, opens]

theorem redirected_family : (redirected c isLocal p).family = p.family := by
  rw [redirected, Chain.verdict]
  cases decided : (eval isLocal p (output c).rules).verdict with
  | none => rfl
  | some v => exact rewritten_family decided

theorem quiet_loopback (loopback : IsLoopback p.daddr) : ¬ Alarming c isLocal (.established p) :=
  fun alarming => alarming.2.1 loopback

/-- What `filter_out` would count after `output` is QUIC: the rest was redirected. -/
theorem alarming_redirected (opens : Opens p) :
    Alarming c isLocal (.established (redirected c isLocal p)) ↔ Alarming c isLocal (.opening p opens) := by
  by_cases enabled : Enabled c p
  swap
  · have disabled : ¬ Enabled c (redirected c isLocal p) := by rwa [Enabled, redirected_family]
    simp [Alarming, Undecided, enabled, disabled]
  have doh : DohTarget p → ¬ IsLoopback p.daddr ∧ ¬ InLan c p.daddr := fun target => doh_destination p.daddr target.2.2
  rw [redirected_eq enabled]
  by_cases own : IsLoopback p.daddr
  · have quiet : ¬ Alarming c isLocal (.opening p opens) := fun alarming => (doh alarming.2.2.1).1 own
    rw [iff_false_right quiet]
    apply quiet_loopback
    repeat' split
    all_goals first | exact own | exact loopbackOf_loopback p.family
  by_cases exempt : NatExempt c isLocal p
  · have listed : Exempt c p := by
      rcases (natExempt_iff enabled own).mp exempt with tor | bypassed
      · exact Or.inl tor
      · exact Or.inr (Or.inl bypassed)
    simp [exempt, Alarming, Undecided, listed]
  by_cases dns : DnsPort p
  · have quiet : ¬ Alarming c isLocal (.opening p opens) := by
      rintro ⟨_, _, ⟨_, https, _⟩, _⟩
      simp [DnsPort, https] at dns
    rw [if_neg exempt, if_pos dns, iff_false_right quiet]
    exact quiet_loopback (loopbackOf_loopback p.family)
  have query : ¬ DnsQuery p := (dnsQuery_iff opens).not.mpr dns
  by_cases lan : InLan c p.daddr
  · have other : ¬ DohTarget p := fun target => (doh target).2 lan
    simp [exempt, dns, Alarming, query, lan, other]
  rw [if_neg exempt, if_neg dns, if_neg (by simp [lan, own])]
  by_cases tcp : p.proto = .tcp
  · have quiet : ¬ Alarming c isLocal (.opening p opens) := fun alarming => by simp [alarming.2.1] at tcp
    rw [if_pos tcp, iff_false_right quiet]
    exact quiet_loopback (loopbackOf_loopback p.family)
  · have udp : DohTarget p → p.proto = .udp := fun target => target.1.resolve_left tcp
    rw [if_neg tcp]
    simp only [Alarming, own, query, lan, tcp, not_false_eq_true, true_and, false_and, false_or]
    constructor
    · rintro ⟨undecided, away, target⟩
      exact ⟨undecided, udp target, target, away⟩
    · rintro ⟨undecided, _, target, away⟩
      exact ⟨undecided, away, target⟩

theorem reaches_iff (s : Sent) : Reaches c isLocal s ↔ Alarming c isLocal s := by
  cases s with
  | established p => exact filterOut_reaches_iff
  | opening p opens =>
    rw [← alarming_redirected opens, ← filterOut_reaches_iff]
    have watched : ∀ w ∈ leakCounters, w.1 ≠ "dns_redirected" ∧ w.1 ≠ "tcp_redirected" := by decide
    constructor
    · rintro ⟨w, member, found⟩
      rcases List.mem_append.mp found with nat | filter
      · rcases output_counts nat with dns | tcp
        · exact absurd dns (watched w member).1
        · exact absurd tcp (watched w member).2
      · exact ⟨w, member, filter⟩
    · rintro ⟨w, member, found⟩
      exact ⟨w, member, List.mem_append.mpr (Or.inr found)⟩

end

/-! ### The check -/

/-- `_new_since_last_check`: the packets since the previous reading, and the baseline with `current`
    remembered. A counter never read has the baseline zero. -/
def newSinceLastCheck (baseline : String → Nat) (name : String) (current : Nat) : Nat × (String → Nat) :=
  let previous := baseline name
  (if previous ≤ current then current - previous else current, Function.update baseline name current)

/-- `read_counters`: what the table counts, nothing where the table cannot be read. -/
def readCounters (table : Table) (readable : Bool) (packets : String → Nat) (name : String) : Option Nat :=
  if readable && table.counters.contains name then some (packets name) else none

/-- The counter loop of `check_system_integrity`, with the component and the message it fails with. -/
def checkLeakCounters (counters : String → Option Nat) :
    List (String × String) → (String → Nat) → Option (String × String) × (String → Nat)
  | [], baseline => (none, baseline)
  | (name, what) :: rest, baseline =>
    match counters name with
    | none => checkLeakCounters counters rest baseline
    | some current =>
      let (fired, baseline) := newSinceLastCheck baseline name current
      if fired ≠ 0 then
        (some ("firewall", s!"{what} reject rule matched {fired} packet(s) since the last check, which is only reachable when the NAT redirect has failed"),
          baseline)
      else checkLeakCounters counters rest baseline

/-- With nothing counted before, the loop passes when every reading is zero, and only then. -/
theorem checkLeakCounters_none (counters : String → Option Nat) (watched : List (String × String))
    (baseline : String → Nat) (zero : ∀ w ∈ watched, baseline w.1 = 0) :
    (checkLeakCounters counters watched baseline).1 = none ↔ ∀ w ∈ watched, (counters w.1).getD 0 = 0 := by
  induction watched with
  | nil => simp [checkLeakCounters]
  | cons w rest ih =>
    obtain ⟨name, what⟩ := w
    have here : baseline name = 0 := zero (name, what) (by simp)
    have tail := ih (fun w member => zero w (by simp [member]))
    cases reading : counters name with
    | none => simp [checkLeakCounters, reading, tail]
    | some current =>
      by_cases silent : current = 0
      · have same : Function.update baseline name 0 = baseline := by rw [← here, Function.update_eq_self]
        simp [checkLeakCounters, reading, newSinceLastCheck, here, silent, same, tail]
      · simp [checkLeakCounters, reading, newSinceLastCheck, here, silent]

/-- A loop that passes from zero leaves the baseline at zero. -/
theorem checkLeakCounters_baseline (counters : String → Option Nat) (watched : List (String × String))
    (baseline : String → Nat) (zero : ∀ w ∈ watched, baseline w.1 = 0)
    (silent : ∀ w ∈ watched, (counters w.1).getD 0 = 0) :
    (checkLeakCounters counters watched baseline).2 = baseline := by
  induction watched with
  | nil => rfl
  | cons w rest ih =>
    obtain ⟨name, what⟩ := w
    have here : baseline name = 0 := zero (name, what) (by simp)
    have tail := ih (fun w member => zero w (by simp [member])) (fun w member => silent w (by simp [member]))
    cases reading : counters name with
    | none => simp [checkLeakCounters, reading, tail]
    | some current =>
      have nothing : current = 0 := by simpa [reading] using silent (name, what) (by simp)
      have same : Function.update baseline name 0 = baseline := by rw [← here, Function.update_eq_self]
      simp [checkLeakCounters, reading, newSinceLastCheck, here, nothing, same, tail]

/-- A loop that passes found each counter where it was remembered, or at zero, and remembers what it found. -/
theorem checkLeakCounters_quiet (counters : String → Option Nat) {watched : List (String × String)}
    {before after : String → Nat}
    (distinct : (watched.map (·.1)).Nodup) (quiet : checkLeakCounters counters watched before = (none, after)) :
    (∀ w ∈ watched, ∀ n, counters w.1 = some n → n = before w.1 ∨ n = 0) ∧
      (∀ w ∈ watched, after w.1 = (counters w.1).getD (before w.1)) ∧
      ∀ name ∉ watched.map (·.1), after name = before name := by
  induction watched generalizing before with
  | nil =>
    obtain rfl : before = after := by simpa [checkLeakCounters] using quiet
    simp
  | cons w rest ih =>
    obtain ⟨name, what⟩ := w
    obtain ⟨fresh, distinct⟩ := List.nodup_cons.mp distinct
    have other (v : String × String) (member : v ∈ rest) : v.1 ≠ name :=
      fun same => fresh (List.mem_map.mpr ⟨v, member, same⟩)
    cases reading : counters name with
    | none =>
      obtain ⟨found, remembered, others⟩ := ih distinct (by simpa [checkLeakCounters, reading] using quiet)
      refine ⟨?_, ?_, fun k unlisted => others k fun member => unlisted (List.mem_cons_of_mem _ member)⟩
      · simp only [List.mem_cons, forall_eq_or_imp]
        exact ⟨by simp [reading], found⟩
      · simp only [List.mem_cons, forall_eq_or_imp]
        exact ⟨by simp [reading, others name fresh], remembered⟩
    | some current =>
      have silent : (newSinceLastCheck before name current).1 = 0 := by
        by_contra fired
        simp [checkLeakCounters, reading, fired] at quiet
      have onwards : checkLeakCounters counters rest (newSinceLastCheck before name current).2 = (none, after) := by
        simpa [checkLeakCounters, reading, silent] using quiet
      simp only [newSinceLastCheck] at onwards
      have here : current = before name ∨ current = 0 := by
        by_cases grown : before name ≤ current
        · rw [newSinceLastCheck, if_pos grown] at silent
          omega
        · rw [newSinceLastCheck, if_neg grown] at silent
          exact Or.inr silent
      obtain ⟨found, remembered, others⟩ := ih distinct onwards
      have updated (v : String × String) (member : v ∈ rest) : Function.update before name current v.1 = before v.1 :=
        Function.update_of_ne (other v member) _ _
      refine ⟨?_, ?_, fun k unlisted => ?_⟩
      · simp only [List.mem_cons, forall_eq_or_imp]
        refine ⟨fun n counted => ?_, fun v member n counted => ?_⟩
        · obtain rfl : current = n := Option.some.inj (reading.symm.trans counted)
          exact here
        · exact updated v member ▸ found v member n counted
      · simp only [List.mem_cons, forall_eq_or_imp]
        refine ⟨by simp [reading, others name fresh], fun v member => ?_⟩
        rw [remembered v member, updated v member]
      · rw [others k fun member => unlisted (List.mem_cons_of_mem _ member)]
        exact Function.update_of_ne (fun same => unlisted (by simp [same])) _ _

/-- An alarm is a failure of the firewall. -/
theorem checkLeakCounters_alarm (counters : String → Option Nat) {watched : List (String × String)}
    {before after : String → Nat}
    {failure : String × String} (alarmed : checkLeakCounters counters watched before = (some failure, after)) :
    failure.1 = "firewall" := by
  induction watched generalizing before with
  | nil => simp [checkLeakCounters] at alarmed
  | cons w rest ih =>
    obtain ⟨name, what⟩ := w
    cases reading : counters name with
    | none => exact ih (by simpa [checkLeakCounters, reading] using alarmed)
    | some current =>
      by_cases fired : (newSinceLastCheck before name current).1 = 0
      · exact ih (by simpa [checkLeakCounters, reading, fired] using alarmed)
      · simp only [checkLeakCounters, reading, ne_eq, fired, not_false_eq_true, if_true] at alarmed
        rw [← Option.some.inj (Prod.mk.inj alarmed).1]

/-! ### Runs of sends and checks -/

inductive Event where
  | send (s : Sent)
  | check (readable : Bool)

/-- The table's counters, the watchdog's baseline, and the alarms raised so far. -/
structure Monitor where
  packets : String → Nat
  baseline : String → Nat
  alarms : List (String × String)

/-- A table just loaded and a watchdog just started. -/
def Monitor.fresh : Monitor := ⟨fun _ => 0, fun _ => 0, []⟩

def step (c : Config) (isLocal : Addr → Bool) (m : Monitor) : Event → Monitor
  | .send s => { m with packets := fun name => m.packets name + (reached c isLocal s).count name }
  | .check readable =>
    let (alarm, baseline) := checkLeakCounters
      (readCounters (buildRuleset c) readable m.packets) leakCounters m.baseline
    { m with baseline, alarms := m.alarms ++ alarm.toList }

def monitor (c : Config) (isLocal : Addr → Bool) (events : List Event) : Monitor :=
  events.foldl (step c isLocal) .fresh

/-- Some packet of the events is one that reaches an alarm. -/
def SentAlarming (c : Config) (isLocal : Addr → Bool) (events : List Event) : Prop :=
  ∃ s, .send s ∈ events ∧ Alarming c isLocal s

/-- The watched counters are above zero once an alarming packet was sent, and while no check has
    raised an alarm the baseline is that of the start. -/
structure Inv (c : Config) (isLocal : Addr → Bool) (events : List Event) (m : Monitor) : Prop where
  counts : (∃ w ∈ leakCounters, m.packets w.1 ≠ 0) ↔ SentAlarming c isLocal events
  baseline : m.alarms = [] → ∀ w ∈ leakCounters, m.baseline w.1 = 0
  alarms : m.alarms ≠ [] → SentAlarming c isLocal events

section
variable {c : Config} {isLocal : Addr → Bool} {events : List Event} {m : Monitor}

theorem sentAlarming_append (e : Event) :
    SentAlarming c isLocal (events ++ [e]) ↔
      SentAlarming c isLocal events ∨ ∃ s, e = .send s ∧ Alarming c isLocal s := by
  simp only [SentAlarming, List.mem_append, List.mem_singleton, or_and_right, exists_or]
  constructor
  · rintro (before | ⟨s, now, alarming⟩)
    · exact Or.inl before
    · exact Or.inr ⟨s, now.symm, alarming⟩
  · rintro (before | ⟨s, now, alarming⟩)
    · exact Or.inl before
    · exact Or.inr ⟨s, now.symm, alarming⟩

/-- The readings of a readable table are the counts, those of an unreadable one are missing. -/
theorem readings (readable : Bool) :
    (∀ w ∈ leakCounters, (readCounters (buildRuleset c) readable m.packets w.1).getD 0 = 0) ↔
      (readable = true → ∀ w ∈ leakCounters, m.packets w.1 = 0) := by
  have listed : ∀ w ∈ leakCounters, w.1 ∈ (buildRuleset c).counters := by
    have names : (buildRuleset c).counters = ["dns_redirected", "tcp_redirected", "dot_rejected", "doh_rejected",
      "cleartext_rejected", "dns_unredirected_rejected"] := rfl
    rw [names]
    decide
  cases readable with
  | false => simp [readCounters]
  | true =>
    constructor
    · intro zero _ w member
      simpa [readCounters, listed w member] using zero w member
    · intro zero w member
      simp [readCounters, listed w member, zero rfl w member]

theorem step_send (s : Sent) (inv : Inv c isLocal events m) :
    Inv c isLocal (events ++ [.send s]) (step c isLocal m (.send s)) := by
  have grown : SentAlarming c isLocal (events ++ [.send s]) ↔ SentAlarming c isLocal events ∨ Alarming c isLocal s := by
    simp [sentAlarming_append]
  refine ⟨?_, inv.baseline, fun alarmed => grown.mpr (Or.inl (inv.alarms alarmed))⟩
  rw [grown, ← inv.counts, ← reaches_iff, Reaches]
  constructor
  · rintro ⟨w, member, counted⟩
    by_cases before : m.packets w.1 = 0
    · have now : (reached c isLocal s).count w.1 ≠ 0 := by simpa [step, before] using counted
      exact Or.inr ⟨w, member, List.count_pos_iff.mp (Nat.pos_of_ne_zero now)⟩
    · exact Or.inl ⟨w, member, before⟩
  · rintro (⟨w, member, counted⟩ | ⟨w, member, found⟩)
    · exact ⟨w, member, by simp only [step]; omega⟩
    · have now := List.count_pos_iff.mpr found
      exact ⟨w, member, by simp only [step]; omega⟩

theorem step_check (readable : Bool) (inv : Inv c isLocal events m) :
    Inv c isLocal (events ++ [.check readable]) (step c isLocal m (.check readable)) := by
  have same : SentAlarming c isLocal (events ++ [.check readable]) ↔ SentAlarming c isLocal events := by
    simp [sentAlarming_append]
  refine ⟨?_, ?_, ?_⟩
  · rw [same]
    exact inv.counts
  · intro quiet
    obtain ⟨before, passed⟩ : m.alarms = [] ∧
        (checkLeakCounters (readCounters (buildRuleset c) readable m.packets) leakCounters m.baseline).1 = none := by
      simpa [step] using quiet
    have zero := inv.baseline before
    have silent := (checkLeakCounters_none _ _ _ zero).mp passed
    simp only [step, checkLeakCounters_baseline _ _ _ zero silent]
    exact zero
  · intro alarmed
    rw [same]
    by_contra clean
    have before : m.alarms = [] := by_contra fun alarms => clean (inv.alarms alarms)
    have counts : ∀ w ∈ leakCounters, m.packets w.1 = 0 := by
      intro w member
      by_contra counted
      exact clean (inv.counts.mp ⟨w, member, counted⟩)
    have silent : ∀ w ∈ leakCounters, (readCounters (buildRuleset c) readable m.packets w.1).getD 0 = 0 :=
      (readings readable).mpr fun _ => counts
    have passed := (checkLeakCounters_none _ _ _ (inv.baseline before)).mpr silent
    simp [step, before, passed] at alarmed

theorem monitor_inv (events : List Event) : Inv c isLocal events (monitor c isLocal events) := by
  induction events using List.reverseRecOn with
  | nil => exact ⟨by simp [monitor, Monitor.fresh, SentAlarming], fun _ _ _ => rfl, by simp [monitor, Monitor.fresh]⟩
  | append_singleton events e ih =>
    rw [monitor, List.foldl_append, List.foldl_cons, List.foldl_nil, ← monitor]
    cases e with
    | send s => exact step_send s ih
    | check readable => exact step_check readable ih

end

/-- The alarm counters with the redirect in place: a packet reaches one exactly if it is alarming,
    and by the next readable check some check has raised an alarm exactly if such a packet was sent. -/
theorem alarms_iff (c : Config) (isLocal : Addr → Bool) :
    (∀ s, Reaches c isLocal s ↔ Alarming c isLocal s) ∧
      ∀ events, (monitor c isLocal (events ++ [.check true])).alarms ≠ [] ↔ SentAlarming c isLocal events := by
  refine ⟨reaches_iff, ?_⟩
  intro events
  have inv : Inv c isLocal events (monitor c isLocal events) := monitor_inv events
  have after : Inv c isLocal (events ++ [.check true]) (monitor c isLocal (events ++ [.check true])) := monitor_inv _
  have same : SentAlarming c isLocal (events ++ [.check true]) ↔ SentAlarming c isLocal events := by
    simp [sentAlarming_append]
  refine ⟨fun alarmed => same.mp (after.alarms alarmed), ?_⟩
  intro sent quiet
  obtain ⟨before, passed⟩ : (monitor c isLocal events).alarms = [] ∧ (checkLeakCounters (readCounters (buildRuleset c)
      true (monitor c isLocal events).packets) leakCounters (monitor c isLocal events).baseline).1 = none := by
    simpa [monitor, step] using quiet
  have zero := (readings true).mp ((checkLeakCounters_none _ _ _ (inv.baseline before)).mp passed) rfl
  obtain ⟨w, member, counted⟩ := inv.counts.mpr sent
  exact counted (zero w member)

/-- One QUIC packet of a user to a listed resolver, the redirect in place. -/
theorem quic_reaches : ¬ ∀ (c : Config) (isLocal : Addr → Bool) (s : Sent), ¬ Reaches c isLocal s := by
  intro unreachable
  have here := unreachable session (fun _ => false) (.opening (opened 1000 (ip4 1 1 1 1) .udp 443) rfl)
  revert here
  decide

end Ttp.LeakCounters
