import Mathlib.Logic.Function.Basic

/-!
`label_ports_selinux` and `unlabel_ports_selinux` of `ttp/selinux.py`, over the
local port mappings that `semanage` keeps. Labelling adds a mapping, and
modifies the one that is there if it cannot; unlabelling deletes the mapping of
each port, whoever made it.
-/
namespace Ttp.PortLabels

inductive Proto where
  | tcp
  | udp
  deriving DecidableEq, Repr

/-- The local mappings: the type of a port, if it has one. -/
abbrev Store := Proto × Nat → Option String

/-- `semanage port -a -t type`, `-m -t type` and `-d`. -/
inductive Command where
  | add (type : String)
  | modify (type : String)
  | delete

/-- What the command makes of the mapping of its port; none where it exits with an error. -/
def Command.change : Command → Option String → Option (Option String)
  | .add type, none => some (some type)
  | .add _, some _ => none
  | .modify type, some _ => some (some type)
  | .modify _, none => none
  | .delete, some _ => some none
  | .delete, none => none

/-- The command for one port, none for a `CalledProcessError`. -/
def semanage (c : Command) (store : Store) (port : Proto × Nat) : Option Store :=
  (c.change (store port)).map fun mapping => Function.update store port mapping

/-- `[(transport_port, "tcp"), (dns_port, "udp")]`. -/
def labelled (transportPort dnsPort : Nat) : List (Proto × Nat) := [(.tcp, transportPort), (.udp, dnsPort)]

/-- One turn of the loop of `label_ports_selinux`. -/
def labelPort (store : Store) (port : Proto × Nat) : Store :=
  match semanage (.add "tor_port_t") store port with
  | some store' => store'
  | none => (semanage (.modify "tor_port_t") store port).getD store

/-- `label_ports_selinux`, where `available` says whether there is a `semanage`. -/
def labelPortsSelinux (available : Bool) (transportPort dnsPort : Nat) (store : Store) : Store :=
  if available then (labelled transportPort dnsPort).foldl labelPort store else store

/-- One turn of the loop of `unlabel_ports_selinux`: a failure is passed over. -/
def unlabelPort (store : Store) (port : Proto × Nat) : Store := (semanage .delete store port).getD store

def unlabelPortsSelinux (available : Bool) (transportPort dnsPort : Nat) (store : Store) : Store :=
  if available then (labelled transportPort dnsPort).foldl unlabelPort store else store

/-! ### What the loops do to a store -/

section
variable {store : Store} {port other : Proto × Nat} {ports : List (Proto × Nat)}

theorem labelPort_apply : labelPort store port other = if other = port then some "tor_port_t" else store other := by
  by_cases same : other = port
  · subst same
    cases mapping : store other <;> simp [labelPort, semanage, Command.change, mapping]
  · cases mapping : store port <;> simp [labelPort, semanage, Command.change, mapping, same]

theorem unlabelPort_apply : unlabelPort store port other = if other = port then none else store other := by
  by_cases same : other = port
  · subst same
    cases mapping : store other <;> simp [unlabelPort, semanage, Command.change, mapping]
  · cases mapping : store port <;> simp [unlabelPort, semanage, Command.change, mapping, same]

/-- A loop that sets the mapping of one port at each turn sets those of all of its ports. -/
theorem foldl_sets {turn : Store → Proto × Nat → Store} {mapping : Option String}
    (sets : ∀ store port other, turn store port other = if other = port then mapping else store other) :
    ports.foldl turn store other = if other ∈ ports then mapping else store other := by
  induction ports generalizing store with
  | nil => rfl
  | cons port rest ih =>
    rw [List.foldl_cons, ih, sets]
    by_cases later : other ∈ rest
    · simp [later]
    · by_cases here : other = port <;> simp [later, here]

end

/-- After both, the ports have no local mapping, and every other one has what it had. -/
theorem roundTrip_apply (transportPort dnsPort : Nat) (store : Store) (other : Proto × Nat) :
    unlabelPortsSelinux true transportPort dnsPort (labelPortsSelinux true transportPort dnsPort store) other =
      if other ∈ labelled transportPort dnsPort then none else store other := by
  rw [unlabelPortsSelinux, if_pos rfl, labelPortsSelinux, if_pos rfl, foldl_sets fun _ _ _ => unlabelPort_apply,
    foldl_sets fun _ _ _ => labelPort_apply]
  by_cases ours : other ∈ labelled transportPort dnsPort
  · rw [if_pos ours, if_pos ours]
  · rw [if_neg ours, if_neg ours, if_neg ours]

/-- The store comes back exactly where neither port had a local mapping. -/
theorem labels_restored (available : Bool) (transportPort dnsPort : Nat) (store : Store) :
    unlabelPortsSelinux available transportPort dnsPort
      (labelPortsSelinux available transportPort dnsPort store) = store ↔
      available = false ∨ store (.tcp, transportPort) = none ∧ store (.udp, dnsPort) = none := by
  cases available with
  | false => exact ⟨fun _ => Or.inl rfl, fun _ => rfl⟩
  | true =>
    constructor
    · intro restored
      have each (port : Proto × Nat) (member : port ∈ labelled transportPort dnsPort) : store port = none := by
        have back := congrFun restored port
        rw [roundTrip_apply, if_pos member] at back
        exact back.symm
      exact Or.inr ⟨each _ (by simp [labelled]), each _ (by simp [labelled])⟩
    · rintro (none | ⟨transport, dns⟩)
      · cases none
      · funext other
        rw [roundTrip_apply]
        by_cases ours : other ∈ labelled transportPort dnsPort
        · rw [if_pos ours]
          have cases : other = (.tcp, transportPort) ∨ other = (.udp, dnsPort) := by simpa [labelled] using ours
          rcases cases with rfl | rfl
          · exact transport.symm
          · exact dns.symm
        · rw [if_neg ours]

/-- An administrator who had mapped the port of Tor loses the mapping. -/
theorem labels_lost : ¬ ∀ (transportPort dnsPort : Nat) (store : Store),
    unlabelPortsSelinux true transportPort dnsPort (labelPortsSelinux true transportPort dnsPort store) = store := by
  intro restores
  let mapped : Store := fun port => if port = (.tcp, 9041) then some "http_port_t" else none
  have back := congrFun (restores 9041 9054 mapped) (.tcp, 9041)
  rw [roundTrip_apply] at back
  simp [labelled, mapped] at back

end Ttp.PortLabels
