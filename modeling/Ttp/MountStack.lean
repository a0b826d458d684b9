import Mathlib.Data.List.Infix
import Ttp.Integrity

/-!
The overlay of `ttp/dns.py` on the stack of mounts that `/etc/resolv.conf` can
carry. A mount passes for TTP's by the text of its line in `mountinfo`, anywhere
in the stack; `umount` takes away the mount on top.
-/
namespace Ttp.MountStack
open Ttp.Python Ttp.Text

/-! ### Mounts -/

structure Mount where
  point : String
  /-- It binds `/run/ttp/resolv.conf`. -/
  ours : Bool
  /-- Its line in `/proc/self/mountinfo`. -/
  text : String
  deriving DecidableEq

structure Namespace where
  /-- The newest first. -/
  mounts : List Mount
  /-- `/proc/self/mountinfo` can be read. -/
  readable : Bool

/-- The lines of a text file with universal newlines. -/
def readLines (text : String) : List String := (text.toList.splitOnP fun c => c == '\n' || c == '\r').map String.ofList

def Namespace.mountinfo (ns : Namespace) : List String :=
  if ns.readable then ns.mounts.flatMap fun m => readLines m.text else []

/-- `_is_ttp_mount`. -/
def isTtpMount (ns : Namespace) (target : String) : Bool := Integrity.isTtpMount ns.mountinfo target

/-- `umount -l`: the newest mount on the target. -/
def umount (ns : Namespace) (target : String) : Namespace := { ns with mounts := ns.mounts.eraseP (·.point == target) }

/-- `mount --bind /run/ttp/resolv.conf`, with the line that `mountinfo` has for it. -/
def bind (ns : Namespace) (target text : String) : Namespace := { ns with mounts := ⟨target, true, text⟩ :: ns.mounts }

/-- The loop of `_clear_stale_mounts`. -/
def clearUpTo (target : String) : Nat → Namespace → Namespace
  | 0, ns => ns
  | n + 1, ns => if isTtpMount ns target then clearUpTo target n (umount ns target) else ns

/-- `_clear_stale_mounts`. -/
def clearStaleMounts (ns : Namespace) (target : String) : Namespace := clearUpTo target 100 ns

/-! ### The overlay -/

/-- How the steps of `apply_dns` around the stack turn out. -/
structure Steps where
  /-- The set-up of systemd-resolved, and the file that is bound: whether systemd-resolved was set up. -/
  prepared : Except Exc Bool
  /-- `_assert_is`. -/
  unchanged : Except Exc Unit
  /-- `mount`, with the line of the mount. -/
  bound : Except Exc String

/-- The `except` clause of `apply_dns`. -/
def refusal (e : Exc) : Exc :=
  if e = .calledProcessError then .dnsError s!"Command failed: {e.text}"
  else if e.isException then .dnsError s!"Failed to apply DNS configuration: {e.text}" else e

/-- `apply_dns`, where `target` is what `/etc/resolv.conf` leads to. -/
def applyDns (ns : Namespace) (target : String) (steps : Steps) : Except Exc Obj × Namespace :=
  match steps.prepared with
  | .error e => (.error (refusal e), ns)
  | .ok resolvedActive =>
    let ns := clearStaleMounts ns target
    match steps.unchanged with
    | .error e => (.error (refusal e), ns)
    | .ok _ =>
      match steps.bound with
      | .error e => (.error (refusal e), ns)
      | .ok text =>
        (.ok [("mode", .str "overlay"), ("mount_target", .str target), ("systemd_resolved", .bool resolvedActive)],
          bind ns target text)

/-- `backup.get("mount_target") or str(target)`, of a backup that can be anything. -/
def mountTarget (target : String) : Json → Json
  | .obj backup => if (Obj.get backup "mount_target").truthy then Obj.get backup "mount_target" else .str target
  | _ => .str target

/-- `restore_dns`, on the mounts: what is not a path is no mount. -/
def restoreDns (ns : Namespace) (target : String) (backup : Json) : Namespace :=
  match mountTarget target backup with
  | .str path => if isTtpMount ns path then umount ns path else ns
  | _ => ns

/-! ### What passes for TTP's -/

section
variable (ns : Namespace) (target : String)

/-- The layers on the target, the top one first. -/
def layers : List Mount := ns.mounts.filter (·.point == target)

def elsewhere : List Mount := ns.mounts.filter (·.point != target)

/-- The line of the mount passes for that of an overlay on the target. -/
def passes (m : Mount) : Bool := ns.readable && Integrity.isTtpMount (readLines m.text) target

/-- There is a mount that passes for an overlay: a mount elsewhere, or one of these layers. -/
def noticed (stack : List Mount) : Bool := (elsewhere ns target).any (passes ns target) || stack.any (passes ns target)

/-- Of the layers on the target exactly the overlays have a mount that passes for one elsewhere or in their place or
    beneath. -/
def Sound : Prop := ∀ above m below, layers ns target = above ++ m :: below →
    (noticed ns target (m :: below) = true ↔ m.ours = true)

/-- The stack is what it was without the overlays after they are cleared, and after an overlay is applied and
    restored by its backup; and nothing that clears, applies or restores takes a mount away that is no overlay. -/
structure Kept (steps : Steps) : Prop where
  cleared : layers (clearStaleMounts ns target) target = (layers ns target).filter (!·.ours)
  restored : ∀ backup, (applyDns ns target steps).1 = .ok backup →
    layers (restoreDns (applyDns ns target steps).2 target (.obj backup)) target = (layers ns target).filter (!·.ours)
  clearKeeps : (clearStaleMounts ns target).mounts.filter (!·.ours) = ns.mounts.filter (!·.ours)
  applyKeeps : (applyDns ns target steps).2.mounts.filter (!·.ours) = ns.mounts.filter (!·.ours)
  restoreKeeps : ∀ backup, mountTarget target backup = .str target →
    (restoreDns ns target backup).mounts.filter (!·.ours) = ns.mounts.filter (!·.ours)

end

/-! ### The loop -/

section
variable {ns : Namespace} {target : String}

theorem isTtpMount_any : isTtpMount ns target = ns.mounts.any (passes ns target) := by
  cases readable : ns.readable with
  | false => simp [isTtpMount, Integrity.isTtpMount, Namespace.mountinfo, passes, readable]
  | true =>
    have each : passes ns target = fun m => Integrity.isTtpMount (readLines m.text) target := by
      funext m
      rw [passes, readable, Bool.true_and]
    rw [isTtpMount, Namespace.mountinfo, if_pos readable, each, Integrity.isTtpMount, List.any_flatMap]
    rfl

theorem isTtpMount_noticed : isTtpMount ns target = noticed ns target (layers ns target) := by
  rw [isTtpMount_any, Bool.eq_iff_iff]
  simp only [noticed, elsewhere, layers, Bool.or_eq_true, List.any_eq_true, List.mem_filter, bne_iff_ne, beq_iff_eq]
  constructor
  · rintro ⟨m, member, seen⟩
    by_cases here : m.point = target
    · exact Or.inr ⟨m, ⟨member, here⟩, seen⟩
    · exact Or.inl ⟨m, ⟨member, here⟩, seen⟩
  · rintro (⟨m, ⟨member, _⟩, seen⟩ | ⟨m, ⟨member, _⟩, seen⟩) <;> exact ⟨m, member, seen⟩

theorem filter_eraseP {α : Type} (p : α → Bool) (l : List α) :
    (l.eraseP p).filter p = (l.filter p).tail ∧ (l.eraseP p).filter (!p ·) = l.filter (!p ·) := by
  induction l with
  | nil => exact ⟨rfl, rfl⟩
  | cons a rest ih =>
    by_cases here : p a = true
    · simp [List.eraseP_cons_of_pos here, here]
    · simp [List.eraseP_cons_of_neg here, here, ih.1, ih.2]

@[simp] theorem layers_umount : layers (umount ns target) target = (layers ns target).tail := (filter_eraseP _ _).1

@[simp] theorem elsewhere_umount : elsewhere (umount ns target) target = elsewhere ns target := (filter_eraseP _ _).2

@[simp] theorem layers_bind (text : String) :
    layers (bind ns target text) target = ⟨target, true, text⟩ :: layers ns target :=
  List.filter_cons_of_pos (by simp)

@[simp] theorem elsewhere_bind (text : String) : elsewhere (bind ns target text) target = elsewhere ns target :=
  List.filter_cons_of_neg (by simp)

@[simp] theorem noticed_umount : noticed (umount ns target) target = noticed ns target := by
  funext stack
  rw [noticed, elsewhere_umount]
  rfl

@[simp] theorem noticed_bind (text : String) : noticed (bind ns target text) target = noticed ns target := by
  funext stack
  rw [noticed, elsewhere_bind]
  rfl

/-- What the loop leaves of a stack: it takes layers from the top for as long as one is noticed. -/
def settled (seen : List Mount → Bool) : List Mount → List Mount
  | [] => []
  | m :: below => if seen (m :: below) then settled seen below else m :: below

theorem clearUpTo_settled (n : Nat) (enough : (layers ns target).length ≤ n) :
    layers (clearUpTo target n ns) target = settled (noticed ns target) (layers ns target) ∧
      noticed (clearUpTo target n ns) target = noticed ns target := by
  induction n generalizing ns with
  | zero =>
    have empty : layers ns target = [] := List.length_eq_zero_iff.mp (Nat.le_zero.mp enough)
    exact ⟨by rw [clearUpTo, empty, settled], rfl⟩
  | succ n ih =>
    rw [clearUpTo, isTtpMount_noticed]
    by_cases seen : noticed ns target (layers ns target) = true
    · have less : (layers (umount ns target) target).length ≤ n := by
        rw [layers_umount, List.length_tail]
        omega
      rw [if_pos seen, (ih less).1, (ih less).2, noticed_umount, layers_umount]
      refine ⟨?_, rfl⟩
      cases stack : layers ns target with
      | nil => rfl
      | cons m below => rw [settled, if_pos (stack ▸ seen), List.tail_cons]
    · rw [if_neg seen]
      refine ⟨?_, rfl⟩
      cases stack : layers ns target with
      | nil => rfl
      | cons m below => rw [settled, if_neg (stack ▸ seen)]

/-! ### When the stack is kept -/

theorem noticed_cons (m : Mount) (below : List Mount) :
    noticed ns target (m :: below) = (noticed ns target [m] || noticed ns target below) := by
  simp only [noticed, List.any_cons, List.any_nil, Bool.or_false]
  cases (elsewhere ns target).any (passes ns target) <;> simp

section
variable {seen : List Mount → Bool}

/-- Of the layers exactly the overlays are noticed, each with what is beneath it. -/
def Apt (seen : List Mount → Bool) (stack : List Mount) : Prop :=
  ∀ above m below, stack = above ++ m :: below → (seen (m :: below) = true ↔ m.ours = true)

theorem apt_cons {m : Mount} {below : List Mount} :
    Apt seen (m :: below) ↔ (seen (m :: below) = true ↔ m.ours = true) ∧ Apt seen below := by
  constructor
  · exact fun apt => ⟨apt [] m below rfl,
      fun above m' below' same => apt (m :: above) m' below' (by rw [same, List.cons_append])⟩
  · rintro ⟨first, rest⟩ above m' below' same
    cases above with
    | nil =>
      obtain ⟨rfl, rfl⟩ := List.cons.inj same
      exact first
    | cons _ above => exact rest above m' below' (List.cons.inj same).2

theorem apt_unseen (grows : ∀ m below, seen below = true → seen (m :: below) = true) {stack : List Mount}
    (unseen : seen stack = false) :
    Apt seen stack ↔ ∀ m ∈ stack, m.ours = false := by
  induction stack with
  | nil => simp [Apt]
  | cons m below ih =>
    have rest : seen below = false := by
      by_contra found
      rw [grows m below (by simpa using found)] at unseen
      cases unseen
    rw [apt_cons, ih rest, unseen, List.forall_mem_cons]
    simp

theorem settled_foreign (stack : List Mount) :
    ((settled seen stack).filter (!·.ours)).length ≤ (stack.filter (!·.ours)).length := by
  induction stack with
  | nil => exact le_refl _
  | cons m below ih =>
    rw [settled]
    split_ifs
    · refine ih.trans ?_
      rw [List.filter_cons]
      split_ifs <;> simp
    · exact le_refl _

/-- The loop takes away the overlays and nothing else exactly where they are what is noticed. -/
theorem settled_apt (grows : ∀ m below, seen below = true → seen (m :: below) = true) (stack : List Mount) :
    settled seen stack = stack.filter (!·.ours) ↔ Apt seen stack := by
  induction stack with
  | nil => simp [settled, Apt]
  | cons m below ih =>
    by_cases here : seen (m :: below) = true
    · rw [settled, if_pos here, apt_cons]
      cases ours : m.ours with
      | true => simp [here, ours, ih]
      | false =>
        refine iff_of_false (fun same => ?_) fun apt => by simp [here] at apt
        have fewer : ((settled seen below).filter (!·.ours)).length ≤ (below.filter (!·.ours)).length :=
          settled_foreign below
        rw [same, List.filter_cons_of_pos (by simp [ours]), List.filter_cons_of_pos (by simp [ours])] at fewer
        simp only [List.filter_filter, Bool.and_self, List.length_cons] at fewer
        omega
    · rw [settled, if_neg here, apt_unseen grows (by simpa using here), eq_comm, List.filter_eq_self]
      simp

theorem settled_unseen (stack : List Mount) : settled seen stack = [] ∨ seen (settled seen stack) = false := by
  induction stack with
  | nil => exact Or.inl rfl
  | cons m below ih =>
    rw [settled]
    split_ifs with here
    · exact ih
    · exact Or.inr (by simpa using here)

end

theorem noticed_grows (m : Mount) (below : List Mount) (found : noticed ns target below = true) :
    noticed ns target (m :: below) = true := by
  rw [noticed_cons, found, Bool.or_true]

theorem clear_sound (few : (layers ns target).length < 100) :
    layers (clearStaleMounts ns target) target = (layers ns target).filter (!·.ours) ↔ Sound ns target := by
  rw [clearStaleMounts, (clearUpTo_settled 100 few.le).1]
  exact settled_apt noticed_grows _

theorem eraseP_foreign {p : Mount → Bool} {l : List Mount} (top : ∀ m ∈ (l.filter p).head?, m.ours = true) :
    (l.eraseP p).filter (!·.ours) = l.filter (!·.ours) := by
  induction l with
  | nil => rfl
  | cons m rest ih =>
    by_cases here : p m = true
    · have ours : m.ours = true := top m (by simp [here])
      simp [List.eraseP_cons_of_pos here, ours]
    · rw [List.filter_cons_of_neg here] at top
      rw [List.eraseP_cons_of_neg here, List.filter_cons, List.filter_cons, ih top]

/-- A mount that is taken off the top of a sound stack is an overlay. -/
theorem umount_keeps (sound : Sound ns target) (found : isTtpMount ns target = true) :
    (umount ns target).mounts.filter (!·.ours) = ns.mounts.filter (!·.ours) ∧ Sound (umount ns target) target := by
  rw [isTtpMount_noticed] at found
  have apt : Apt (noticed ns target) (layers ns target) := sound
  show _ ∧ Apt (noticed (umount ns target) target) (layers (umount ns target) target)
  rw [noticed_umount, layers_umount]
  cases stack : layers ns target with
  | nil =>
    refine ⟨eraseP_foreign fun m first => ?_, fun above m below same => by simp at same⟩
    simp [show ns.mounts.filter (·.point == target) = [] from stack] at first
  | cons m below =>
    rw [stack] at found apt
    obtain ⟨top, rest⟩ := apt_cons.mp apt
    refine ⟨eraseP_foreign fun m' first => ?_, rest⟩
    rw [show ns.mounts.filter (·.point == target) = m :: below from stack, List.head?_cons, Option.mem_some_iff]
      at first
    exact first ▸ top.mp found

theorem clearUpTo_keeps (n : Nat) (sound : Sound ns target) :
    (clearUpTo target n ns).mounts.filter (!·.ours) = ns.mounts.filter (!·.ours) := by
  induction n generalizing ns with
  | zero => rfl
  | succ n ih =>
    rw [clearUpTo]
    split_ifs with found
    · obtain ⟨keeps, sound'⟩ := umount_keeps sound found
      rw [ih sound', keeps]
    · rfl

theorem applyDns_keeps (steps : Steps) (sound : Sound ns target) :
    (applyDns ns target steps).2.mounts.filter (!·.ours) = ns.mounts.filter (!·.ours) := by
  have cleared := clearUpTo_keeps 100 sound
  unfold applyDns
  cases steps.prepared with
  | error e => rfl
  | ok resolved =>
    cases steps.unchanged with
    | error e => exact cleared
    | ok _ =>
      cases steps.bound with
      | error e => exact cleared
      | ok text => simpa [bind, clearStaleMounts] using cleared

theorem restoreDns_keeps {backup : Json} (sound : Sound ns target) (named : mountTarget target backup = .str target) :
    (restoreDns ns target backup).mounts.filter (!·.ours) = ns.mounts.filter (!·.ours) := by
  simp only [restoreDns, named]
  split_ifs with found
  · exact (umount_keeps sound found).1
  · rfl

/-- Where the new overlay is noticed: its own line passes for TTP's, or a mount elsewhere does. -/
def Recognised (ns : Namespace) (target : String) (steps : Steps) : Prop :=
  ∀ resolved text, steps.prepared = .ok resolved → steps.unchanged = .ok () → steps.bound = .ok text →
    noticed ns target [⟨target, true, text⟩] = true

/-- Restoring takes the new overlay off sound layers exactly where it is noticed. -/
theorem restored_recognised (few : (layers ns target).length < 100) (sound : Sound ns target) (steps : Steps) :
    (∀ backup, (applyDns ns target steps).1 = .ok backup →
      layers (restoreDns (applyDns ns target steps).2 target (.obj backup)) target =
      (layers ns target).filter (!·.ours)) ↔
        Recognised ns target steps := by
  have backs (resolved : Bool) : mountTarget target (.obj [("mode", .str "overlay"), ("mount_target", .str target),
      ("systemd_resolved", .bool resolved)]) = .str target := by
    simp [mountTarget, Obj.get, Obj.find?]
  have restores (text : String) : layers (if isTtpMount (bind (clearStaleMounts ns target) target text) target
      then umount (bind (clearStaleMounts ns target) target text) target
      else bind (clearStaleMounts ns target) target text) target =
        (layers ns target).filter (!·.ours) ↔ noticed ns target [⟨target, true, text⟩] = true := by
    have left := (clear_sound few).mpr sound
    obtain ⟨settles, view⟩ := clearUpTo_settled 100 few.le
    rw [isTtpMount_noticed, noticed_bind, layers_bind, left, clearStaleMounts, view, noticed_cons]
    have quiet : noticed ns target [⟨target, true, text⟩] = false →
        noticed ns target ((layers ns target).filter (!·.ours)) = false := by
      intro unseen
      rw [← left, clearStaleMounts, settles]
      obtain empty | quiet : settled (noticed ns target) (layers ns target) = [] ∨
          noticed ns target (settled (noticed ns target) (layers ns target)) = false :=
            settled_unseen (layers ns target)
      · rw [empty]
        by_contra found
        rw [noticed_grows _ _ (by simpa using found)] at unseen
        cases unseen
      · exact quiet
    have kept : layers (clearUpTo target 100 ns) target = (layers ns target).filter (!·.ours) := left
    cases seen : noticed ns target [⟨target, true, text⟩] with
    | true => simp [kept]
    | false => simp [quiet seen, kept]
  unfold applyDns Recognised
  cases prepared : steps.prepared with
  | error e => simp
  | ok resolved =>
    cases unchanged : steps.unchanged with
    | error e => simp
    | ok _ =>
      cases bound : steps.bound with
      | error e => simp
      | ok text => simpa [restoreDns, backs] using restores text

end

/-- The line that the kernel has for an overlay: `mountinfo` shows the bound file by its path in its file system. -/
def overlayText (id parent device dir target rest : List Char) : List Char :=
  id ++ ' ' :: (parent ++ ' ' ::
    (device ++ ' ' :: (dir ++ "/ttp/resolv.conf".toList ++ ' ' :: (target ++ ' ' :: rest))))

theorem splitFrom_word {word text : List Char} (more : word ≠ []) (solid : ∀ c ∈ word, isSpace c = false) :
    splitFrom [] (word ++ ' ' :: text) = word :: splitFrom [] text := by
  have parted : Parted (' ' :: text) := fun c first => by
    obtain rfl : ' ' = c := by simpa using first
    decide
  rw [splitFrom_append solid, List.nil_append, splitFrom_parted more parted, splitFrom, if_pos (by decide), if_pos rfl]

theorem contains_middle (before part after : List Char) : contains (before ++ part ++ after) part = true := by
  refine List.any_eq_true.mpr ⟨part ++ after, ?_, ?_⟩
  · exact (List.mem_tails _ _).mpr ⟨before, by rw [List.append_assoc]⟩
  · exact List.isPrefixOf_iff_prefix.mpr ⟨after, rfl⟩

/-- An overlay passes for TTP's wherever the target reads as one word. -/
theorem overlay_passes {ns : Namespace} {target : String} {id parent device dir rest : List Char}
    (readable : ns.readable = true)
    (words : ∀ word ∈ [id, parent, device, target.toList], word ≠ [] ∧ ∀ c ∈ word, isSpace c = false)
    (solid : ∀ c ∈ dir, isSpace c = false) (line : ∀ c ∈ rest, c ≠ '\n' ∧ c ≠ '\r') :
    passes ns target ⟨target, true, String.ofList (overlayText id parent device dir target.toList rest)⟩ = true := by
  have wordOf {word : List Char} (member : word ∈ [id, parent, device, target.toList]) := words word member
  have whole : readLines (String.ofList (overlayText id parent device dir target.toList rest)) =
      [String.ofList (overlayText id parent device dir target.toList rest)] := by
    have inside {word : List Char} (solid : ∀ c ∈ word, isSpace c = false) (c : Char) (member : c ∈ word) :
        c ≠ '\n' ∧ c ≠ '\r' := by
      constructor <;> rintro rfl <;> exact absurd (solid _ member) (by decide)
    have outside : ∀ c ∈ overlayText id parent device dir target.toList rest, c ≠ '\n' ∧ c ≠ '\r' := by
      have fixed : ∀ c ∈ "/ttp/resolv.conf".toList, c ≠ '\n' ∧ c ≠ '\r' := by simp
      simp only [overlayText, List.forall_mem_append, List.forall_mem_cons]
      exact ⟨inside (wordOf (by simp)).2, by decide, inside (wordOf (by simp)).2, by decide, inside (wordOf (by simp)).2, by decide,
        ⟨inside solid, fixed⟩, by decide, inside (wordOf (by simp)).2, by decide, line⟩
    rw [readLines, String.toList_ofList,
      List.splitOnP_eq_singleton fun c member => by simp [outside c member], List.map_singleton]
  rw [passes, readable, Bool.true_and, whole, Integrity.isTtpMount, List.any_cons, List.any_nil, Bool.or_false,
    String.toList_ofList, Bool.and_eq_true]
  constructor
  · rw [split, overlayText, splitFrom_word (wordOf (by simp)).1 (wordOf (by simp)).2,
      splitFrom_word (wordOf (by simp)).1 (wordOf (by simp)).2,
      splitFrom_word (wordOf (by simp)).1 (wordOf (by simp)).2, splitFrom_word (by simp) ?_,
      splitFrom_word (wordOf (by simp)).1 (wordOf (by simp)).2]
    · simp
    · have fixed : ∀ c ∈ "/ttp/resolv.conf".toList, isSpace c = false := by simp [isSpace]
      exact List.forall_mem_append.mpr ⟨solid, fixed⟩
  · have shape : overlayText id parent device dir target.toList rest =
        (id ++ ' ' :: (parent ++ ' ' :: (device ++ ' ' :: (dir ++ ['/'])))) ++ "ttp".toList ++
        ("/resolv.conf".toList ++ ' ' :: (target.toList ++ ' ' :: rest)) := by
      simp [overlayText]
    rw [shape]
    exact contains_middle _ _ _

/-- The stack on `resolv.conf` is kept exactly where the overlays are what is noticed of it, and the one that is
    applied is noticed. -/
theorem stack_kept (ns : Namespace) (target : String) (steps : Steps) (few : (layers ns target).length < 100) :
    Kept ns target steps ↔ Sound ns target ∧ Recognised ns target steps := by
  constructor
  · intro kept
    have sound := (clear_sound few).mp kept.cleared
    exact ⟨sound, (restored_recognised few sound steps).mp kept.restored⟩
  · rintro ⟨sound, recognised⟩
    exact
      { cleared := (clear_sound few).mpr sound
        restored := (restored_recognised few sound steps).mpr recognised
        clearKeeps := clearUpTo_keeps 100 sound
        applyKeeps := applyDns_keeps steps sound
        restoreKeeps := fun _ named => restoreDns_keeps sound named }

/-- Nothing but the set-up of systemd-resolved and a mount that works. -/
def mounting : Steps := ⟨.ok true, .ok (),
    .ok "61 25 0:24 /ttp/resolv.conf /etc/resolv.conf rw,nosuid,nodev shared:13 - tmpfs tmpfs rw"⟩

/-- A mount of the administrator, beneath an overlay that was left. -/
def stale : Namespace where
  mounts := [⟨"/etc/resolv.conf", true,
    "61 25 0:24 /ttp/resolv.conf /etc/resolv.conf rw,nosuid,nodev shared:13 - tmpfs tmpfs rw"⟩,
    ⟨"/etc/resolv.conf", false, "58 25 8:1 /srv/dns/resolv.conf /etc/resolv.conf rw shared:1 - ext4 /dev/sda1 rw"⟩]
  readable := true

theorem stack_kept_stale : Kept stale "/etc/resolv.conf" mounting :=
  (stack_kept stale "/etc/resolv.conf" mounting (by decide)).mpr (by
    constructor
    · show Apt _ _
      rw [show layers stale "/etc/resolv.conf" = stale.mounts by decide]
      exact apt_cons.mpr ⟨by decide, apt_cons.mpr ⟨by decide, fun above m below same => by simp at same⟩⟩
    · rintro resolved text _ _ bound
      obtain rfl := Except.ok.inj bound
      decide)

/-- A mount of the administrator that mentions `http`, and one over an overlay that was left: both are taken away. -/
theorem stack_lost :
    ¬ Kept ⟨[⟨"/etc/resolv.conf", false,
      "58 25 8:1 /srv/http/resolv.conf /etc/resolv.conf rw shared:1 - ext4 /dev/sda1 rw"⟩], true⟩
        "/etc/resolv.conf" mounting ∧
      ¬ Kept { stale with mounts := stale.mounts.reverse } "/etc/resolv.conf" mounting := by
  constructor <;> intro kept
  · exact absurd kept.cleared (by decide)
  · exact absurd kept.cleared (by decide)

end Ttp.MountStack
