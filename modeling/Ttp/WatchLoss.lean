import Ttp.Inotify
import Ttp.Program
import Ttp.Python

/-!
What the supervisor's loop does with the events of the files it watches (`watchdog/supervisor.py` and
`watchdog/fsm.py`): it decodes one read of the queue, registers the watches again where that read says
that one is gone, and then drains the rest of the queue without decoding it. The kernel adds to the queue
between any two of these steps.
-/
namespace Ttp.WatchLoss
open Ttp.Python Ttp.Program Ttp.Packed
open Ttp.Inotify (Event encode inotifyWatchLost)

/-! ### The loop -/

inductive Source where
  | netlink
  | inotify
deriving DecidableEq, Repr

/-- The steps of the loop, as far as they have to do with its event sources. -/
inductive Op where
  /-- The turn up to its `select`: whether the session goes on. -/
  | evaluate
  /-- `select`, which an interruption leaves with nothing. -/
  | select
  /-- The record says `watchdog.event_invalidated`. -/
  | publish
  | read (size : ℕ)
  | recv
  | loadLibc
  /-- `inotify_rm_watch`, whose failures are passed over. -/
  | rmWatch (wd : ℤ)
  /-- `inotify_add_watch` of the file behind `/etc/resolv.conf` or of the link: below zero where it fails. -/
  | addWatch (follow : Bool)
deriving DecidableEq, Repr

abbrev Op.Res : Op → Type
  | .evaluate => Except Exc Bool
  | .select => List Source
  | .publish => Except Exc Unit
  | .read _ => Except Exc (List UInt8)
  | .recv => Except Exc ℕ
  | .loadLibc => Except Exc Unit
  | .rmWatch _ => Unit
  | .addWatch _ => ℤ

abbrev Fsm (α : Type) : Type := Prog Op Op.Res Exc α

abbrev call (o : Op) : Fsm o.Res := Prog.op o

/-- Raise what the step came back with. -/
def checked {α : Type} (p : Fsm (Except Exc α)) : Fsm α := p >>= Prog.ofExcept

/-- The descriptors of the two watches. -/
structure Watches where
  real : ℤ
  link : ℤ

def Watches.missing (wd : Watches) : Bool := wd.real < 0 || wd.link < 0

def remove (wd : ℤ) : Fsm Unit := if 0 ≤ wd then call (.rmWatch wd) else pure ()

/-- `readd_watch`. -/
def readdWatch (wd : Watches) : Fsm Watches := do
  checked (call .loadLibc)
  remove wd.real
  remove wd.link
  let real ← call (.addWatch true)
  let link ← call (.addWatch false)
  pure ⟨real, link⟩

/-- A loop of `flush_event_buffers`, cut off after `n` reads: whether it came to its end. -/
def drain (more : Fsm Bool) : ℕ → Fsm Bool
  | 0 => pure false
  | n + 1 => do if ← more then drain more n else pure true

def moreNetlink : Fsm Bool := do
  match ← call .recv with
  | .ok length => pure (length ≠ 0)
  | .error _ => pure false

def moreInotify : Fsm Bool := do
  match ← call (.read 4096) with
  | .ok data => pure (data.length ≠ 0)
  | .error _ => pure false

def flushEventBuffers (n : ℕ) (fds : List Source) : Fsm Bool := do
  let ended ← (if .netlink ∈ fds then drain moreNetlink n else pure true : Fsm Bool)
  if ended && .inotify ∈ fds then drain moreInotify n else pure ended

/-- The bounded read of a turn: whether a watch is gone. -/
def readLost (order : ByteOrder) : Fsm Bool := do
  match ← call (.read 65536) with
  | .ok data =>
    match inotifyWatchLost order (.bytes data) with
    | .ok lost => pure lost
    | .error _ => .raise (.valueError "struct.error")
  | .error e => if e = .osError "BlockingIOError" then pure false else .raise e

/-- Register the watches again where the read says that one is gone. -/
def renew (order : ByteOrder) (wd : Watches) : Fsm Watches := do
  if ← readLost order then
    let wd ← readdWatch wd
    if wd.missing then .raise (.stateError "DNS event subscription was lost") else pure wd
  else pure wd

/-- One turn of the loop, none when it is over. -/
def turn (order : ByteOrder) (n : ℕ) (wd : Watches) : Fsm (Option Watches) := do
  if ← checked (call .evaluate) then
    let readable ← call .select
    if readable.isEmpty then pure (some wd)
    else
      checked (call .publish)
      let wd ← (if .inotify ∈ readable then renew order wd else pure wd : Fsm Watches)
      let ended ← flushEventBuffers n readable
      pure (if ended then some wd else none)
  else pure none

/-- At most `m` turns. -/
def turns (order : ByteOrder) (n : ℕ) : ℕ → Watches → Fsm Unit
  | 0, _ => pure ()
  | m + 1, wd => do
    match ← turn order n wd with
    | none => pure ()
    | some wd => turns order n m wd

/-- The watches are registered, and the loop goes on from there. -/
def supervise (order : ByteOrder) (n m : ℕ) : Fsm Unit := do
  let wd ← readdWatch ⟨-1, -1⟩
  if wd.missing then .raise (.stateError "Required event subscriptions could not be established")
  else turns order n m wd

/-! ### The kernel -/

/-- The kernel's side of the inotify descriptor, with what was done about it. -/
structure Kernel where
  /-- The events that were not read yet, with the time of each. -/
  queue : List (ℕ × Event) := []
  watches : List ℤ := []
  time : ℕ := 0
  /-- The times of the events that said that a watch is gone and were removed from the queue. -/
  removed : List ℕ := []
  /-- The times of the calls of `readd_watch`. -/
  readds : List ℕ := []

/-- The events at the head of the queue that a buffer holds. -/
def fitting : ℕ → List (ℕ × Event) → List (ℕ × Event)
  | _, [] => []
  | size, (t, event) :: rest =>
    if 16 + event.name.length ≤ size then (t, event) :: fitting (size - (16 + event.name.length)) rest else []

def lossTimes (events : List (ℕ × Event)) : List ℕ := (events.filter fun e => e.2.lost).map (·.1)

namespace Kernel

/-- `read`: whole events only, and an error where there is none or the first one does not fit. -/
def readQueue (order : ByteOrder) (w : Kernel) (size : ℕ) : Except Exc (List UInt8) × Kernel :=
  match w.queue, fitting size w.queue with
  | [], _ => (.error (.osError "BlockingIOError"), w)
  | _, [] => (.error (.osError "OSError"), w)
  | _, taken => (.ok (encode order (taken.map (·.2))),
      { w with queue := w.queue.drop taken.length, removed := lossTimes taken ++ w.removed })

inductive Fate where
  | done
  | fails (e : Exc)
  | goesOn (answer : Bool)
  | readable (sources : List Source)
  | received (length : ℕ)
  | watch (wd : ℤ)

def perform (order : ByteOrder) (w : Kernel) : (o : Op) → Fate → Option (o.Res × Kernel)
  | .evaluate, .goesOn answer => some (.ok answer, w)
  | .evaluate, .fails e => some (.error e, w)
  | .select, .readable sources => if .inotify ∈ sources ∧ w.queue.isEmpty then none else some (sources, w)
  | .publish, .done => some (.ok (), w)
  | .publish, .fails e => some (.error e, w)
  | .read size, .done => some (w.readQueue order size)
  | .read _, .fails e => some (.error e, w)
  | .recv, .received length => some (.ok length, w)
  | .recv, .fails e => some (.error e, w)
  | .loadLibc, .done => some (.ok (), { w with time := w.time + 1, readds := w.time :: w.readds })
  | .loadLibc, .fails e => some (.error e, w)
  | .rmWatch wd, _ => some ((), { w with watches := w.watches.filter (· ≠ wd) })
  | .addWatch _, .watch wd => some (wd, if wd < 0 then w else { w with watches := wd :: w.watches })
  | _, _ => none

/-- What happens to the files. -/
inductive Incident where
  | occurs (event : Event)
  /-- The kernel drops the watch of a file that is gone. -/
  | drops (wd : ℤ)

/-- Only a registered watch can be lost. -/
def happens (w : Kernel) : Incident → Option Kernel
  | .occurs event =>
    if event.lost ∧ event.wd.toInt ∉ w.watches then none
    else some { w with queue := w.queue ++ [(w.time, event)], time := w.time + 1 }
  | .drops wd => some { w with watches := w.watches.filter (· ≠ wd) }

end Kernel
open Kernel

/-- The supervisor, with any number of turns and of reads in a drain, and what happens to the files meanwhile. -/
def system (order : ByteOrder) : System Op Op.Res Exc Kernel (ℕ × ℕ) Fate Incident where
  program c := supervise order c.1 c.2
  perform _ _ w o fate := w.perform order o fate
  begins i _ _ := if i = 0 then some {} else none
  ends _ _ w := w
  environ e w := w.happens e
  diverts _ _ _ := none

/-- For every event that said that a watch is gone and that was removed, `readd_watch` was called after it occurred. -/
def Readded (w : Kernel) : Prop := ∀ t ∈ w.removed, ∃ readd ∈ w.readds, t < readd

/-- The drain takes no event that says that a watch is gone, other than ones from before `readd_watch`. -/
def Undrained : Condition Op Op.Res Kernel (ℕ × ℕ) := fun w _ _ o _ =>
  o = .read 4096 → ∀ e ∈ fitting 4096 w.queue, e.2.lost → ∃ readd ∈ w.readds, e.1 < readd

instance (w : Kernel) (i : ℕ) (c : ℕ × ℕ) (o : Op) (r : o.Res) : Decidable (Undrained w i c o r) :=
  inferInstanceAs (Decidable (o = .read 4096 → ∀ e ∈ fitting 4096 w.queue, e.2.lost → ∃ readd ∈ w.readds, e.1 < readd))

/-! ### The protocol of the loop -/

/-- What the loop has to do before its next `select`. -/
inductive Due where
  | nothing
  | readd
deriving DecidableEq

def next (order : ByteOrder) : Due → (o : Op) → o.Res → Option Due
  | .nothing, .select, _ => some .nothing
  | .readd, .select, _ => none
  | due, .read size, .ok data =>
    if size = 65536 then some (if inotifyWatchLost order (.bytes data) = .ok false then due else .readd)
    else if size = 4096 then some due
    else none
  | _, .loadLibc, .ok _ => some .nothing
  | due, _, _ => some due

section
variable {order : ByteOrder} {due : Due} {wd : Watches}

theorem checked_follows {α : Type} {p : Fsm (Except Exc α)} {Q : Except Exc α → Due → Prop}
    (first : p.Follows (next order) due fun x due' => Q (x.bind id) due') : (checked p).Follows (next order) due Q :=
  follows_bind first (fun x _ reached => (follows_ofExcept x).mpr reached) fun _ _ reached => reached

theorem remove_follows {wd : ℤ} : (remove wd).Follows (next order) due fun _ due' => due' = due := by
  unfold remove
  split
  · exact fun _ => ⟨due, by cases due <;> rfl, rfl⟩
  · rfl

/-- Nothing is due after a `readd_watch`. -/
theorem readdWatch_follows : (readdWatch wd).Follows (next order) due fun x due' =>
    ∀ wd', x = .ok wd' → due' = .nothing := by
  apply follows_bind (Q := fun x due' => ∀ loaded, x = .ok loaded → due' = .nothing)
  · apply checked_follows
    rintro (e | _)
    · refine ⟨due, by cases due <;> rfl, ?_⟩
      rintro _ ⟨⟩
    · exact ⟨.nothing, by cases due <;> rfl, fun _ _ => rfl⟩
  · intro loaded due' called
    obtain rfl := called loaded rfl
    apply follows_bind remove_follows
    · rintro _ _ rfl
      apply follows_bind remove_follows
      · rintro _ _ rfl real
        exact ⟨.nothing, rfl, fun link => ⟨.nothing, rfl, fun _ _ => rfl⟩⟩
      · rintro e _ _ _ ⟨⟩
    · rintro e _ _ _ ⟨⟩
  · rintro e _ _ _ ⟨⟩

/-- Once the bounded read said that a watch is gone, `readd_watch` is due. -/
theorem readLost_follows : (readLost order).Follows (next order) .nothing fun x due' =>
    x = .ok false → due' = .nothing := by
  rintro (e | data)
  · refine ⟨.nothing, rfl, ?_⟩
    show Prog.Follows _ (if e = .osError "BlockingIOError" then pure false else .raise e) _ _
    split <;> exact fun _ => rfl
  · refine ⟨_, rfl, ?_⟩
    dsimp only [Prog.bind]
    split
    case h_1 lost decoded =>
      rintro ⟨⟩
      simp [decoded]
    case h_2 => rintro ⟨⟩

theorem renew_follows : (renew order wd).Follows (next order) .nothing fun x due' =>
    ∀ wd', x = .ok wd' → due' = .nothing := by
  apply follows_bind readLost_follows
  · intro lost due' kept
    cases lost with
    | true =>
      apply follows_bind readdWatch_follows
      · intro wd' due' readded
        split
        · rintro _ ⟨⟩
        · exact fun _ _ => readded wd' rfl
      · rintro e _ _ _ ⟨⟩
    | false => exact fun _ _ => kept rfl
  · rintro e _ _ _ ⟨⟩

/-- What a drain does changes nothing of what is due. -/
theorem drain_follows {more : Fsm Bool} (keeps : more.Follows (next order) due fun _ due' => due' = due) (n : ℕ) :
    (drain more n).Follows (next order) due fun _ due' => due' = due := by
  induction n with
  | zero => rfl
  | succ n ih =>
    apply follows_bind keeps
    · rintro again _ rfl
      cases again with
      | true => exact ih
      | false => rfl
    · exact fun _ _ same => same

theorem flushEventBuffers_follows {n : ℕ} {fds : List Source} :
    (flushEventBuffers n fds).Follows (next order) due fun _ due' => due' = due := by
  have netlink : moreNetlink.Follows (next order) due fun _ due' => due' = due := by
    rintro (e | length) <;> exact ⟨due, by cases due <;> rfl, rfl⟩
  have inotify : moreInotify.Follows (next order) due fun _ due' => due' = due := by
    rintro (e | data) <;> exact ⟨due, by cases due <;> rfl, rfl⟩
  apply follows_bind (Q := fun _ due' => due' = due)
  · split
    · exact drain_follows netlink n
    · rfl
  · rintro ended _ rfl
    split
    · exact drain_follows inotify n
    · rfl
  · exact fun _ _ same => same

/-- What one turn preserves. -/
theorem turn_follows {n : ℕ} : (turn order n wd).Follows (next order) .nothing fun x due' =>
    ∀ wd', x = .ok (some wd') → due' = .nothing := by
  apply follows_bind (Q := fun _ due' => due' = .nothing)
  · exact checked_follows fun _ => ⟨.nothing, rfl, rfl⟩
  · rintro goes _ rfl
    split
    · apply follows_bind (Q := fun _ due' => due' = .nothing)
      · exact fun _ => ⟨.nothing, rfl, rfl⟩
      · rintro readable _ rfl
        split
        · exact fun _ _ => rfl
        apply follows_bind (Q := fun _ due' => due' = .nothing)
        · exact checked_follows fun _ => ⟨.nothing, rfl, rfl⟩
        · rintro _ _ rfl
          apply follows_bind (Q := fun x due' => ∀ wd', x = .ok wd' → due' = .nothing)
          · split
            · exact renew_follows
            · exact fun _ _ => rfl
          · intro wd' due' renewed
            obtain rfl := renewed wd' rfl
            apply follows_bind flushEventBuffers_follows
            · rintro ended _ rfl _ _
              rfl
            · rintro e _ _ _ ⟨⟩
          · rintro e _ _ _ ⟨⟩
        · rintro e _ _ _ ⟨⟩
      · rintro e _ _ _ ⟨⟩
    · rintro _ ⟨⟩
  · rintro e _ _ _ ⟨⟩

/-- What any number of turns keeps to. -/
theorem turns_follows {n m : ℕ} : (turns order n m wd).Follows (next order) .nothing fun _ _ => True := by
  induction m generalizing wd with
  | zero => trivial
  | succ m ih =>
    apply follows_bind turn_follows
    · intro found due' reached
      cases found with
      | none => trivial
      | some wd' =>
        obtain rfl := reached wd' rfl
        exact ih
    · exact fun _ _ _ => trivial

theorem supervise_follows {n m : ℕ} : (supervise order n m).Follows (next order) .nothing fun _ _ => True := by
  apply follows_bind readdWatch_follows
  · intro wd due' readded
    obtain rfl := readded wd rfl
    split
    · trivial
    · exact turns_follows
  · exact fun _ _ _ => trivial

end

/-! ### The invariant -/

theorem fitting_subset (size : ℕ) (queue : List (ℕ × Event)) : fitting size queue ⊆ queue := by
  induction queue generalizing size with
  | nil => exact fun _ => id
  | cons e rest ih =>
    intro x inside
    unfold fitting at inside
    split at inside
    · rcases List.mem_cons.mp inside with rfl | later
      · exact List.mem_cons_self
      · exact List.mem_cons_of_mem _ (ih _ later)
    · simp at inside

theorem mem_lossTimes {events : List (ℕ × Event)} {t : ℕ} :
    t ∈ lossTimes events ↔ ∃ event, (t, event) ∈ events ∧ event.lost := by
  simp [lossTimes]

/-- What was queued or removed happened before. -/
structure Past (w : Kernel) : Prop where
  queue : ∀ e ∈ w.queue, e.1 < w.time
  removed : ∀ t ∈ w.removed, t < w.time

section
variable {order : ByteOrder} {w w' : Kernel} {due due' : Due} {o : Op} {r : o.Res} {fate : Fate}

/-- A read fails, or takes the events that fit. -/
theorem readQueue_cases (order : ByteOrder) (w : Kernel) (size : ℕ) : (∃ e, w.readQueue order size = (.error e, w)) ∨
    w.readQueue order size = (.ok (encode order ((fitting size w.queue).map (·.2))),
      { w with queue := w.queue.drop (fitting size w.queue).length, removed := lossTimes (fitting size w.queue) ++ w.removed }) := by
  unfold Kernel.readQueue
  split
  · exact .inl ⟨_, rfl⟩
  · exact .inl ⟨_, rfl⟩
  · exact .inr rfl

theorem past_read {size : ℕ} (past : Past w) : Past { w with
    queue := w.queue.drop (fitting size w.queue).length, removed :=
      lossTimes (fitting size w.queue) ++ w.removed } where
  queue e inside := past.queue e (List.mem_of_mem_drop inside)
  removed t inside := by
    rcases List.mem_append.mp inside with now | before
    · obtain ⟨event, taken, _⟩ := mem_lossTimes.mp now
      exact past.queue _ (fitting_subset _ _ taken)
    · exact past.removed t before

theorem past_happens {e : Incident} (past : Past w) (happened : w.happens e = some w') :
    Past w' ∧ (Readded w → Readded w') := by
  cases e with
  | occurs event =>
    simp only [Kernel.happens] at happened
    split at happened
    · simp at happened
    · obtain rfl := Option.some.inj happened
      refine ⟨⟨?_, fun t inside => Nat.lt_succ_of_lt (past.removed t inside)⟩, id⟩
      intro e inside
      rcases List.mem_append.mp inside with before | new
      · exact Nat.lt_succ_of_lt (past.queue e before)
      · obtain rfl := List.mem_singleton.mp new
        exact Nat.lt_succ_self _
  | drops wd =>
    obtain rfl := Option.some.inj happened
    exact ⟨⟨past.queue, past.removed⟩, id⟩

theorem next_read {size : ℕ} {data : List UInt8} : next order due (.read size) (.ok data) =
    if size = 65536 then some (if inotifyWatchLost order (.bytes data) = .ok false then due else .readd)
    else if size = 4096 then some due
    else none := by
  cases due <;> rfl

/-- The bounded read is answered by `readd_watch`, and a drain takes no loss that is not. -/
theorem read_keeps {size : ℕ} {i : ℕ} {c : ℕ × ℕ} {r : Except Exc (List UInt8)} (past : Past w)
    (readded : due = .nothing → Readded w)
    (read : w.readQueue order size = (r, w')) (undrained : Undrained w i c (.read size) r)
    (allowed : next order due (.read size) r = some due') :
    Past w' ∧ (due' = .nothing → Readded w') := by
  rcases readQueue_cases order w size with ⟨e, failed⟩ | taken
  · obtain ⟨rfl, rfl⟩ := Prod.mk.inj (failed.symm.trans read)
    obtain rfl : due = due' := by cases due <;> simpa [next] using allowed
    exact ⟨past, readded⟩
  · obtain ⟨rfl, rfl⟩ := Prod.mk.inj (taken.symm.trans read)
    refine ⟨past_read past, fun nothing => ?_⟩
    subst nothing
    have decoded : inotifyWatchLost order (.bytes (encode order ((fitting size w.queue).map (·.2)))) =
        .ok (((fitting size w.queue).map (·.2)).any fun event => decide event.lost) := Inotify.readBuffer_encode _ _
    have before : due = .nothing ∧ ∀ e ∈ fitting size w.queue, e.2.lost → ∃ readd ∈ w.readds, e.1 < readd := by
      rw [next_read] at allowed
      split at allowed
      · split at allowed
        case isTrue none =>
          refine ⟨Option.some.inj allowed, fun e inside lost => ?_⟩
          have said : (((fitting size w.queue).map (·.2)).any fun event => decide event.lost) = true :=
            List.any_eq_true.mpr ⟨e.2, List.mem_map_of_mem inside, by simpa using lost⟩
          rw [decoded, said] at none
          simp at none
        case isFalse => simp at allowed
      · split at allowed
        case isTrue drains =>
          subst drains
          exact ⟨Option.some.inj allowed, undrained rfl⟩
        case isFalse => simp at allowed
    intro t inside
    rcases List.mem_append.mp inside with now | earlier
    · obtain ⟨event, taken, lost⟩ := mem_lossTimes.mp now
      exact before.2 _ taken lost
    · exact readded before.1 t earlier

/-- What a step of the loop preserves. -/
theorem perform_keeps {i : ℕ} {c : ℕ × ℕ} (past : Past w) (readded : due = .nothing → Readded w)
    (performs : w.perform order o fate = some (r, w'))
    (undrained : Undrained w i c o r) (allowed : next order due o r = some due') :
    Past w' ∧ (due' = .nothing → Readded w') := by
  have same (unchanged : w' = w) (kept : due' = due) : Past w' ∧ (due' = .nothing → Readded w') := by
    subst unchanged kept
    exact ⟨past, readded⟩
  cases o with
  | read size =>
    cases fate with
    | done => exact read_keeps past readded (Option.some.inj performs) undrained allowed
    | fails e =>
      obtain ⟨rfl, rfl⟩ := Prod.mk.inj (Option.some.inj performs)
      exact same rfl (by cases due <;> simpa [next, eq_comm] using allowed)
    | _ => simp [Kernel.perform] at performs
  | loadLibc =>
    cases fate with
    | done =>
      obtain ⟨rfl, rfl⟩ := Prod.mk.inj (Option.some.inj performs)
      refine ⟨⟨fun e inside => Nat.lt_succ_of_lt (past.queue e inside), fun t inside =>
        Nat.lt_succ_of_lt (past.removed t inside)⟩, ?_⟩
      exact fun _ t inside => ⟨w.time, List.mem_cons_self, past.removed t inside⟩
    | fails e =>
      obtain ⟨rfl, rfl⟩ := Prod.mk.inj (Option.some.inj performs)
      exact same rfl (by cases due <;> simpa [next, eq_comm] using allowed)
    | _ => simp [Kernel.perform] at performs
  | rmWatch wd =>
    obtain ⟨_, rfl⟩ := Prod.mk.inj (Option.some.inj performs)
    obtain rfl : due = due' := by cases due <;> simpa [next] using allowed
    exact ⟨⟨past.queue, past.removed⟩, readded⟩
  | addWatch follow =>
    cases fate with
    | watch wd =>
      obtain ⟨_, rfl⟩ := Prod.mk.inj (Option.some.inj performs)
      obtain rfl : due = due' := by cases due <;> simpa [next] using allowed
      split
      · exact ⟨past, readded⟩
      · exact ⟨⟨past.queue, past.removed⟩, readded⟩
    | _ => simp [Kernel.perform] at performs
  | select =>
    cases fate with
    | readable sources =>
      simp only [Kernel.perform] at performs
      split at performs
      · simp at performs
      · obtain ⟨_, rfl⟩ := Prod.mk.inj (Option.some.inj performs)
        cases due with
        | nothing => exact same rfl (by simpa [next, eq_comm] using allowed)
        | readd => simp [next] at allowed
    | _ => simp [Kernel.perform] at performs
  | _ =>
    cases fate <;> simp only [Kernel.perform, reduceCtorEq, Option.some.injEq, Prod.mk.injEq] at performs
    all_goals exact same performs.2.symm (by cases due <;> simpa [next, eq_comm] using allowed)

end

/-- The invariant of the runs in which no drain takes a loss that was not answered. -/
def regime (order : ByteOrder) : Regime (system order) Undrained {} Due where
  next _ := next order
  entry _ := .nothing
  Shared := Past
  Local w i _ due := i = 0 ∧ (due = .nothing → Readded w)
  follows _ := supervise_follows
  first := ⟨by simp, by simp⟩
  begin := by
    intro w i c w' past begins
    obtain ⟨rfl, rfl⟩ : i = 0 ∧ {} = w' := by simpa [system] using begins
    refine ⟨⟨by simp, by simp⟩, ⟨rfl, fun _ t inside => by simp at inside⟩, ?_⟩
    rintro _ _ _ other ⟨rfl, _⟩
    exact absurd rfl other
  op := by
    rintro w i c due o fate r w' due' past ⟨rfl, readded⟩ performs undrained allowed
    obtain ⟨past', readded'⟩ := perform_keeps past readded performs undrained allowed
    refine ⟨past', ⟨rfl, readded'⟩, ?_⟩
    rintro _ _ _ other ⟨rfl, _⟩
    exact absurd rfl other
  leave := fun past _ => ⟨past, fun _ _ _ _ => id⟩
  divert := fun _ _ diverts => by simp [system] at diverts
  env := by
    intro w e w' past happened
    obtain ⟨past', readded'⟩ := past_happens past happened
    exact ⟨past', fun _ _ _ known => ⟨known.1, fun nothing => readded' (known.2 nothing)⟩⟩

/-- In every run in which no drain takes the event of a loss that came after the last `readd_watch`, the watches were
    registered again after each loss that the loop was told of, whenever it comes to its `select`. -/
theorem losses_readded {order : ByteOrder} {cfg : Config Op Op.Res Exc Kernel (ℕ × ℕ)} {i : ℕ} {c : ℕ × ℕ}
    {readable : List Source} {w : Kernel}
    (reached : (system order).Reached Undrained {} cfg)
    (performs : (system order).Performs cfg i c .select readable w) :
    Readded cfg.world := by
  obtain ⟨due, due', past, ⟨_, readded⟩, allowed⟩ := (regime order).allowed reached performs
  cases due with
  | nothing => exact readded rfl
  | readd => simp [regime, next] at allowed

/-! ### A loss that is decoded and one that is drained -/

/-- The loop is at its `select`. -/
def waiting (cfg : Config Op Op.Res Exc Kernel (ℕ × ℕ)) : Bool :=
  match cfg.procs 0 with
  | some (_, .call .select _) => true
  | _ => false

theorem waiting_performs {order : ByteOrder} {cfg : Config Op Op.Res Exc Kernel (ℕ × ℕ)} (waits : waiting cfg = true) :
    ∃ c, (system order).Performs cfg 0 c .select [] cfg.world := by
  unfold waiting at waits
  split at waits
  case h_1 c k running => exact ⟨c, k, .readable [], running, by simp [system, Kernel.perform]⟩
  case h_2 => simp at waits

/-- `IN_ATTRIB`: the metadata of the file changed, as its link count does before it is deleted. -/
def modified : Event := ⟨1, 4, 0, [], by decide⟩

/-- The file was deleted. -/
def deleted : Event := ⟨1, Inotify.IN_DELETE_SELF, 0, [], by decide⟩

/-- The supervisor up to the bounded read of its first turn, with an event that came before. -/
def upTo (event : Event) : List (Act (ℕ × ℕ) Fate Incident) :=
  [.begin 0 (2, 2), .op 0 .done, .op 0 (.watch 1), .op 0 (.watch 2), .op 0 (.goesOn true), .env (.occurs event),
    .op 0 (.readable [.inotify]), .op 0 .done, .op 0 .done]

/-- The file is deleted before the bounded read, which is answered by `readd_watch`. -/
def decoded : List (Act (ℕ × ℕ) Fate Incident) :=
  upTo deleted ++ [.op 0 .done, .op 0 .done, .op 0 .done, .op 0 (.watch 3), .op 0 (.watch 4), .op 0 .done,
    .op 0 (.goesOn true)]

theorem losses_readded_decoded : ∃ cfg :
    Config Op Op.Res Exc Kernel (ℕ × ℕ), cfg.world.removed = [1] ∧ waiting cfg = true ∧ Readded cfg.world := by
  have ran : (((system .little).run Undrained (.start {}) decoded).map fun cfg => (cfg.world.removed, waiting cfg)) =
      some ([1], true) := by
    decide +kernel
  obtain ⟨cfg, reached, ended⟩ := Option.map_eq_some_iff.mp ran
  obtain ⟨removed, waits⟩ := Prod.mk.inj ended
  obtain ⟨c, performs⟩ := waiting_performs waits
  exact ⟨cfg, removed, waits, losses_readded (reached_run .start reached) performs⟩

/-- The file is deleted after the bounded read, and the drain takes the event. -/
def drained : List (Act (ℕ × ℕ) Fate Incident) :=
  upTo modified ++ [.env (.occurs deleted), .op 0 .done, .op 0 .done, .op 0 (.goesOn true)]

/-- A loss that the drain takes is answered by nothing. -/
theorem loss_drained : ¬ ∀ (order : ByteOrder) (cfg : Config Op Op.Res Exc Kernel (ℕ × ℕ)) (i : ℕ) (c : ℕ × ℕ)
    (readable : List Source)
    (w : Kernel), (system order).Reached anyStep {} cfg → (system order).Performs cfg i c .select readable w →
    Readded cfg.world := by
  intro all
  have ran : (((system .little).run anyStep (.start {}) drained).map fun cfg =>
    (cfg.world.removed, cfg.world.readds, waiting cfg)) =
      some ([2], [0], true) := by decide +kernel
  obtain ⟨cfg, reached, ended⟩ := Option.map_eq_some_iff.mp ran
  obtain ⟨removed, rest⟩ := Prod.mk.inj ended
  obtain ⟨readds, waits⟩ := Prod.mk.inj rest
  obtain ⟨c, performs⟩ := waiting_performs waits
  have readded := all .little cfg 0 c [] cfg.world (reached_run .start reached) performs
  simp [Readded, removed, readds] at readded

end Ttp.WatchLoss
