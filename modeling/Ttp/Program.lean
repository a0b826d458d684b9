import Mathlib.Logic.Function.Basic

/-!
Programs over atomic operations, with exceptions, and systems of such programs
that share one world. A program is a tree: it ends, raises, or calls an
operation and goes on with its result. Two judgements are computed along the
tree: `Ensures`, what holds at the end of a program that runs alone, and
`Follows`, that every operation is one a protocol allows at the local state the
earlier results led to.

A system runs any number of programs interleaved, one operation at a time, with
steps of its environment in between, programs cut off at any point, and programs
diverted to another one. `Discipline` is the rule for its invariants: an
invariant over the world and the local states, preserved by each single step,
holds of every reached configuration.
-/
namespace Ttp.Program

/-! ### Programs -/

inductive Prog (Op : Type) (Res : Op → Type) (ε α : Type) where
  | ret (a : α)
  | raise (e : ε)
  | call (o : Op) (k : Res o → Prog Op Res ε α)

section
variable {Op : Type} {Res : Op → Type} {ε α β : Type}

namespace Prog

def bind : Prog Op Res ε α → (α → Prog Op Res ε β) → Prog Op Res ε β
  | .ret a, f => f a
  | .raise e, _ => .raise e
  | .call o k, f => .call o (fun r => (k r).bind f)

instance : Monad (Prog Op Res ε) where
  pure := .ret
  bind := .bind

/-- One operation, with its result. -/
def op (o : Op) : Prog Op Res ε (Res o) := .call o .ret

/-- `try: p except ...`: the handler has a program for the exceptions it catches. -/
def handle : Prog Op Res ε α → (ε → Option (Prog Op Res ε α)) → Prog Op Res ε α
  | .ret a, _ => .ret a
  | .raise e, h => (h e).getD (.raise e)
  | .call o k, h => .call o (fun r => (k r).handle h)

/-- `try: p finally: f`. -/
def always : Prog Op Res ε α → Prog Op Res ε Unit → Prog Op Res ε α
  | .ret a, f => f.bind fun _ => .ret a
  | .raise e, f => f.bind fun _ => .raise e
  | .call o k, f => .call o (fun r => (k r).always f)

/-- Raise what an operation or a computation failed with. -/
def ofExcept : Except ε α → Prog Op Res ε α
  | .ok a => .ret a
  | .error e => .raise e

end Prog

/-- Every operation of the program is one of `ops`. -/
def Prog.Uses (ops : Op → Prop) : Prog Op Res ε α → Prop
  | .ret _ => True
  | .raise _ => True
  | .call o k => ops o ∧ ∀ r, (k r).Uses ops

section
variable {ops : Op → Prop}

@[simp] theorem uses_pure (a : α) : (pure a : Prog Op Res ε α).Uses ops := trivial

@[simp] theorem uses_ret (a : α) : (.ret a : Prog Op Res ε α).Uses ops := trivial

@[simp] theorem uses_raise (e : ε) : (.raise e : Prog Op Res ε α).Uses ops := trivial

@[simp] theorem uses_op (o : Op) : (Prog.op o : Prog Op Res ε (Res o)).Uses ops ↔ ops o :=
  ⟨fun used => used.1, fun used => ⟨used, fun _ => trivial⟩⟩

@[simp] theorem uses_ofExcept (x : Except ε α) : (Prog.ofExcept x : Prog Op Res ε α).Uses ops := by
  cases x <;> trivial

theorem uses_bind {p : Prog Op Res ε α} {f : α → Prog Op Res ε β} (first : p.Uses ops)
    (rest : ∀ a, (f a).Uses ops) : (p >>= f).Uses ops := by
  show (p.bind f).Uses ops
  induction p with
  | ret a => exact rest a
  | raise e => trivial
  | call o k ih => exact ⟨first.1, fun r => ih r (first.2 r)⟩

theorem uses_handle {p : Prog Op Res ε α} {h : ε → Option (Prog Op Res ε α)} (body : p.Uses ops)
    (handler : ∀ e, ((h e).getD (.raise e)).Uses ops) : (p.handle h).Uses ops := by
  induction p with
  | ret a => trivial
  | raise e => exact handler e
  | call o k ih => exact ⟨body.1, fun r => ih r (body.2 r)⟩

/-- A handler for the exceptions of one kind. -/
theorem uses_catch {p : Prog Op Res ε α} {c : ε → Prop} [DecidablePred c] {q : ε → Prog Op Res ε α} (body : p.Uses ops)
    (handler : ∀ e, (q e).Uses ops) : (p.handle fun e => if c e then some (q e) else none).Uses ops := by
  refine uses_handle body fun e => ?_
  by_cases caught : c e
  · simpa [caught] using handler e
  · simp [caught]

theorem uses_always {p : Prog Op Res ε α} {f : Prog Op Res ε Unit} (body : p.Uses ops) (final : f.Uses ops) :
    (p.always f).Uses ops := by
  induction p with
  | ret a => exact uses_bind final fun _ => trivial
  | raise e => exact uses_bind final fun _ => trivial
  | call o k ih => exact ⟨body.1, fun r => ih r (body.2 r)⟩

theorem uses_any (p : Prog Op Res ε α) : p.Uses fun _ => True := by
  induction p with
  | ret a => trivial
  | raise e => trivial
  | call o k ih => exact ⟨trivial, ih⟩

theorem uses_mono {p : Prog Op Res ε α} {ops' : Op → Prop} (body : p.Uses ops) (more : ∀ o, ops o → ops' o) :
    p.Uses ops' := by
  induction p with
  | ret a => trivial
  | raise e => trivial
  | call o k ih => exact ⟨more o body.1, fun r => ih r (body.2 r)⟩

end

/-! ### Running alone -/

variable {World Fate : Type}

/-- Run from `w`, the program ends in `Q`, however its operations turn out. -/
def Prog.Ensures (perform : World → (o : Op) → Fate → Option (Res o × World)) :
    Prog Op Res ε α → World → (Except ε α → World → Prop) → Prop
  | .ret a, w, Q => Q (.ok a) w
  | .raise e, w, Q => Q (.error e) w
  | .call o k, w, Q => ∀ fate r w', perform w o fate = some (r, w') → (k r).Ensures perform w' Q

section
variable {perform : World → (o : Op) → Fate → Option (Res o × World)} {w : World}
variable {Q : Except ε α → World → Prop} {R : Except ε β → World → Prop}

@[simp] theorem ensures_pure (a : α) : (pure a : Prog Op Res ε α).Ensures perform w Q ↔ Q (.ok a) w := Iff.rfl

@[simp] theorem ensures_ret (a : α) : (.ret a : Prog Op Res ε α).Ensures perform w Q ↔ Q (.ok a) w := Iff.rfl

@[simp] theorem ensures_raise (e : ε) : (.raise e : Prog Op Res ε α).Ensures perform w Q ↔ Q (.error e) w := Iff.rfl

@[simp] theorem ensures_op {o : Op} {Q : Except ε (Res o) → World → Prop} :
    (Prog.op o).Ensures perform w Q ↔ ∀ fate r w', perform w o fate = some (r, w') → Q (.ok r) w' := Iff.rfl

@[simp] theorem ensures_ofExcept (x : Except ε α) :
    (Prog.ofExcept x : Prog Op Res ε α).Ensures perform w Q ↔ Q x w := by
  cases x <;> rfl

theorem ensures_mono {p : Prog Op Res ε α} {Q' : Except ε α → World → Prop} (first : p.Ensures perform w Q)
    (weaker : ∀ x w', Q x w' → Q' x w') : p.Ensures perform w Q' := by
  induction p generalizing w with
  | ret a => exact weaker _ _ first
  | raise e => exact weaker _ _ first
  | call o k ih => exact fun fate r w' performed => ih r (first fate r w' performed)

/-- What the rest of a sequence has to ensure after its first part. -/
def afterwards (perform : World → (o : Op) → Fate → Option (Res o × World)) (f : α → Prog Op Res ε β)
    (R : Except ε β → World → Prop) : Except ε α → World → Prop
  | .ok a, w => (f a).Ensures perform w R
  | .error e, w => R (.error e) w

@[simp] theorem ensures_bind (p : Prog Op Res ε α) (f : α → Prog Op Res ε β) :
    (p >>= f).Ensures perform w R ↔ p.Ensures perform w (afterwards perform f R) := by
  show (p.bind f).Ensures perform w R ↔ _
  induction p generalizing w with
  | ret a => rfl
  | raise e => rfl
  | call o k ih =>
    simp only [Prog.bind, Prog.Ensures]
    exact forall_congr' fun fate => forall_congr' fun r => forall_congr' fun w' => forall_congr' fun _ => ih r

/-- What has to hold where the body of a `try` ends. -/
def caught (perform : World → (o : Op) → Fate → Option (Res o × World)) (h : ε → Option (Prog Op Res ε α))
    (Q : Except ε α → World → Prop) : Except ε α → World → Prop
  | .ok a, w => Q (.ok a) w
  | .error e, w => ((h e).getD (.raise e)).Ensures perform w Q

@[simp] theorem ensures_handle (p : Prog Op Res ε α) (h : ε → Option (Prog Op Res ε α)) :
    (p.handle h).Ensures perform w Q ↔ p.Ensures perform w (caught perform h Q) := by
  induction p generalizing w with
  | ret a => rfl
  | raise e => rfl
  | call o k ih =>
    simp only [Prog.handle, Prog.Ensures]
    exact forall_congr' fun fate => forall_congr' fun r => forall_congr' fun w' => forall_congr' fun _ => ih r

/-- What has to hold where the body of a `try .. finally` ends: the final part leads to `Q` with
    the outcome of the body, unless it raises itself. -/
def afterBody (perform : World → (o : Op) → Fate → Option (Res o × World)) (f : Prog Op Res ε Unit)
    (Q : Except ε α → World → Prop) (x : Except ε α) (w : World) : Prop :=
  f.Ensures perform w fun y w' =>
    match y with
    | .ok _ => Q x w'
    | .error e => Q (.error e) w'

@[simp] theorem ensures_always (p : Prog Op Res ε α) (f : Prog Op Res ε Unit) :
    (p.always f).Ensures perform w Q ↔ p.Ensures perform w (afterBody perform f Q) := by
  induction p generalizing w with
  | ret a =>
    show (f >>= fun _ => .ret a).Ensures perform w Q ↔ f.Ensures perform w _
    rw [ensures_bind]
    constructor <;>
    · intro first
      refine ensures_mono first fun y w' reached => ?_
      cases y <;> exact reached
  | raise e =>
    show (f >>= fun _ => .raise e).Ensures perform w Q ↔ f.Ensures perform w _
    rw [ensures_bind]
    constructor <;>
    · intro first
      refine ensures_mono first fun y w' reached => ?_
      cases y <;> exact reached
  | call o k ih =>
    simp only [Prog.always, Prog.Ensures]
    exact forall_congr' fun fate => forall_congr' fun r => forall_congr' fun w' => forall_congr' fun _ => ih r

end

/-- A program whose operations each keep to a relation that is reflexive and transitive. -/
theorem ensures_related {perform : World → (o : Op) → Fate → Option (Res o × World)} {p : Prog Op Res ε α} {w : World}
    {ops : Op → Prop} {R : World → World → Prop} (used : p.Uses ops) (same : ∀ w, R w w)
    (step : ∀ w o fate r w', ops o → perform w o fate = some (r, w') → R w w')
    (chain : ∀ u v w, R u v → R v w → R u w) : p.Ensures perform w fun _ w' => R w w' := by
  induction p generalizing w with
  | ret a => exact same w
  | raise e => exact same w
  | call o k ih =>
    intro fate r w' performed
    exact ensures_mono (ih r (used.2 r)) fun x w'' related =>
      chain _ _ _ (step w o fate r w' used.1 performed) related

theorem ensures_both {perform : World → (o : Op) → Fate → Option (Res o × World)} {p : Prog Op Res ε α} {w : World}
    {Q R : Except ε α → World → Prop} (first : p.Ensures perform w Q) (second : p.Ensures perform w R) :
    p.Ensures perform w fun x w' => Q x w' ∧ R x w' := by
  induction p generalizing w with
  | ret a => exact ⟨first, second⟩
  | raise e => exact ⟨first, second⟩
  | call o k ih => exact fun fate r w' performed => ih r (first fate r w' performed) (second fate r w' performed)

/-- A program whose operations leave the world alone. -/
theorem ensures_of_uses {perform : World → (o : Op) → Fate → Option (Res o × World)} {p : Prog Op Res ε α} {w : World}
    {ops : Op → Prop} (used : p.Uses ops)
    (stays : ∀ w o fate r w', ops o → perform w o fate = some (r, w') → w' = w) :
    p.Ensures perform w fun _ w' => w' = w :=
  ensures_related (R := fun w w' => w' = w) used (fun _ => rfl) stays fun _ _ _ first second => second.trans first

/-- Run from where `Inv` holds, the program ends where it holds. -/
def Prog.Preserves (perform : World → (o : Op) → Fate → Option (Res o × World)) (Inv : World → Prop)
    (p : Prog Op Res ε α) : Prop :=
  ∀ w, Inv w → p.Ensures perform w fun _ w' => Inv w'

section
variable {perform : World → (o : Op) → Fate → Option (Res o × World)} {Inv : World → Prop}

/-- What each operation of a kind preserves is preserved by a program of such operations. -/
theorem preserves_of_uses {p : Prog Op Res ε α} {ops : Op → Prop} (used : p.Uses ops)
    (step : ∀ w o fate r w', ops o → perform w o fate = some (r, w') → Inv w → Inv w') : p.Preserves perform Inv :=
  fun _ inv => ensures_mono (ensures_related (R := fun w w' => Inv w → Inv w') used (fun _ => id) step
    fun _ _ _ first second inv => second (first inv)) fun _ _ preserved => preserved inv

theorem preserves_pure (a : α) : (pure a : Prog Op Res ε α).Preserves perform Inv := fun _ => id

theorem preserves_raise (e : ε) : (.raise e : Prog Op Res ε α).Preserves perform Inv := fun _ => id

theorem preserves_ofExcept (x : Except ε α) : (Prog.ofExcept x : Prog Op Res ε α).Preserves perform Inv :=
  fun _ inv => (ensures_ofExcept x).mpr inv

theorem preserves_bind {p : Prog Op Res ε α} {f : α → Prog Op Res ε β} (first : p.Preserves perform Inv)
    (rest : ∀ a, (f a).Preserves perform Inv) : (p >>= f).Preserves perform Inv := by
  intro w inv
  rw [ensures_bind]
  refine ensures_mono (first w inv) fun x w' inv' => ?_
  cases x with
  | ok a => exact rest a w' inv'
  | error e => exact inv'

/-- A handler for the exceptions of one kind. -/
theorem preserves_catch {p : Prog Op Res ε α} {c : ε → Prop} [DecidablePred c] {q : ε → Prog Op Res ε α}
    (body : p.Preserves perform Inv)
    (handler : ∀ e, (q e).Preserves perform Inv) :
    (p.handle fun e => if c e then some (q e) else none).Preserves perform Inv := by
  intro w inv
  rw [ensures_handle]
  refine ensures_mono (body w inv) fun x w' inv' => ?_
  cases x with
  | ok a => exact inv'
  | error e =>
    by_cases catches : c e
    · simpa [caught, catches] using handler e w' inv'
    · simpa [caught, catches] using inv'

theorem preserves_always {p : Prog Op Res ε α} {f : Prog Op Res ε Unit} (body : p.Preserves perform Inv)
    (final : f.Preserves perform Inv) : (p.always f).Preserves perform Inv := by
  intro w inv
  rw [ensures_always]
  refine ensures_mono (body w inv) fun x w' inv' => ensures_mono (final w' inv') fun y w'' inv'' => ?_
  cases y <;> exact inv''

/-- A first part that preserves `Inv`, and a rest that starts from wherever it holds. -/
theorem preserves_then {p : Prog Op Res ε α} {f : α → Prog Op Res ε β} {w : World} {Q : Except ε β → World → Prop}
    (first : p.Preserves perform Inv) (inv : Inv w) (rest : ∀ a w', Inv w' → (f a).Ensures perform w' Q)
    (fails : ∀ e w', Inv w' → Q (.error e) w') : (p >>= f).Ensures perform w Q := by
  rw [ensures_bind]
  refine ensures_mono (first w inv) fun x w' inv' => ?_
  cases x with
  | ok a => exact rest a w' inv'
  | error e => exact fails e w' inv'

end

/-! ### Assumptions on a run -/

/-- What a run meets at its end, it met at each step. -/
def Hereditary (perform : World → (o : Op) → Fate → Option (Res o × World)) (Good : World → Prop) : Prop :=
  ∀ w o fate r w', perform w o fate = some (r, w') → Good w' → Good w

/-- Run from `w`, the program ends in `Q` if the run meets `Good`. -/
def Prog.Assuming (perform : World → (o : Op) → Fate → Option (Res o × World)) (Good : World → Prop)
    (p : Prog Op Res ε α) (w : World)
    (Q : Except ε α → World → Prop) : Prop :=
  p.Ensures perform w fun x w' => Good w' → Q x w'

section
variable {perform : World → (o : Op) → Fate → Option (Res o × World)} {Good Inv : World → Prop} {w : World}

theorem ensures_hereditary (hereditary : Hereditary perform Good) (p : Prog Op Res ε α) :
    p.Ensures perform w fun _ w' => Good w' → Good w := by
  induction p generalizing w with
  | ret a => exact id
  | raise e => exact id
  | call o k ih =>
    intro fate r w' performed
    exact ensures_mono (ih r) fun x w'' back good => hereditary w o fate r w' performed (back good)

theorem assuming_mono {p : Prog Op Res ε α} {Q Q' : Except ε α → World → Prop} (first : p.Assuming perform Good w Q)
    (weaker : ∀ x w', Q x w' → Q' x w') : p.Assuming perform Good w Q' :=
  ensures_mono first fun x w' ended good => weaker x w' (ended good)

theorem assuming_both {p : Prog Op Res ε α} {Q R : Except ε α → World → Prop} (first : p.Assuming perform Good w Q)
    (second : p.Assuming perform Good w R) : p.Assuming perform Good w fun x w' => Q x w' ∧ R x w' :=
  ensures_mono (ensures_both first second) fun _ _ ended good => ⟨ended.1 good, ended.2 good⟩

theorem assuming_preserves {p : Prog Op Res ε α} (preserves : p.Preserves perform Inv) (inv : Inv w) :
    p.Assuming perform Good w fun _ w' => Inv w' :=
  ensures_mono (preserves w inv) fun _ _ kept _ => kept

/-- What comes after a first part may take from the assumption what the first part does. -/
theorem assuming_after (hereditary : Hereditary perform Good) {p : Prog Op Res ε α} {Q : Prop}
    {R : Except ε α → World → Prop}
    (known : Good w → Q) (rest : Q → p.Assuming perform Good w R) : p.Assuming perform Good w R := by
  by_cases good : Good w
  · exact rest (known good)
  · exact ensures_mono (ensures_hereditary hereditary p) fun _ _ back good' => absurd (back good') good

theorem assuming_bind (hereditary : Hereditary perform Good) {p : Prog Op Res ε α} {f : α → Prog Op Res ε β}
    {Q : Except ε α → World → Prop} {R : Except ε β → World → Prop} (first : p.Assuming perform Good w Q)
    (rest : ∀ a w', Q (.ok a) w' → (f a).Assuming perform Good w' R)
    (fails : ∀ e w', Q (.error e) w' → R (.error e) w') :
    (p >>= f).Assuming perform Good w R := by
  rw [Prog.Assuming, ensures_bind]
  refine ensures_mono first fun x w' ended => ?_
  cases x with
  | ok a => exact assuming_after hereditary ended (rest a w')
  | error e => exact fun good => fails e w' (ended good)

theorem assuming_handle (hereditary : Hereditary perform Good) {p : Prog Op Res ε α} {h : ε → Option (Prog Op Res ε α)}
    {Q R : Except ε α → World → Prop} (first : p.Assuming perform Good w Q)
    (works : ∀ a w', Q (.ok a) w' → R (.ok a) w')
    (handler : ∀ e w', Q (.error e) w' → ((h e).getD (.raise e)).Assuming perform Good w' R) :
    (p.handle h).Assuming perform Good w R := by
  rw [Prog.Assuming, ensures_handle]
  refine ensures_mono first fun x w' ended => ?_
  cases x with
  | ok a => exact fun good => works a w' (ended good)
  | error e => exact assuming_after hereditary ended (handler e w')

/-- A handler for the exceptions of one kind. -/
theorem assuming_catch (hereditary : Hereditary perform Good) {p : Prog Op Res ε α} {c : ε → Prop} [DecidablePred c]
    {q : ε → Prog Op Res ε α} {Q R : Except ε α → World → Prop} (first : p.Assuming perform Good w Q)
    (works : ∀ a w', Q (.ok a) w' → R (.ok a) w')
    (handler : ∀ e w', Q (.error e) w' → c e → (q e).Assuming perform Good w' R)
    (others : ∀ e w', Q (.error e) w' → ¬ c e → R (.error e) w') :
    (p.handle fun e => if c e then some (q e) else none).Assuming perform Good w R := by
  refine assuming_handle hereditary first works fun e w' ended => ?_
  by_cases caught : c e
  · simpa only [if_pos caught, Option.getD_some] using handler e w' ended caught
  · simp only [if_neg caught, Option.getD_none]
    exact fun _ => others e w' ended caught

end

/-! ### One after the other -/

/-- Run from `w`, the program can end with `x` in `w'`. -/
def Prog.Ends (perform : World → (o : Op) → Fate → Option (Res o × World)) :
    Prog Op Res ε α → World → Except ε α → World → Prop
  | .ret a, w, x, w' => x = .ok a ∧ w' = w
  | .raise e, w, x, w' => x = .error e ∧ w' = w
  | .call o k, w, x, w' => ∃ fate r u, perform w o fate = some (r, u) ∧ (k r).Ends perform u x w'

/-- How the program ends with these outcomes, if there are as many as operations. -/
def Prog.run (perform : World → (o : Op) → Fate → Option (Res o × World)) :
    Prog Op Res ε α → World → List Fate → Option (Except ε α × World)
  | .ret a, w, [] => some (.ok a, w)
  | .raise e, w, [] => some (.error e, w)
  | .call o k, w, fate :: rest =>
    match perform w o fate with
    | some (r, u) => (k r).run perform u rest
    | none => none
  | _, _, _ => none

theorem run_ends {perform : World → (o : Op) → Fate → Option (Res o × World)} {p : Prog Op Res ε α} {w w' : World}
    {fates : List Fate}
    {x : Except ε α} (ran : p.run perform w fates = some (x, w')) : p.Ends perform w x w' := by
  induction fates generalizing p w with
  | nil =>
    cases p with
    | ret a =>
      obtain ⟨rfl, rfl⟩ := Prod.mk.inj (Option.some.inj ran)
      exact ⟨rfl, rfl⟩
    | raise e =>
      obtain ⟨rfl, rfl⟩ := Prod.mk.inj (Option.some.inj ran)
      exact ⟨rfl, rfl⟩
    | call o k => simp [Prog.run] at ran
  | cons fate rest ih =>
    cases p with
    | ret a => simp [Prog.run] at ran
    | raise e => simp [Prog.run] at ran
    | call o k =>
      simp only [Prog.run] at ran
      split at ran
      case h_1 r u performed => exact ⟨fate, r, u, performed, ih ran⟩
      case h_2 => simp at ran

theorem ends_ensured {perform : World → (o : Op) → Fate → Option (Res o × World)} {p : Prog Op Res ε α} {w w' : World}
    {x : Except ε α} {Q : Except ε α → World → Prop} (ended : p.Ends perform w x w') (ensured : p.Ensures perform w Q) :
    Q x w' := by
  induction p generalizing w with
  | ret a =>
    obtain ⟨rfl, rfl⟩ := ended
    exact ensured
  | raise e =>
    obtain ⟨rfl, rfl⟩ := ended
    exact ensured
  | call o k ih =>
    obtain ⟨fate, r, u, performed, rest⟩ := ended
    exact ih r rest (ensured fate r u performed)

/-- Calls that run alone, one after the other, in a world that its environment changes in between. -/
structure Succession (Op : Type) (Res : Op → Type) (ε World Fate Call α : Type) where
  program : Call → Prog Op Res ε α
  perform : World → (o : Op) → Fate → Option (Res o × World)
  /-- The calls that are made, by the world they are made in. -/
  able : Call → World → Prop
  /-- The world a call starts in. -/
  begins : Call → World → World
  environ : World → World → Prop

inductive Succession.Reached {Call : Type} (S : Succession Op Res ε World Fate Call α) (start : World → Prop) :
    World → Prop where
  | start {w : World} (first : start w) : Succession.Reached S start w
  | call {w w' : World} {c : Call} {x : Except ε α} (before : Succession.Reached S start w) (able : S.able c w)
      (ended : (S.program c).Ends S.perform (S.begins c w) x w') : Succession.Reached S start w'
  | env {w w' : World} (before : Succession.Reached S start w) (changed : S.environ w w') :
      Succession.Reached S start w'

/-- What every call and every change of the environment preserve holds of every world reached. -/
theorem Succession.invariant {Call : Type} {S : Succession Op Res ε World Fate Call α}
    {start Inv : World → Prop} {w : World}
    (reached : S.Reached start w) (first : ∀ w, start w → Inv w)
    (calls : ∀ c w, S.able c w → Inv w → (S.program c).Ensures S.perform (S.begins c w) fun _ w' => Inv w')
    (env : ∀ w w', Inv w → S.environ w w' → Inv w') : Inv w := by
  induction reached with
  | start begun => exact first _ begun
  | call _ able ended ih => exact ends_ensured ended (calls _ _ able ih)
  | env _ changed ih => exact env _ _ ih changed

/-- Run from `w`, the program comes by `w'`. -/
inductive Prog.Visits (perform : World → (o : Op) → Fate → Option (Res o × World)) :
    Prog Op Res ε α → World → World → Prop where
  | here (p : Prog Op Res ε α) (w : World) : Prog.Visits perform p w w
  | op {o : Op} {k : Res o → Prog Op Res ε α} {w u w' : World} {fate : Fate} {r : Res o}
      (performed : perform w o fate = some (r, u)) (rest : Prog.Visits perform (k r) u w') :
      Prog.Visits perform (.call o k) w w'

/-- What holds wherever a program ends, and of a world if of one that an operation makes of it, holds
    wherever the program comes by. -/
theorem visits_ensured {perform : World → (o : Op) → Fate → Option (Res o × World)} {p : Prog Op Res ε α} {w u : World}
    {Inv : World → Prop} (visited : p.Visits perform w u) (ensured : p.Ensures perform w fun _ w' => Inv w')
    (total : ∀ w o, ∃ fate r w', perform w o fate = some (r, w'))
    (back : ∀ w o fate r w', perform w o fate = some (r, w') → Inv w' → Inv w) : Inv u := by
  have now (p : Prog Op Res ε α) (w : World) (ensured : p.Ensures perform w fun _ w' => Inv w') : Inv w := by
    induction p generalizing w with
    | ret a => exact ensured
    | raise e => exact ensured
    | call o k ih =>
      obtain ⟨fate, r, w', performed⟩ := total w o
      exact back w o fate r w' performed (ih r w' (ensured fate r w' performed))
  induction visited with
  | here p w => exact now p w ensured
  | op performed rest ih => exact ih (ensured _ _ _ performed)

/-- The worlds that a succession comes by: a call may be cut off after any of its operations. -/
inductive Succession.Visited {Call : Type} (S : Succession Op Res ε World Fate Call α) (start : World → Prop) :
    World → Prop where
  | start {w : World} (first : start w) : Succession.Visited S start w
  | call {w w' : World} {c : Call} (before : Succession.Visited S start w) (able : S.able c w)
      (visits : (S.program c).Visits S.perform (S.begins c w) w') : Succession.Visited S start w'
  | env {w w' : World} (before : Succession.Visited S start w) (changed : S.environ w w') :
      Succession.Visited S start w'

theorem visits_stable {perform : World → (o : Op) → Fate → Option (Res o × World)} {p : Prog Op Res ε α} {w u : World}
    {Always : World → Prop} (visited : p.Visits perform w u) (before : Always w)
    (step : ∀ w o fate r w', perform w o fate = some (r, w') → Always w → Always w') : Always u := by
  induction visited with
  | here => exact before
  | op performed _ ih => exact ih (step _ _ _ _ _ performed before)

/-- What each operation of a kind preserves holds wherever a program of such operations comes by. -/
theorem visits_uses {perform : World → (o : Op) → Fate → Option (Res o × World)} {p : Prog Op Res ε α} {w u : World}
    {ops : Op → Prop} {Always : World → Prop} (visited : p.Visits perform w u) (used : p.Uses ops) (before : Always w)
    (step : ∀ w o fate r w', ops o → perform w o fate = some (r, w') → Always w → Always w') : Always u := by
  induction visited with
  | here => exact before
  | op performed _ ih => exact ih (used.2 _) (step _ _ _ _ _ used.1 performed before)

/-- Of every world visited holds what each single step preserves, and what whole calls preserve and no
    operation can restore. -/
theorem Succession.visited_invariant {Call : Type} {S : Succession Op Res ε World Fate Call α}
    {start Always Inv : World → Prop}
    {w : World} (visited : S.Visited start w) (first : ∀ w, start w → Always w ∧ Inv w)
    (begins : ∀ c w, Always w → Always (S.begins c w))
    (step : ∀ w o fate r w', S.perform w o fate = some (r, w') → Always w → Always w')
    (calls : ∀ c w, S.able c w → Always w → Inv w → (S.program c).Ensures S.perform (S.begins c w) fun _ w' => Inv w')
    (env : ∀ w w', S.environ w w' → Always w ∧ Inv w → Always w' ∧ Inv w')
    (total : ∀ w o, ∃ fate r w', S.perform w o fate = some (r, w'))
    (back : ∀ w o fate r w', S.perform w o fate = some (r, w') → Inv w' → Inv w) : Always w ∧ Inv w := by
  induction visited with
  | start begun => exact first _ begun
  | call _ able visits ih =>
    exact ⟨visits_stable visits (begins _ _ ih.1) step, visits_ensured visits (calls _ _ able ih.1 ih.2) total back⟩
  | env _ changed ih => exact env _ _ changed ih

/-- Where the operations of a program lead that turn out this way. -/
def Prog.replay (perform : World → (o : Op) → Fate → Option (Res o × World)) :
    Prog Op Res ε α → World → List Fate → Option World
  | _, w, [] => some w
  | .call o k, w, fate :: rest =>
    match perform w o fate with
    | some (r, u) => (k r).replay perform u rest
    | none => none
  | _, _, _ => none

theorem replay_visits {perform : World → (o : Op) → Fate → Option (Res o × World)} {p : Prog Op Res ε α}
    {w w' : World} {fates : List Fate}
    (replayed : p.replay perform w fates = some w') : p.Visits perform w w' := by
  induction fates generalizing p w with
  | nil =>
    obtain rfl : w = w' := by cases p <;> simpa [Prog.replay] using replayed
    exact .here p w
  | cons fate rest ih =>
    cases p with
    | ret a => simp [Prog.replay] at replayed
    | raise e => simp [Prog.replay] at replayed
    | call o k =>
      simp only [Prog.replay] at replayed
      split at replayed
      case h_1 r u performed => exact .op performed (ih replayed)
      case h_2 => simp at replayed

/-! ### Protocols -/

variable {L : Type}

/-- From the local state `l` on, every operation of the program is one that `next` allows, and
    the program ends in `Q`. -/
def Prog.Follows (next : L → (o : Op) → Res o → Option L) :
    Prog Op Res ε α → L → (Except ε α → L → Prop) → Prop
  | .ret a, l, Q => Q (.ok a) l
  | .raise e, l, Q => Q (.error e) l
  | .call o k, l, Q => ∀ r, ∃ l', next l o r = some l' ∧ (k r).Follows next l' Q

section
variable {next : L → (o : Op) → Res o → Option L} {l : L}
variable {Q : Except ε α → L → Prop} {R : Except ε β → L → Prop}

@[simp] theorem follows_pure (a : α) : (pure a : Prog Op Res ε α).Follows next l Q ↔ Q (.ok a) l := Iff.rfl

@[simp] theorem follows_ret (a : α) : (.ret a : Prog Op Res ε α).Follows next l Q ↔ Q (.ok a) l := Iff.rfl

@[simp] theorem follows_raise (e : ε) : (.raise e : Prog Op Res ε α).Follows next l Q ↔ Q (.error e) l := Iff.rfl

@[simp] theorem follows_op {o : Op} {Q : Except ε (Res o) → L → Prop} :
    (Prog.op o).Follows next l Q ↔ ∀ r, ∃ l', next l o r = some l' ∧ Q (.ok r) l' := Iff.rfl

@[simp] theorem follows_ofExcept (x : Except ε α) : (Prog.ofExcept x : Prog Op Res ε α).Follows next l Q ↔ Q x l := by
  cases x <;> rfl

theorem follows_mono {p : Prog Op Res ε α} {Q' : Except ε α → L → Prop} (first : p.Follows next l Q)
    (weaker : ∀ x l', Q x l' → Q' x l') : p.Follows next l Q' := by
  induction p generalizing l with
  | ret a => exact weaker _ _ first
  | raise e => exact weaker _ _ first
  | call o k ih =>
    intro r
    obtain ⟨l', allowed, rest⟩ := first r
    exact ⟨l', allowed, ih r rest⟩

theorem follows_bind {p : Prog Op Res ε α} {f : α → Prog Op Res ε β} (first : p.Follows next l Q)
    (rest : ∀ a l', Q (.ok a) l' → (f a).Follows next l' R) (error : ∀ e l', Q (.error e) l' → R (.error e) l') :
    (p >>= f).Follows next l R := by
  show (p.bind f).Follows next l R
  induction p generalizing l with
  | ret a => exact rest a l first
  | raise e => exact error e l first
  | call o k ih =>
    intro r
    obtain ⟨l', allowed, rest'⟩ := first r
    exact ⟨l', allowed, ih r rest'⟩

theorem follows_handle {p : Prog Op Res ε α} {h : ε → Option (Prog Op Res ε α)} {Q' : Except ε α → L → Prop}
    (first : p.Follows next l Q) (ok : ∀ a l', Q (.ok a) l' → Q' (.ok a) l')
    (error : ∀ e l', Q (.error e) l' → ((h e).getD (.raise e)).Follows next l' Q') :
    (p.handle h).Follows next l Q' := by
  induction p generalizing l with
  | ret a => exact ok a l first
  | raise e => exact error e l first
  | call o k ih =>
    intro r
    obtain ⟨l', allowed, rest⟩ := first r
    exact ⟨l', allowed, ih r rest⟩

theorem follows_always {p : Prog Op Res ε α} {f : Prog Op Res ε Unit} {Q' : Except ε α → L → Prop}
    (first : p.Follows next l Q) (final : ∀ x l', Q x l' → f.Follows next l' fun y l'' =>
      match y with
      | .ok _ => Q' x l''
      | .error e => Q' (.error e) l'') :
    (p.always f).Follows next l Q' := by
  induction p generalizing l with
  | ret a =>
    refine follows_bind (final _ _ first) (fun _ _ reached => reached) (fun _ _ reached => reached)
  | raise e =>
    refine follows_bind (final _ _ first) (fun _ _ reached => reached) (fun _ _ reached => reached)
  | call o k ih =>
    intro r
    obtain ⟨l', allowed, rest⟩ := first r
    exact ⟨l', allowed, ih r rest⟩

/-- A program of operations that leave the local state what it is. -/
theorem follows_of_uses {p : Prog Op Res ε α} {ops : Op → Prop} (used : p.Uses ops)
    (same : ∀ o r, ops o → next l o r = some l) :
    p.Follows next l fun _ l' => l' = l := by
  induction p with
  | ret a => rfl
  | raise e => rfl
  | call o k ih => exact fun r => ⟨l, same o r used.1, ih r (used.2 r)⟩

/-- A program of operations that keep an invariant of the local state. -/
theorem follows_invariant {p : Prog Op Res ε α} {ops : Op → Prop} {I : L → Prop} (used : p.Uses ops)
    (keeps : ∀ l o r, I l → ops o → ∃ l', next l o r = some l' ∧ I l') (first : I l) :
    p.Follows next l fun _ l' => I l' := by
  induction p generalizing l with
  | ret a => exact first
  | raise e => exact first
  | call o k ih =>
    intro r
    obtain ⟨l', allowed, kept⟩ := keeps l o r first used.1
    exact ⟨l', allowed, ih r (used.2 r) kept⟩

/-- The program keeps to the protocol from every local state on. -/
def Prog.Obeys (next : L → (o : Op) → Res o → Option L) (p : Prog Op Res ε α) : Prop :=
  ∀ l, p.Follows next l fun _ _ => True

/-- A program of operations that are always allowed. -/
theorem obeys_of_uses {p : Prog Op Res ε α} {ops : Op → Prop} (used : p.Uses ops)
    (allowed : ∀ l o r, ops o → ∃ l', next l o r = some l') : p.Obeys next := by
  intro l
  induction p generalizing l with
  | ret a => trivial
  | raise e => trivial
  | call o k ih =>
    intro r
    obtain ⟨l', next⟩ := allowed l o r used.1
    exact ⟨l', next, ih r (used.2 r) l'⟩

theorem obeys_pure (a : α) : (pure a : Prog Op Res ε α).Obeys next := fun _ => trivial

theorem obeys_raise (e : ε) : (.raise e : Prog Op Res ε α).Obeys next := fun _ => trivial

theorem obeys_ofExcept (x : Except ε α) : (Prog.ofExcept x : Prog Op Res ε α).Obeys next := by
  cases x <;> exact fun _ => trivial

theorem obeys_bind {p : Prog Op Res ε α} {f : α → Prog Op Res ε β} (first : p.Obeys next)
    (rest : ∀ a, (f a).Obeys next) :
    (p >>= f).Obeys next :=
  fun l => follows_bind (first l) (fun a l' _ => rest a l') fun _ _ _ => trivial

theorem obeys_handle {p : Prog Op Res ε α} {h : ε → Option (Prog Op Res ε α)} (body : p.Obeys next)
    (handler : ∀ e, ((h e).getD (.raise e)).Obeys next) : (p.handle h).Obeys next :=
  fun l => follows_handle (body l) (fun _ _ _ => trivial) fun e l' _ => handler e l'

theorem obeys_catch {p : Prog Op Res ε α} {c : ε → Prop} [DecidablePred c] {q : ε → Prog Op Res ε α}
    (body : p.Obeys next)
    (handler : ∀ e, (q e).Obeys next) : (p.handle fun e => if c e then some (q e) else none).Obeys next := by
  refine obeys_handle body fun e => ?_
  by_cases caught : c e
  · simpa [caught] using handler e
  · simpa [caught] using obeys_raise e

theorem obeys_always {p : Prog Op Res ε α} {f : Prog Op Res ε Unit} (body : p.Obeys next) (final : f.Obeys next) :
    (p.always f).Obeys next := by
  refine fun l => follows_always (body l) fun _ l' _ => follows_mono (final l') fun y _ _ => ?_
  cases y <;> trivial

end
end

/-! ### Systems -/

/-- Programs that share a world. `perform` is the effect of an operation of process `i`, none where
    it cannot turn out that way; `ends` is what happens when a process is gone, finished or not. -/
structure System (Op : Type) (Res : Op → Type) (ε World Call Fate Env : Type) where
  program : Call → Prog Op Res ε Unit
  perform : Nat → Call → World → (o : Op) → Fate → Option (Res o × World)
  begins : Nat → Call → World → Option World
  ends : Nat → Call → World → World
  environ : Env → World → Option World
  diverts : Nat → Call → World → Option Call

structure Config (Op : Type) (Res : Op → Type) (ε World Call : Type) where
  world : World
  procs : Nat → Option (Call × Prog Op Res ε Unit)

inductive Act (Call Fate Env : Type) where
  | begin (i : Nat) (c : Call)
  | op (i : Nat) (fate : Fate)
  | leave (i : Nat)
  | divert (i : Nat)
  | env (e : Env)

section
variable {Op : Type} {Res : Op → Type} {ε World Call Fate Env : Type}
variable (S : System Op Res ε World Call Fate Env)

/-- One step, as far as the schedule fits the configuration. -/
def System.step (cfg : Config Op Res ε World Call) : Act Call Fate Env → Option (Config Op Res ε World Call)
  | .begin i c =>
    match cfg.procs i, S.begins i c cfg.world with
    | none, some w => some ⟨w, Function.update cfg.procs i (some (c, S.program c))⟩
    | _, _ => none
  | .op i fate =>
    match cfg.procs i with
    | some (c, .call o k) =>
      match S.perform i c cfg.world o fate with
      | some (r, w) => some ⟨w, Function.update cfg.procs i (some (c, k r))⟩
      | none => none
    | _ => none
  | .leave i =>
    match cfg.procs i with
    | some (c, _) => some ⟨S.ends i c cfg.world, Function.update cfg.procs i none⟩
    | none => none
  | .divert i =>
    match cfg.procs i with
    | some (c, _) =>
      match S.diverts i c cfg.world with
      | some c' => some ⟨cfg.world, Function.update cfg.procs i (some (c', S.program c'))⟩
      | none => none
    | none => none
  | .env e => (S.environ e cfg.world).map fun w => { cfg with world := w }

def Config.start (w : World) : Config Op Res ε World Call := ⟨w, fun _ => none⟩

/-- The operation that process `i` performs next, when it performs one: its call, the operation,
    its result and the world after it. -/
def System.Performs (cfg : Config Op Res ε World Call) (i : Nat) (c : Call) (o : Op) (r : Res o) (w : World) : Prop :=
  ∃ k fate, cfg.procs i = some (c, .call o k) ∧ S.perform i c cfg.world o fate = some (r, w)

/-- A condition on single operations, in the world before them. -/
abbrev Condition (Op : Type) (Res : Op → Type) (World Call : Type) : Type :=
  World → Nat → Call → (o : Op) → Res o → Prop

/-- The configurations of the runs all of whose operations meet the condition. -/
inductive System.Reached (cond : Condition Op Res World Call) (start : World) : Config Op Res ε World Call → Prop where
  | start : System.Reached cond start (.start start)
  | begin {cfg : Config Op Res ε World Call} {i : Nat} {c : Call} {w : World} (before : System.Reached cond start cfg)
      (free : cfg.procs i = none) (begins : S.begins i c cfg.world = some w) :
      System.Reached cond start ⟨w, Function.update cfg.procs i (some (c, S.program c))⟩
  | op {cfg : Config Op Res ε World Call} {i : Nat} {c : Call} {o : Op} {k : Res o → Prog Op Res ε Unit} {fate : Fate}
      {r : Res o} {w : World} (before : System.Reached cond start cfg) (running : cfg.procs i = some (c, .call o k))
      (performs : S.perform i c cfg.world o fate = some (r, w)) (meets : cond cfg.world i c o r) :
      System.Reached cond start ⟨w, Function.update cfg.procs i (some (c, k r))⟩
  | leave {cfg : Config Op Res ε World Call} {i : Nat} {c : Call} {p : Prog Op Res ε Unit}
      (before : System.Reached cond start cfg) (running : cfg.procs i = some (c, p)) :
      System.Reached cond start ⟨S.ends i c cfg.world, Function.update cfg.procs i none⟩
  | divert {cfg : Config Op Res ε World Call} {i : Nat} {c c' : Call} {p : Prog Op Res ε Unit}
      (before : System.Reached cond start cfg) (running : cfg.procs i = some (c, p))
      (diverts : S.diverts i c cfg.world = some c') :
      System.Reached cond start ⟨cfg.world, Function.update cfg.procs i (some (c', S.program c'))⟩
  | env {cfg : Config Op Res ε World Call} {e : Env} {w : World} (before : System.Reached cond start cfg)
      (environ : S.environ e cfg.world = some w) : System.Reached cond start { cfg with world := w }

/-- Any operation. -/
def anyStep : Condition Op Res World Call := fun _ _ _ _ _ => True

instance (w : World) (i : Nat) (c : Call) (o : Op) (r : Res o) :
    Decidable ((anyStep : Condition Op Res World Call) w i c o r) := isTrue trivial

section
variable (cond : Condition Op Res World Call) [∀ w i c o r, Decidable (cond w i c o r)]

/-- The condition holds of what the step performs. -/
def System.meets (cfg : Config Op Res ε World Call) : Act Call Fate Env → Bool
  | .op i fate =>
    match cfg.procs i with
    | some (c, .call o _) =>
      match S.perform i c cfg.world o fate with
      | some (r, _) => decide (cond cfg.world i c o r)
      | none => true
    | _ => true
  | _ => true

/-- A schedule, as far as it fits and its operations meet the condition. -/
def System.run : Config Op Res ε World Call → List (Act Call Fate Env) → Option (Config Op Res ε World Call)
  | cfg, [] => some cfg
  | cfg, a :: rest => if S.meets cond cfg a then (S.step cfg a).bind fun cfg' => System.run cfg' rest else none

end

variable {S} {start : World}

theorem reached_step {cond : Condition Op Res World Call} [∀ w i c o r, Decidable (cond w i c o r)]
    {cfg cfg' : Config Op Res ε World Call} {a : Act Call Fate Env} (before : S.Reached cond start cfg)
    (meets : S.meets cond cfg a = true) (stepped : S.step cfg a = some cfg') : S.Reached cond start cfg' := by
  cases a with
  | begin i c =>
    simp only [System.step] at stepped
    split at stepped
    case h_1 free begins =>
      obtain rfl := Option.some.inj stepped
      exact .begin before free begins
    · simp at stepped
  | op i fate =>
    simp only [System.step] at stepped
    split at stepped
    case h_1 running =>
      split at stepped
      case h_1 performs =>
        obtain rfl := Option.some.inj stepped
        exact .op before running performs (by simpa [System.meets, running, performs] using meets)
      · simp at stepped
    · simp at stepped
  | leave i =>
    simp only [System.step] at stepped
    split at stepped
    case h_1 running =>
      obtain rfl := Option.some.inj stepped
      exact .leave before running
    · simp at stepped
  | divert i =>
    simp only [System.step] at stepped
    split at stepped
    case h_1 running =>
      split at stepped
      case h_1 diverts =>
        obtain rfl := Option.some.inj stepped
        exact .divert before running diverts
      · simp at stepped
    · simp at stepped
  | env e =>
    simp only [System.step, Option.map_eq_some_iff] at stepped
    obtain ⟨w, environ, rfl⟩ := stepped
    exact .env before environ

/-- A schedule that runs to its end reaches a configuration. -/
theorem reached_run {cond : Condition Op Res World Call} [∀ w i c o r, Decidable (cond w i c o r)]
    {acts : List (Act Call Fate Env)} {cfg cfg' : Config Op Res ε World Call} (before : S.Reached cond start cfg)
    (ran : S.run cond cfg acts = some cfg') : S.Reached cond start cfg' := by
  induction acts generalizing cfg with
  | nil =>
    obtain rfl := Option.some.inj ran
    exact before
  | cons a rest ih =>
    simp only [System.run] at ran
    split at ran
    case isTrue meets =>
      obtain ⟨middle, stepped, ran⟩ := Option.bind_eq_some_iff.mp ran
      exact ih (reached_step before meets stepped) ran
    · simp at ran

/-- A run whose operations meet a condition is one whose operations meet a weaker one. -/
theorem reached_mono {cond cond' : Condition Op Res World Call} {cfg : Config Op Res ε World Call}
    (weaker : ∀ w i c o r, cond w i c o r → cond' w i c o r) (reached : S.Reached cond start cfg) :
    S.Reached cond' start cfg := by
  induction reached with
  | start => exact .start
  | begin _ free begins ih => exact .begin ih free begins
  | op _ running performs meets ih => exact .op ih running performs (weaker _ _ _ _ _ meets)
  | leave _ running ih => exact .leave ih running
  | divert _ running diverts ih => exact .divert ih running diverts
  | env _ environ ih => exact .env ih environ

/-! ### Invariants -/

/-- A protocol for each call of the system, and an invariant of the world and the local states of
    the running processes that every step allowed by the condition preserves. -/
structure Discipline (S : System Op Res ε World Call Fate Env) (cond : Condition Op Res World Call) (start : World)
    (L : Type) where
  next : Call → L → (o : Op) → Res o → Option L
  entry : Call → L
  Inv : World → (Nat → Option (Call × L)) → Prop
  follows : ∀ c, (S.program c).Follows (next c) (entry c) fun _ _ => True
  first : Inv start fun _ => none
  begin : ∀ {w ls i c w'}, Inv w ls → ls i = none → S.begins i c w = some w' →
    Inv w' (Function.update ls i (some (c, entry c)))
  op : ∀ {w ls i c l o fate r w' l'}, Inv w ls → ls i = some (c, l) → S.perform i c w o fate = some (r, w') →
    cond w i c o r → next c l o r = some l' → Inv w' (Function.update ls i (some (c, l')))
  leave : ∀ {w ls i c l}, Inv w ls → ls i = some (c, l) → Inv (S.ends i c w) (Function.update ls i none)
  divert : ∀ {w ls i c l c'}, Inv w ls → ls i = some (c, l) → S.diverts i c w = some c' →
    Inv w (Function.update ls i (some (c', entry c')))
  env : ∀ {w ls e w'}, Inv w ls → S.environ e w = some w' → Inv w' ls

/-- A process and its local state: both absent, or the rest of the program follows the protocol. -/
def Discipline.Tracks {cond : Condition Op Res World Call} {L : Type} (D : Discipline S cond start L) :
    Option (Call × Prog Op Res ε Unit) → Option (Call × L) → Prop
  | none, none => True
  | some (c, p), some (c', l) => c = c' ∧ p.Follows (D.next c) l fun _ _ => True
  | _, _ => False

section
variable {cond : Condition Op Res World Call} {L : Type} (D : Discipline S cond start L)

theorem tracks_none {x : Option (Call × L)} (tracked : D.Tracks none x) : x = none := by
  cases x with
  | none => rfl
  | some _ => exact tracked.elim

theorem tracks_some {c : Call} {p : Prog Op Res ε Unit} {x : Option (Call × L)} (tracked : D.Tracks (some (c, p)) x) :
    ∃ l, x = some (c, l) ∧ p.Follows (D.next c) l fun _ _ => True := by
  cases x with
  | none => exact tracked.elim
  | some pair =>
    obtain ⟨_, l⟩ := pair
    obtain ⟨rfl, follows⟩ := tracked
    exact ⟨l, rfl, follows⟩

theorem tracks_update {procs : Nat → Option (Call × Prog Op Res ε Unit)} {ls : Nat → Option (Call × L)} {i : Nat}
    {x : Option (Call × Prog Op Res ε Unit)} {y : Option (Call × L)} (tracked : ∀ j, D.Tracks (procs j) (ls j))
    (here : D.Tracks x y) (j : Nat) : D.Tracks (Function.update procs i x j) (Function.update ls i y j) := by
  by_cases same : j = i
  · subst same
    simpa using here
  · simpa [same] using tracked j

/-- Every reached configuration has local states that satisfy the invariant. -/
theorem Discipline.invariant {cfg : Config Op Res ε World Call} (reached : S.Reached cond start cfg) :
    ∃ ls, D.Inv cfg.world ls ∧ ∀ i, D.Tracks (cfg.procs i) (ls i) := by
  induction reached with
  | start => exact ⟨fun _ => none, D.first, fun _ => trivial⟩
  | begin _ free begins ih =>
    obtain ⟨ls, inv, tracked⟩ := ih
    have idle := tracks_none D (free ▸ tracked _)
    exact ⟨_, D.begin inv idle begins, tracks_update D tracked ⟨rfl, D.follows _⟩⟩
  | op _ running performs meets ih =>
    obtain ⟨ls, inv, tracked⟩ := ih
    obtain ⟨l, here, follows⟩ := tracks_some D (running ▸ tracked _)
    obtain ⟨l', allowed, rest⟩ := follows _
    exact ⟨_, D.op inv here performs meets allowed, tracks_update D tracked ⟨rfl, rest⟩⟩
  | leave _ running ih =>
    obtain ⟨ls, inv, tracked⟩ := ih
    obtain ⟨l, here, _⟩ := tracks_some D (running ▸ tracked _)
    exact ⟨_, D.leave inv here, tracks_update D tracked trivial⟩
  | divert _ running diverts ih =>
    obtain ⟨ls, inv, tracked⟩ := ih
    obtain ⟨l, here, _⟩ := tracks_some D (running ▸ tracked _)
    exact ⟨_, D.divert inv here diverts, tracks_update D tracked ⟨rfl, D.follows _⟩⟩
  | env _ environ ih =>
    obtain ⟨ls, inv, tracked⟩ := ih
    exact ⟨ls, D.env inv environ, tracked⟩

/-- Every operation that a reached configuration performs is allowed by the protocol at a local
    state that satisfies the invariant. -/
theorem Discipline.allowed {cfg : Config Op Res ε World Call} {i : Nat} {c : Call} {o : Op} {r : Res o} {w : World}
    (reached : S.Reached cond start cfg) (performs : S.Performs cfg i c o r w) :
    ∃ ls l l', D.Inv cfg.world ls ∧ ls i = some (c, l) ∧ D.next c l o r = some l' := by
  obtain ⟨ls, inv, tracked⟩ := D.invariant reached
  obtain ⟨k, fate, running, _⟩ := performs
  obtain ⟨l, here, follows⟩ := tracks_some D (running ▸ tracked i)
  obtain ⟨l', allowed, _⟩ := follows r
  exact ⟨ls, l, l', inv, here, allowed⟩

end

/-- An invariant of the world and one of each process: what a step of one process has to keep is the
    world's, its own, and that of any other process. -/
structure Regime (S : System Op Res ε World Call Fate Env) (cond : Condition Op Res World Call) (start : World)
    (L : Type) where
  next : Call → L → (o : Op) → Res o → Option L
  entry : Call → L
  Shared : World → Prop
  Local : World → Nat → Call → L → Prop
  follows : ∀ c, (S.program c).Follows (next c) (entry c) fun _ _ => True
  first : Shared start
  begin : ∀ {w i c w'}, Shared w → S.begins i c w = some w' → Shared w' ∧ Local w' i c (entry c) ∧
    ∀ j c' l, j ≠ i → Local w j c' l → Local w' j c' l
  op : ∀ {w i c l o fate r w' l'}, Shared w → Local w i c l → S.perform i c w o fate = some (r, w') → cond w i c o r →
    next c l o r = some l' → Shared w' ∧ Local w' i c l' ∧ ∀ j c' l, j ≠ i → Local w j c' l → Local w' j c' l
  leave : ∀ {w i c l}, Shared w → Local w i c l → Shared (S.ends i c w) ∧
    ∀ j c' l, j ≠ i → Local w j c' l → Local (S.ends i c w) j c' l
  divert : ∀ {w i c l c'}, Shared w → Local w i c l → S.diverts i c w = some c' → Local w i c' (entry c')
  env : ∀ {w e w'}, Shared w → S.environ e w = some w' → Shared w' ∧ ∀ j c l, Local w j c l → Local w' j c l

section
variable {cond : Condition Op Res World Call} {L : Type}

/-- The local states of the processes satisfy the local invariant, also after one of them changed. -/
theorem local_update {P Q : Nat → Call → L → Prop} {ls : Nat → Option (Call × L)} {i : Nat} {x : Option (Call × L)}
    (held : ∀ j c l, ls j = some (c, l) → P j c l) (here : ∀ c l, x = some (c, l) → Q i c l)
    (others : ∀ j c l, j ≠ i → P j c l → Q j c l) :
    ∀ j c l, Function.update ls i x j = some (c, l) → Q j c l := by
  intro j c l there
  by_cases same : j = i
  · subst same
    exact here c l (by simpa using there)
  · exact others j c l same (held j c l (by simpa [same] using there))

def Regime.discipline (R : Regime S cond start L) : Discipline S cond start L where
  next := R.next
  entry := R.entry
  Inv w ls := R.Shared w ∧ ∀ i c l, ls i = some (c, l) → R.Local w i c l
  follows := R.follows
  first := ⟨R.first, fun _ _ _ none => by simp at none⟩
  begin := by
    rintro w ls i c w' ⟨shared, held⟩ _ begins
    obtain ⟨shared', here, others⟩ := R.begin shared begins
    refine ⟨shared', local_update held ?_ others⟩
    rintro _ _ ⟨⟩
    exact here
  op := by
    rintro w ls i c l o fate r w' l' ⟨shared, held⟩ running performs meets allowed
    obtain ⟨shared', here, others⟩ := R.op shared (held i c l running) performs meets allowed
    refine ⟨shared', local_update held ?_ others⟩
    rintro _ _ ⟨⟩
    exact here
  leave := by
    rintro w ls i c l ⟨shared, held⟩ running
    obtain ⟨shared', others⟩ := R.leave shared (held i c l running)
    exact ⟨shared', local_update held (fun _ _ none => by simp at none) others⟩
  divert := by
    rintro w ls i c l c' ⟨shared, held⟩ running diverts
    refine ⟨shared, local_update held ?_ fun _ _ _ _ held => held⟩
    rintro _ _ ⟨⟩
    exact R.divert shared (held i c l running) diverts
  env := by
    rintro w ls e w' ⟨shared, held⟩ environ
    obtain ⟨shared', kept⟩ := R.env shared environ
    exact ⟨shared', fun i c l running => kept i c l (held i c l running)⟩

/-- What the world is like in every reached configuration. -/
theorem Regime.shared (R : Regime S cond start L) {cfg : Config Op Res ε World Call}
    (reached : S.Reached cond start cfg) :
    R.Shared cfg.world := by
  obtain ⟨_, inv, _⟩ := R.discipline.invariant reached
  exact inv.1

/-- What an operation of a reached configuration finds: the world's invariant, and a local state that
    satisfies its own and allows the operation. -/
theorem Regime.allowed (R : Regime S cond start L) {cfg : Config Op Res ε World Call} {i : Nat} {c : Call}
    {o : Op} {r : Res o}
    {w : World} (reached : S.Reached cond start cfg) (performs : S.Performs cfg i c o r w) :
    ∃ l l', R.Shared cfg.world ∧ R.Local cfg.world i c l ∧ R.next c l o r = some l' := by
  obtain ⟨_, l, l', inv, here, allowed⟩ := R.discipline.allowed reached performs
  exact ⟨l, l', inv.1, inv.2 i c l here, allowed⟩

end
end

end Ttp.Program
