import Ttp.Program

/-!
Two runs of a program whose operations are of two sorts: observed ones, on a world, and hidden
ones, whose results are free. Two programs are in lockstep when they perform the same observed
operations whatever comes of the hidden ones, and end in results that are related; then runs of
them from one world, whose observed operations turn out alike, perform the same operations and
leave the same world (`lockstep_runs`).

A program over operations of one sort becomes one of these when some of its operations are
carried out by programs over hidden ones (`expand`).
-/
namespace Ttp.TwoRuns
open Ttp.Program

section
variable {Low High : Type} {LRes : Low → Type} {HRes : High → Type} {ε ε' α β γ World Fate : Type}

/-- The results of an observed or a hidden operation. -/
abbrev Res (LRes : Low → Type) (HRes : High → Type) : Low ⊕ High → Type
  | .inl o => LRes o
  | .inr o => HRes o

/-- A program over both sorts of operations. -/
abbrev Mixed (LRes : Low → Type) (HRes : High → Type) (ε α : Type) := Prog (Low ⊕ High) (Res LRes HRes) ε α

/-! ### Runs -/

/-- A run of a program: its observed operations and how they turn out, its end, and the world it
    leaves. Each hidden operation comes to a result that is possible for it. -/
inductive Runs (perform : World → (o : Low) → Fate → Option (LRes o × World)) (possible : (o : High) → HRes o → Prop) :
    Mixed LRes HRes ε α → World → List (Low × Fate) → Except ε α → World → Prop where
  | ret (a : α) (w : World) : Runs perform possible (.ret a) w [] (.ok a) w
  | raise (e : ε) (w : World) : Runs perform possible (.raise e) w [] (.error e) w
  | observed {o : Low} {k : LRes o → Mixed LRes HRes ε α} {w w' v : World} {fate : Fate} {r : LRes o}
      {log : List (Low × Fate)}
      {x : Except ε α} (performed : perform w o fate = some (r, w')) (rest : Runs perform possible (k r) w' log x v) :
      Runs perform possible (.call (.inl o) k) w ((o, fate) :: log) x v
  | hidden {o : High} {k : HRes o → Mixed LRes HRes ε α} {w v : World} {r : HRes o} {log : List (Low × Fate)}
      {x : Except ε α} (able : possible o r) (rest : Runs perform possible (k r) w log x v) :
      Runs perform possible (.call (.inr o) k) w log x v

/-- As far as both go, the observed operations turn out the same. -/
def Alike (log log' : List (Low × Fate)) : Prop :=
  ∀ (i : Nat) (first second : Low × Fate), log[i]? = some first → log'[i]? = some second → first.2 = second.2

theorem alike_head {o o' : Low} {fate fate' : Fate} {log log' : List (Low × Fate)}
    (alike : Alike ((o, fate) :: log) ((o', fate') :: log')) :
    fate = fate' :=
  alike 0 _ _ rfl rfl

theorem alike_same {log log' : List (Low × Fate)} (same : log.map (·.2) = log'.map (·.2)) : Alike log log' := by
  intro i first second here there
  have fate := congrArg (·[i]?) same
  simpa [here, there] using fate

theorem alike_tail {first second : Low × Fate} {log log' : List (Low × Fate)}
    (alike : Alike (first :: log) (second :: log')) :
    Alike log log' :=
  fun i a b here there => alike (i + 1) a b (by simpa using here) (by simpa using there)

section
variable {perform : World → (o : Low) → Fate → Option (LRes o × World)} {possible : (o : High) → HRes o → Prop}
variable {v : World} {log : List (Low × Fate)}

theorem runs_ofExcept {w : World} {x y : Except ε α} (ran : Runs perform possible (Prog.ofExcept x) w log y v) :
    log = [] ∧ y = x ∧ v = w := by
  cases x with
  | ok a =>
    cases ran
    exact ⟨rfl, rfl, rfl⟩
  | error e =>
    cases ran
    exact ⟨rfl, rfl, rfl⟩

/-- The run in which the hidden operations come to these results and the observed ones turn out this way. -/
def follow (perform : World → (o : Low) → Fate → Option (LRes o × World)) (answer : (o : High) → HRes o) :
    Mixed LRes HRes ε α → World → List Fate → Option (List (Low × Fate) × Except ε α × World)
  | .ret a, w, [] => some ([], .ok a, w)
  | .raise e, w, [] => some ([], .error e, w)
  | .call (.inl o) k, w, fate :: fates =>
    match perform w o fate with
    | some (r, w') => (follow perform answer (k r) w' fates).map fun done => ((o, fate) :: done.1, done.2)
    | none => none
  | .call (.inr o) k, w, fates => follow perform answer (k (answer o)) w fates
  | _, _, _ => none

theorem follow_runs {answer : (o : High) → HRes o} (able : ∀ o, possible o (answer o)) {p : Mixed LRes HRes ε α}
    {w : World} {fates : List Fate}
    {x : Except ε α} (followed : follow perform answer p w fates = some (log, x, v)) :
    Runs perform possible p w log x v ∧ log.map (·.2) = fates := by
  induction p generalizing w fates log with
  | ret a =>
    cases fates with
    | nil =>
      cases followed
      exact ⟨.ret a _, rfl⟩
    | cons fate fates => simp [follow] at followed
  | raise e =>
    cases fates with
    | nil =>
      cases followed
      exact ⟨.raise e _, rfl⟩
    | cons fate fates => simp [follow] at followed
  | call o k ih =>
    cases o with
    | inl o =>
      cases fates with
      | nil => simp [follow] at followed
      | cons fate fates =>
        simp only [follow] at followed
        split at followed
        case h_1 r w' performed =>
          obtain ⟨⟨rest, ended⟩, again, same⟩ := Option.map_eq_some_iff.mp followed
          cases same
          obtain ⟨ran, turned⟩ := ih r again
          exact ⟨.observed performed ran, congrArg (fate :: ·) turned⟩
        case h_2 => cases followed
    | inr o =>
      obtain ⟨ran, turned⟩ := ih (answer o) (by simpa only [follow] using followed)
      exact ⟨.hidden (able o) ran, turned⟩

/-- A run that can be followed to an end that passes a check. -/
theorem follow_ends {answer : (o : High) → HRes o} (able : ∀ o, possible o (answer o)) {p : Mixed LRes HRes ε α}
    {w : World} {fates : List Fate}
    {check : Except ε α → Bool} (followed : (follow perform answer p w fates).any (fun done => check done.2.1) = true) :
    ∃ log x v, Runs perform possible p w log x v ∧ check x = true ∧ log.map (·.2) = fates := by
  cases found : follow perform answer p w fates with
  | none => simp [found] at followed
  | some done =>
    rw [found] at followed
    obtain ⟨ran, turned⟩ := follow_runs able found
    exact ⟨done.1, done.2.1, done.2.2, ran, followed, turned⟩

end

/-! ### Lockstep -/

section
variable (possible : (o : High) → HRes o → Prop)

inductive Lockstep (R : Except ε α → Except ε β → Prop) : Mixed LRes HRes ε α → Mixed LRes HRes ε β → Prop where
  | ended {x : Except ε α} {y : Except ε β} (related : R x y) : Lockstep R (Prog.ofExcept x) (Prog.ofExcept y)
  | observed {o : Low} {k : LRes o → Mixed LRes HRes ε α} {k' : LRes o → Mixed LRes HRes ε β}
      (rest : ∀ r, Lockstep R (k r) (k' r)) :
      Lockstep R (.call (.inl o) k) (.call (.inl o) k')
  | first {o : High} {k : HRes o → Mixed LRes HRes ε α} {q : Mixed LRes HRes ε β}
      (rest : ∀ r, possible o r → Lockstep R (k r) q) :
      Lockstep R (.call (.inr o) k) q
  | second {o : High} {p : Mixed LRes HRes ε α} {k : HRes o → Mixed LRes HRes ε β}
      (rest : ∀ r, possible o r → Lockstep R p (k r)) :
      Lockstep R p (.call (.inr o) k)

end

section
variable {perform : World → (o : Low) → Fate → Option (LRes o × World)} {possible : (o : High) → HRes o → Prop}
variable {R : Except ε α → Except ε β → Prop} {p : Mixed LRes HRes ε α} {q : Mixed LRes HRes ε β}

/-- Runs of programs in lockstep that turn out alike perform the same operations and leave the same world. -/
theorem lockstep_runs (lockstep : Lockstep possible R p q) {w v v' : World} {log log' : List (Low × Fate)}
    {x : Except ε α} {y : Except ε β}
    (first : Runs perform possible p w log x v) (second : Runs perform possible q w log' y v')
    (alike : Alike log log') :
    log = log' ∧ v = v' ∧ R x y := by
  induction lockstep generalizing w log log' with
  | ended related =>
    obtain ⟨rfl, rfl, rfl⟩ := runs_ofExcept first
    obtain ⟨rfl, rfl, rfl⟩ := runs_ofExcept second
    exact ⟨rfl, rfl, related⟩
  | observed rest ih =>
    cases first with
    | observed performed ran =>
      cases second with
      | observed performed' ran' =>
        obtain rfl := alike_head alike
        obtain ⟨rfl, rfl⟩ := Prod.mk.inj (Option.some.inj (performed.symm.trans performed'))
        obtain ⟨rfl, left, related⟩ := ih _ ran ran' (alike_tail alike)
        exact ⟨rfl, left, related⟩
  | first rest ih =>
    cases first with
    | hidden able ran => exact ih _ able ran second alike
  | second rest ih =>
    cases second with
    | hidden able ran => exact ih _ able first ran alike

/-- What comes after programs in lockstep only has to be in lockstep for related ends. -/
theorem lockstep_bind {α' β' : Type} {S : Except ε α' → Except ε β' → Prop} {f : α → Mixed LRes HRes ε α'}
    {g : β → Mixed LRes HRes ε β'}
    (lockstep : Lockstep possible R p q)
    (rest : ∀ x y, R x y → Lockstep possible S (Prog.ofExcept x >>= f) (Prog.ofExcept y >>= g)) :
    Lockstep possible S (p >>= f) (q >>= g) := by
  induction lockstep with
  | ended related => exact rest _ _ related
  | observed _ ih => exact .observed ih
  | first _ ih => exact .first ih
  | second _ ih => exact .second ih

/-- A program without hidden operations is in lockstep with itself. -/
theorem lockstep_self {p : Mixed LRes HRes ε α} (observed : p.Uses fun o => o.isLeft) :
    Lockstep possible (· = ·) p p := by
  induction p with
  | ret a => exact .ended (x := .ok a) rfl
  | raise e => exact .ended (x := .error e) rfl
  | call o k ih =>
    cases o with
    | inl o => exact .observed fun r => ih r (observed.2 r)
    | inr o => exact absurd observed.1 (by simp)

end

/-! ### Hidden programs -/

/-- However its operations come out, as far as that is possible, the program ends in `A`. -/
def Gives (possible : (o : High) → HRes o → Prop) (A : Except ε α → Prop) : Prog High HRes ε α → Prop
  | .ret a => A (.ok a)
  | .raise e => A (.error e)
  | .call o k => ∀ r, possible o r → Gives possible A (k r)

/-- The program as one of both sorts. -/
def hidden (LRes : Low → Type) : Prog High HRes ε α → Mixed LRes HRes ε α
  | .ret a => .ret a
  | .raise e => .raise e
  | .call o k => .call (.inr o) fun r => hidden LRes (k r)

section
variable {possible : (o : High) → HRes o → Prop} {A : Except ε α → Prop} {B : Except ε β → Prop}
  {R : Except ε α → Except ε β → Prop}
variable {p : Prog High HRes ε α} {q : Prog High HRes ε β}

theorem gives_able {possible' : (o : High) → HRes o → Prop} (able : ∀ o r, possible' o r → possible o r)
    (gives : Gives possible A p) :
    Gives possible' A p := by
  induction p with
  | ret a => exact gives
  | raise e => exact gives
  | call o k ih => exact fun r able' => ih r (gives r (able o r able'))

theorem gives_bind {f : α → Prog High HRes ε β} (first : Gives possible A p)
    (rest : ∀ x, A x → Gives possible B (Prog.ofExcept x >>= f)) : Gives possible B (p >>= f) := by
  show Gives possible B (p.bind f)
  induction p with
  | ret a => exact rest _ first
  | raise e => exact rest _ first
  | call o k ih => exact fun r able => ih r (first r able)

theorem gives_any (p : Prog High HRes ε α) : Gives possible (fun _ => True) p := by
  induction p with
  | ret a => trivial
  | raise e => trivial
  | call o k ih => exact fun r _ => ih r

theorem gives_op {o : High} {f : HRes o → Prog High HRes ε β} (rest : ∀ r, possible o r → Gives possible B (f r)) :
    Gives possible B (Prog.op o >>= f) := rest

theorem gives_ofExcept {x : Except ε α} {f : α → Prog High HRes ε β} (failed : ∀ e, x = .error e → B (.error e))
    (rest : ∀ a, x = .ok a → Gives possible B (f a)) : Gives possible B (Prog.ofExcept x >>= f) := by
  cases x with
  | ok a => exact rest a rfl
  | error e => exact failed e rfl

theorem gives_end {x : Except ε α} (ended : A x) : Gives possible A (Prog.ofExcept x) := by
  cases x <;> exact ended

/-- Two hidden programs are in lockstep when any two of their ends are related. -/
theorem lockstep_hidden (first : Gives possible A p) (second : Gives possible B q)
    (related : ∀ x y, A x → B y → R x y) :
    Lockstep possible R (hidden LRes p) (hidden LRes q) := by
  have ended (x : Except ε α) (given : A x) : Lockstep possible R (Prog.ofExcept x) (hidden LRes q) := by
    induction q with
    | ret b => exact .ended (y := .ok b) (related _ _ given second)
    | raise e => exact .ended (y := .error e) (related _ _ given second)
    | call o k ih => exact .second fun r able => ih r (second r able)
  induction p with
  | ret a => exact ended (.ok a) first
  | raise e => exact ended (.error e) first
  | call o k ih => exact .first fun r able => ih r (first r able)

end

/-- The program with what it raises as a value. -/
def attempt {Op : Type} {ORes : Op → Type} : Prog Op ORes ε α → Prog Op ORes ε' (Except ε α)
  | .ret a => .ret (.ok a)
  | .raise e => .ret (.error e)
  | .call o k => .call o fun r => attempt (k r)

theorem gives_attempt {possible : (o : High) → HRes o → Prop} {p : Prog High HRes ε α} {A : Except ε α → Prop}
    (gives : Gives possible A p) :
    Gives possible (fun y : Except ε' (Except ε α) => ∃ x, y = .ok x ∧ A x) (attempt p) := by
  induction p with
  | ret a => exact ⟨_, rfl, gives⟩
  | raise e => exact ⟨_, rfl, gives⟩
  | call o k ih => exact fun r able => ih r (gives r able)

/-! ### Operations carried out by programs -/

/-- The program with its operations carried out by other programs. -/
def expand {Op Op' : Type} {ORes : Op → Type} {ORes' : Op' → Type} (carry : (o : Op) → Prog Op' ORes' ε (ORes o)) :
    Prog Op ORes ε α → Prog Op' ORes' ε α
  | .ret a => .ret a
  | .raise e => .raise e
  | .call o k => carry o >>= fun r => expand carry (k r)

section
variable {carry : (o : Low) → Mixed LRes HRes ε (LRes o)} {p : Prog Low LRes ε α}

theorem bind_pure {Op : Type} {ORes : Op → Type} (p : Prog Op ORes ε α) : p >>= pure = p := by
  induction p with
  | ret a => rfl
  | raise e => rfl
  | call o k ih => exact congrArg (Prog.call o) (funext ih)

@[simp]
theorem expand_op (o : Low) : expand carry (Prog.op o) = carry o := bind_pure _

theorem bind_assoc {Op : Type} {ORes : Op → Type} (p : Prog Op ORes ε α) (f : α → Prog Op ORes ε β)
    (g : β → Prog Op ORes ε γ) :
    (p >>= f) >>= g = p >>= fun a => f a >>= g := by
  induction p with
  | ret a => rfl
  | raise e => rfl
  | call o k ih => exact congrArg (Prog.call o) (funext ih)

theorem expand_bind (p : Prog Low LRes ε α) (f : α → Prog Low LRes ε β) :
    expand carry (p >>= f) = expand carry p >>= fun a => expand carry (f a) := by
  induction p with
  | ret a => rfl
  | raise e => rfl
  | call o k ih =>
    show (carry o >>= fun r => expand carry (k r >>= f)) = (carry o >>= fun r => expand carry (k r)) >>= fun a =>
      expand carry (f a)
    rw [bind_assoc]
    exact congrArg _ (funext ih)

/-- A program of which every operation stays what it is, is in lockstep with itself. -/
theorem lockstep_expand {possible : (o : High) → HRes o → Prop} {plain : Low → Prop}
    (kept : ∀ o, plain o → carry o = Prog.op (Sum.inl o))
    (used : p.Uses plain) : Lockstep possible (· = ·) (expand carry p) (expand carry p) := by
  refine lockstep_self ?_
  induction p with
  | ret a => trivial
  | raise e => trivial
  | call o k ih =>
    show (carry o >>= fun r => expand carry (k r)).Uses _
    rw [kept o used.1]
    exact ⟨rfl, fun r => ih r (used.2 r)⟩

end

/-! ### Protocols -/

section
variable {Op Op' L : Type} {ORes : Op → Type} {ORes' : Op' → Type} {next : L → (o : Op) → ORes o → Option L}
variable {next' : L → (o : Op') → ORes' o → Option L} {p : Prog Op ORes ε α} {l : L} {Q : Except ε α → L → Prop}

/-- What a program raises as a value, it ends with. -/
theorem follows_attempt (follows : p.Follows next l Q) :
    (attempt p).Follows next l fun y : Except ε' (Except ε α) => fun l' => ∃ x, y = .ok x ∧ Q x l' := by
  induction p generalizing l with
  | ret a => exact ⟨_, rfl, follows⟩
  | raise e => exact ⟨_, rfl, follows⟩
  | call o k ih =>
    intro r
    obtain ⟨l', allowed, rest⟩ := follows r
    exact ⟨l', allowed, ih r rest⟩

/-- Operations carried out by programs that keep to their protocol as one step. -/
theorem follows_expand {carry : (o : Op) → Prog Op' ORes' ε (ORes o)} (follows : p.Follows next l Q)
    (carried : ∀ o l, (∀ r, ∃ l', next l o r = some l') →
      (carry o).Follows next' l fun x l' => ∃ r, x = .ok r ∧ next l o r = some l') :
    (expand carry p).Follows next' l Q := by
  induction p generalizing l with
  | ret a => exact follows
  | raise e => exact follows
  | call o k ih =>
    have able (r : ORes o) : ∃ l', next l o r = some l' := by
      obtain ⟨l', allowed, _⟩ := follows r
      exact ⟨l', allowed⟩
    refine follows_bind (carried o l able) ?_ ?_
    · rintro a l' ⟨r, same, allowed⟩
      obtain rfl := Except.ok.inj same
      obtain ⟨_, again, rest⟩ := follows a
      obtain rfl := Option.some.inj (allowed.symm.trans again)
      exact ih a rest
    · rintro e l' ⟨_, ⟨⟩, _⟩

/-- What a program comes to if all its operations come to what is possible, it comes to unless one did not. -/
theorem follows_gives {possible : (o : Op) → ORes o → Prop} {A : Except ε α → Prop} {bad : L → Prop}
    (follows : p.Follows next l Q)
    (gives : Gives possible A p) (leaves : ∀ l o r l', ¬ possible o r → next l o r = some l' → bad l')
    (stays : ∀ l o r l', bad l → next l o r = some l' → bad l') :
    p.Follows next l fun x l' => Q x l' ∧ (bad l' ∨ A x) := by
  have lost {α : Type} {p : Prog Op ORes ε α} {l : L} {Q : Except ε α → L → Prop} (follows : p.Follows next l Q)
    (isBad : bad l) :
      p.Follows next l fun x l' => Q x l' ∧ bad l' := by
    induction p generalizing l with
    | ret a => exact ⟨follows, isBad⟩
    | raise e => exact ⟨follows, isBad⟩
    | call o k ih =>
      intro r
      obtain ⟨l', allowed, rest⟩ := follows r
      exact ⟨l', allowed, ih r rest (stays l o r l' isBad allowed)⟩
  induction p generalizing l with
  | ret a => exact ⟨follows, .inr gives⟩
  | raise e => exact ⟨follows, .inr gives⟩
  | call o k ih =>
    intro r
    obtain ⟨l', allowed, rest⟩ := follows r
    refine ⟨l', allowed, ?_⟩
    by_cases able : possible o r
    · exact ih r rest (gives r able)
    · exact follows_mono (lost rest (leaves l o r l' able allowed)) fun _ _ ended => ⟨ended.1, .inl ended.2⟩

end

end

end Ttp.TwoRuns
