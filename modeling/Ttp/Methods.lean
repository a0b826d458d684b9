import Mathlib.Data.List.Induction

/-!
The methods of an object: computations that read and change its state, and keep what they
have changed when they raise. Beside them what holds of a state after any sequence of calls,
and a queue that forgets its oldest items.
-/
namespace Ttp.Methods

/-- A method of an object with state `σ`: what it returns or raises, and the state it leaves. -/
def Method (σ ε α : Type) := σ → Except ε α × σ

variable {σ ε α β : Type}

namespace Method

def ret (a : α) : Method σ ε α := fun s => (.ok a, s)

def andThen (m : Method σ ε α) (f : α → Method σ ε β) : Method σ ε β := fun s =>
  match m s with
  | (.ok a, s') => f a s'
  | (.error e, s') => (.error e, s')

instance : Monad (Method σ ε) where
  pure := ret
  bind := andThen

/-- Reads the state. -/
def self : Method σ ε σ := fun s => (.ok s, s)

def change (f : σ → σ) : Method σ ε Unit := fun s => (.ok (), f s)

def ofExcept (x : Except ε α) : Method σ ε α := fun s => (x, s)

@[simp]
theorem pure_apply (a : α) (s : σ) : (pure a : Method σ ε α) s = (.ok a, s) := rfl

@[simp]
theorem change_apply (f : σ → σ) (s : σ) : (change f : Method σ ε Unit) s = (.ok (), f s) := rfl

@[simp]
theorem self_bind (f : σ → Method σ ε β) (s : σ) : ((self : Method σ ε σ) >>= f) s = f s s := rfl

@[simp]
theorem change_bind (g : σ → σ) (f : Unit → Method σ ε β) (s : σ) :
    ((change g : Method σ ε Unit) >>= f) s = f () (g s) := rfl

theorem bind_returns {m : Method σ ε α} {s s' : σ} {a : α} (ran : m s = (.ok a, s')) (f : α → Method σ ε β) :
    (m >>= f) s = f a s' := by
  show andThen m f s = _
  rw [andThen, ran]

theorem bind_raises {m : Method σ ε α} {s s' : σ} {e : ε} (ran : m s = (.error e, s')) (f : α → Method σ ε β) :
    (m >>= f) s = (.error e, s') := by
  show andThen m f s = _
  rw [andThen, ran]

/-! ### What a method may do to the state -/

/-- Whatever the method does to a state, returning or raising, is in the relation. -/
def Within (R : σ → σ → Prop) (m : Method σ ε α) : Prop := ∀ s, R s (m s).2

variable {R : σ → σ → Prop}

theorem within_pure (reflexive : ∀ s, R s s) (a : α) : Within R (pure a : Method σ ε α) := fun s => reflexive s

theorem within_ofExcept (reflexive : ∀ s, R s s) (x : Except ε α) : Within R (ofExcept x : Method σ ε α) :=
  fun s => reflexive s

theorem within_change {f : σ → σ} (changes : ∀ s, R s (f s)) : Within R (change f : Method σ ε Unit) := changes

theorem within_bind {m : Method σ ε α} {f : α → Method σ ε β} (transitive : ∀ {r s t}, R r s → R s t → R r t)
    (first : Within R m) (rest : ∀ a, Within R (f a)) : Within R (m >>= f) := by
  intro s
  have step := first s
  show R s (andThen m f s).2
  rw [andThen]
  cases ran : m s with
  | mk result s' =>
    rw [ran] at step
    cases result with
    | ok a => exact transitive step (rest a s')
    | error e => exact step

end Method

/-! ### Sequences of calls -/

section Calls

variable {γ : Type} (step : σ → γ → Except ε Unit × σ) (initial : σ)

/-- The state after a sequence of calls, those that raise included. -/
def after (calls : List γ) : σ := calls.foldl (fun s call => (step s call).2) initial

theorem after_snoc (calls : List γ) (call : γ) :
    after step initial (calls ++ [call]) = (step (after step initial calls) call).2 := by
  rw [after, List.foldl_append]
  rfl

/-- What holds at first and is kept by every call holds after every sequence of calls. -/
theorem after_induction {P : List γ → σ → Prop} (start : P [] initial)
    (next : ∀ calls call, P calls (after step initial calls) →
      P (calls ++ [call]) (step (after step initial calls) call).2)
    (calls : List γ) : P calls (after step initial calls) := by
  induction calls using List.reverseRecOn with
  | nil => exact start
  | append_singleton calls call ih =>
    rw [after_snoc]
    exact next calls call ih

end Calls

/-! ### A bounded queue -/

/-- `deque(maxlen=..)`. -/
structure Deque (α : Type) (maxlen : ℕ) where
  items : List α
  bounded : items.length ≤ maxlen

namespace Deque

variable {maxlen : ℕ}

def empty : Deque α maxlen := ⟨[], Nat.zero_le _⟩

/-- Adds an item at the end; from a full queue the oldest falls out. -/
def append (queue : Deque α maxlen) (item : α) : Deque α maxlen where
  items := (queue.items ++ [item]).drop ((queue.items ++ [item]).length - maxlen)
  bounded := by
    rw [List.length_drop]
    omega

theorem mem_append {queue : Deque α maxlen} {item x : α} (member : x ∈ (queue.append item).items) :
    x ∈ queue.items ∨ x = item := by
  rcases List.mem_append.mp (List.mem_of_mem_drop member) with old | new
  · exact .inl old
  · exact .inr (List.mem_singleton.mp new)

end Deque

end Ttp.Methods
