import Mathlib.Algebra.Order.Ring.Nat
import Mathlib.Data.List.Basic

/-! Routines that read and write a state and may fail, where a failure keeps the writes made
before it. What a routine leaves alone is read off its shape by the rules below; nothing here
knows the program. -/
namespace Ch58xHal.Routines

abbrev Routine (ε σ α : Type) := ExceptT ε (StateM σ) α

variable {ε σ α β γ : Type}

def result (m : Routine ε σ α) (s : σ) : Except ε α × σ := m.run.run s

-- `if condition { return Err(error) }`
def rejectIf (condition : Prop) [Decidable condition] (error : ε) : Routine ε σ Unit :=
  if condition then throw error else pure ()

@[simp] theorem resultPure (a : α) (s : σ) : result (pure a : Routine ε σ α) s = (.ok a,s) := rfl
@[simp] theorem resultThrow (e : ε) (s : σ) : result (throw e : Routine ε σ α) s = (.error e,s) := rfl
@[simp] theorem resultGet (s : σ) : result (get : Routine ε σ σ) s = (.ok s,s) := rfl
@[simp] theorem resultModify (f : σ → σ) (s : σ) :
    result (modify f : Routine ε σ Unit) s = (.ok (),f s) := rfl

theorem resultBind (m : Routine ε σ α) (f : α → Routine ε σ β) (s : σ) :
    result (m >>= f) s = match result m s with
      | (.ok a,t) => result (f a) t
      | (.error e,t) => (.error e,t) := by
  show (ExceptT.run (m >>= f)).run s = _
  rw [ExceptT.run_bind,StateT.run_bind]
  show StateT.run (match (result m s).1 with
    | .ok a => (f a).run
    | .error e => pure (.error e)) (result m s).2 = _
  generalize result m s = reached
  obtain ⟨outcome,t⟩ := reached
  cases outcome <;> rfl

theorem bindOk {m : Routine ε σ α} {f : α → Routine ε σ β} {s t a} (ok : result m s = (.ok a,t)) :
    result (m >>= f) s = result (f a) t := by
  rw [resultBind,ok]

theorem bindError {m : Routine ε σ α} {f : α → Routine ε σ β} {s t e} (failed : result m s = (.error e,t)) :
    result (m >>= f) s = (.error e,t) := by
  rw [resultBind,failed]

@[simp] theorem resultReject (condition : Prop) [Decidable condition] (e : ε) (s : σ) :
    result (rejectIf condition e) s = (if condition then .error e else .ok (),s) := by
  unfold rejectIf
  split <;> rfl

/-! A routine that never writes, one that never fails, one that fails only before it writes. -/

def ReadOnly (m : Routine ε σ α) : Prop := ∀ s, (result m s).2 = s

def Completes (m : Routine ε σ α) : Prop := ∀ s, ∃ a, (result m s).1 = .ok a

def Atomic (m : Routine ε σ α) : Prop := ∀ s e, (result m s).1 = .error e → (result m s).2 = s

/- A part of the state that the routine leaves as it was, also when it fails. -/
def Keeps (view : σ → γ) (m : Routine ε σ α) : Prop := ∀ s, view (result m s).2 = view s

section ReadOnly

theorem pureReadOnly (a : α) : ReadOnly (pure a : Routine ε σ α) := fun _ => rfl
theorem throwReadOnly (e : ε) : ReadOnly (throw e : Routine ε σ α) := fun _ => rfl
theorem getReadOnly : ReadOnly (get : Routine ε σ σ) := fun _ => rfl

theorem rejectReadOnly (condition : Prop) [Decidable condition] (e : ε) :
    ReadOnly (rejectIf condition e : Routine ε σ Unit) := by
  intro s
  rw [resultReject]

theorem bindReadOnly {m : Routine ε σ α} {f : α → Routine ε σ β} (first : ReadOnly m)
    (rest : ∀ a, ReadOnly (f a)) : ReadOnly (m >>= f) := by
  intro s
  have same := first s
  rcases reached : result m s with ⟨outcome,t⟩
  rw [reached] at same
  cases outcome with
  | error e =>
    rw [bindError reached]
    exact same
  | ok a =>
    rw [bindOk reached]
    exact (rest a t).trans same

end ReadOnly

section Completes

theorem pureCompletes (a : α) : Completes (pure a : Routine ε σ α) := fun _ => ⟨a,rfl⟩
theorem modifyCompletes (f : σ → σ) : Completes (modify f : Routine ε σ Unit) := fun _ => ⟨(),rfl⟩

theorem bindCompletes {m : Routine ε σ α} {f : α → Routine ε σ β} (first : Completes m)
    (rest : ∀ a, Completes (f a)) : Completes (m >>= f) := by
  intro s
  obtain ⟨a,ok⟩ := first s
  have reached : result m s = (.ok a,(result m s).2) := Prod.ext ok rfl
  rw [bindOk reached]
  exact rest a _

theorem foldCompletes {m : β → α → Routine ε σ β} (each : ∀ b a, Completes (m b a)) (items : List α)
    (b : β) : Completes (items.foldlM m b) := by
  induction items generalizing b with
  | nil => exact pureCompletes b
  | cons a rest ih =>
    rw [List.foldlM_cons]
    exact bindCompletes (each b a) ih

end Completes

section Atomic

theorem readOnlyAtomic {m : Routine ε σ α} (quiet : ReadOnly m) : Atomic m := fun s _ _ => quiet s

theorem completesAtomic {m : Routine ε σ α} (total : Completes m) : Atomic m := by
  intro s e failed
  obtain ⟨a,ok⟩ := total s
  rw [ok] at failed
  cases failed

/- Reading first keeps a routine atomic; whatever follows may write. -/
theorem bindAtomic {m : Routine ε σ α} {f : α → Routine ε σ β} (first : ReadOnly m)
    (rest : ∀ a, Atomic (f a)) : Atomic (m >>= f) := by
  intro s e failed
  have same := first s
  rcases reached : result m s with ⟨outcome,t⟩
  rw [reached] at same
  cases outcome with
  | error e =>
    rw [bindError reached]
    exact same
  | ok a =>
    rw [bindOk reached] at failed ⊢
    exact (rest a t e failed).trans same

/- An atomic routine may be followed by what cannot fail. -/
theorem thenAtomic {m : Routine ε σ α} {f : α → Routine ε σ β} (first : Atomic m)
    (rest : ∀ a, Completes (f a)) : Atomic (m >>= f) := by
  intro s e failed
  rcases reached : result m s with ⟨outcome,t⟩
  cases outcome with
  | error e =>
    have same := first s e (by rw [reached])
    rw [reached] at same
    rw [bindError reached]
    exact same
  | ok a =>
    obtain ⟨b,ok⟩ := rest a t
    rw [bindOk reached,ok] at failed
    cases failed

end Atomic

section Keeps
variable {view : σ → γ}

theorem readOnlyKeeps {m : Routine ε σ α} (quiet : ReadOnly m) : Keeps view m :=
  fun s => congrArg view (quiet s)

theorem modifyKeeps {f : σ → σ} (same : ∀ s, view (f s) = view s) :
    Keeps view (modify f : Routine ε σ Unit) := same

theorem bindKeeps {m : Routine ε σ α} {f : α → Routine ε σ β} (first : Keeps view m)
    (rest : ∀ a, Keeps view (f a)) : Keeps view (m >>= f) := by
  intro s
  have same := first s
  rcases reached : result m s with ⟨outcome,t⟩
  rw [reached] at same
  cases outcome with
  | error e =>
    rw [bindError reached]
    exact same
  | ok a =>
    rw [bindOk reached]
    exact (rest a t).trans same

end Keeps

end Ch58xHal.Routines
