import Mathlib.Algebra.Order.Ring.Nat
import Mathlib.Data.List.Basic

/-! Deterministic machines driven by an environment. All nondeterminism (losses,
clocks, peer packets, call order) sits in the inputs, so a statement over every
history is a statement over every environment. Nothing here knows the program. -/
namespace Ch58xHal.Machines

structure Machine (σ ι ο : Type) where
  step : σ → ι → σ × ο

variable {σ ι ο τ κ π : Type}

/- The calls made so far with what each of them returned, and the state they lead to. -/
inductive History (m : Machine σ ι ο) (first : σ) : List (ι × ο) → σ → Prop where
  | start : History m first [] first
  | step {past s} (before : History m first past s) (i : ι) :
      History m first (past ++ [(i,(m.step s i).2)]) (m.step s i).1

def run (m : Machine σ ι ο) (s : σ) : List ι → List (ι × ο) × σ
  | [] => ([],s)
  | i :: rest =>
      let later := run m (m.step s i).1 rest
      ((i,(m.step s i).2) :: later.1,later.2)

theorem historyTrans {m : Machine σ ι ο} {first middle last past later}
    (before : History m first past middle) (after : History m middle later last) :
    History m first (past ++ later) last := by
  induction after with
  | start => simpa using before
  | step _ i ih => simpa only [List.append_assoc] using ih.step i

/- Every executable run is a history, which is how a concrete run is exhibited. -/
theorem runHistory (m : Machine σ ι ο) (s : σ) (inputs : List ι) :
    History m s (run m s inputs).1 (run m s inputs).2 := by
  induction inputs generalizing s with
  | nil => exact .start
  | cons i rest ih => simpa [run] using historyTrans (History.start.step i) (ih (m.step s i).1)

theorem runAppend (m : Machine σ ι ο) (s : σ) (before after : List ι) :
    run m s (before ++ after) = ((run m s before).1 ++ (run m (run m s before).2 after).1,
      (run m (run m s before).2 after).2) := by
  induction before generalizing s with
  | nil => rfl
  | cons i before ih => simp only [List.cons_append,run,ih]

/- And every history is the run of its calls. -/
theorem historyRuns {m : Machine σ ι ο} {first past s} (h : History m first past s) :
    run m first (past.map Prod.fst) = (past,s) := by
  induction h with
  | start => rfl
  | step before i ih => simp only [List.map_append,List.map_cons,List.map_nil,runAppend,ih,run]

/- Invariant rule over the state together with everything observed so far. -/
theorem historyInvariant {m : Machine σ ι ο} {first : σ} {I : List (ι × ο) → σ → Prop}
    (initial : I [] first)
    (kept : ∀ past s i, I past s → I (past ++ [(i,(m.step s i).2)]) (m.step s i).1)
    {past s} (h : History m first past s) : I past s := by
  induction h with
  | start => exact initial
  | step before i ih => exact kept _ _ i ih

/- The histories whose every step meets a condition on its input and the state before it. -/
inductive Guarded (m : Machine σ ι ο) (ok : σ → ι → Prop) (first : σ) : List (ι × ο) → σ → Prop where
  | start : Guarded m ok first [] first
  | step {past s} (before : Guarded m ok first past s) (i : ι) (meets : ok s i) :
      Guarded m ok first (past ++ [(i,(m.step s i).2)]) (m.step s i).1

theorem guardedHistory {m : Machine σ ι ο} {ok : σ → ι → Prop} {first past s}
    (h : Guarded m ok first past s) : History m first past s := by
  induction h with
  | start => exact .start
  | step before i meets ih => exact ih.step i

theorem stateInvariant {m : Machine σ ι ο} {first : σ} {I : σ → Prop} (initial : I first)
    (kept : ∀ s i, I s → I (m.step s i).1) {past s} (h : History m first past s) : I s := by
  induction h with
  | start => exact initial
  | step before i ih => exact kept _ i ih

/- Forward simulation: related states answer every input alike and stay related. -/
structure Simulates (m : Machine σ ι ο) (n : Machine τ ι π) (R : σ → τ → Prop)
    (view : ο → π) : Prop where
  answers : ∀ s t i, R s t → view (m.step s i).2 = (n.step t i).2
  related : ∀ s t i, R s t → R (m.step s i).1 (n.step t i).1

theorem simulatedHistory {m : Machine σ ι ο} {n : Machine τ ι π} {R : σ → τ → Prop}
    {view : ο → π} (sim : Simulates m n R view) {first : σ} {abstract : τ} (initial : R first abstract)
    {past s} (h : History m first past s) :
    ∃ t, History n abstract (past.map (fun call => (call.1,view call.2))) t ∧ R s t := by
  induction h with
  | start => exact ⟨abstract,.start,initial⟩
  | @step past s before i ih =>
    obtain ⟨t,shadow,related⟩ := ih
    refine ⟨(n.step t i).1,?_,sim.related s t i related⟩
    simpa [sim.answers s t i related] using shadow.step i

/- A log kept by one more observation. -/
theorem filterMapSnoc {α β : Type} (f : α → Option β) (past : List α) (x : α) :
    (past ++ [x]).filterMap f = past.filterMap f ++ (f x).toList := by
  rw [List.filterMap_append]
  cases h : f x <;> simp [h]

end Ch58xHal.Machines
