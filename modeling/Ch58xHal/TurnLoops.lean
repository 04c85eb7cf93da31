import Ch58xHal.Triples

/-! Loops that go on until a pass says to stop, run for a number of turns. What a loop keeps
follows from what one pass keeps, and a loop ends once each pass that goes on makes something
smaller. Nothing here knows the program. -/
namespace Ch58xHal.TurnLoops
open Routines Triples

variable {ε σ S : Type} {pass : S → Routine ε σ (S × Bool)}

/- No outcome stands for a loop that still runs. -/
def repeatTurns (pass : S → Routine ε σ (S × Bool)) : Nat → S → Routine ε σ (Option S)
  | 0,_ => pure none
  | turns+1,s => do
    let turned ← pass s
    if turned.2 then repeatTurns pass turns turned.1 else pure (some turned.1)

theorem turnAgain {s t turned t'} (ran : result (pass s) t = (.ok (turned,true),t')) (turns : Nat) :
    result (repeatTurns pass (turns + 1) s) t = result (repeatTurns pass turns turned) t' := bindOk ran

theorem turnStops {s t turned t'} (ran : result (pass s) t = (.ok (turned,false),t')) (turns : Nat) :
    result (repeatTurns pass (turns + 1) s) t = (.ok (some turned),t') := bindOk ran

theorem turnFails {s t e t'} (ran : result (pass s) t = (.error e,t')) (turns : Nat) :
    result (repeatTurns pass (turns + 1) s) t = (.error e,t') := bindError ran

/- More turns change nothing once the loop has come to an end. -/
theorem loopSettled {turns more : Nat} (later : turns ≤ more) (s : S) (t : σ)
    (ended : (result (repeatTurns pass turns s) t).1 ≠ .ok none) :
    result (repeatTurns pass more s) t = result (repeatTurns pass turns s) t := by
  induction turns generalizing s t more with
  | zero => exact absurd rfl ended
  | succ turns ih =>
    obtain ⟨more,rfl⟩ := Nat.exists_eq_succ_of_ne_zero (Nat.ne_of_gt (Nat.lt_of_lt_of_le (Nat.succ_pos turns) later))
    rcases ran : result (pass s) t with ⟨e | ⟨turned,on⟩,t'⟩
    · rw [turnFails ran,turnFails ran]
    · cases on with
      | false => rw [turnStops ran,turnStops ran]
      | true =>
        rw [turnAgain ran] at ended ⊢
        rw [turnAgain ran]
        exact ih (Nat.le_of_succ_le_succ later) turned t' ended

/- A loop is at a pass that goes on, or has stopped after one. -/
def Reached (going stopped : S → σ → Prop) (finished : Option S) (t : σ) : Prop :=
  (finished = none ∧ ∃ s, going s t) ∨ ∃ s, finished = some s ∧ stopped s t

theorem loopTriple {going stopped : S → σ → Prop} {fail : ε → σ → Prop}
    (each : ∀ s, Triple (going s) (pass s)
      (fun turned t => (turned.2 = true → going turned.1 t) ∧ (turned.2 = false → stopped turned.1 t)) fail)
    (turns : Nat) (s : S) : Triple (going s) (repeatTurns pass turns s) (Reached going stopped) fail := by
  induction turns generalizing s with
  | zero => exact pureTriple fun t before => .inl ⟨rfl,s,before⟩
  | succ turns ih =>
    refine bindTriple (each s) fun turned => iteTriple (fun on => ?_) fun off => ?_
    · exact beforeTriple (ih turned.1) fun _ post => post.1 on
    · exact pureTriple fun _ post => .inr ⟨turned.1,rfl,post.2 (Bool.not_eq_true _ ▸ off)⟩

/- By induction on what the passes make smaller. -/
theorem loopEnds {going : S → σ → Prop} {smaller : S × σ → S × σ → Prop} (wf : WellFounded smaller)
    (each : ∀ s t s' t', going s t → result (pass s) t = (.ok (s',true),t') → going s' t' ∧ smaller (s',t') (s,t))
    (s : S) (t : σ) (start : going s t) : ∃ turns, (result (repeatTurns pass turns s) t).1 ≠ .ok none := by
  suffices ∀ here : S × σ, going here.1 here.2 →
      ∃ turns, (result (repeatTurns pass turns here.1) here.2).1 ≠ .ok none from this (s,t) start
  intro here
  induction here using wf.induction with
  | _ here ih =>
    intro holds
    rcases ran : result (pass here.1) here.2 with ⟨e | ⟨s',on⟩,t'⟩
    · exact ⟨1,by rw [turnFails ran]; exact fun absent => (nomatch absent)⟩
    · cases on with
      | false => exact ⟨1,by rw [turnStops ran]; exact fun absent => (nomatch absent)⟩
      | true =>
        obtain ⟨kept,less⟩ := each here.1 here.2 s' t' holds ran
        obtain ⟨turns,ended⟩ := ih (s',t') less kept
        exact ⟨turns + 1,by rw [turnAgain ran]; exact ended⟩

/-! A loop with what comes before and after it. -/

section Within
variable {A B : Type} {arm : Routine ε σ A} {passes : A → S → Routine ε σ (S × Bool)} {first : A → S}
  {conclude : S → Routine ε σ B}

def loopWithin (arm : Routine ε σ A) (passes : A → S → Routine ε σ (S × Bool)) (first : A → S)
    (conclude : S → Routine ε σ B) (turns : Nat) : Routine ε σ (Option B) := do
  let a ← arm
  match ← repeatTurns (passes a) turns (first a) with
  | none => pure none
  | some s => do pure (some (← conclude s))

def finishes : Except ε (Option B) → Bool
  | .ok (some _) => true
  | .ok none => false
  | .error _ => false

theorem finishesWith {outcome : Except ε (Option B)} (ended : finishes outcome = true) : ∃ b, outcome = .ok (some b) := by
  rcases outcome with e | (_ | b)
  · cases ended
  · cases ended
  · exact ⟨b,rfl⟩

/- With turns enough the whole has one outcome, which more turns do not change. -/
theorem withinEnds (t : σ) (ends : ∀ a t', result arm t = (.ok a,t') →
      ∃ turns, (result (repeatTurns (passes a) turns (first a)) t').1 ≠ .ok none) :
    ∃ enough outcome after, ∀ turns, enough ≤ turns →
      result (loopWithin arm passes first conclude turns) t = (Except.map some outcome,after) := by
  rcases armed : result arm t with ⟨e | a,t'⟩
  · exact ⟨0,.error e,t',fun _ _ => bindError armed⟩
  obtain ⟨enough,ended⟩ := ends a t' armed
  have settled := fun {turns} (later : enough ≤ turns) => loopSettled later (first a) t' ended
  rcases ran : result (repeatTurns (passes a) enough (first a)) t' with ⟨e | finished,t''⟩
  · refine ⟨enough,.error e,t'',fun turns later => ?_⟩
    unfold loopWithin
    rw [bindOk armed,bindError ((settled later).trans ran)]
    rfl
  cases finished with
  | none =>
    rw [ran] at ended
    exact absurd rfl ended
  | some s =>
    have concludes : ∀ turns, enough ≤ turns →
        result (loopWithin arm passes first conclude turns) t = result (conclude s >>= fun b => pure (some b)) t'' := by
      intro turns later
      unfold loopWithin
      rw [bindOk armed,bindOk ((settled later).trans ran)]
    rcases last : result (conclude s) t'' with ⟨e | b,after⟩
    · exact ⟨enough,.error e,after,fun turns later => (concludes turns later).trans (bindError last)⟩
    · exact ⟨enough,.ok b,after,fun turns later => (concludes turns later).trans (bindOk last)⟩

end Within

end Ch58xHal.TurnLoops
