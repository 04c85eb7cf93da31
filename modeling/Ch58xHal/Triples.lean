import Ch58xHal.Routines

/-! Pre- and postconditions of routines, with one postcondition for each way out. Nothing here
knows the program. -/
namespace Ch58xHal.Triples
open Routines

variable {ε σ α β : Type} {pre pre' : σ → Prop} {ok ok' : α → σ → Prop} {fail fail' : ε → σ → Prop}

def Triple (pre : σ → Prop) (m : Routine ε σ α) (ok : α → σ → Prop) (fail : ε → σ → Prop) : Prop :=
  ∀ s, pre s → match result m s with
    | (.ok a,t) => ok a t
    | (.error e,t) => fail e t

/- What holds on every way out. -/
theorem tripleAlways {m : Routine ε σ α} {always : σ → Prop}
    (triple : Triple pre m (fun a t => always t ∧ ok a t) fun _ => always) {s : σ} (before : pre s) :
    always (result m s).2 ∧ ∀ a, (result m s).1 = .ok a → ok a (result m s).2 := by
  have post := triple s before
  rcases ran : result m s with ⟨outcome,t⟩
  rw [ran] at post
  cases outcome with
  | error e => exact ⟨post,fun _ absent => (nomatch absent)⟩
  | ok a => exact ⟨post.1,fun b same => Except.ok.inj same ▸ post.2⟩

/- One postcondition of the outcome. -/
theorem tripleOutcome {m : Routine ε σ α} {post : Except ε α → σ → Prop}
    (triple : Triple pre m (fun a => post (.ok a)) fun e => post (.error e)) {s : σ} (before : pre s) :
    post (result m s).1 (result m s).2 := by
  have reached := triple s before
  rcases ran : result m s with ⟨outcome,t⟩
  rw [ran] at reached
  cases outcome with
  | error e => exact reached
  | ok a => exact reached

/- What holds of the state a call ends in holds on both ways out. -/
theorem stateTriple {m : Routine ε σ α} {post : σ → Prop} {start : σ} (reached : post (result m start).2) :
    Triple (fun s => s = start) m (fun _ => post) fun _ => post := by
  intro s same
  rw [same]
  split
  · rename_i ran
    rwa [ran] at reached
  · rename_i ran
    rwa [ran] at reached

theorem pureTriple {a : α} (holds : ∀ s, pre s → ok a s) : Triple pre (pure a : Routine ε σ α) ok fail := holds

theorem throwTriple {e : ε} (holds : ∀ s, pre s → fail e s) : Triple pre (throw e : Routine ε σ α) ok fail := holds

theorem modifyTriple {f : σ → σ} {ok : Unit → σ → Prop} (holds : ∀ s, pre s → ok () (f s)) :
    Triple pre (modify f : Routine ε σ Unit) ok fail := holds

theorem bindTriple {m : Routine ε σ α} {f : α → Routine ε σ β} {mid : α → σ → Prop} {last : β → σ → Prop}
    (first : Triple pre m mid fail) (rest : ∀ a, Triple (mid a) (f a) last fail) : Triple pre (m >>= f) last fail := by
  intro s before
  have post := first s before
  rcases ran : result m s with ⟨outcome,t⟩
  rw [ran] at post
  cases outcome with
  | error e =>
    rw [bindError ran]
    exact post
  | ok a =>
    rw [bindOk ran]
    exact rest a t post

/- What was read is the state itself. -/
theorem getTriple {f : σ → Routine ε σ α} (rest : ∀ s, pre s → Triple (fun t => t = s) (f s) ok fail) :
    Triple pre (get >>= f) ok fail := fun s before => by
  rw [bindOk (resultGet s)]
  exact rest s before s rfl

theorem resultCatch (m : Routine ε σ α) (handler : ε → Routine ε σ α) (s : σ) :
    result (tryCatch m handler) s = match result m s with
      | (.ok a,t) => (.ok a,t)
      | (.error e,t) => result (handler e) t := by
  show StateT.run (match (result m s).1 with
    | .ok a => pure (.ok a)
    | .error e => (handler e).run) (result m s).2 = _
  generalize result m s = reached
  obtain ⟨outcome,t⟩ := reached
  cases outcome <;> rfl

theorem catchTriple {m : Routine ε σ α} {handler : ε → Routine ε σ α} {mid : ε → σ → Prop}
    (first : Triple pre m ok mid) (rest : ∀ e, Triple (mid e) (handler e) ok fail) :
    Triple pre (tryCatch m handler) ok fail := by
  intro s before
  have post := first s before
  have caught := resultCatch m handler s
  rcases ran : result m s with ⟨outcome,t⟩
  rw [ran] at post caught
  rw [caught]
  cases outcome with
  | error e => exact rest e t post
  | ok a => exact post

theorem weakenTriple {m : Routine ε σ α} (triple : Triple pre m ok fail) (stronger : ∀ s, pre' s → pre s)
    (weaker : ∀ a s, ok a s → ok' a s) (failed : ∀ e s, fail e s → fail' e s) : Triple pre' m ok' fail' := by
  intro s before
  have post := triple s (stronger s before)
  rcases ran : result m s with ⟨outcome,t⟩
  rw [ran] at post
  cases outcome with
  | error e => exact failed e t post
  | ok a => exact weaker a t post

theorem beforeTriple {m : Routine ε σ α} (triple : Triple pre m ok fail) (stronger : ∀ s, pre' s → pre s) :
    Triple pre' m ok fail := fun s before => triple s (stronger s before)

theorem afterTriple {m : Routine ε σ α} (triple : Triple pre m ok fail) (weaker : ∀ a s, ok a s → ok' a s) :
    Triple pre m ok' fail := weakenTriple triple (fun _ before => before) weaker fun _ _ failed => failed

theorem assumeTriple {p : Prop} {m : Routine ε σ α} (triple : p → Triple pre m ok fail) :
    Triple (fun s => p ∧ pre s) m ok fail := fun s before => triple before.1 s before.2

theorem existsTriple {ι : Type} {pre : ι → σ → Prop} {m : Routine ε σ α} (each : ∀ i, Triple (pre i) m ok fail) :
    Triple (fun s => ∃ i, pre i s) m ok fail := fun s ⟨i,before⟩ => each i s before

theorem bothTriple {m : Routine ε σ α} (first : Triple pre m ok fail) (second : Triple pre' m ok' fail) :
    Triple (fun s => pre s ∧ pre' s) m (fun a s => ok a s ∧ ok' a s) fail := by
  intro s before
  have post := first s before.1
  have post' := second s before.2
  rcases ran : result m s with ⟨outcome,t⟩
  rw [ran] at post post'
  cases outcome with
  | error e => exact post
  | ok a => exact ⟨post,post'⟩

theorem rejectTriple {condition : Prop} [Decidable condition] {e : ε} {f : Unit → Routine ε σ α}
    (rejected : ∀ s, condition → pre s → fail e s) (rest : ¬condition → Triple pre (f ()) ok fail) :
    Triple pre (rejectIf condition e >>= f) ok fail := by
  intro s before
  by_cases met : condition
  · rw [bindError (show result (rejectIf condition e) s = _ by rw [resultReject,if_pos met])]
    exact rejected s met before
  · rw [bindOk (show result (rejectIf condition e) s = _ by rw [resultReject,if_neg met])]
    exact rest met s before

theorem iteTriple {condition : Prop} [Decidable condition] {m n : Routine ε σ α}
    (yes : condition → Triple pre m ok fail) (no : ¬condition → Triple pre n ok fail) :
    Triple pre (if condition then m else n) ok fail := by
  by_cases h : condition
  · rw [if_pos h]
    exact yes h
  · rw [if_neg h]
    exact no h

/- The loop rules: an invariant of the steps, by induction on what is left to do. -/

theorem foldTriple {m : β → α → Routine ε σ β} (inv : List α → β → σ → Prop)
    (step : ∀ a rest b, Triple (inv (a :: rest) b) (m b a) (inv rest) fail) (items : List α) (b : β) :
    Triple (inv items b) (items.foldlM m b) (inv []) fail := by
  induction items generalizing b with
  | nil => exact pureTriple fun _ held => held
  | cons a rest ih =>
    rw [List.foldlM_cons]
    exact bindTriple (step a rest b) ih

theorem forTriple {m : α → Routine ε σ PUnit} (inv : List α → σ → Prop)
    (step : ∀ a rest, Triple (inv (a :: rest)) (m a) (fun _ => inv rest) fail) (items : List α) :
    Triple (inv items) (forM items m) (fun _ => inv []) fail := by
  induction items with
  | nil => exact pureTriple fun _ held => held
  | cons a rest ih =>
    rw [List.forM_cons]
    exact bindTriple (step a rest) fun _ => ih

end Ch58xHal.Triples
