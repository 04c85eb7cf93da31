import Mathlib.Algebra.Order.Ring.Nat
import Mathlib.Data.List.Basic

/-! Loops that look again and again until they see what they wait for, and what is made of such
loops. How often they may look is a number; whether they end at all is up to what they look at.
Nothing here knows the program. -/
namespace Ch58xHal.Polling

variable {σ α β : Type}

section Loop
variable (look : σ → α × σ) (stop : α → Bool)

/- `none` is a loop that is still looking. -/
def poll : Nat → σ → Option σ
  | 0,_ => none
  | polls+1,s => if stop (look s).1 then some (look s).2 else poll polls (look s).2

/- The loop ends, however late. -/
inductive Ends : σ → Prop where
  | seen {s} (now : stop (look s).1 = true) : Ends s
  | later {s} (rest : Ends (look s).2) : Ends s

end Loop

section Loops
variable {look : σ → α × σ} {stop : α → Bool}

theorem pollMore {polls : Nat} {s t : σ} (ended : poll look stop polls s = some t) {more : Nat} (enough : polls ≤ more) :
    poll look stop more s = some t := by
  induction polls generalizing s more with
  | zero => cases ended
  | succ polls ih =>
    obtain ⟨more,rfl⟩ : ∃ k, more = k + 1 := ⟨more - 1,by omega⟩
    unfold poll at ended ⊢
    split at ended
    · rename_i now
      rw [if_pos now]
      exact ended
    · rename_i open_
      rw [if_neg open_]
      exact ih ended (by omega)

/- What every look keeps, and what the last one has seen. -/
theorem pollKeeps (inv seen : σ → Prop) (kept : ∀ s, inv s → inv (look s).2)
    (last : ∀ s, inv s → stop (look s).1 = true → seen (look s).2) {polls : Nat} {s t : σ} (before : inv s)
    (ended : poll look stop polls s = some t) : inv t ∧ seen t := by
  induction polls generalizing s with
  | zero => cases ended
  | succ polls ih =>
    unfold poll at ended
    split at ended
    · rename_i now
      cases ended
      exact ⟨kept s before,last s before now⟩
    · exact ih (kept s before) ended

theorem endsPoll {s : σ} (ends : Ends look stop s) : ∃ polls t, poll look stop polls s = some t := by
  induction ends with
  | seen now => exact ⟨1,_,if_pos now⟩
  | @later s rest ih =>
    obtain ⟨polls,t,ended⟩ := ih
    by_cases now : stop (look s).1 = true
    · exact ⟨1,_,if_pos now⟩
    · exact ⟨polls + 1,t,(if_neg now).trans ended⟩

end Loops

/-! What comes out once there are looks enough. -/

def Settles (f : Nat → Option α) (a : α) : Prop := ∃ enough, ∀ polls, enough ≤ polls → f polls = some a

theorem settlesAlways (a : α) : Settles (fun _ => some a) a := ⟨0,fun _ _ => rfl⟩

theorem settlesBind {f : Nat → Option α} {g : Nat → α → Option β} {a : α} {b : β} (first : Settles f a)
    (rest : Settles (fun polls => g polls a) b) : Settles (fun polls => f polls >>= g polls) b := by
  obtain ⟨enough,before⟩ := first
  obtain ⟨more,after⟩ := rest
  refine ⟨max enough more,fun polls many => ?_⟩
  show (f polls).bind (g polls) = _
  rw [before polls (by omega)]
  exact after polls (by omega)

theorem settlesPoll {look : σ → α × σ} {stop : α → Bool} {s : σ} (ends : Ends look stop s) : ∃ t, Settles (fun polls => poll look stop polls s) t := by
  obtain ⟨polls,t,ended⟩ := endsPoll ends
  exact ⟨t,polls,fun _ enough => pollMore ended enough⟩

end Ch58xHal.Polling
