import Mathlib.Algebra.BigOperators.Intervals
import Mathlib.Data.List.Basic

/-! Announced changes. An agenda lists what was announced, newest first, each entry with the
turn it is for; turns are naturals, while an announcement only carries the low 16 bits of
its own. At most one announcement waits, and it is ahead of everything that came before it.
Nothing here knows the program. -/
namespace Ch58xHal.Agenda

/-! Turns behind a wrapping counter. -/

def dateOf (n : Nat) (instant : UInt16) : Nat := n + (instant - UInt16.ofNat n).toNat

theorem dateInstant (n : Nat) (instant : UInt16) : UInt16.ofNat (dateOf n instant) = instant := by
  unfold dateOf
  rw [UInt16.ofNat_add,UInt16.ofNat_toNat,UInt16.add_comm]
  exact UInt16.sub_add_cancel instant (UInt16.ofNat n)

theorem dateRange (n : Nat) (instant : UInt16) : n ≤ dateOf n instant ∧ dateOf n instant < n + 65536 := by
  have bound := (instant - UInt16.ofNat n).toNat_lt
  unfold dateOf
  omega

theorem sameTurn {n j : Nat} (ahead : n ≤ j) (near : j < n + 65536) :
    UInt16.ofNat j = UInt16.ofNat n ↔ j = n := by
  constructor
  · intro same
    have low := congrArg UInt16.toNat same
    rw [UInt16.toNat_ofNat',UInt16.toNat_ofNat'] at low
    omega
  · rintro rfl
    rfl

/-! What is in force. -/

variable {α : Type}

def latest (first : α) (agenda : List (Nat × α)) (n : Nat) : Nat × α :=
  (agenda.find? fun entry => decide (entry.1 ≤ n)).getD (0,first)

def Past (agenda : List (Nat × α)) (n : Nat) : Prop := ∀ entry ∈ agenda, entry.1 ≤ n

section Latest
variable (first : α)

theorem latestAhead {rest : List (Nat × α)} {n j x} (ahead : n < j) :
    latest first ((j,x) :: rest) n = latest first rest n := by
  have later : ¬j ≤ n := Nat.not_le.mpr ahead
  simp [latest,later]

theorem latestDue {rest : List (Nat × α)} {n j x} (due : j ≤ n) :
    latest first ((j,x) :: rest) n = (j,x) := by
  simp [latest,due]

theorem latestPast {agenda : List (Nat × α)} {n} (past : Past agenda n) :
    latest first agenda (n+1) = latest first agenda n := by
  cases agenda with
  | nil => rfl
  | cons entry rest =>
    have due : entry.1 ≤ n := past entry List.mem_cons_self
    rw [latestDue first (Nat.le_succ_of_le due),latestDue first due]

theorem latestDate (agenda : List (Nat × α)) (n : Nat) : (latest first agenda n).1 ≤ n := by
  unfold latest
  cases found : agenda.find? fun entry => decide (entry.1 ≤ n) with
  | none => exact Nat.zero_le n
  | some entry => simpa using List.find?_some found

end Latest

theorem pastNext {agenda : List (Nat × α)} {n} (past : Past agenda n) : Past agenda (n+1) :=
  fun entry member => Nat.le_succ_of_le (past entry member)

/-! What falls due after turn `k` and up to turn `n`. -/

section Accrued
variable (amount : α → Nat)

def accrued (agenda : List (Nat × α)) (k n : Nat) : Nat :=
  ((agenda.filter fun entry => decide (k < entry.1 ∧ entry.1 ≤ n)).map fun entry => amount entry.2).sum

theorem accruedHere (agenda : List (Nat × α)) (n : Nat) : accrued amount agenda n n = 0 := by
  have none : (agenda.filter fun entry => decide (n < entry.1 ∧ entry.1 ≤ n)) = [] := by
    rw [List.filter_eq_nil_iff]
    intro entry _ inside
    have inside : n < entry.1 ∧ entry.1 ≤ n := of_decide_eq_true inside
    omega
  rw [accrued,none]
  rfl

theorem accruedPast {agenda : List (Nat × α)} {k n} (past : Past agenda n) :
    accrued amount agenda k (n+1) = accrued amount agenda k n := by
  have same : (agenda.filter fun entry => decide (k < entry.1 ∧ entry.1 ≤ n+1)) =
      agenda.filter fun entry => decide (k < entry.1 ∧ entry.1 ≤ n) := by
    refine List.filter_congr fun entry member => ?_
    have due := past entry member
    rw [decide_eq_decide]
    omega
  rw [accrued,accrued,same]

theorem accruedCons (rest : List (Nat × α)) (k n j x) :
    accrued amount ((j,x) :: rest) k n =
      (if k < j ∧ j ≤ n then amount x else 0) + accrued amount rest k n := by
  unfold accrued
  by_cases inside : k < j ∧ j ≤ n
  · rw [List.filter_cons_of_pos (by simpa using inside),if_pos inside]
    rfl
  · rw [List.filter_cons_of_neg (by simpa using inside),if_neg inside,Nat.zero_add]

end Accrued

/-! The one announcement that waits. -/

/- The last argument is the entry in force now. -/
inductive Awaits (instant : α → UInt16) (first : α) (n : Nat) : List (Nat × α) → Option α → Nat × α → Prop where
  | settled {agenda} (past : Past agenda n) : Awaits instant first n agenda none (latest first agenda n)
  | waiting {rest j x} (past : Past rest n) (ahead : n ≤ j) (near : j < n + 65536)
      (dated : instant x = UInt16.ofNat j) :
      Awaits instant first n ((j,x) :: rest) (some x) (latest first rest n)

def due (instant : α → UInt16) (n : Nat) (pending : Option α) : Bool :=
  pending.any fun x => instant x == UInt16.ofNat n

/- What the waiting announcement adds once the counter shows `turn`. -/
def added (instant : α → UInt16) (amount : α → Nat) (turn : UInt16) : Option α → Nat
  | some x => if instant x = turn then amount x else 0
  | none => 0

section Awaits
variable {instant : α → UInt16} {first : α} {n : Nat} {agenda : List (Nat × α)} {pending : Option α}
  {entry : Nat × α}

/- Nothing is due: the entry in force is the one the agenda gives. -/
theorem awaitsQuiet (waits : Awaits instant first n agenda pending entry) (quiet : due instant n pending = false) :
    entry = latest first agenda n := by
  cases waits with
  | settled past => rfl
  | @waiting rest j x past ahead near dated =>
    have other : j ≠ n := by
      rintro rfl
      simp [due,dated] at quiet
    rw [latestAhead first (by omega)]

theorem awaitsDue {x} (waits : Awaits instant first n agenda (some x) entry)
    (now : instant x = UInt16.ofNat n) : latest first agenda n = (n,x) ∧ Past agenda n := by
  cases waits with
  | @waiting rest j _ past ahead near dated =>
    have turn : j = n := (sameTurn ahead near).mp (dated.symm.trans now)
    subst turn
    exact ⟨latestDue first (Nat.le_refl _),List.forall_mem_cons.mpr ⟨Nat.le_refl _,past⟩⟩

theorem awaitsSettle (waits : Awaits instant first n agenda pending entry) :
    Awaits instant first n agenda (if due instant n pending then none else pending) (latest first agenda n) := by
  cases isDue : due instant n pending with
  | false =>
    rw [if_neg Bool.false_ne_true,← awaitsQuiet waits isDue]
    exact waits
  | true =>
    cases pending with
    | none => cases isDue
    | some x =>
      have now : instant x = UInt16.ofNat n := by simpa [due] using isDue
      rw [if_pos rfl]
      exact .settled (awaitsDue waits now).2

theorem awaitsNext (waits : Awaits instant first n agenda pending entry) (quiet : due instant n pending = false) :
    Awaits instant first (n+1) agenda pending entry := by
  cases waits with
  | settled past =>
    rw [← latestPast first past]
    exact .settled (pastNext past)
  | @waiting rest j x past ahead near dated =>
    have other : j ≠ n := by
      rintro rfl
      simp [due,dated] at quiet
    rw [← latestPast first past]
    exact .waiting (pastNext past) (by omega) (by omega) dated

theorem awaitsAnnounce (waits : Awaits instant first n agenda none entry) (x : α) :
    Awaits instant first n ((dateOf n (instant x),x) :: agenda) (some x) entry := by
  cases waits with
  | settled past =>
    obtain ⟨ahead,near⟩ := dateRange n (instant x)
    exact .waiting past ahead near (dateInstant n (instant x)).symm

theorem accruedNext (amount : α → Nat) {k} (waits : Awaits instant first n agenda pending entry)
    (quiet : due instant n pending = false) (earlier : k ≤ n) :
    accrued amount agenda k (n+1) = accrued amount agenda k n +
      added instant amount (UInt16.ofNat (n+1)) pending := by
  cases waits with
  | settled past =>
    rw [accruedPast amount past]
    rfl
  | @waiting rest j x past ahead near dated =>
    have other : j ≠ n := by
      rintro rfl
      simp [due,dated] at quiet
    have turn := sameTurn (show n + 1 ≤ j by omega) (show j < n + 1 + 65536 by omega)
    have before : ¬(k < j ∧ j ≤ n) := by omega
    rw [accruedCons,accruedCons,accruedPast amount past,if_neg before,Nat.zero_add,Nat.add_comm]
    congr 1
    rw [added,dated]
    refine if_congr ?_ rfl rfl
    rw [turn]
    omega

end Awaits

end Ch58xHal.Agenda
