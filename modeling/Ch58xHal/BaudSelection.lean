import Ch58xHal.CheckedArithmetic
import Mathlib.Data.List.MinMax
import Mathlib.Order.Lattice.Nat

/-! The search for the UART divider pair: one rounded latch is tried for every predivider, and
the first least error is kept. -/
namespace Ch58xHal.BaudSelection
open CheckedArithmetic

structure BaudDividers where
  predivider : UInt8
  latch : UInt16
  actual : UInt32
  errorPpm : UInt32
  deriving DecidableEq, Repr

-- The predivider register encodes 128 as zero.
def BaudDividers.div (dividers : BaudDividers) : Nat :=
  if dividers.predivider = 0 then 128 else dividers.predivider.toNat

def absDiff (a b : Nat) : Nat := if a < b then b - a else a - b

/- One turn of the loop: `some none` is a rounded latch that does not fit its register. -/
def candidate (clockHz baudrate : UInt32) (predivider : Nat) : Option (Option BaudDividers) := do
  let eighth ← unsigned 64 (8 * predivider)
  let denominator ← unsigned 64 (eighth * baudrate.toNat)
  let roundedLatch ← divide (← unsigned 64 (clockHz.toNat + denominator / 2)) denominator
  if 1 ≤ roundedLatch ∧ roundedLatch ≤ 65535 then
    let actual := UInt32.ofNat (← divide clockHz.toNat (← unsigned 64 (eighth * roundedLatch)))
    let difference := absDiff actual.toNat baudrate.toNat
    let errorPpm := UInt32.ofNat (← divide (← unsigned 64 (difference * 1000000)) baudrate.toNat)
    some (some ⟨if predivider = 128 then 0 else UInt8.ofNat predivider,UInt16.ofNat roundedLatch,actual,errorPpm⟩)
  else some none

def keepBest (best : Option BaudDividers) (candidate : BaudDividers) : Option BaudDividers :=
  match best with
  | none => some candidate
  | some kept => if candidate.errorPpm < kept.errorPpm then some candidate else some kept

def selectBaud (clockHz baudrate : UInt32) : Option (Option BaudDividers) :=
  if clockHz = 0 ∨ baudrate = 0 then some none
  else (List.range' 1 128).foldlM (fun best predivider => do
    match ← candidate clockHz baudrate predivider with
    | none => some best
    | some new => some (keepBest best new)) none

example : selectBaud 60000000 115200 = some (some ⟨1,65,115384,1597⟩) := by decide

/-! Rates and errors as plain numbers, for a pair with product `div * latch`. -/

def actualOf (clock product : Nat) : Nat := clock / (8 * product)

def errorOf (clock baud product : Nat) : Nat := absDiff (actualOf clock product) baud * 1000000 / baud

-- clock / (8 * div * baud), rounded to the nearest number and up from the middle
def roundedLatch (clock baud div : Nat) : Nat := (clock + 8 * div * baud / 2) / (8 * div * baud)

def DivRange (div : Nat) : Prop := 1 ≤ div ∧ div ≤ 128

def LatchRange (latch : Nat) : Prop := 1 ≤ latch ∧ latch ≤ 65535
instance (latch) : Decidable (LatchRange latch) := by unfold LatchRange; infer_instance

theorem absDiffMono {a b baud : Nat} (apart : baud ≤ a ∧ a ≤ b ∨ b ≤ a ∧ a ≤ baud) :
    absDiff a baud ≤ absDiff b baud := by
  unfold absDiff
  split <;> split <;> omega

theorem errorMono {clock baud near far : Nat}
    (nearer : absDiff (actualOf clock near) baud ≤ absDiff (actualOf clock far) baud) :
    errorOf clock baud near ≤ errorOf clock baud far :=
  Nat.div_le_div_right (Nat.mul_le_mul_right _ nearer)

/- Up to clock / (8 * baud) a larger product is a better one. -/
theorem errorBelow {clock baud near far : Nat} (positive : 0 < far) (closer : far ≤ near)
    (below : 8 * near * baud ≤ clock) : errorOf clock baud near ≤ errorOf clock baud far := by
  have rate : baud ≤ actualOf clock near := by
    rw [actualOf,Nat.le_div_iff_mul_le (by omega),Nat.mul_comm]
    exact below
  exact errorMono (absDiffMono (.inl ⟨rate,Nat.div_le_div_left (by omega) (by omega)⟩))

/- Above it, a smaller one. -/
theorem errorAbove {clock baud near far : Nat} (positive : 0 < near) (closer : near ≤ far)
    (above : clock < 8 * near * baud) : errorOf clock baud near ≤ errorOf clock baud far := by
  have rate : actualOf clock near < baud := by
    rw [actualOf,Nat.div_lt_iff_lt_mul (by omega),Nat.mul_comm]
    exact above
  exact errorMono (absDiffMono (.inr ⟨Nat.div_le_div_left (by omega) (by omega),Nat.le_of_lt rate⟩))

/-! One turn computes what the plain numbers say. -/

/- The registers decode to the pair, and the report is the rate and the error of the pair. -/
structure Reports (clock baud div latch : Nat) (dividers : BaudDividers) : Prop where
  divided : dividers.div = div
  latched : dividers.latch.toNat = latch
  rate : dividers.actual.toNat = actualOf clock (div * latch)
  error : dividers.errorPpm.toNat = errorOf clock baud (div * latch)

/- A rounded latch is more than half of the exact quotient, so its rate is at most twice the
wanted one. -/
theorem roundedError {clock baud div : Nat} (positive : 0 < baud) (range : DivRange div)
    (latch : 1 ≤ roundedLatch clock baud div) :
    errorOf clock baud (div * roundedLatch clock baud div) ≤ 1000000 := by
  have step : 0 < 8 * div * baud := Nat.mul_pos (Nat.mul_pos (by decide) range.1) positive
  have rounding : clock + 8 * div * baud / 2 < 8 * div * baud * (roundedLatch clock baud div + 1) :=
    Nat.lt_mul_div_succ _ step
  generalize roundedLatch clock baud div = rounded at latch rounding ⊢
  have double : clock ≤ 8 * (div * rounded) * (2 * baud) := by
    calc clock ≤ 8 * div * baud * (rounded + 1) := by omega
      _ ≤ 8 * div * baud * (rounded * 2) := Nat.mul_le_mul_left _ (by omega)
      _ = 8 * (div * rounded) * (2 * baud) := by ac_rfl
  have rate : actualOf clock (div * rounded) ≤ 2 * baud := Nat.div_le_of_le_mul double
  have difference : absDiff (actualOf clock (div * rounded)) baud ≤ baud := by
    unfold absDiff
    split <;> omega
  exact Nat.div_le_of_le_mul (Nat.mul_le_mul_right _ difference)

theorem predividerDecoded {div : Nat} {latch : UInt16} {actual errorPpm : UInt32} (range : DivRange div) :
    BaudDividers.div ⟨if div = 128 then 0 else UInt8.ofNat div,latch,actual,errorPpm⟩ = div := by
  obtain ⟨least,most⟩ := range
  unfold BaudDividers.div
  by_cases encoded : div = 128
  · simp [encoded]
  · have kept : (UInt8.ofNat div).toNat = div := by
      rw [UInt8.toNat_ofNat',Nat.mod_eq_of_lt (by omega)]
    have nonzero : UInt8.ofNat div ≠ 0 := by
      intro zero
      have none := congrArg UInt8.toNat zero
      rw [kept] at none
      exact Nat.ne_of_gt least none
    simp only [if_neg encoded,if_neg nonzero,kept]

theorem reported {clockHz baudrate : UInt32} {div latch : Nat} (range : DivRange div) (fits : LatchRange latch)
    (error : errorOf clockHz.toNat baudrate.toNat (div * latch) ≤ 1000000) {rate difference : Nat}
    (quotient : rate = actualOf clockHz.toNat (div * latch))
    (apart : difference = absDiff (UInt32.ofNat rate).toNat baudrate.toNat) :
    Reports clockHz.toNat baudrate.toNat div latch
      ⟨if div = 128 then 0 else UInt8.ofNat div,UInt16.ofNat latch,UInt32.ofNat rate,
        UInt32.ofNat (difference * 1000000 / baudrate.toNat)⟩ := by
  have clockSmall : clockHz.toNat < 2^32 := clockHz.toNat_lt
  have rateSmall : rate < 2^32 := by
    rw [quotient]
    exact Nat.lt_of_le_of_lt (Nat.div_le_self ..) clockSmall
  have rateKept : (UInt32.ofNat rate).toNat = actualOf clockHz.toNat (div * latch) := by
    rw [UInt32.toNat_ofNat',Nat.mod_eq_of_lt rateSmall,quotient]
  refine ⟨?_,?_,rateKept,?_⟩
  · exact predividerDecoded range
  · rw [UInt16.toNat_ofNat',Nat.mod_eq_of_lt (Nat.lt_of_le_of_lt fits.2 (by decide))]
  · have same : difference * 1000000 / baudrate.toNat = errorOf clockHz.toNat baudrate.toNat (div * latch) := by
      rw [apart,rateKept]
      rfl
    rw [same,UInt32.toNat_ofNat',Nat.mod_eq_of_lt (Nat.lt_of_le_of_lt error (by decide))]

theorem candidateExact {clockHz baudrate : UInt32} {div : Nat} (positive : 0 < baudrate.toNat)
    (range : DivRange div) :
    (¬LatchRange (roundedLatch clockHz.toNat baudrate.toNat div) ∧ candidate clockHz baudrate div = some none) ∨
    (LatchRange (roundedLatch clockHz.toNat baudrate.toNat div) ∧
      ∃ dividers, candidate clockHz baudrate div = some (some dividers) ∧
        Reports clockHz.toNat baudrate.toNat div (roundedLatch clockHz.toNat baudrate.toNat div) dividers) := by
  have clockSmall : clockHz.toNat < 2^32 := clockHz.toNat_lt
  have baudSmall : baudrate.toNat < 2^32 := baudrate.toNat_lt
  obtain ⟨least,most⟩ := range
  have eighthFits : 8 * div < 2^64 := by omega
  have denominatorSmall : 8 * div * baudrate.toNat ≤ 1024 * 2^32 := Nat.mul_le_mul (by omega) (by omega)
  have denominatorFits : 8 * div * baudrate.toNat < 2^64 := by omega
  have sumFits : clockHz.toNat + 8 * div * baudrate.toNat / 2 < 2^64 := by omega
  have nonzero : 8 * div * baudrate.toNat ≠ 0 :=
    Nat.pos_iff_ne_zero.mp (Nat.mul_pos (by omega) positive)
  have latch : (clockHz.toNat + 8 * div * baudrate.toNat / 2) / (8 * div * baudrate.toNat) =
      roundedLatch clockHz.toNat baudrate.toNat div := rfl
  have error : 1 ≤ roundedLatch clockHz.toNat baudrate.toNat div → _ := roundedError positive ⟨least,most⟩
  unfold candidate
  simp only [Option.bind_eq_bind,unsignedFits eighthFits,Option.bind_some,unsignedFits denominatorFits,
    unsignedFits sumFits,divideBy nonzero,latch]
  generalize roundedLatch clockHz.toNat baudrate.toNat div = rounded at error ⊢
  by_cases fits : LatchRange rounded
  · refine .inr ⟨fits,?_⟩
    have scaleSmall : 8 * div * rounded ≤ 1024 * 65535 := Nat.mul_le_mul (by omega) fits.2
    have scaleFits : 8 * div * rounded < 2^64 := by omega
    have scaleNonzero : 8 * div * rounded ≠ 0 :=
      Nat.pos_iff_ne_zero.mp (Nat.mul_pos (by omega) fits.1)
    rw [if_pos (show 1 ≤ rounded ∧ rounded ≤ 65535 from fits)]
    rw [unsignedFits scaleFits,Option.bind_some,divideBy scaleNonzero,Option.bind_some]
    generalize apart : absDiff (UInt32.ofNat (clockHz.toNat / (8 * div * rounded))).toNat baudrate.toNat = difference
    have differenceSmall : difference < 2^32 := by
      have rateSmall := (UInt32.ofNat (clockHz.toNat / (8 * div * rounded))).toNat_lt
      unfold absDiff at apart
      split at apart <;> omega
    have productFits : difference * 1000000 < 2^64 := by omega
    rw [unsignedFits productFits,Option.bind_some,divideBy (Nat.pos_iff_ne_zero.mp positive),Option.bind_some]
    exact ⟨_,rfl,reported ⟨least,most⟩ fits (error fits.1) (by rw [actualOf,Nat.mul_assoc]) apart.symm⟩
  · exact .inl ⟨fits,if_neg fits⟩

/-! The loop keeps the first least error, as `List.argmin` does. -/

theorem keepBestLeast (best : Option BaudDividers) (new : BaudDividers) :
    keepBest best new = List.argAux (fun b c => b.errorPpm.toNat < c.errorPpm.toNat) best new := by
  cases best <;> rfl

def Tried (clock baud div : Nat) : Prop := DivRange div ∧ LatchRange (roundedLatch clock baud div)

/- Every turn adds at most one candidate, and it reports a tried pair. -/
structure Searched (clockHz baudrate : UInt32) (divs : List Nat) (candidates : List BaudDividers) : Prop where
  sound : ∀ dividers ∈ candidates, ∃ div ∈ divs,
    Tried clockHz.toNat baudrate.toNat div ∧
      Reports clockHz.toNat baudrate.toNat div (roundedLatch clockHz.toNat baudrate.toNat div) dividers
  complete : ∀ div ∈ divs, Tried clockHz.toNat baudrate.toNat div → ∃ dividers ∈ candidates,
    Reports clockHz.toNat baudrate.toNat div (roundedLatch clockHz.toNat baudrate.toNat div) dividers

theorem loopSearched {clockHz baudrate : UInt32} (positive : 0 < baudrate.toNat) (divs : List Nat)
    (range : ∀ div ∈ divs, DivRange div) (best : Option BaudDividers) :
    ∃ candidates, Searched clockHz baudrate divs candidates ∧
      divs.foldlM (fun best predivider => do
        match ← candidate clockHz baudrate predivider with
        | none => some best
        | some new => some (keepBest best new)) best =
      some (candidates.foldl (List.argAux fun b c => b.errorPpm.toNat < c.errorPpm.toNat) best) := by
  induction divs generalizing best with
  | nil => exact ⟨[],⟨fun _ absent => (nomatch absent),fun _ absent => (nomatch absent)⟩,rfl⟩
  | cons div rest ih =>
    have rests : ∀ div ∈ rest, DivRange div := fun other member => range other (List.mem_cons_of_mem _ member)
    rw [List.foldlM_cons]
    rcases candidateExact positive (range div List.mem_cons_self) with ⟨outside,skipped⟩ | ⟨fits,new,found,reports⟩
    · obtain ⟨candidates,searched,loop⟩ := ih rests best
      rw [skipped]
      refine ⟨candidates,⟨?_,?_⟩,loop⟩
      · intro dividers member
        obtain ⟨old,known,tried⟩ := searched.sound dividers member
        exact ⟨old,List.mem_cons_of_mem _ known,tried⟩
      · intro other member tried
        rcases List.mem_cons.mp member with here | there
        · exact absurd (here ▸ tried.2) outside
        · exact searched.complete other there tried
    · obtain ⟨candidates,searched,loop⟩ := ih rests (keepBest best new)
      rw [found]
      refine ⟨new :: candidates,⟨?_,?_⟩,?_⟩
      · intro dividers member
        rcases List.mem_cons.mp member with here | there
        · exact ⟨div,List.mem_cons_self,⟨range div List.mem_cons_self,fits⟩,here ▸ reports⟩
        · obtain ⟨old,known,tried⟩ := searched.sound dividers there
          exact ⟨old,List.mem_cons_of_mem _ known,tried⟩
      · intro other member tried
        rcases List.mem_cons.mp member with here | there
        · exact ⟨new,List.mem_cons_self,here ▸ reports⟩
        · obtain ⟨old,known,report⟩ := searched.complete other there tried
          exact ⟨old,List.mem_cons_of_mem _ known,report⟩
      · rw [List.foldl_cons,← keepBestLeast]
        exact loop

theorem nothingTried {clock baud : Nat} (zero : clock = 0 ∨ baud = 0) (div : Nat) : ¬Tried clock baud div := by
  intro tried
  have latch : roundedLatch clock baud div = 0 := by
    rcases zero with stopped | stopped
    · rw [roundedLatch,stopped,Nat.zero_add]
      generalize 8 * div * baud = step
      rcases Nat.eq_zero_or_pos step with none | some
      · rw [none]
      · exact Nat.div_eq_of_lt (by omega)
    · rw [roundedLatch,stopped,Nat.mul_zero,Nat.div_zero]
  have least := tried.2.1
  omega

theorem selectSearched (clockHz baudrate : UInt32) : ∃ outcome, selectBaud clockHz baudrate = some outcome ∧
    (outcome = none → ∀ div, ¬Tried clockHz.toNat baudrate.toNat div) ∧
    ∀ dividers, outcome = some dividers →
      (∃ div, Tried clockHz.toNat baudrate.toNat div ∧
        Reports clockHz.toNat baudrate.toNat div (roundedLatch clockHz.toNat baudrate.toNat div) dividers) ∧
      ∀ div, Tried clockHz.toNat baudrate.toNat div → dividers.errorPpm.toNat ≤
        errorOf clockHz.toNat baudrate.toNat (div * roundedLatch clockHz.toNat baudrate.toNat div) := by
  unfold selectBaud
  by_cases zero : clockHz = 0 ∨ baudrate = 0
  · have stopped : clockHz.toNat = 0 ∨ baudrate.toNat = 0 := by
      rcases zero with rfl | rfl
      · exact .inl rfl
      · exact .inr rfl
    rw [if_pos zero]
    exact ⟨none,rfl,fun _ => nothingTried stopped,fun _ absent => (nomatch absent)⟩
  · have positive : 0 < baudrate.toNat := by
      refine Nat.pos_of_ne_zero fun none => zero (.inr ?_)
      exact UInt32.toNat_inj.mp none
    have range : ∀ div ∈ List.range' 1 128, DivRange div := by
      intro div member
      obtain ⟨least,most⟩ := List.mem_range'_1.mp member
      exact ⟨least,by omega⟩
    obtain ⟨candidates,searched,loop⟩ := loopSearched positive (List.range' 1 128) range none
    rw [if_neg zero]
    refine ⟨candidates.argmin (fun dividers => dividers.errorPpm.toNat),loop,?_,?_⟩
    · intro empty div tried
      obtain ⟨dividers,member,_⟩ := searched.complete div
        (List.mem_range'_1.mpr ⟨tried.1.1,by have := tried.1.2; omega⟩) tried
      rw [List.argmin_eq_none.mp empty] at member
      cases member
    · intro dividers found
      obtain ⟨div,_,tried,reports⟩ := searched.sound dividers (List.argmin_mem found)
      refine ⟨⟨div,tried,reports⟩,fun other known => ?_⟩
      obtain ⟨rival,member,report⟩ := searched.complete other
        (List.mem_range'_1.mpr ⟨known.1.1,by have := known.1.2; omega⟩) known
      rw [← report.error]
      exact List.le_of_mem_argmin (f := fun dividers => dividers.errorPpm.toNat) member found

/-! A product is tried when one of its dividers is wide enough: the rounded latch of a divider
is off by at most half of it. -/

def Product (product : Nat) : Prop := ∃ div latch, DivRange div ∧ LatchRange latch ∧ product = div * latch

-- the product is within half of the divider of clock / (8 * baud)
def Near (clock baud div product : Nat) : Prop :=
  2 * product * (8 * baud) ≤ 2 * clock + div * (8 * baud) ∧ 2 * clock < (2 * product + div) * (8 * baud)

def Reached (clock baud product : Nat) : Prop :=
  ∃ div, DivRange div ∧ div ∣ product ∧ LatchRange (product / div) ∧ Near clock baud div product

theorem roundedNear {clock baud div latch : Nat} (positive : 0 < baud) (range : DivRange div) :
    roundedLatch clock baud div = latch ↔ Near clock baud div (div * latch) := by
  have half : 8 * div * baud = 2 * (4 * (div * baud)) := by
    rw [Nat.mul_assoc 8,← Nat.mul_assoc 2]
  have step : 0 < 8 * div * baud := Nat.mul_pos (Nat.mul_pos (by decide) range.1) positive
  have wide : div * (8 * baud) = 8 * div * baud := by ac_rfl
  have twice : 2 * (div * latch) * (8 * baud) = 2 * (8 * div * baud * latch) := by ac_rfl
  have next : 8 * div * baud * (latch + 1) = 8 * div * baud * latch + 8 * div * baud := Nat.mul_succ ..
  have within : roundedLatch clock baud div = latch ↔
      latch ≤ roundedLatch clock baud div ∧ roundedLatch clock baud div < latch + 1 := by omega
  rw [within,roundedLatch,Nat.le_div_iff_mul_le step,Nat.div_lt_iff_lt_mul step,Nat.mul_comm latch,
    Nat.mul_comm (latch + 1),next,Near,Nat.add_mul (2 * (div * latch)),wide,twice]
  omega

theorem nearWider {clock baud div wider product : Nat} (more : div ≤ wider) (near : Near clock baud div product) :
    Near clock baud wider product := by
  have spread : div * (8 * baud) ≤ wider * (8 * baud) := Nat.mul_le_mul_right _ more
  unfold Near at near ⊢
  rw [Nat.add_mul] at near ⊢
  omega

theorem reachedTried {clock baud product : Nat} :
    Reached clock baud product ↔ ∃ div, Tried clock baud div ∧ product = div * roundedLatch clock baud div := by
  constructor
  · rintro ⟨div,range,⟨latch,rfl⟩,fits,near⟩
    have positive : 0 < baud := by
      refine Nat.pos_of_ne_zero fun zero => ?_
      rw [zero] at near
      exact Nat.not_lt_zero _ near.2
    rw [Nat.mul_div_cancel_left latch range.1] at fits
    have rounded := (roundedNear positive range).mpr near
    exact ⟨div,⟨range,rounded ▸ fits⟩,rounded ▸ rfl⟩
  · rintro ⟨div,tried,rfl⟩
    have positive : 0 < baud := by
      refine Nat.pos_of_ne_zero fun zero => ?_
      exact nothingTried (.inr zero) div tried
    refine ⟨div,tried.1,Nat.dvd_mul_right ..,?_,(roundedNear positive tried.1).mp rfl⟩
    rw [Nat.mul_div_cancel_left _ tried.1.1]
    exact tried.2

theorem reachedProduct {clock baud product : Nat} (reached : Reached clock baud product) : Product product := by
  obtain ⟨div,tried,same⟩ := reachedTried.mp reached
  exact ⟨div,_,tried.1,tried.2,same⟩

theorem productPositive {product : Nat} (pair : Product product) : 0 < product := by
  obtain ⟨div,latch,range,fits,rfl⟩ := pair
  exact Nat.mul_pos range.1 fits.1

def LeastError (clockHz baudrate : UInt32) : Prop :=
  ∃ outcome, selectBaud clockHz baudrate = some outcome ∧ ∀ dividers, outcome = some dividers →
    DivRange dividers.div ∧ LatchRange dividers.latch.toNat ∧
    Reports clockHz.toNat baudrate.toNat dividers.div dividers.latch.toNat dividers ∧
    ∀ div latch, DivRange div → LatchRange latch →
      dividers.errorPpm.toNat ≤ errorOf clockHz.toNat baudrate.toNat (div * latch)

theorem leastReached (clockHz baudrate : UInt32) : LeastError clockHz baudrate ↔
    ((∃ product, Reached clockHz.toNat baudrate.toNat product) → ∀ product, Product product →
      ∃ reached, Reached clockHz.toNat baudrate.toNat reached ∧
        errorOf clockHz.toNat baudrate.toNat reached ≤ errorOf clockHz.toNat baudrate.toNat product) := by
  obtain ⟨outcome,selected,nothing,least⟩ := selectSearched clockHz baudrate
  constructor
  · rintro ⟨result,same,optimal⟩ ⟨known,reached⟩ product ⟨div,latch,range,fits,rfl⟩
    cases Option.some.inj (selected.symm.trans same)
    cases outcome with
    | none =>
      obtain ⟨known,tried,_⟩ := reachedTried.mp reached
      exact absurd tried (nothing rfl known)
    | some dividers =>
      obtain ⟨⟨found,pair,reports⟩,_⟩ := least dividers rfl
      obtain ⟨_,_,_,best⟩ := optimal dividers rfl
      refine ⟨_,reachedTried.mpr ⟨found,pair,rfl⟩,?_⟩
      rw [← reports.error]
      exact best div latch range fits
  · intro nearest
    refine ⟨outcome,selected,fun dividers found => ?_⟩
    obtain ⟨⟨tried,pair,reports⟩,best⟩ := least dividers found
    rw [reports.divided,reports.latched]
    refine ⟨pair.1,pair.2,reports,fun div latch range fits => ?_⟩
    obtain ⟨_,reached,nearer⟩ := nearest ⟨_,reachedTried.mpr ⟨tried,pair,rfl⟩⟩ _ ⟨div,latch,range,fits,rfl⟩
    obtain ⟨other,known,rfl⟩ := reachedTried.mp reached
    exact Nat.le_trans (best other known) nearer

/-! The products next to the exact quotient are the best of their side. -/

def quotient (clock baud : Nat) : Nat := clock / (8 * baud)

theorem quotientBounds (clock : Nat) {baud : Nat} (positive : 0 < baud) :
    quotient clock baud * (8 * baud) ≤ clock ∧ clock < quotient clock baud * (8 * baud) + 8 * baud := by
  refine ⟨Nat.div_mul_le_self ..,?_⟩
  rw [← Nat.succ_mul,Nat.mul_comm]
  exact Nat.lt_mul_div_succ clock (by omega)

theorem belowQuotient {clock baud near far : Nat} (positive : 0 < far) (closer : far ≤ near)
    (below : near ≤ quotient clock baud) : errorOf clock baud near ≤ errorOf clock baud far := by
  refine errorBelow positive closer ?_
  calc 8 * near * baud = near * (8 * baud) := by ac_rfl
    _ ≤ quotient clock baud * (8 * baud) := Nat.mul_le_mul_right _ below
    _ ≤ clock := Nat.div_mul_le_self ..

theorem aboveQuotient {clock baud near far : Nat} (positive : 0 < baud) (closer : near ≤ far)
    (above : quotient clock baud < near) : errorOf clock baud near ≤ errorOf clock baud far := by
  refine errorAbove (Nat.zero_lt_of_lt above) closer ?_
  calc clock < quotient clock baud * (8 * baud) + 8 * baud := (quotientBounds clock positive).2
    _ = (quotient clock baud + 1) * (8 * baud) := (Nat.succ_mul ..).symm
    _ ≤ near * (8 * baud) := Nat.mul_le_mul_right _ above
    _ = 8 * near * baud := by ac_rfl

/- The quotient is rounded up from the middle. -/
def RoundsUp (clock baud : Nat) : Prop := (2 * quotient clock baud + 1) * (8 * baud) ≤ 2 * clock
instance (clock baud) : Decidable (RoundsUp clock baud) := by unfold RoundsUp; infer_instance

def keptProduct (clock baud : Nat) : Nat :=
  if RoundsUp clock baud then quotient clock baud + 1 else quotient clock baud

-- the product `away` further on than the neighbour that rounding discards
def beyond (clock baud away : Nat) : Nat :=
  if RoundsUp clock baud then quotient clock baud - away else quotient clock baud + 1 + away

def lostProduct (clock baud : Nat) : Nat := beyond clock baud 0

theorem keptReached {clock baud : Nat} (positive : 0 < baud) (least : 1 ≤ quotient clock baud)
    (most : quotient clock baud ≤ 65535) : Reached clock baud (keptProduct clock baud) := by
  obtain ⟨down,up⟩ := quotientBounds clock positive
  have near : Near clock baud 1 (keptProduct clock baud) := by
    unfold keptProduct Near
    split
    next upper =>
      rw [RoundsUp] at upper
      rw [Nat.add_mul] at upper ⊢
      rw [Nat.mul_assoc] at upper
      rw [Nat.mul_assoc,Nat.add_mul]
      omega
    next lower =>
      rw [RoundsUp] at lower
      rw [Nat.add_mul] at lower ⊢
      rw [Nat.mul_assoc] at lower ⊢
      omega
  have kept : 1 ≤ keptProduct clock baud ∧ keptProduct clock baud ≤ 65536 := by
    unfold keptProduct
    split <;> omega
  generalize keptProduct clock baud = product at near kept ⊢
  by_cases narrow : product ≤ 65535
  · refine ⟨1,⟨Nat.le_refl 1,by decide⟩,Nat.one_dvd product,?_,near⟩
    rw [Nat.div_one]
    exact ⟨kept.1,narrow⟩
  · -- 65536 needs the next divider
    obtain rfl : product = 65536 := by omega
    exact ⟨2,⟨by decide,by decide⟩,by decide,⟨by decide,by decide⟩,nearWider (by decide) near⟩

theorem beyondNear {clock baud div away : Nat} (positive : 0 < baud) (ahead : 0 < beyond clock baud away) :
    Near clock baud div (beyond clock baud away) ↔ 2 * away + 2 ≤ div := by
  obtain ⟨down,up⟩ := quotientBounds clock positive
  have scale : ∀ {few many : Nat}, few ≤ many → few * (8 * baud) ≤ many * (8 * baud) :=
    fun order => Nat.mul_le_mul_right _ order
  have next : (2 * quotient clock baud + 2) * (8 * baud) =
      2 * (quotient clock baud * (8 * baud) + 8 * baud) := by
    rw [Nat.add_mul,Nat.mul_assoc,← Nat.mul_add]
  unfold beyond Near at *
  split at ahead
  next upper =>
    rw [if_pos upper]
    rw [RoundsUp] at upper
    constructor
    · intro near
      by_contra narrow
      have spread := scale (show 2 * (quotient clock baud - away) + div ≤ 2 * quotient clock baud + 1 by omega)
      omega
    · intro wide
      have least := scale (show 2 * (quotient clock baud - away) ≤ 2 * quotient clock baud by omega)
      have most := scale (show 2 * quotient clock baud + 2 ≤ 2 * (quotient clock baud - away) + div by omega)
      rw [Nat.mul_assoc 2 (quotient clock baud)] at least
      omega
  next lower =>
    rw [if_neg lower]
    rw [RoundsUp] at lower
    constructor
    · intro near
      by_contra narrow
      have spread := scale (show 2 * quotient clock baud + 1 + div ≤ 2 * (quotient clock baud + 1 + away) by omega)
      rw [Nat.add_mul _ div] at spread
      omega
    · intro wide
      have least := scale (show 2 * (quotient clock baud + 1 + away) ≤ 2 * quotient clock baud + div by omega)
      have most := scale (show 2 * quotient clock baud + 2 ≤ 2 * (quotient clock baud + 1 + away) + div by omega)
      rw [Nat.add_mul,Nat.mul_assoc 2 (quotient clock baud)] at least
      omega

/- A product `away` beyond the discarded neighbour is as good as it, and has a divider wide enough
for rounding to reach it. -/
def Recovers (clock baud : Nat) : Prop := ∃ away div, 2 * away + 2 ≤ div ∧ div ≤ 128 ∧
  0 < beyond clock baud away ∧ div ∣ beyond clock baud away ∧
  errorOf clock baud (beyond clock baud away) ≤ errorOf clock baud (lostProduct clock baud)

theorem recoversReached {clock baud : Nat} (positive : 0 < baud) (most : quotient clock baud ≤ 65535)
    (recovers : Recovers clock baud) : ∃ product, Reached clock baud product ∧
      errorOf clock baud product ≤ errorOf clock baud (lostProduct clock baud) := by
  obtain ⟨away,div,wide,range,ahead,divides,nearer⟩ := recovers
  refine ⟨beyond clock baud away,⟨div,⟨by omega,range⟩,divides,?_,(beyondNear positive ahead).mpr wide⟩,nearer⟩
  have small : beyond clock baud away ≤ 65536 + away := by
    unfold beyond
    split <;> omega
  constructor
  · exact Nat.div_pos (Nat.le_of_dvd ahead divides) (by omega)
  · calc beyond clock baud away / div ≤ (65536 + away) / 2 := Nat.div_le_div small (by omega) (by decide)
      _ ≤ 65535 := by omega

/- Every product is beyond the discarded neighbour or no better than the kept one. -/
theorem productSides (clock : Nat) {baud product : Nat} (positive : 0 < baud) (some : 0 < product) :
    errorOf clock baud (keptProduct clock baud) ≤ errorOf clock baud product ∨
      ∃ away, product = beyond clock baud away := by
  unfold keptProduct beyond
  by_cases upper : RoundsUp clock baud <;> simp only [upper,if_true,if_false]
  · by_cases below : product ≤ quotient clock baud
    · exact .inr ⟨quotient clock baud - product,by omega⟩
    · exact .inl (aboveQuotient positive (by omega) (by omega))
  · by_cases below : product ≤ quotient clock baud
    · exact .inl (belowQuotient some below (Nat.le_refl _))
    · exact .inr ⟨product - (quotient clock baud + 1),by omega⟩

theorem lostNearest {clock baud away : Nat} (positive : 0 < baud) (ahead : 0 < beyond clock baud away) :
    errorOf clock baud (lostProduct clock baud) ≤ errorOf clock baud (beyond clock baud away) := by
  unfold lostProduct beyond at *
  by_cases upper : RoundsUp clock baud <;> simp only [upper,if_true,if_false] at ahead ⊢
  · exact belowQuotient ahead (by omega) (by omega)
  · exact aboveQuotient positive (by omega) (by omega)

theorem lostIsProduct {clock baud : Nat} (least : 1 ≤ quotient clock baud) (most : quotient clock baud ≤ 65535) :
    Product (lostProduct clock baud) := by
  have bounds : 1 ≤ lostProduct clock baud ∧ lostProduct clock baud ≤ 65536 := by
    unfold lostProduct beyond
    split <;> omega
  generalize lostProduct clock baud = product at bounds ⊢
  by_cases narrow : product ≤ 65535
  · exact ⟨1,product,⟨by decide,by decide⟩,⟨bounds.1,narrow⟩,(Nat.one_mul _).symm⟩
  · exact ⟨2,32768,⟨by decide,by decide⟩,⟨by decide,by decide⟩,by omega⟩

theorem neighboursExact (clock : Nat) {baud : Nat} (positive : 0 < baud) (least : 1 ≤ quotient clock baud)
    (most : quotient clock baud ≤ 65535) :
    (∀ product, Product product → ∃ reached, Reached clock baud reached ∧
        errorOf clock baud reached ≤ errorOf clock baud product) ↔
      errorOf clock baud (keptProduct clock baud) ≤ errorOf clock baud (lostProduct clock baud) ∨
        Recovers clock baud := by
  constructor
  · intro nearest
    obtain ⟨product,reached,nearer⟩ := nearest _ (lostIsProduct least most)
    have ahead : 0 < product := productPositive (reachedProduct reached)
    rcases productSides clock positive ahead with kept | ⟨away,rfl⟩
    · exact .inl (Nat.le_trans kept nearer)
    · -- so far beyond the discarded neighbour as its divider allows
      obtain ⟨div,range,divides,_,near⟩ := reached
      exact .inr ⟨away,div,(beyondNear positive ahead).mp near,range.2,ahead,divides,nearer⟩
  · intro harmless product pair
    have keeps := keptReached positive least most
    rcases productSides clock positive (productPositive pair) with kept | ⟨away,rfl⟩
    · exact ⟨_,keeps,kept⟩
    · have further : errorOf clock baud (lostProduct clock baud) ≤ errorOf clock baud (beyond clock baud away) :=
        lostNearest positive (productPositive pair)
      rcases harmless with equal | recovers
      · exact ⟨_,keeps,Nat.le_trans equal further⟩
      · obtain ⟨other,reached,nearer⟩ := recoversReached positive most recovers
        exact ⟨other,reached,Nat.le_trans nearer further⟩

/- Below one the quotient is rounded to a latch by the first divider only, and 1 is the best
product there is. -/
theorem belowOne {clock baud : Nat} (positive : 0 < baud) (small : quotient clock baud = 0)
    {product : Nat} (reached : Reached clock baud product) {other : Nat} (pair : Product other) :
    errorOf clock baud product ≤ errorOf clock baud other := by
  obtain ⟨div,range,⟨latch,rfl⟩,fits,near⟩ := reached
  rw [Nat.mul_div_cancel_left latch range.1] at fits
  have bounds := quotientBounds clock positive
  rw [small,Nat.zero_mul,Nat.zero_add] at bounds
  have least : div * 1 ≤ div * latch := Nat.mul_le_mul_left _ fits.1
  have narrow : (2 * (div * latch)) * (8 * baud) < (2 + div) * (8 * baud) := by
    rw [Nat.add_mul]
    have := near.1
    omega
  have tight : 2 * (div * latch) < 2 + div := Nat.lt_of_mul_lt_mul_right narrow
  have one : div * latch = 1 := by
    have := range.1
    omega
  rw [one]
  exact aboveQuotient positive (productPositive pair) (by omega)

/-! From 65536 on not every product has a divider: the best ones are the nearest there are. -/

def NextProduct (clock baud product : Nat) : Prop :=
  IsGreatest {below | Product below ∧ below ≤ quotient clock baud} product ∨
  IsLeast {above | Product above ∧ quotient clock baud < above} product

theorem nextBest {clock baud product : Nat} (positive : 0 < baud) (pair : Product product) :
    ∃ next, NextProduct clock baud next ∧ errorOf clock baud next ≤ errorOf clock baud product := by
  by_cases below : product ≤ quotient clock baud
  · have bounded : BddAbove {below | Product below ∧ below ≤ quotient clock baud} :=
      ⟨quotient clock baud,fun _ known => known.2⟩
    have member : product ∈ {below | Product below ∧ below ≤ quotient clock baud} := ⟨pair,below⟩
    have greatest := Nat.sSup_mem (Set.nonempty_of_mem member) bounded
    have closer := le_csSup bounded member
    exact ⟨_,.inl ⟨greatest,fun _ known => le_csSup bounded known⟩,
      belowQuotient (productPositive pair) closer greatest.2⟩
  · have above : product ∈ {above | Product above ∧ quotient clock baud < above} := ⟨pair,by omega⟩
    have least := Nat.sInf_mem (Set.nonempty_of_mem above)
    exact ⟨_,.inr ⟨least,fun _ known => Nat.sInf_le known⟩,
      aboveQuotient positive (Nat.sInf_le above) least.2⟩

-- the widest divider rounds to a latch that fits
def Representable (clock baud : Nat) : Prop := 2 * clock < 131071 * (128 * (8 * baud))
instance (clock baud) : Decidable (Representable clock baud) := by unfold Representable; infer_instance

theorem representableReached {clock baud : Nat} (positive : 0 < baud) (large : 65536 ≤ quotient clock baud) :
    Representable clock baud ↔ ∃ product, Reached clock baud product := by
  have scale : ∀ {few many : Nat}, few ≤ many → few * (8 * baud) ≤ many * (8 * baud) :=
    fun order => Nat.mul_le_mul_right _ order
  unfold Representable
  rw [← Nat.mul_assoc]
  constructor
  · intro fits
    have range : DivRange 128 := ⟨by decide,by decide⟩
    have near := (roundedNear positive range).mp (rfl : roundedLatch clock baud 128 = _)
    have many := scale large
    have bounds := quotientBounds clock positive
    refine ⟨_,reachedTried.mpr ⟨128,⟨range,?_,?_⟩,rfl⟩⟩
    · refine Nat.pos_of_ne_zero fun zero => ?_
      rw [zero] at near
      have := near.2
      omega
    · by_contra wide
      have excess := scale (show 131071 * 128 + 128 ≤ 2 * (128 * roundedLatch clock baud 128) by omega)
      have := near.1
      omega
  · rintro ⟨_,div,range,⟨latch,rfl⟩,fits,near⟩
    rw [Nat.mul_div_cancel_left latch range.1] at fits
    have most : div * latch ≤ div * 65535 := Nat.mul_le_mul_left _ fits.2
    have := range.2
    exact Nat.lt_of_lt_of_le near.2 (scale (by omega))

/- What rounding discards is no loss: the product it keeps is as good as the one it discards, or
another as good one is reached. -/
def RoundingHarmless (clock baud : Nat) : Prop :=
  (quotient clock baud ≤ 65535 → quotient clock baud = 0 ∨
    errorOf clock baud (keptProduct clock baud) ≤ errorOf clock baud (lostProduct clock baud) ∨
    Recovers clock baud) ∧
  (65536 ≤ quotient clock baud → Representable clock baud → ∀ next, NextProduct clock baud next →
    ∃ reached, Reached clock baud reached ∧ errorOf clock baud reached ≤ errorOf clock baud next)

theorem harmlessNearest {clock baud : Nat} (positive : 0 < baud) : RoundingHarmless clock baud ↔
    ((∃ product, Reached clock baud product) → ∀ product, Product product →
      ∃ reached, Reached clock baud reached ∧ errorOf clock baud reached ≤ errorOf clock baud product) := by
  unfold RoundingHarmless
  by_cases large : 65536 ≤ quotient clock baud
  · rw [← representableReached positive large]
    constructor
    · rintro ⟨_,nearest⟩ fits product pair
      obtain ⟨next,beside,nearer⟩ := nextBest positive pair
      obtain ⟨other,reached,least⟩ := nearest large fits next beside
      exact ⟨other,reached,Nat.le_trans least nearer⟩
    · intro nearest
      refine ⟨fun small => by omega,fun _ fits next beside => nearest fits next ?_⟩
      rcases beside with greatest | least
      · exact greatest.1.1
      · exact least.1.1
  · by_cases zero : quotient clock baud = 0
    · constructor
      · rintro _ ⟨product,reached⟩ other pair
        exact ⟨product,reached,belowOne positive zero reached pair⟩
      · exact fun _ => ⟨fun _ => .inl zero,fun more => absurd more large⟩
    · have exact := neighboursExact clock positive (by omega) (by omega)
      constructor
      · rintro ⟨harmless,_⟩ _
        exact exact.mpr ((harmless (by omega)).resolve_left zero)
      · intro nearest
        have kept : Reached clock baud (keptProduct clock baud) := keptReached positive (by omega) (by omega)
        exact ⟨fun _ => .inr (exact.mp (nearest ⟨_,kept⟩)),fun more => absurd more large⟩

theorem leastErrorExact (clockHz baudrate : UInt32) :
    LeastError clockHz baudrate ↔ RoundingHarmless clockHz.toNat baudrate.toNat := by
  rw [leastReached]
  rcases Nat.eq_zero_or_pos baudrate.toNat with zero | positive
  · -- no rate is asked for, and nothing is tried
    have stopped : quotient clockHz.toNat baudrate.toNat = 0 := by
      rw [zero]
      exact Nat.div_zero _
    constructor
    · exact fun _ => ⟨fun _ => .inl stopped,fun large => by omega⟩
    · rintro _ ⟨product,reached⟩
      obtain ⟨div,tried,_⟩ := reachedTried.mp reached
      exact absurd tried (nothingTried (.inr zero) div)
  · exact (harmlessNearest positive).symm

/- At 60 MHz and 2073 baud the exact product is 3617.95: rounding tries 3618 (482 ppm), and its
neighbour 3617 is prime and exact to the ppm. -/
theorem neighbourMissed : ¬LeastError 60000000 2073 := by
  rintro ⟨outcome,selected,optimal⟩
  have found : selectBaud 60000000 2073 = some (some ⟨1,3618,2072,482⟩) := by decide
  cases Option.some.inj (found.symm.trans selected)
  obtain ⟨_,_,_,best⟩ := optimal _ rfl
  exact absurd (best 1 3617 ⟨by decide,by decide⟩ ⟨by decide,by decide⟩) (by decide)

end Ch58xHal.BaudSelection
