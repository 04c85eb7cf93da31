import Ch58xHal.ReceiveWindow
import Mathlib.Algebra.Order.Floor.Div

/-! The widening of the receive window over a whole 64-bit clock. The source splits the elapsed
time into seconds and a rest so that no product overflows, and rounds only the rest up; that is
the drift of both clocks rounded up once. -/
namespace Ch58xHal.WindowWidening
open Llcp Connection ReceiveWindow

/- Whole units leave a ceiling division. -/
theorem ceilSplit {unit : Nat} (positive : 0 < unit) (units rest : Nat) :
    (unit * units + rest) ⌈/⌉ unit = units + rest ⌈/⌉ unit := by
  rw [Nat.ceilDiv_eq_add_pred_div,Nat.ceilDiv_eq_add_pred_div,Nat.add_assoc,Nat.add_sub_assoc (by omega),
    Nat.mul_add_div positive]

/- No operation of `window_widening_us` reaches the top of its 64 bits. -/
structure Unsaturated (elapsedUs totalPpm : Nat) : Prop where
  whole : elapsedUs / 1000000 * totalPpm < 2^64
  remainder : elapsedUs % 1000000 * totalPpm < 2^64
  sum : elapsedUs / 1000000 * totalPpm + (elapsedUs % 1000000 * totalPpm + 999999) / 1000000 < 2^64

theorem unsaturated (elapsed : UInt64) {totalPpm : Nat} (accurate : totalPpm ≤ 66035) :
    Unsaturated elapsed.toNat totalPpm := by
  have clocked : elapsed.toNat < 2^64 := elapsed.toNat_lt
  have whole : elapsed.toNat / 1000000 * totalPpm ≤ 18446744073709 * 66035 :=
    Nat.mul_le_mul (by omega) accurate
  have rest : elapsed.toNat % 1000000 * totalPpm ≤ 999999 * 66035 := Nat.mul_le_mul (by omega) accurate
  refine ⟨?_,?_,?_⟩ <;> omega

theorem totalBound (sca : UInt8) (localPpm : UInt16) :
    sleepClockAccuracyPpm sca + localPpm.toNat ≤ 66035 := by
  have central := accuracyBound sca
  have own : localPpm.toNat < 2^16 := localPpm.toNat_lt
  omega

theorem wideningCeil (elapsed : UInt64) (sca : UInt8) (localPpm : UInt16) :
    windowWideningUs elapsed.toNat sca localPpm.toNat =
      elapsed.toNat * (sleepClockAccuracyPpm sca + localPpm.toNat) ⌈/⌉ 1000000 := by
  have free := unsaturated elapsed (totalBound sca localPpm)
  unfold windowWideningUs
  generalize sleepClockAccuracyPpm sca + localPpm.toNat = ppm at free
  dsimp only
  rw [mulExact free.whole,mulExact free.remainder,addExact free.sum]
  have split : elapsed.toNat * ppm =
      1000000 * (elapsed.toNat / 1000000 * ppm) + elapsed.toNat % 1000000 * ppm := by
    rw [← Nat.mul_assoc,← Nat.add_mul,Nat.div_add_mod]
  rw [split,ceilSplit (by decide),Nat.ceilDiv_eq_add_pred_div,Nat.add_sub_assoc (by decide)]

theorem wideningExact (elapsed : UInt64) (sca : UInt8) (localPpm : UInt16) :
    windowWideningUs elapsed.toNat sca localPpm.toNat =
      elapsed.toNat * (sleepClockAccuracyPpm sca + localPpm.toNat) ⌈/⌉ 1000000 ∧
    Unsaturated elapsed.toNat (sleepClockAccuracyPpm sca + localPpm.toNat) ∧
    (∀ later : UInt64, elapsed ≤ later →
      windowWideningUs elapsed.toNat sca localPpm.toNat ≤ windowWideningUs later.toNat sca localPpm.toNat) ∧
    ∀ coarser : UInt16, localPpm ≤ coarser →
      windowWideningUs elapsed.toNat sca localPpm.toNat ≤ windowWideningUs elapsed.toNat sca coarser.toNat := by
  have monotone := (gc_mul_ceilDiv (show (0 : Nat) < 1000000 by decide)).monotone_l
  refine ⟨wideningCeil ..,unsaturated elapsed (totalBound sca localPpm),?_,?_⟩
  · intro later after
    rw [wideningCeil,wideningCeil]
    exact monotone (Nat.mul_le_mul_right _ (UInt64.le_iff_toNat_le.mp after))
  · intro coarser more
    rw [wideningCeil,wideningCeil]
    exact monotone (Nat.mul_le_mul_left _ (Nat.add_le_add_left (UInt16.le_iff_toNat_le.mp more) _))

-- The widest window there is: the longest elapsed time and the worst clocks.
example : windowWideningUs (2^64-1) 0 65535 = 1218130744907410241 := by decide +kernel

end Ch58xHal.WindowWidening
