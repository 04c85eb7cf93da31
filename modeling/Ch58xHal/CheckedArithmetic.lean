import Mathlib.Data.Int.Bitwise
import Mathlib.Data.List.Basic

/-! Machine arithmetic in a build that checks it. A result is an unbounded number that fits its
width; `none` is the panic of an overflow or of a division by zero, so a computation that gives
a value gives the value it would have without any width. Nothing here knows the program. -/
namespace Ch58xHal.CheckedArithmetic

def unsigned (width n : Nat) : Option Nat := if n < 2^width then some n else none

def signed (width : Nat) (n : Int) : Option Int := if -2^(width-1) ≤ n ∧ n < 2^(width-1) then some n else none

def divide (a b : Nat) : Option Nat := if b = 0 then none else some (a / b)

-- Truncates toward zero; the least number divided by -1 does not fit.
def signedDivide (width : Nat) (a b : Int) : Option Int := if b = 0 then none else signed width (a.tdiv b)

theorem unsignedFits {width n : Nat} (fits : n < 2^width) : unsigned width n = some n := if_pos fits

theorem signedFits {width : Nat} {n : Int} (fits : n.natAbs < 2^(width-1)) : signed width n = some n := by
  have bound : (n.natAbs : Int) < 2^(width-1) := by exact_mod_cast fits
  exact if_pos (by omega)

theorem divideBy {a b : Nat} (nonzero : b ≠ 0) : divide a b = some (a / b) := if_neg nonzero

theorem signedDivideBy {width : Nat} {a b : Int} (nonzero : b ≠ 0) (fits : a.natAbs < 2^(width-1)) :
    signedDivide width a b = some (a.tdiv b) := by
  rw [signedDivide,if_neg nonzero]
  exact signedFits (Nat.lt_of_le_of_lt (Int.natAbs_tdiv_le_natAbs a b) fits)

end Ch58xHal.CheckedArithmetic
