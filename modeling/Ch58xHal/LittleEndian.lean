import Mathlib.Algebra.Order.Ring.Nat
import Mathlib.Data.List.Basic

/-! Little-endian numbers as octet lists, for any width. `value` reads a list, `digits`
writes a fixed number of octets; each undoes the other up to the width. -/
namespace Ch58xHal.LittleEndian

def value : List UInt8 → Nat
  | [] => 0
  | b :: rest => b.toNat + 256 * value rest

def digits : Nat → Nat → List UInt8
  | 0,_ => []
  | width+1,n => UInt8.ofNat n :: digits width (n / 256)

theorem valueDigits (width n : Nat) : value (digits width n) = n % 256 ^ width := by
  induction width generalizing n with
  | zero => rw [digits,value,Nat.pow_zero,Nat.mod_one]
  | succ width ih =>
    have low : (UInt8.ofNat n).toNat = n % 256 := UInt8.toNat_ofNat'
    rw [digits,value,ih,low,Nat.pow_succ,Nat.mul_comm (256 ^ width),Nat.mod_mul]

theorem digitsValue (bytes : List UInt8) : digits bytes.length (value bytes) = bytes := by
  induction bytes with
  | nil => rfl
  | cons b rest ih =>
    have low := UInt8.toNat_lt b
    have rest' : (b.toNat + 256 * value rest) / 256 = value rest := by omega
    have head : UInt8.ofNat (b.toNat + 256 * value rest) = b := by
      apply UInt8.toNat_inj.mp
      rw [UInt8.toNat_ofNat']
      omega
    rw [List.length_cons,value,digits,rest',ih,head]

/- A disjoint bitwise or of shifted fields is their sum. -/
theorem orShifted {low : Nat} (bits : Nat) (below : low < 2 ^ bits) (high : Nat) :
    low ||| (high <<< bits) = low + 2 ^ bits * high := by
  rw [Nat.or_comm,← Nat.shiftLeft_add_eq_or_of_lt below,Nat.shiftLeft_eq,Nat.mul_comm high]
  omega

end Ch58xHal.LittleEndian
