import Mathlib.Logic.Function.Basic

/-! The registers of a device that acts between any two accesses. A register keeps what was
written to it, or holds flags that the device raises and a written one clears, or shows what the
device decides. Nothing here knows the program. -/
namespace Ch58xHal.DeviceRegisters

inductive Kind where
  | held | flags | driven
  deriving DecidableEq, Repr

/- What the device does to its registers in one moment. -/
structure Activity (κ : Type) where
  raised : κ → UInt32
  shown : κ → UInt32

variable {κ : Type} {kind : κ → Kind} {r s : κ} {words : κ → UInt32} {value flag : UInt32}

section Device

def settle (kind : κ → Kind) (activity : Activity κ) (words : κ → UInt32) : κ → UInt32 := fun r =>
  match kind r with
  | .held => words r
  | .flags => words r ||| activity.raised r
  | .driven => activity.shown r

theorem heldSettles (held : kind r = .held) (activity : Activity κ) : settle kind activity words r = words r := by
  rw [settle,held]

theorem andOr (a b c : UInt32) : (a ||| b) &&& c = (a &&& c) ||| (b &&& c) := by
  rw [← UInt32.toBitVec_inj,UInt32.toBitVec_and,UInt32.toBitVec_or,UInt32.toBitVec_or,UInt32.toBitVec_and,
    UInt32.toBitVec_and]
  exact BitVec.and_or_distrib_right

/- A flag stays down only if the device has not raised it. -/
theorem flagSettles (flags : kind r = .flags) (activity : Activity κ) :
    settle kind activity words r &&& flag = 0 ↔ words r &&& flag = 0 ∧ activity.raised r &&& flag = 0 := by
  rw [settle,flags]
  dsimp only
  rw [andOr,UInt32.or_eq_zero_iff]

end Device

section Program
variable [DecidableEq κ]

def store (kind : κ → Kind) (r : κ) (value : UInt32) (words : κ → UInt32) : κ → UInt32 :=
  Function.update words r <| match kind r with
    | .flags => words r &&& ~~~value
    | .held => value
    | .driven => value

theorem heldStored (held : kind r = .held) : store kind r value words r = value := by
  rw [store,Function.update_self,held]

theorem otherStored (apart : s ≠ r) : store kind r value words s = words s := by
  rw [store,Function.update_of_ne apart]

theorem notMasked {word value flag : UInt32} (spared : value &&& flag = 0) :
    word &&& ~~~value &&& flag = word &&& flag := by
  have absent : value.toBitVec &&& flag.toBitVec = 0#32 := by
    rw [← UInt32.toBitVec_and,spared]
    rfl
  apply UInt32.toBitVec_inj.mp
  simp only [UInt32.toBitVec_and,UInt32.toBitVec_not]
  apply BitVec.eq_of_getLsbD_eq
  intro i inside
  have bit := congrArg (fun w : BitVec 32 => w.getLsbD i) absent
  simp only [BitVec.getLsbD_and,BitVec.getLsbD_zero] at bit
  simp only [BitVec.getLsbD_and,BitVec.getLsbD_not,inside,decide_true,Bool.true_and]
  cases up : flag.toBitVec.getLsbD i with
  | false => rw [Bool.and_false,Bool.and_false]
  | true =>
    rw [up,Bool.and_true] at bit
    rw [bit,Bool.not_false,Bool.and_true]

/- A write that leaves a flag out cannot lower it. -/
theorem flagStored (flags : kind r = .flags) (spared : value &&& flag = 0) :
    store kind r value words r &&& flag = words r &&& flag := by
  rw [store,Function.update_self,flags]
  exact notMasked spared

end Program

end Ch58xHal.DeviceRegisters
