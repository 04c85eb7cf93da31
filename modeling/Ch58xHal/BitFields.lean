import Mathlib.Data.List.Basic
import Mathlib.Data.Nat.Bitwise

/-! Fields in a word. A list of fields fills a word from the lowest bit up, each as wide as it
says; reading the same widths back gives the fields. In a word of equal slots, an or into one
slot leaves every other slot alone. Nothing here knows the program. -/
namespace Ch58xHal.BitFields

/- A width and what the field holds. -/
abbrev Field := Nat × Nat

def pack : List Field → Nat
  | [] => 0
  | (width,value) :: rest => value ||| (pack rest <<< width)

def unpack : List Nat → Nat → List Nat
  | [],_ => []
  | width :: rest,n => n % 2^width :: unpack rest (n / 2^width)

theorem lowField {width low : Nat} (fits : low < 2^width) (high : Nat) :
    (low ||| (high <<< width)) % 2^width = low ∧ (low ||| (high <<< width)) / 2^width = high := by
  rw [Nat.or_comm,← Nat.shiftLeft_add_eq_or_of_lt fits,Nat.shiftLeft_eq]
  constructor
  · rw [Nat.mul_comm,Nat.mul_add_mod,Nat.mod_eq_of_lt fits]
  · rw [Nat.mul_comm,Nat.mul_add_div (Nat.two_pow_pos width),Nat.div_eq_of_lt fits,Nat.add_zero]

theorem unpackPack {fields : List Field} (fits : ∀ f ∈ fields, f.2 < 2^f.1) :
    unpack (fields.map Prod.fst) (pack fields) = fields.map Prod.snd := by
  induction fields with
  | nil => rfl
  | cons field rest ih =>
    obtain ⟨width,value⟩ := field
    obtain ⟨low,high⟩ := lowField (fits (width,value) List.mem_cons_self) (pack rest)
    rw [List.map_cons,unpack,pack,low,high,ih fun f member => fits f (List.mem_cons_of_mem _ member)]
    rfl

/-! Slots. -/

def slot (width i n : Nat) : Nat := n / 2^(width*i) % 2^width

theorem slotOr (width i n m : Nat) : slot width i (n ||| m) = slot width i n ||| slot width i m := by
  rw [slot,Nat.or_div_two_pow,Nat.or_mod_two_pow]
  rfl

theorem slotShifted {width value : Nat} (fits : value < 2^width) (i j : Nat) :
    slot width j (value <<< (width*i)) = if j = i then value else 0 := by
  rw [slot,Nat.shiftLeft_eq]
  rcases Nat.lt_trichotomy j i with below | rfl | above
  · -- the slot lies in the zeros below the value
    obtain ⟨gap,rfl⟩ := Nat.exists_eq_add_of_lt below
    have split : value * 2^(width * (j + gap + 1)) = 2^(width*j) * (2^width * (value * 2^(width*gap))) := by
      rw [Nat.mul_add,Nat.mul_add,Nat.mul_one,Nat.pow_add,Nat.pow_add]
      ac_rfl
    rw [if_neg (by omega),split,Nat.mul_div_cancel_left _ (Nat.two_pow_pos _),Nat.mul_mod_right]
  · rw [if_pos rfl,Nat.mul_div_cancel _ (Nat.two_pow_pos _),Nat.mod_eq_of_lt fits]
  · -- and here beyond its top
    obtain ⟨gap,rfl⟩ := Nat.exists_eq_add_of_lt above
    have small : value * 2^(width*i) < 2^(width * (i + gap + 1)) := by
      calc value * 2^(width*i) < 2^width * 2^(width*i) :=
            Nat.mul_lt_mul_of_pos_right fits (Nat.two_pow_pos _)
        _ = 2^(width * (i + 1)) := by rw [← Nat.pow_add,Nat.mul_add,Nat.mul_one,Nat.add_comm]
        _ ≤ 2^(width * (i + gap + 1)) :=
            Nat.pow_le_pow_right (by decide) (Nat.mul_le_mul_left _ (by omega))
    rw [if_neg (by omega),Nat.div_eq_of_lt small,Nat.zero_mod]

theorem slotFilled {width value : Nat} (fits : value < 2^width) (i j n : Nat) :
    slot width j (n ||| (value <<< (width*i))) = if j = i then slot width j n ||| value else slot width j n := by
  rw [slotOr,slotShifted fits]
  split
  · rfl
  · rw [Nat.or_zero]

end Ch58xHal.BitFields
