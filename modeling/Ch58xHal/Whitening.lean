import Ch58xHal.DataHeader
import Mathlib.Logic.Function.Iterate

/-! Data whitening. The source keeps the seven positions of the register bit-reversed in one
octet and folds feedback and shift into a single exclusive or; the register of the
specification, position by position, is the abstract model. -/
namespace Ch58xHal.Whitening
open DataHeader

/- The register and the octet after one more bit. -/
def whitenBit (s : UInt8 × UInt8) (bit : Nat) : UInt8 × UInt8 :=
  if s.1 &&& 1 ≠ 0 then ((s.1 ^^^ 0x88) >>> 1,s.2 ^^^ ((1 : UInt8) <<< UInt8.ofNat bit))
  else (s.1 >>> 1,s.2)

def whitenOctet (lfsr byte : UInt8) : UInt8 × UInt8 := (List.range 8).foldl whitenBit (lfsr,byte)

def applyFrom (lfsr : UInt8) : List UInt8 → List UInt8
  | [] => []
  | byte :: rest => (whitenOctet lfsr byte).2 :: applyFrom (whitenOctet lfsr byte).1 rest

def apply (channel : UInt8) (bytes : List UInt8) : List UInt8 :=
  applyFrom ((channel &&& 0x3f) ||| 0x40) bytes

/-! The register of the specification: the polynomial is x^7 + x^4 + 1 and position 6 is the
output. -/

abbrev Positions := Fin 7 → Bool

def coreStart (channel : UInt8) : Positions := fun i =>
  if i = 0 then true else channel.toNat.testBit (6 - i.val)

def coreStep (p : Positions) : Positions := fun i =>
  if i = 0 then p 6 else if i = 4 then p 3 ^^ p 6 else p (i - 1)

def keystream (channel : UInt8) (n : Nat) : Bool := (coreStep^[n] (coreStart channel)) 6

/-! The octet holds the positions in reverse. -/

def positions (lfsr : UInt8) : Positions := fun i => lfsr.toNat.testBit (6 - i.val)

theorem positionsStart (channel : UInt8) :
    positions ((channel &&& 0x3f) ||| 0x40) = coreStart channel ∧ (channel &&& 0x3f) ||| 0x40 < 128 := by
  have table : ∀ channel : UInt8, (∀ i : Fin 7, positions ((channel &&& 0x3f) ||| 0x40) i = coreStart channel i) ∧
      (channel &&& 0x3f) ||| 0x40 < 128 := forallOctet (by decide +kernel)
  exact ⟨funext (table channel).1,(table channel).2⟩

def shifted (lfsr : UInt8) : UInt8 := if lfsr &&& 1 ≠ 0 then (lfsr ^^^ 0x88) >>> 1 else lfsr >>> 1

theorem positionsStep {lfsr : UInt8} (seven : lfsr < 128) :
    positions (shifted lfsr) = coreStep (positions lfsr) ∧ shifted lfsr < 128 ∧
      (lfsr &&& 1 ≠ 0 ↔ positions lfsr 6 = true) := by
  have table : ∀ lfsr : UInt8, lfsr < 128 → (∀ i : Fin 7, positions (shifted lfsr) i = coreStep (positions lfsr) i) ∧
      shifted lfsr < 128 ∧ (lfsr &&& 1 ≠ 0 ↔ positions lfsr 6 = true) := forallOctet (by decide +kernel)
  obtain ⟨moved,small,out⟩ := table lfsr seven
  exact ⟨funext moved,small,out⟩

theorem oneBit : ∀ bit < 8, ∀ i < 8, ((1 : UInt8) <<< UInt8.ofNat bit).toNat.testBit i = decide (i = bit) := by
  decide +kernel

theorem flippedBit (byte : UInt8) {bit i : Nat} (inside : bit < 8) (low : i < 8) :
    (byte ^^^ ((1 : UInt8) <<< UInt8.ofNat bit)).toNat.testBit i = (byte.toNat.testBit i ^^ decide (i = bit)) := by
  rw [UInt8.toNat_xor,Nat.testBit_xor,oneBit bit inside i low]

theorem octetExtensional {a b : UInt8} (same : ∀ i < 8, a.toNat.testBit i = b.toNat.testBit i) : a = b := by
  rw [← UInt8.toNat_inj]
  apply Nat.eq_of_testBit_eq
  intro i
  by_cases low : i < 8
  · exact same i low
  · have wide : 2^8 ≤ 2^i := Nat.pow_le_pow_right (by decide) (by omega)
    rw [Nat.testBit_lt_two_pow (Nat.lt_of_lt_of_le a.toNat_lt wide),
      Nat.testBit_lt_two_pow (Nat.lt_of_lt_of_le b.toNat_lt wide)]

/- The octet register simulates the positions from step `n` of a channel on. -/
def Mirrors (lfsr channel : UInt8) (n : Nat) : Prop :=
  lfsr < 128 ∧ positions lfsr = coreStep^[n] (coreStart channel)

theorem mirrorsStart (channel : UInt8) : Mirrors ((channel &&& 0x3f) ||| 0x40) channel 0 :=
  ⟨(positionsStart channel).2,(positionsStart channel).1⟩

theorem whitenStep {lfsr channel : UInt8} {n : Nat} (mirrors : Mirrors lfsr channel n) (byte : UInt8) {bit : Nat}
    (inside : bit < 8) :
    Mirrors (whitenBit (lfsr,byte) bit).1 channel (n+1) ∧
      ∀ i < 8, (whitenBit (lfsr,byte) bit).2.toNat.testBit i =
        (byte.toNat.testBit i ^^ (decide (i = bit) && keystream channel n)) := by
  obtain ⟨seven,mirror⟩ := mirrors
  obtain ⟨moved,small,out⟩ := positionsStep seven
  have register : (whitenBit (lfsr,byte) bit).1 = shifted lfsr := by
    unfold whitenBit shifted
    dsimp only
    split <;> rfl
  have output : keystream channel n = positions lfsr 6 := by rw [mirror]; rfl
  refine ⟨⟨register ▸ small,?_⟩,?_⟩
  · rw [register,moved,mirror,Function.iterate_succ_apply']
  · intro i low
    unfold whitenBit
    dsimp only
    split
    · rename_i on
      rw [flippedBit byte inside low,output,out.mp on,Bool.and_true]
    · rename_i off
      have clear : positions lfsr 6 = false := by simpa using mt out.mpr off
      rw [output,clear,Bool.and_false,Bool.xor_false]

theorem whitenBits {lfsr channel : UInt8} {n : Nat} (mirrors : Mirrors lfsr channel n) (byte : UInt8) {k : Nat}
    (inside : k ≤ 8) :
    Mirrors ((List.range k).foldl whitenBit (lfsr,byte)).1 channel (n+k) ∧
      ∀ i < 8, ((List.range k).foldl whitenBit (lfsr,byte)).2.toNat.testBit i =
        (byte.toNat.testBit i ^^ (decide (i < k) && keystream channel (n+i))) := by
  induction k with
  | zero => exact ⟨mirrors,fun i _ => by simp⟩
  | succ k ih =>
    obtain ⟨register,octet⟩ := ih (by omega)
    obtain ⟨next,changed⟩ := whitenStep register ((List.range k).foldl whitenBit (lfsr,byte)).2
      (show k < 8 by omega)
    rw [List.range_succ,List.foldl_append]
    refine ⟨next,fun i low => ?_⟩
    have step := changed i low
    rw [octet i low] at step
    refine step.trans ?_
    by_cases here : i = k
    · subst here
      simp
    · have same : decide (i < k + 1) = decide (i < k) := by
        rw [decide_eq_decide]
        omega
      rw [same]
      simp [here]

/- What whitening makes of a string from step `n` of the register on. -/
structure Whitened (channel : UInt8) (n : Nat) (bytes out : List UInt8) : Prop where
  size : out.length = bytes.length
  bits : ∀ k byte, bytes[k]? = some byte → ∃ other, out[k]? = some other ∧
    ∀ i < 8, other.toNat.testBit i = (byte.toNat.testBit i ^^ keystream channel (n + 8*k + i))

theorem whitenedUnique {channel n bytes a b} (left : Whitened channel n bytes a) (right : Whitened channel n bytes b) :
    a = b := by
  apply List.ext_getElem?
  intro k
  cases found : bytes[k]? with
  | none =>
    rw [List.getElem?_eq_none_iff] at found
    have sizeA := left.size
    have sizeB := right.size
    rw [List.getElem?_eq_none (by omega),List.getElem?_eq_none (by omega)]
  | some byte =>
    obtain ⟨x,here,bitsA⟩ := left.bits k byte found
    obtain ⟨y,there,bitsB⟩ := right.bits k byte found
    have same : x = y := octetExtensional fun i low => (bitsA i low).trans (bitsB i low).symm
    rw [here,there,same]

theorem whitenedBack {channel n bytes out} (once : Whitened channel n bytes out) : Whitened channel n out bytes := by
  refine ⟨once.size.symm,?_⟩
  intro k other found
  have inside : k < bytes.length := once.size ▸ (List.getElem?_eq_some_iff.mp found).1
  obtain ⟨other',there,bits⟩ := once.bits k bytes[k] (List.getElem?_eq_getElem inside)
  obtain rfl : other = other' := Option.some.inj (found.symm.trans there)
  refine ⟨bytes[k],List.getElem?_eq_getElem inside,fun i low => ?_⟩
  rw [bits i low,Bool.xor_assoc,Bool.xor_self,Bool.xor_false]

theorem whitenedTake {channel n bytes out} (whole : Whitened channel n bytes out) (count : Nat) :
    Whitened channel n (bytes.take count) (out.take count) := by
  refine ⟨by rw [List.length_take,List.length_take,whole.size],?_⟩
  intro k byte found
  rw [List.getElem?_take] at found ⊢
  split at found
  · rename_i short
    rw [if_pos short]
    exact whole.bits k byte found
  · cases found

theorem whitenedFrom {lfsr channel : UInt8} {n : Nat} (mirrors : Mirrors lfsr channel n) (bytes : List UInt8) :
    Whitened channel n bytes (applyFrom lfsr bytes) := by
  induction bytes generalizing lfsr n with
  | nil => exact ⟨rfl,fun k byte found => by cases found⟩
  | cons first rest ih =>
    obtain ⟨register,octet⟩ := whitenBits mirrors first (Nat.le_refl 8)
    have later := ih register
    refine ⟨congrArg (· + 1) later.size,?_⟩
    intro k byte found
    cases k with
    | zero =>
      cases found
      refine ⟨_,rfl,fun i low => ?_⟩
      rw [whitenOctet,octet i low]
      simp [low]
    | succ k =>
      obtain ⟨out,there,bits⟩ := later.bits k byte found
      refine ⟨out,there,fun i low => ?_⟩
      rw [bits i low]
      congr 2
      omega

theorem applyWhitens (channel : UInt8) (bytes : List UInt8) : Whitened channel 0 bytes (apply channel bytes) :=
  whitenedFrom (mirrorsStart channel) bytes

theorem whiteningIsCore (channel : UInt8) (bytes : List UInt8) :
    (apply channel bytes).length = bytes.length ∧
    (∀ k byte, bytes[k]? = some byte → ∃ out, (apply channel bytes)[k]? = some out ∧
      ∀ i < 8, out.toNat.testBit i = (byte.toNat.testBit i ^^ keystream channel (8*k + i))) ∧
    apply channel (apply channel bytes) = bytes ∧
    ∀ n, apply channel (bytes.take n) = (apply channel bytes).take n := by
  have once := applyWhitens channel bytes
  refine ⟨once.size,?_,?_,?_⟩
  · intro k byte found
    simpa using once.bits k byte found
  · exact whitenedUnique (applyWhitens channel _) (whitenedBack once)
  · intro n
    exact whitenedUnique (applyWhitens channel _) (whitenedTake once n)

end Ch58xHal.Whitening
