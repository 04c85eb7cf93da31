import Ch58xHal.DataHeader
import Ch58xHal.FeedbackRegister

/-! The CRC of every packet. The source keeps the 24 positions in the low bits of a `u32` and
masks them after each shift; octets enter least significant bit first, which is their order
on air, and the CRC leaves position 23 first. -/
namespace Ch58xHal.Crc24
open DataHeader FeedbackRegister

def crcBit (byte : UInt8) (state : UInt32) (bit : Nat) : UInt32 :=
  let input := (byte >>> UInt8.ofNat bit) &&& 1
  let feedback := (state >>> 23).toUInt8 ^^^ input
  let state := (state <<< 1) &&& 0x00ffffff
  if feedback ≠ 0 then state ^^^ 0x0000065b else state

def crcOctet (state : UInt32) (byte : UInt8) : UInt32 := (List.range 8).foldl (crcBit byte) state

def crc24 (data : List UInt8) (init : UInt32) : UInt32 := data.foldl crcOctet (init &&& 0x00ffffff)

/-! The register behind the `u32`. -/

def polynomial : BitVec 24 := 0x65b

def stored (r : BitVec 24) : UInt32 := ⟨r.setWidth 32⟩

def octetBits (byte : UInt8) : List Bool := (List.range 8).map byte.toNat.testBit

def airBits (data : List UInt8) : List Bool := data.flatMap octetBits

theorem inputBit : ∀ byte : UInt8, ∀ i < 8, (byte >>> UInt8.ofNat i) &&& 1 =
    if byte.toNat.testBit i then 1 else 0 := forallOctet (by decide +kernel)

theorem topBit (r : BitVec 24) : (stored r >>> 23).toUInt8 = if r.msb then 1 else 0 := by
  have small : r.toNat < 2^24 := r.isLt
  have value : ((stored r >>> 23).toUInt8).toNat = r.toNat / 2^23 := by
    have wide : (stored r).toNat = r.toNat := by
      show (r.setWidth 32).toNat = r.toNat
      rw [BitVec.toNat_setWidth]
      omega
    rw [UInt32.toNat_toUInt8,UInt32.toNat_shiftRight,wide,Nat.shiftRight_eq_div_pow]
    show r.toNat / 2^23 % 2^8 = r.toNat / 2^23
    omega
  rw [← UInt8.toNat_inj,value,BitVec.msb_eq_decide]
  by_cases high : 2^23 ≤ r.toNat
  · simp only [high,decide_true,if_true]
    show r.toNat / 2^23 = 1
    omega
  · simp only [high,decide_false]
    show r.toNat / 2^23 = 0
    omega

theorem maskBit (i : Nat) : (0x00ffffff#32).getLsbD i = decide (i < 24) := by
  have ones : 0x00ffffff#32 = BitVec.ofNat 32 (2^24-1) := rfl
  rw [ones,BitVec.getLsbD_ofNat,Nat.testBit_two_pow_sub_one]
  by_cases low : i < 24
  · simp [low]
    omega
  · simp [low]

theorem storedShift (r : BitVec 24) : (stored r <<< 1) &&& (0x00ffffff : UInt32) = stored (r <<< 1) := by
  rw [← UInt32.toBitVec_inj]
  apply BitVec.eq_of_getLsbD_eq
  intro i inside
  show ((r.setWidth 32 <<< 1) &&& 0x00ffffff#32).getLsbD i = ((r <<< 1).setWidth 32).getLsbD i
  rw [BitVec.getLsbD_and,maskBit,BitVec.getLsbD_setWidth,BitVec.getLsbD_shiftLeft,BitVec.getLsbD_shiftLeft,
    BitVec.getLsbD_setWidth]
  by_cases low : i < 24
  · have back : i - 1 < 32 := by omega
    simp [low,inside,back]
  · simp [low]

theorem storedAdd (r s : BitVec 24) : stored r ^^^ stored s = stored (r ^^^ s) := by
  rw [← UInt32.toBitVec_inj]
  exact (BitVec.setWidth_xor).symm

theorem bitShifts (byte : UInt8) (r : BitVec 24) {bit : Nat} (inside : bit < 8) :
    crcBit byte (stored r) bit = stored (shiftIn polynomial r (byte.toNat.testBit bit)) := by
  have leaves : ((if r.msb then (1 : UInt8) else 0) ^^^ (if byte.toNat.testBit bit then 1 else 0) ≠ 0) ↔
      (r.msb ^^ byte.toNat.testBit bit) = true := by
    cases r.msb <;> cases byte.toNat.testBit bit <;> decide
  unfold crcBit shiftIn
  dsimp only
  rw [topBit,inputBit byte bit inside,storedShift]
  by_cases out : (r.msb ^^ byte.toNat.testBit bit) = true
  · rw [if_pos (leaves.mpr out),if_pos out]
    exact storedAdd (r <<< 1) polynomial
  · rw [if_neg (mt leaves.mp out),if_neg out]

theorem octetShifts (byte : UInt8) (r : BitVec 24) :
    crcOctet (stored r) byte = stored (run polynomial r (octetBits byte)) := by
  have some : ∀ k ≤ 8, (List.range k).foldl (crcBit byte) (stored r) =
      stored (run polynomial r ((List.range k).map byte.toNat.testBit)) := by
    intro k
    induction k with
    | zero => exact fun _ => rfl
    | succ k ih =>
      intro bound
      rw [List.range_succ,List.foldl_append,ih (by omega),List.map_append,runAppend]
      exact bitShifts byte _ (by omega)
  exact some 8 (Nat.le_refl 8)

def loaded (init : UInt32) : BitVec 24 := init.toBitVec.setWidth 24

theorem loadedStored (init : UInt32) : init &&& (0x00ffffff : UInt32) = stored (loaded init) := by
  rw [← UInt32.toBitVec_inj]
  apply BitVec.eq_of_getLsbD_eq
  intro i inside
  show (init.toBitVec &&& 0x00ffffff#32).getLsbD i = ((init.toBitVec.setWidth 24).setWidth 32).getLsbD i
  rw [BitVec.getLsbD_and,maskBit,BitVec.getLsbD_setWidth,BitVec.getLsbD_setWidth]
  by_cases low : i < 24
  · simp [low,inside]
  · simp [low]

theorem storedLoaded (r : BitVec 24) : loaded (stored r) = r := by
  show (r.setWidth 32).setWidth 24 = r
  rw [BitVec.setWidth_setWidth_of_le r (by decide),BitVec.setWidth_eq]

theorem airBitsLength (data : List UInt8) : (airBits data).length = 8 * data.length := by
  induction data with
  | nil => rfl
  | cons byte rest ih =>
    have bits : airBits (byte :: rest) = octetBits byte ++ airBits rest := rfl
    rw [bits,List.length_append,ih,List.length_cons]
    simp [octetBits]
    omega

theorem registersFold (data : List UInt8) (r : BitVec 24) :
    data.foldl crcOctet (stored r) = stored (run polynomial r (airBits data)) := by
  induction data generalizing r with
  | nil => rfl
  | cons byte rest ih =>
    have bits : airBits (byte :: rest) = octetBits byte ++ airBits rest := rfl
    rw [bits,runAppend,List.foldl_cons,octetShifts,ih]

/- The source's CRC is the register fed with the bits in transmitted order. -/
theorem crc24Register (data : List UInt8) (init : UInt32) :
    crc24 data init = stored (run polynomial (loaded init) (airBits data)) := by
  rw [crc24,loadedStored,registersFold]

/-! The CRC on air. -/

def octetOf (bits : List Bool) : UInt8 := bits.foldr (fun bit rest => (rest <<< 1) ||| if bit then 1 else 0) 0

/- Position 23 first, in octets that are sent least significant bit first. -/
def crcOnAir (crc : UInt32) : List UInt8 :=
  (List.range 3).map fun k => octetOf ((List.range 8).map fun i => crc.toNat.testBit (23 - (8*k + i)))

theorem octetOfBits : ∀ a b c d e f g h : Bool,
    octetBits (octetOf [a,b,c,d,e,f,g,h]) = [a,b,c,d,e,f,g,h] := by
  decide +kernel

theorem storedBit (r : BitVec 24) {i : Nat} (inside : i < 24) :
    (stored r).toNat.testBit (23 - i) = r.getMsbD i := by
  show (r.setWidth 32).toNat.testBit (23 - i) = r.getMsbD i
  rw [← BitVec.getLsbD,BitVec.getLsbD_setWidth,BitVec.getMsbD]
  simp [inside]
  omega

theorem crcOnAirBits (r : BitVec 24) : airBits (crcOnAir (stored r)) = topDown r := by
  have bits : ∀ k < 3, octetBits (octetOf ((List.range 8).map fun i =>
      (stored r).toNat.testBit (23 - (8*k + i)))) = (List.range 8).map fun i => r.getMsbD (8*k + i) := by
    intro k inside
    have same : ∀ i ∈ List.range 8, (stored r).toNat.testBit (23 - (8*k + i)) = r.getMsbD (8*k + i) := by
      intro i member
      have low := List.mem_range.mp member
      exact storedBit r (by omega)
    rw [List.map_congr_left same]
    exact octetOfBits _ _ _ _ _ _ _ _
  have first := bits 0 (by decide)
  have second := bits 1 (by decide)
  have third := bits 2 (by decide)
  show octetBits _ ++ (octetBits _ ++ (octetBits _ ++ [])) = _
  rw [first,second,third]
  rfl

theorem crcSequential (a b : List UInt8) (init : UInt32) :
    crc24 (a ++ b) init = crc24 b (crc24 a init) := by
  have bits : airBits (a ++ b) = airBits a ++ airBits b := List.flatMap_append
  rw [crc24Register,crc24Register,crc24Register,storedLoaded,bits,runAppend]

theorem crcDetectsBursts (init : UInt32) :
    (∀ a b, crc24 (a ++ b) init = crc24 b (crc24 a init)) ∧
    ∀ d, crc24 (d ++ crcOnAir (crc24 d init)) init = 0 ∧
    ∀ heard : List UInt8, heard.length = (d ++ crcOnAir (crc24 d init)).length →
      (∃ i : Nat, (airBits heard)[i]? ≠ (airBits (d ++ crcOnAir (crc24 d init)))[i]?) →
      ∀ first : Nat, (∀ i : Nat, (airBits heard)[i]? ≠ (airBits (d ++ crcOnAir (crc24 d init)))[i]? →
        first ≤ i ∧ i < first + 24) →
      crc24 heard init ≠ 0 := by
  refine ⟨fun a b => crcSequential a b init,fun d => ?_⟩
  have zero : crc24 (d ++ crcOnAir (crc24 d init)) init = 0 := by
    rw [crcSequential]
    have register := crc24Register d init
    rw [register,crc24Register,storedLoaded,crcOnAirBits,runTopDown]
    rfl
  refine ⟨zero,?_⟩
  generalize sent : d ++ crcOnAir (crc24 d init) = packet at zero ⊢
  intro heard size differ first burst same
  have long : 24 ≤ (airBits packet).length := by
    have three : 3 ≤ packet.length := by
      rw [← sent]
      simp [crcOnAir]
    rw [airBitsLength]
    omega
  have sizes : (airBits heard).length = (airBits packet).length := by
    rw [airBitsLength,airBitsLength,size]
  have constant : polynomial.getLsbD 0 = true := rfl
  refine burstDetected constant (loaded init) sizes long differ burst ?_
  rw [crc24Register] at zero same
  rw [← storedLoaded (run polynomial (loaded init) (airBits heard)),same,← zero,storedLoaded]

/- The advertising packet of the source's vector, and a burst across the end of its payload. -/
def sampleHeard : List UInt8 := [0x00,0x06,0xa1,0xa2,0xa3,0xa4,0xa5,0x66,0x26,0x90,0xd4]

theorem crcDetectsBorderBurst : crc24 sampleHeard 0x555555 ≠ 0 := by
  refine ((crcDetectsBursts 0x555555).2 [0x00,0x06,0xa1,0xa2,0xa3,0xa4,0xa5,0xa6]).2 sampleHeard
    (by decide +kernel) ⟨62,by decide +kernel⟩ 62 ?_
  have table : ∀ i < 88, (airBits sampleHeard)[i]? ≠ (airBits ([0x00,0x06,0xa1,0xa2,0xa3,0xa4,0xa5,0xa6] ++
      crcOnAir (crc24 [0x00,0x06,0xa1,0xa2,0xa3,0xa4,0xa5,0xa6] 0x555555)))[i]? → 62 ≤ i ∧ i < 62 + 24 := by
    decide +kernel
  intro i differ
  by_cases inside : i < 88
  · exact table i inside differ
  · refine absurd ?_ differ
    rw [List.getElem?_eq_none (by rw [airBitsLength]; simp [sampleHeard]; omega),
      List.getElem?_eq_none (by rw [airBitsLength]; simp [crcOnAir]; omega)]

end Ch58xHal.Crc24
