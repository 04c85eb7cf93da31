import Ch58xHal.ConnectIndCodec

/-! The rules for an Access Address, on its bits. The source finds long runs with a scan that
stops early and counts bit changes by masking the exclusive or with the shifted word. -/
namespace Ch58xHal.AccessAddress
open ConnectIndCodec

def bit (a : UInt32) (i : Nat) : Bool := a.toNat.testBit i

def distance (a b : UInt32) : Nat := (List.range 32).countP fun i => bit a i != bit b i

def octetAt (a : UInt32) (k : Nat) : Nat := a.toNat / 2^(8*k) % 2^8

/- How many of `count` positions, from `first` on, differ from the one above them. -/
def changes (a : UInt32) (first count : Nat) : Nat :=
  (List.range count).countP fun i => bit a (first + i) != bit a (first + i + 1)

def onesBelow (a : UInt32) (count : Nat) : Nat := (List.range count).countP (bit a)

structure Rules (a : UInt32) (codedPhy : Bool) : Prop where
  data : a ≠ advAccessAddress
  apart : distance a advAccessAddress ≠ 1
  octets : ¬∀ k < 3, octetAt a k = octetAt a (k+1)
  runs : ∀ i, i + 7 ≤ 32 → ¬∀ j < 6, bit a (i + j) = bit a (i + j + 1)
  few : changes a 0 31 ≤ 24
  top : 2 ≤ changes a 26 5
  coded : codedPhy = true → 3 ≤ onesBelow a 8 ∧ changes a 0 15 ≤ 11

/-! Counting by mask. -/

theorem countBelow (p : Nat → Bool) {m n : Nat} (within : m ≤ n) :
    (List.range n).countP (fun i => p i && decide (i < m)) = (List.range m).countP p := by
  obtain ⟨rest,rfl⟩ := Nat.exists_eq_add_of_le within
  rw [List.range_add,List.countP_append]
  have front : (List.range m).countP (fun i => p i && decide (i < m)) = (List.range m).countP p := by
    apply List.countP_congr
    intro i member
    simp [List.mem_range.mp member]
  have back : ((List.range rest).map (m + ·)).countP (fun i => p i && decide (i < m)) = 0 := by
    rw [List.countP_eq_zero]
    intro i member
    obtain ⟨k,_,rfl⟩ := List.mem_map.mp member
    simp
  rw [front,back,Nat.add_zero]

theorem onesDistance (a b : UInt32) : countOnes32 (a ^^^ b) = distance a b := by
  unfold countOnes32 distance bit
  congr 1
  funext i
  rw [UInt32.toNat_xor,Nat.testBit_xor]

theorem maskedBit (a : UInt32) (m i : Nat) (mask : UInt32) (ones : mask.toNat = 2^m - 1) :
    bit (a &&& mask) i = (bit a i && decide (i < m)) := by
  rw [bit,UInt32.toNat_and,Nat.testBit_and,ones,Nat.testBit_two_pow_sub_one,bit]

theorem onesMasked (a : UInt32) {m : Nat} (within : m ≤ 32) {mask : UInt32} (ones : mask.toNat = 2^m - 1) :
    countOnes32 (a &&& mask) = onesBelow a m := by
  have each : (fun i => (a &&& mask).toNat.testBit i) = fun i => bit a i && decide (i < m) := by
    funext i
    exact maskedBit a m i mask ones
  rw [countOnes32,each,countBelow _ within,onesBelow]

theorem shiftedBit (a : UInt32) (i : Nat) {k : Nat} (within : k < 32) : bit (a >>> UInt32.ofNat k) i = bit a (k + i) := by
  have small : (UInt32.ofNat k).toNat % 32 = k := by
    rw [UInt32.toNat_ofNat']
    omega
  rw [bit,UInt32.toNat_shiftRight,small,Nat.testBit_shiftRight,bit]

theorem changesCounted (value : UInt32) {bits : Nat} (positive : 0 < bits) (within : bits ≤ 32) :
    transitionCount value bits = changes value 0 (bits - 1) := by
  have mask : (if bits = 32 then (0xffffffff : UInt32) >>> 1
      else ((1 : UInt32) <<< UInt32.ofNat (bits - 1)) - 1).toNat = 2^(bits - 1) - 1 := by
    have table : ∀ bits ≤ 32, 0 < bits → (if bits = 32 then (0xffffffff : UInt32) >>> 1
        else ((1 : UInt32) <<< UInt32.ofNat (bits - 1)) - 1).toNat = 2^(bits - 1) - 1 := by decide +kernel
    exact table bits within positive
  have each : bit (value ^^^ (value >>> 1)) = fun i => bit value i != bit value (i+1) := by
    funext i
    have shifted : bit (value >>> 1) i = bit value (1 + i) := shiftedBit value i (by decide)
    rw [Nat.add_comm] at shifted
    rw [← shifted]
    simp only [bit,UInt32.toNat_xor,Nat.testBit_xor]
  unfold transitionCount
  dsimp only
  rw [onesMasked _ (by omega) mask,onesBelow,each,changes]
  simp only [Nat.zero_add]

theorem changesTop (a : UInt32) : transitionCount (a >>> 26) 6 = changes a 26 5 := by
  rw [changesCounted _ (by decide) (by decide)]
  unfold changes
  congr 1
  funext i
  have low : bit (a >>> 26) (0 + i) = bit a (26 + i) := by
    rw [Nat.zero_add]
    exact shiftedBit a i (by decide)
  have high : bit (a >>> 26) (0 + i + 1) = bit a (26 + i + 1) := by
    rw [Nat.zero_add,Nat.add_assoc]
    exact shiftedBit a (i+1) (by decide)
  rw [low,high]

theorem changesLow (a : UInt32) : transitionCount (a &&& 0xffff) 16 = changes a 0 15 := by
  rw [changesCounted _ (by decide) (by decide)]
  unfold changes
  apply List.countP_congr
  intro i member
  have low := List.mem_range.mp member
  rw [maskedBit a 16 _ 0xffff rfl,maskedBit a 16 _ 0xffff rfl,decide_eq_true (by omega),decide_eq_true (by omega),
    Bool.and_true,Bool.and_true]

/-! The run scan. -/

theorem isolatedBit (a : UInt32) {i : Nat} (within : i < 32) :
    (a >>> UInt32.ofNat i) &&& 1 = if bit a i then 1 else 0 := by
  have low : bit (a >>> UInt32.ofNat i) 0 = bit a i := shiftedBit a 0 within
  rw [← low]
  generalize a >>> UInt32.ofNat i = w
  have value : (w &&& 1).toNat = w.toNat % 2 := (UInt32.toNat_and w 1).trans (Nat.and_one_is_mod _)
  rw [← UInt32.toNat_inj,value,bit,Nat.testBit_zero]
  by_cases odd : w.toNat % 2 = 1
  · simp [odd]
  · have even : w.toNat % 2 = 0 := by omega
    simp [even]

/- The bits just below `next` are `length` times the same one, and no more than that. -/
structure Run (a : UInt32) (next length : Nat) : Prop where
  inside : length ≤ next
  same : ∀ j < length, bit a (next - 1 - j) = bit a (next - 1)
  ends : length < next → bit a (next - 1 - length) ≠ bit a (next - 1)

/- Seven equal bits of which the last is at `next` or above it. -/
def LongFrom (a : UInt32) (next : Nat) : Prop :=
  ∃ i, i + 7 ≤ 32 ∧ next ≤ i + 6 ∧ ∀ j < 6, bit a (i + j) = bit a (i + j + 1)

theorem windowSame {a : UInt32} {i : Nat} (equal : ∀ j < 6, bit a (i + j) = bit a (i + j + 1)) :
    ∀ j ≤ 6, bit a (i + j) = bit a i := by
  intro j
  induction j with
  | zero => exact fun _ => rfl
  | succ j ih => exact fun bound => (equal j (by omega)).symm.trans (ih (by omega))

theorem runGrows {a : UInt32} {next length : Nat} (run : Run a next length)
    (same : bit a next = bit a (next - 1)) : Run a (next+1) (length+1) := by
  have inside := run.inside
  refine ⟨by omega,?_,?_⟩
  · intro j bound
    rw [Nat.add_sub_cancel,same]
    cases j with
    | zero => exact same
    | succ j =>
      have before := run.same j (by omega)
      have place : next - (j + 1) = next - 1 - j := by omega
      rw [place,before]
  · intro more
    have before := run.ends (by omega)
    have place : next + 1 - 1 - (length + 1) = next - 1 - length := by omega
    rw [place,Nat.add_sub_cancel,same]
    exact before

theorem runRestarts {a : UInt32} {next : Nat} (positive : 0 < next) (other : bit a next ≠ bit a (next - 1)) :
    Run a (next+1) 1 := by
  refine ⟨by omega,?_,?_⟩
  · intro j bound
    have first : j = 0 := by omega
    rw [first]
    rfl
  · intro _
    have place : next + 1 - 1 - 1 = next - 1 := by omega
    rw [place,Nat.add_sub_cancel]
    exact other.symm

/- A window that ends here is as long as the run. -/
theorem longHere {a : UInt32} {next length : Nat} (run : Run a (next+1) length) (short : length ≤ 6) :
    LongFrom a next ↔ LongFrom a (next+1) := by
  constructor
  · rintro ⟨i,room,reaches,equal⟩
    by_cases here : i + 6 = next
    · have whole := windowSame equal
      have inside : length < next + 1 := by omega
      have apart := run.ends inside
      have last := whole 6 (Nat.le_refl 6)
      have earlier := whole (6 - length) (by omega)
      have place : next + 1 - 1 - length = i + (6 - length) := by omega
      have end' : next + 1 - 1 = i + 6 := by omega
      rw [place,end',earlier,last] at apart
      exact absurd rfl apart
    · exact ⟨i,room,by omega,equal⟩
  · rintro ⟨i,room,reaches,equal⟩
    exact ⟨i,room,by omega,equal⟩

theorem longFull {a : UInt32} {next : Nat} (run : Run a (next+1) 7) (inside : next < 32) : LongFrom a next := by
  have room := run.inside
  refine ⟨next - 6,by omega,by omega,?_⟩
  intro j bound
  have first := run.same (6 - j) (by omega)
  have second := run.same (5 - j) (by omega)
  have place : next + 1 - 1 - (6 - j) = next - 6 + j := by omega
  have place' : next + 1 - 1 - (5 - j) = next - 6 + j + 1 := by omega
  rw [place] at first
  rw [place'] at second
  exact first.trans second.symm

/- Induction on the bits left: the scan holds the bit below and how often it was seen. -/
theorem scanShort (a : UInt32) {left next length : Nat} (place : next + left = 32) (positive : 0 < length)
    (short : length ≤ 6) (run : Run a next length) :
    runsShort a left (if bit a (next - 1) then 1 else 0) length = true ↔ ¬LongFrom a next := by
  induction left generalizing next length with
  | zero =>
    refine ⟨fun _ => ?_,fun _ => rfl⟩
    rintro ⟨i,room,reaches,_⟩
    omega
  | succ left ih =>
    have index : 31 - left = next := by omega
    have inside : next < 32 := by omega
    have above : 0 < next := Nat.lt_of_lt_of_le positive run.inside
    have current : (a >>> UInt32.ofNat (31 - left)) &&& 1 = if bit a next then 1 else 0 := by
      rw [index]
      exact isolatedBit a inside
    have compared : ((if bit a next then (1 : UInt32) else 0) = if bit a (next - 1) then 1 else 0) ↔
        bit a next = bit a (next - 1) := by
      cases bit a next <;> cases bit a (next - 1) <;> decide
    unfold runsShort
    dsimp only
    rw [current]
    by_cases same : bit a next = bit a (next - 1)
    · rw [if_pos (compared.mpr same)]
      have grown := runGrows run same
      by_cases long : length + 1 > 6
      · have six : length = 6 := by omega
        subst six
        rw [if_pos long]
        exact ⟨fun wrong => (nomatch wrong),fun none => absurd (longFull grown inside) none⟩
      · rw [if_neg long,longHere grown (by omega),← same]
        exact @ih (next + 1) _ (by omega) (by omega) (by omega) grown
    · rw [if_neg (mt compared.mp same)]
      have restarted := runRestarts above same
      rw [longHere restarted (by decide)]
      exact @ih (next + 1) _ (by omega) (by decide) (by decide) restarted

theorem scanRuns (a : UInt32) :
    runsShort a 31 (a &&& 1) 1 = true ↔ ∀ i, i + 7 ≤ 32 → ¬∀ j < 6, bit a (i + j) = bit a (i + j + 1) := by
  have first : a &&& 1 = if bit a (1 - 1) then 1 else 0 := by
    have shifted := isolatedBit a (i := 0) (by decide)
    simpa using shifted
  have run : Run a 1 1 := by
    refine ⟨Nat.le_refl 1,?_,fun wrong => absurd wrong (by decide)⟩
    intro j bound
    have zero : j = 0 := by omega
    rw [zero]
  rw [first,scanShort a (by decide) (by decide) (by decide) run]
  constructor
  · intro none i room equal
    exact none ⟨i,room,by omega,equal⟩
  · rintro none ⟨i,room,_,equal⟩
    exact none i room equal

theorem octetAgrees (a : UInt32) {k m : Nat} (first : 8*k < 32) (second : 8*m < 32) :
    (a >>> UInt32.ofNat (8*k)).toUInt8 = (a >>> UInt32.ofNat (8*m)).toUInt8 ↔ octetAt a k = octetAt a m := by
  have value : ∀ k, 8*k < 32 → ((a >>> UInt32.ofNat (8*k)).toUInt8).toNat = octetAt a k := by
    intro k within
    have small : (UInt32.ofNat (8*k)).toNat % 32 = 8*k := by
      rw [UInt32.toNat_ofNat']
      omega
    rw [UInt32.toNat_toUInt8,UInt32.toNat_shiftRight,small,Nat.shiftRight_eq_div_pow,octetAt]
  rw [← UInt8.toNat_inj,value k first,value m second]

theorem octetsEqual (a : UInt32) : (a.toUInt8 = (a >>> 8).toUInt8 ∧ (a >>> 8).toUInt8 = (a >>> 16).toUInt8 ∧
    (a >>> 16).toUInt8 = (a >>> 24).toUInt8) ↔ ∀ k < 3, octetAt a k = octetAt a (k+1) := by
  have zero : a.toUInt8 = (a >>> UInt32.ofNat (8*0)).toUInt8 := by simp
  rw [zero]
  refine (and_congr (octetAgrees a (k := 0) (m := 1) (by decide) (by decide))
    (and_congr (octetAgrees a (k := 1) (m := 2) (by decide) (by decide))
      (octetAgrees a (k := 2) (m := 3) (by decide) (by decide)))).trans ?_
  constructor
  · rintro ⟨x,y,z⟩ k bound
    match k,bound with
    | 0,_ => exact x
    | 1,_ => exact y
    | 2,_ => exact z
  · intro all
    exact ⟨all 0 (by decide),all 1 (by decide),all 2 (by decide)⟩

theorem accessAddressRules (a : UInt32) (codedPhy : Bool) :
    dataAccessAddressIsValid a codedPhy = true ↔ Rules a codedPhy := by
  unfold dataAccessAddressIsValid
  rw [onesDistance,changesCounted a (by decide) (by decide),changesTop,changesLow,
    onesMasked a (m := 8) (by decide) rfl]
  constructor
  · intro valid
    split at valid
    · cases valid
    rename_i near
    split at valid
    · cases valid
    rename_i octets
    split at valid
    · cases valid
    rename_i runs
    split at valid
    · cases valid
    rename_i counts
    split at valid
    · cases valid
    rename_i coded
    rw [octetsEqual] at octets
    rw [Bool.not_eq_false,scanRuns] at runs
    simp only [not_or,Nat.not_lt] at near counts
    simp only [not_and,not_or,Nat.not_lt] at coded
    exact ⟨near.1,near.2,octets,runs,counts.1,counts.2,coded⟩
  · intro rules
    have near : ¬(a = advAccessAddress ∨ distance a advAccessAddress = 1) := by
      rintro (same | one)
      · exact rules.data same
      · exact rules.apart one
    have counts : ¬(changes a 0 (32 - 1) > 24 ∨ changes a 26 5 < 2) := by
      rintro (many | few)
      · exact absurd rules.few (Nat.not_le.mpr many)
      · exact absurd rules.top (Nat.not_le.mpr few)
    have coded : ¬(codedPhy = true ∧ (onesBelow a 8 < 3 ∨ changes a 0 15 > 11)) := by
      rintro ⟨on,few | many⟩
      · exact absurd (rules.coded on).1 (Nat.not_le.mpr few)
      · exact absurd (rules.coded on).2 (Nat.not_le.mpr many)
    have runs : ¬runsShort a 31 (a &&& 1) 1 = false := by
      rw [Bool.not_eq_false]
      exact (scanRuns a).mpr rules.runs
    rw [if_neg near,if_neg (mt (octetsEqual a).mp rules.octets),if_neg runs,if_neg counts,if_neg coded]

end Ch58xHal.AccessAddress
