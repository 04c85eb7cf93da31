import Ch58xHal.BitFields
import Ch58xHal.CheckedArithmetic

/-! The capacitance-tuning table of the RF front end: four loops in different directions fill
four-bit slots of thirteen words by or-ing signed, possibly negative values into them. -/
namespace Ch58xHal.RfCalibration
open BitFields CheckedArithmetic

def tableWords : Nat := 13

structure Measurement where
  co : UInt8
  ga : UInt8
  deriving DecidableEq, Repr

inductive Error where
  | degenerateCoarseRange
  deriving DecidableEq, Repr

/- `slots` is a log for the proofs: the slots written so far, in order. -/
structure Table where
  words : Vector UInt32 tableWords
  slots : List Nat

-- `none` is the panic of an index out of range.
def putNibble (table : Table) (slot : Nat) (value : Int) : Option Table :=
  let shift := slot % 8 * 4
  if inside : slot / 8 < tableWords then
    some ⟨table.words.set (slot / 8)
      (table.words[slot / 8] ||| ((UInt32.ofInt value &&& 0x0f) <<< UInt32.ofNat shift)),table.slots ++ [slot]⟩
  else none

/- One loop: every step puts its value into its slot. -/
def fill (steps : List Nat) (slot : Nat → Nat) (value : Nat → Option Int) (table : Table) : Option Table :=
  steps.foldlM (fun table step => do putNibble table (slot step) (← value step)) table

def buildTable (mhz2401 mhz2440 mhz2480 : Measurement) : Option (Except Error Table) := do
  let lowCoDelta ← signed 32 ((mhz2401.co.toNat : Int) - mhz2440.co.toNat)
  let highCoDelta ← signed 32 ((mhz2440.co.toNat : Int) - mhz2480.co.toNat)
  if lowCoDelta = 0 ∨ highCoDelta = 0 then
    some (.error .degenerateCoarseRange)
  else
    let lowGaDelta ← signed 32 ((mhz2401.ga.toNat : Int) - mhz2440.ga.toNat)
    let highGaDelta ← signed 32 ((mhz2440.ga.toNat : Int) - mhz2480.ga.toNat)
    let table : Table := ⟨Vector.replicate tableWords 0,[]⟩
    let table ← fill (List.range 40) (fun slot => slot)
      (fun slot => do
        let multiplier ← signed 32 (39 - slot)
        signedDivide 32 (← signed 32 (lowCoDelta * multiplier)) 39) table
    let table ← fill (List.range' 1 42) (fun step => 39 + step)
      (fun step => do signedDivide 32 (← signed 32 (highCoDelta * step)) 40) table
    let table ← fill (List.range' 1 10).reverse (fun step => 82 + (10 - step))
      (fun step => do
        let quotient ← signedDivide 32 (← signed 32 (highGaDelta * step)) highCoDelta
        some (quotient.lor 8)) table
    let table ← fill (List.range 11) (fun step => 92 + step)
      (fun step => do signedDivide 32 (← signed 32 (lowGaDelta * step)) lowCoDelta) table
    some (.ok table)

def nibble (words : Vector UInt32 tableWords) (s : Fin 104) : Nat :=
  slot 4 (s.val % 8) (words.get ⟨s.val / 8,Nat.div_lt_of_lt_mul s.isLt⟩).toNat

/-! One slot. -/

theorem nibbleOfInt (value : Int) : (UInt32.ofInt value &&& 0x0f).toNat = (value % 16).toNat := by
  rw [UInt32.toNat_and]
  show (UInt32.ofInt value).toNat &&& (2^4 - 1) = _
  rw [Nat.and_two_pow_sub_one_eq_mod,UInt32.ofInt,UInt32.toNat_ofNat']
  omega

theorem nibbleShifted (value : Int) {i : Nat} (inside : i < 8) :
    ((UInt32.ofInt value &&& 0x0f) <<< UInt32.ofNat (i * 4)).toNat = (value % 16).toNat <<< (4 * i) := by
  have bits : (UInt32.ofNat (i * 4)).toNat = 4 * i := by
    rw [UInt32.toNat_ofNat',Nat.mod_eq_of_lt (by omega),Nat.mul_comm]
  rw [UInt32.toNat_shiftLeft,nibbleOfInt,bits,Nat.mod_eq_of_lt (show 4 * i < 32 by omega),Nat.shiftLeft_eq]
  refine Nat.mod_eq_of_lt ?_
  calc (value % 16).toNat * 2^(4 * i) < 2^4 * 2^(4 * i) :=
        Nat.mul_lt_mul_of_pos_right (by omega) (Nat.two_pow_pos _)
    _ = 2^(4 + 4 * i) := (Nat.pow_add ..).symm
    _ ≤ 2^32 := Nat.pow_le_pow_right (by decide) (by omega)

theorem nibbleSet (words : Vector UInt32 tableWords) {i : Nat} (inside : i < tableWords) (word : UInt32)
    (s : Fin 104) :
    nibble (words.set i word) s = if i = s.val / 8 then slot 4 (s.val % 8) word.toNat else nibble words s := by
  have read : (words.set i word).get ⟨s.val / 8,Nat.div_lt_of_lt_mul s.isLt⟩ =
      if i = s.val / 8 then word else words.get ⟨s.val / 8,Nat.div_lt_of_lt_mul s.isLt⟩ :=
    Vector.getElem_set ..
  rw [nibble,read]
  split <;> rfl

/- The slots written hold their values, the others are still clear. -/
structure Filled (values : Nat → Int) (table : Table) : Prop where
  once : table.slots.Nodup
  inside : ∀ slot ∈ table.slots, slot < 104
  nibbles : ∀ s : Fin 104, nibble table.words s = if s.val ∈ table.slots then (values s % 16).toNat else 0

theorem emptyFilled (values : Nat → Int) : Filled values ⟨Vector.replicate tableWords 0,[]⟩ := by
  refine ⟨List.nodup_nil,fun _ absent => (nomatch absent),fun s => ?_⟩
  have clear : (Vector.replicate tableWords (0 : UInt32)).get ⟨s.val / 8,Nat.div_lt_of_lt_mul s.isLt⟩ = 0 :=
    Vector.getElem_replicate _
  rw [nibble,clear]
  simp [slot]

/- The step lemma: a write changes its own slot only. -/
theorem putFilled {values : Nat → Int} {table : Table} (filled : Filled values table) {s : Nat}
    (inside : s < 104) (fresh : s ∉ table.slots) :
    ∃ after, putNibble table s (values s) = some after ∧ after.slots = table.slots ++ [s] ∧
      Filled values after := by
  have word : s / 8 < tableWords := Nat.div_lt_of_lt_mul inside
  refine ⟨_,dif_pos word,rfl,?_,?_,?_⟩
  · exact List.nodup_append.mpr ⟨filled.once,by simp,fun a member b single => by
      rw [List.mem_singleton.mp single]
      exact fun same => fresh (same ▸ member)⟩
  · intro t member
    rcases List.mem_append.mp member with old | new
    · exact filled.inside t old
    · rw [List.mem_singleton.mp new]
      exact inside
  · intro t
    have small : (values s % 16).toNat < 2^4 := by omega
    have clear : nibble table.words ⟨s,inside⟩ = 0 := by
      rw [filled.nibbles,if_neg fresh]
    have written := slotFilled small (s % 8) (t.val % 8) (table.words[s / 8]).toNat
    rw [← nibbleShifted (values s) (Nat.mod_lt s (by decide)),← UInt32.toNat_or] at written
    have before := filled.nibbles t
    rw [nibbleSet _ word]
    simp only [List.mem_append,List.mem_singleton]
    by_cases sameWord : s / 8 = t.val / 8
    · have read : slot 4 (t.val % 8) (table.words[s / 8]).toNat = nibble table.words t := by
        simp only [sameWord]
        rfl
      rw [if_pos sameWord,written,read,before]
      by_cases here : t.val = s
      · have own : nibble table.words t = 0 := by
          rw [← clear]
          congr 1
          exact Fin.ext here
        rw [before] at own
        rw [if_pos (by omega),own,Nat.zero_or,if_pos (Or.inr here),here]
      · rw [if_neg (by omega)]
        simp [here]
    · have other : t.val ≠ s := fun same => sameWord (by rw [same])
      rw [if_neg sameWord,before]
      simp [other]

/- The run lemma of a loop. -/
theorem fillFilled {values : Nat → Int} (slot : Nat → Nat) (value : Nat → Option Int) (steps : List Nat)
    {table : Table} (filled : Filled values table)
    (computed : ∀ step ∈ steps, value step = some (values (slot step)))
    (once : (table.slots ++ steps.map slot).Nodup)
    (inside : ∀ s ∈ table.slots ++ steps.map slot, s < 104) :
    ∃ after, fill steps slot value table = some after ∧ after.slots = table.slots ++ steps.map slot ∧
      Filled values after := by
  induction steps generalizing table with
  | nil => exact ⟨table,rfl,(List.append_nil _).symm,filled⟩
  | cons step rest ih =>
    have fresh : slot step ∉ table.slots := by
      intro member
      exact (List.nodup_append.mp once).2.2 _ member _ List.mem_cons_self rfl
    obtain ⟨next,put,slots,kept⟩ := putFilled filled
      (inside _ (List.mem_append_right _ List.mem_cons_self)) fresh
    have same : next.slots ++ rest.map slot = table.slots ++ (step :: rest).map slot := by
      rw [slots,List.append_assoc]
      rfl
    obtain ⟨after,done,grown,last⟩ := ih kept
      (fun other member => computed other (List.mem_cons_of_mem _ member)) (same ▸ once) (same ▸ inside)
    refine ⟨after,?_,grown.trans same,last⟩
    rw [fill,List.foldlM_cons,computed step List.mem_cons_self]
    simp only [Option.bind_eq_bind,Option.bind_some]
    rw [put]
    exact done

/-! The whole table. -/

def interpolated (lowCo highCo lowGa highGa : Int) (s : Nat) : Int :=
  if s ≤ 39 then (lowCo * (39 - s)).tdiv 39
  else if s ≤ 81 then (highCo * (s - 39)).tdiv 40
  else if s ≤ 91 then ((highGa * (92 - s)).tdiv highCo).lor 8
  else if s ≤ 102 then (lowGa * (s - 92)).tdiv lowCo
  else 0

theorem deltaFits (a b : UInt8) :
    signed 32 ((a.toNat : Int) - b.toNat) = some ((a.toNat : Int) - b.toNat) ∧
      ((a.toNat : Int) - b.toNat).natAbs ≤ 255 := by
  have first : a.toNat < 2^8 := a.toNat_lt
  have second : b.toNat < 2^8 := b.toNat_lt
  have bound : ((a.toNat : Int) - b.toNat).natAbs ≤ 255 := by omega
  exact ⟨signedFits (Nat.lt_of_le_of_lt bound (by decide)),bound⟩

theorem scaledFits {delta step divisor : Int} (small : delta.natAbs ≤ 255) (short : step.natAbs ≤ 42)
    (nonzero : divisor ≠ 0) :
    (signed 32 (delta * step)).bind (fun product => signedDivide 32 product divisor) =
      some ((delta * step).tdiv divisor) := by
  have fits : (delta * step).natAbs < 2^(32-1) := by
    rw [Int.natAbs_mul]
    calc delta.natAbs * step.natAbs ≤ 255 * 42 := Nat.mul_le_mul small short
      _ < 2^(32-1) := by decide
  rw [signedFits fits,Option.bind_some,signedDivideBy nonzero fits]

/-! What each loop computes is the value of the slot it writes. -/
section
variable (lowCo highCo lowGa highGa : Int)

theorem lowCoLoop (small : lowCo.natAbs ≤ 255) : ∀ slot ∈ List.range 40,
    ((signed 32 (39 - (slot : Int))).bind fun multiplier =>
      (signed 32 (lowCo * multiplier)).bind fun product => signedDivide 32 product 39) =
        some (interpolated lowCo highCo lowGa highGa slot) := by
  intro slot member
  have bound : slot < 40 := List.mem_range.mp member
  rw [signedFits (show (39 - (slot : Int)).natAbs < 2^(32-1) by omega),Option.bind_some,
    scaledFits small (by omega) (by decide),interpolated,if_pos (by omega)]

theorem highCoLoop (small : highCo.natAbs ≤ 255) : ∀ step ∈ List.range' 1 42,
    ((signed 32 (highCo * (step : Int))).bind fun product => signedDivide 32 product 40) =
      some (interpolated lowCo highCo lowGa highGa (39 + step)) := by
  intro step member
  obtain ⟨low,high⟩ := List.mem_range'_1.mp member
  have same : ((39 + step : Nat) : Int) - 39 = step := by omega
  rw [scaledFits small (by omega) (by decide),interpolated,if_neg (by omega),if_pos (by omega),same]

theorem highGaLoop (small : highGa.natAbs ≤ 255) (nonzero : highCo ≠ 0) : ∀ step ∈ (List.range' 1 10).reverse,
    ((signed 32 (highGa * (step : Int))).bind fun product =>
      (signedDivide 32 product highCo).bind fun quotient => some (quotient.lor 8)) =
        some (interpolated lowCo highCo lowGa highGa (82 + (10 - step))) := by
  intro step member
  obtain ⟨low,high⟩ := List.mem_range'_1.mp (List.mem_reverse.mp member)
  have same : 92 - ((82 + (10 - step) : Nat) : Int) = step := by omega
  rw [← Option.bind_assoc,scaledFits small (by omega) nonzero,Option.bind_some,interpolated,
    if_neg (by omega),if_neg (by omega),if_pos (by omega),same]

theorem lowGaLoop (small : lowGa.natAbs ≤ 255) (nonzero : lowCo ≠ 0) : ∀ step ∈ List.range 11,
    ((signed 32 (lowGa * (step : Int))).bind fun product => signedDivide 32 product lowCo) =
      some (interpolated lowCo highCo lowGa highGa (92 + step)) := by
  intro step member
  have bound : step < 11 := List.mem_range.mp member
  have same : ((92 + step : Nat) : Int) - 92 = step := by omega
  rw [scaledFits small (by omega) nonzero,interpolated,if_neg (by omega),if_neg (by omega),
    if_neg (by omega),if_pos (by omega),same]

end

theorem fourLoops : (((List.range 40).map fun slot => slot) ++ (List.range' 1 42).map fun step => 39 + step) ++
    ((List.range' 1 10).reverse.map fun step => 82 + (10 - step)) ++ ((List.range 11).map fun step => 92 + step) =
      List.range 103 := by decide

theorem loopSlots {slots more : List Nat} (all : slots ++ more = List.range 103) :
    slots.Nodup ∧ ∀ slot ∈ slots, slot < 104 := by
  have once : (slots ++ more).Nodup := all ▸ List.nodup_range
  refine ⟨(List.nodup_append.mp once).1,fun slot member => ?_⟩
  have known : slot ∈ List.range 103 := all ▸ List.mem_append_left more member
  exact Nat.lt_of_lt_of_le (List.mem_range.mp known) (by decide)

theorem tableFilled (low mid high : Measurement) (coarse : low.co ≠ mid.co) (fine : mid.co ≠ high.co) :
    ∃ table, buildTable low mid high = some (.ok table) ∧ table.slots = List.range 103 ∧
      Filled (interpolated ((low.co.toNat : Int) - mid.co.toNat) ((mid.co.toNat : Int) - high.co.toNat)
        ((low.ga.toNat : Int) - mid.ga.toNat) ((mid.ga.toNat : Int) - high.ga.toNat)) table := by
  obtain ⟨lowCo,lowCoSmall⟩ := deltaFits low.co mid.co
  obtain ⟨highCo,highCoSmall⟩ := deltaFits mid.co high.co
  obtain ⟨lowGa,lowGaSmall⟩ := deltaFits low.ga mid.ga
  obtain ⟨highGa,highGaSmall⟩ := deltaFits mid.ga high.ga
  have lowNonzero : (low.co.toNat : Int) - mid.co.toNat ≠ 0 := fun zero =>
    coarse (UInt8.toNat_inj.mp (by omega))
  have highNonzero : (mid.co.toNat : Int) - high.co.toNat ≠ 0 := fun zero =>
    fine (UInt8.toNat_inj.mp (by omega))
  unfold buildTable
  rw [lowCo,highCo,lowGa,highGa]
  generalize (low.co.toNat : Int) - mid.co.toNat = lowDelta at lowCoSmall lowNonzero ⊢
  generalize (mid.co.toNat : Int) - high.co.toNat = highDelta at highCoSmall highNonzero ⊢
  generalize (low.ga.toNat : Int) - mid.ga.toNat = lowGain at lowGaSmall ⊢
  generalize (mid.ga.toNat : Int) - high.ga.toNat = highGain at highGaSmall ⊢
  simp only [Option.bind_eq_bind,Option.bind_some]
  rw [if_neg (not_or.mpr ⟨lowNonzero,highNonzero⟩)]
  -- the slots of the first loops, in the order in which the loops run
  have one := loopSlots ((List.append_assoc ..).symm.trans ((List.append_assoc ..).symm.trans fourLoops))
  have two := loopSlots ((List.append_assoc ..).symm.trans fourLoops)
  have three := loopSlots fourLoops
  have four := loopSlots ((List.append_nil _).trans fourLoops)
  obtain ⟨table₁,done₁,slots₁,filled₁⟩ := fillFilled _ _ _
    (emptyFilled (interpolated lowDelta highDelta lowGain highGain)) (lowCoLoop _ _ _ _ lowCoSmall)
    one.1 one.2
  obtain ⟨table₂,done₂,slots₂,filled₂⟩ := fillFilled _ _ _ filled₁ (highCoLoop _ _ _ _ highCoSmall)
    (by rw [slots₁]; exact two.1) (by rw [slots₁]; exact two.2)
  obtain ⟨table₃,done₃,slots₃,filled₃⟩ := fillFilled _ _ _ filled₂
    (highGaLoop _ _ _ _ highGaSmall highNonzero)
    (by rw [slots₂,slots₁]; exact three.1) (by rw [slots₂,slots₁]; exact three.2)
  obtain ⟨table₄,done₄,slots₄,filled₄⟩ := fillFilled _ _ _ filled₃
    (lowGaLoop _ _ _ _ lowGaSmall lowNonzero)
    (by rw [slots₃,slots₂,slots₁]; exact four.1) (by rw [slots₃,slots₂,slots₁]; exact four.2)
  refine ⟨table₄,?_,?_,filled₄⟩
  · rw [done₁,Option.bind_some,done₂,Option.bind_some,done₃,Option.bind_some,done₄,Option.bind_some]
  · rw [slots₄,slots₃,slots₂,slots₁]
    exact fourLoops

theorem tableExact (low mid high : Measurement) :
    (buildTable low mid high = some (.error .degenerateCoarseRange) ↔ low.co = mid.co ∨ mid.co = high.co) ∧
    (¬(low.co = mid.co ∨ mid.co = high.co) →
      ∃ table, buildTable low mid high = some (.ok table) ∧ table.slots.Nodup ∧
        (∀ slot ∈ table.slots, slot < 104) ∧
        ∀ s : Fin 104, (nibble table.words s : Int) =
          interpolated ((low.co.toNat : Int) - mid.co.toNat) ((mid.co.toNat : Int) - high.co.toNat)
            ((low.ga.toNat : Int) - mid.ga.toNat) ((mid.ga.toNat : Int) - high.ga.toNat) s % 16) := by
  refine ⟨⟨fun failed => ?_,fun equal => ?_⟩,fun apart => ?_⟩
  · by_contra apart
    obtain ⟨coarse,fine⟩ := not_or.mp apart
    obtain ⟨table,built,_⟩ := tableFilled low mid high coarse fine
    rw [built] at failed
    cases failed
  · have zero : (low.co.toNat : Int) - mid.co.toNat = 0 ∨ (mid.co.toNat : Int) - high.co.toNat = 0 := by
      rcases equal with same | same <;> simp [same]
    unfold buildTable
    rw [(deltaFits low.co mid.co).1,(deltaFits mid.co high.co).1]
    exact if_pos zero
  · obtain ⟨coarse,fine⟩ := not_or.mp apart
    obtain ⟨table,built,slots,filled⟩ := tableFilled low mid high coarse fine
    refine ⟨table,built,filled.once,filled.inside,fun s => ?_⟩
    rw [filled.nibbles,slots]
    by_cases written : s.val < 103
    · rw [if_pos (List.mem_range.mpr written)]
      omega
    · rw [if_neg (fun member => written (List.mem_range.mp member)),interpolated,if_neg (by omega),
        if_neg (by omega),if_neg (by omega),if_neg (by omega)]
      rfl

end Ch58xHal.RfCalibration
