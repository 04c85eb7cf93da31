import Mathlib.Data.BitVec
import Mathlib.Data.List.Basic

/-! A register that divides by a polynomial: it shifts towards its top position, and the bit
that leaves, plus the input, adds the polynomial. Feeding it is linear, and when the polynomial
has a constant term a shift without input can be undone; that is why no error confined to as
many bits as the register has positions leaves it at zero. -/
namespace Ch58xHal.FeedbackRegister

variable {n : Nat} (poly : BitVec n)

def shiftIn (s : BitVec n) (input : Bool) : BitVec n :=
  if s.msb ^^ input then (s <<< 1) ^^^ poly else s <<< 1

def run (s : BitVec n) (bits : List Bool) : BitVec n := bits.foldl (shiftIn poly) s

/- The positions from the top down, which is the order they go on air. -/
def topDown (s : BitVec n) : List Bool := (List.range n).map s.getMsbD

def flips (x y : List Bool) : List Bool := List.zipWith (· ^^ ·) x y

theorem runAppend (s : BitVec n) (a b : List Bool) : run poly s (a ++ b) = run poly (run poly s a) b :=
  List.foldl_append

/-! Linearity. -/

def feedback (on : Bool) : BitVec n := if on then poly else 0

theorem shiftFeeds (s : BitVec n) (input : Bool) :
    shiftIn poly s input = (s <<< 1) ^^^ feedback poly (s.msb ^^ input) := by
  unfold shiftIn feedback
  split
  · rfl
  · exact BitVec.xor_zero.symm

theorem feedbackAdd (a b : Bool) : feedback poly (a ^^ b) = feedback poly a ^^^ feedback poly b := by
  cases a <;> cases b <;> simp [feedback]

theorem shiftAdd (s t : BitVec n) (a b : Bool) :
    shiftIn poly (s ^^^ t) (a ^^ b) = shiftIn poly s a ^^^ shiftIn poly t b := by
  have leaves : ((s ^^^ t).msb ^^ (a ^^ b)) = ((s.msb ^^ a) ^^ (t.msb ^^ b)) := by
    rw [BitVec.msb_xor]
    cases s.msb <;> cases t.msb <;> cases a <;> cases b <;> rfl
  rw [shiftFeeds,shiftFeeds,shiftFeeds,leaves,feedbackAdd,BitVec.shiftLeft_xor_distrib]
  ac_rfl

theorem runAdd (s t : BitVec n) {x y : List Bool} (size : x.length = y.length) :
    run poly (s ^^^ t) (flips x y) = run poly s x ^^^ run poly t y := by
  induction x generalizing s t y with
  | nil =>
    obtain rfl : y = [] := List.length_eq_zero_iff.mp size.symm
    rfl
  | cons a x ih =>
    cases y with
    | nil => cases size
    | cons b y =>
      have step := ih (shiftIn poly s a) (shiftIn poly t b) (Nat.succ.inj size)
      rw [← shiftAdd] at step
      exact step

theorem runQuiet (k : Nat) : run poly 0 (List.replicate k false) = 0 := by
  induction k with
  | zero => rfl
  | succ k ih =>
    have still : shiftIn poly 0 false = 0 := by simp [shiftIn]
    show run poly (shiftIn poly 0 false) (List.replicate k false) = 0
    rw [still,ih]

theorem flippedAt {x y : List Bool} (size : y.length = x.length) (i : Nat) :
    (flips y x)[i]? = some true ↔ y[i]? ≠ x[i]? := by
  unfold flips
  rw [List.getElem?_zipWith]
  by_cases inside : i < x.length
  · have other : i < y.length := by omega
    rw [List.getElem?_eq_getElem inside,List.getElem?_eq_getElem other]
    cases x[i] <;> cases y[i] <;> simp
  · rw [List.getElem?_eq_none (by omega),List.getElem?_eq_none (by omega)]
    simp

/-! The register's own contents drain it. -/

theorem shiftTop (s : BitVec n) : shiftIn poly s s.msb = s <<< 1 := by
  simp [shiftIn]

theorem drainFirst (s : BitVec n) (k : Nat) : run poly s ((List.range k).map s.getMsbD) = s <<< k := by
  induction k with
  | zero => simp [run]
  | succ k ih =>
    have top : (s <<< k).msb = s.getMsbD k := by simp [BitVec.msb_shiftLeft]
    rw [List.range_succ,List.map_append,runAppend,ih]
    show shiftIn poly (s <<< k) (s.getMsbD k) = s <<< (k+1)
    rw [← top,shiftTop,← BitVec.shiftLeft_add]

theorem runTopDown (s : BitVec n) : run poly s (topDown s) = 0 := by
  rw [topDown,drainFirst,BitVec.shiftLeft_eq_zero (Nat.le_refl n)]
  rfl

/-! Bursts. -/

section Bursts
variable {poly} (constant : poly.getLsbD 0 = true)
include constant

theorem shiftInjective {s : BitVec n} (zero : shiftIn poly s false = 0) : s = 0 := by
  have low : ∀ t : BitVec n, (t <<< 1).getLsbD 0 = false := by
    intro t
    simp [BitVec.getLsbD_shiftLeft]
  unfold shiftIn at zero
  cases top : s.msb with
  | true =>
    rw [top] at zero
    have bit := congrArg (fun t => BitVec.getLsbD t 0) zero
    simp [low,constant] at bit
  | false =>
    rw [top] at zero
    have shifted : s <<< 1 = 0 := by simpa using zero
    apply BitVec.eq_of_getLsbD_eq
    intro i inside
    by_cases last : i + 1 = n
    · have same : s.msb = s.getLsbD i := by
        rw [BitVec.msb_eq_getLsbD_last]
        congr 1
        omega
      simp [← same,top]
    · have bit := congrArg (fun t => BitVec.getLsbD t (i+1)) shifted
      have next : i + 1 < n := by omega
      simpa [BitVec.getLsbD_shiftLeft,next,BitVec.getLsbD_eq_getElem inside] using bit

theorem runInjective {s : BitVec n} {k : Nat} (zero : run poly s (List.replicate k false) = 0) : s = 0 := by
  induction k generalizing s with
  | zero => exact zero
  | succ k ih => exact shiftInjective constant (ih zero)

/- A burst as long as the register leaves what the same bits, loaded into it, leave. -/
theorem burstLoads {w : List Bool} (size : w.length = n) :
    ∃ v : BitVec n, topDown v = w ∧ run poly 0 w = run poly v (List.replicate n false) := by
  subst size
  have same : topDown (BitVec.ofBoolListBE w) = w := by
    apply List.ext_getElem
    · simp [topDown]
    · intro i left right
      simp [topDown,BitVec.getMsbD_ofBoolListBE,List.getElem?_eq_getElem right]
  refine ⟨BitVec.ofBoolListBE w,same,?_⟩
  have drained := runTopDown poly (BitVec.ofBoolListBE w)
  rw [same] at drained
  have both := runAdd poly 0 (BitVec.ofBoolListBE w) (x := w) (y := w) rfl
  have quiet : flips w w = List.replicate w.length false := by
    simp [flips,List.zipWith_self,List.map_const']
  rw [drained,quiet] at both
  simpa using both.symm

theorem burstSeen {w : List Bool} (size : w.length = n) (some : true ∈ w) : run poly 0 w ≠ 0 := by
  intro zero
  obtain ⟨v,loaded,leaves⟩ := burstLoads constant size
  have none : v = 0 := runInjective constant (leaves.symm.trans zero)
  subst none
  rw [← loaded] at some
  simp [topDown] at some

/- A string with nothing set outside `n` consecutive places. -/
theorem windowSeen {e : List Bool} {first : Nat} (room : first + n ≤ e.length) (present : true ∈ e)
    (window : ∀ i : Nat, e[i]? = some true → first ≤ i ∧ i < first + n) : run poly 0 e ≠ 0 := by
  have outside : ∀ i : Nat, ∀ inside : i < e.length, (i < first ∨ first + n ≤ i) → e[i] = false := by
    intro i inside away
    by_contra set
    have here := window i (by simp [List.getElem?_eq_getElem inside,set])
    omega
  have before : e.take first = List.replicate first false := by
    refine List.ext_getElem (by simp; omega) ?_
    intro i left right
    have inside : i < first := by simpa using right
    simp [outside i (by omega) (Or.inl inside)]
  have after : e.drop (first + n) = List.replicate (e.length - (first + n)) false := by
    refine List.ext_getElem (by simp) ?_
    intro i left right
    have inside : i < e.length - (first + n) := by simpa using right
    simp [outside (first + n + i) (by omega) (Or.inr (by omega))]
  have whole : e = List.replicate first false ++ ((e.drop first).take n ++
      List.replicate (e.length - (first + n)) false) := by
    rw [← before,← after,← List.drop_drop,List.take_append_drop,List.take_append_drop]
  have middle : true ∈ (e.drop first).take n := by
    rw [whole] at present
    simpa using present
  have size : ((e.drop first).take n).length = n := by
    simp
    omega
  rw [whole,runAppend,runAppend,runQuiet]
  intro zero
  exact burstSeen constant size middle (runInjective constant zero)

/- Two strings that differ only inside `n` consecutive places never leave the same register. -/
theorem burstDetected (s : BitVec n) {x y : List Bool} (size : y.length = x.length) (long : n ≤ x.length)
    (differ : ∃ i : Nat, y[i]? ≠ x[i]?) {first : Nat}
    (burst : ∀ i : Nat, y[i]? ≠ x[i]? → first ≤ i ∧ i < first + n) : run poly s y ≠ run poly s x := by
  intro same
  have both := runAdd poly s s size
  rw [same,BitVec.xor_self,BitVec.xor_self] at both
  have long' : (flips y x).length = x.length := by simp [flips,size]
  obtain ⟨i,set⟩ := differ
  have set := (flippedAt size i).mpr set
  -- a window that reaches past the end may be moved back to it
  have room : min first (x.length - n) + n ≤ (flips y x).length := by omega
  refine windowSeen constant room (List.mem_of_getElem? set) ?_ both
  intro j flipped
  have inside : j < (flips y x).length := (List.getElem?_eq_some_iff.mp flipped).1
  have here := burst j ((flippedAt size j).mp flipped)
  omega

end Bursts

end Ch58xHal.FeedbackRegister
