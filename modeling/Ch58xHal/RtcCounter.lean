import Mathlib.Data.Nat.Find
import Mathlib.Order.Basic

/-! The real-time counter. The hardware shows a tick count through two registers that carry one
into the other; a reading takes them high-low-high while the ticks go on between the reads. -/
namespace Ch58xHal.RtcCounter

def dayTicks : Nat := 43200 * 65536

/-! The registers at a moment, counted in ticks from a midnight. -/

def cnt32k (moment : Nat) : UInt16 := UInt16.ofNat (moment % 65536)

def cnt2s (moment : Nat) : UInt16 := UInt16.ofNat (moment / 65536 % 43200)

def counter (moment : Nat) : Nat := moment % dayTicks

/- When the reads of one call take place: the interleaving of its reads with the ticks. -/
structure Interleaving where
  moment : Nat → Nat
  ordered : ∀ read, moment read ≤ moment (read + 1)
  short : ∀ read, moment read < moment 0 + dayTicks / 2

-- One pass of the loop, from the given read on; `none` goes around again.
def turn (moment : Nat → Nat) (read : Nat) : Option UInt32 :=
  let highBefore := cnt2s (moment read)
  let low := cnt32k (moment (read + 1))
  let highAfter := cnt2s (moment (read + 2))
  if highBefore = highAfter then some ((highBefore.toUInt32 <<< 16) ||| low.toUInt32) else none

def counterTicks (moment : Nat → Nat) : Nat → Nat → Option UInt32
  | 0,_ => none
  | turns+1,read =>
    match turn moment read with
    | some value => some value
    | none => counterTicks moment turns (read + 3)

def elapsedTicks (start finish : UInt32) : UInt32 := finish - start

/- The call goes around `turns` times and then returns the value. -/
def Returns (call : Interleaving) (turns : Nat) (value : UInt32) : Prop :=
  counterTicks call.moment turns 0 = none ∧ counterTicks call.moment (turns + 1) 0 = some value

/- The value is the counter at a moment between the first read and the last one. -/
def Untorn (call : Interleaving) (turns : Nat) (value : UInt32) (moment : Nat) : Prop :=
  call.moment 0 ≤ moment ∧ moment ≤ call.moment (3 * turns + 2) ∧ value.toNat = counter moment

/-! One turn. -/

theorem orderedReads (call : Interleaving) {first last : Nat} (later : first ≤ last) :
    call.moment first ≤ call.moment last := by
  induction last,later using Nat.le_induction with
  | base => exact Nat.le_refl _
  | succ last _ ih => exact Nat.le_trans ih (call.ordered last)

theorem cnt2sExact (moment : Nat) : (cnt2s moment).toNat = moment / 65536 % 43200 := by
  rw [cnt2s,UInt16.toNat_ofNat']
  omega

theorem cnt32kExact (moment : Nat) : (cnt32k moment).toNat = moment % 65536 := by
  rw [cnt32k,UInt16.toNat_ofNat']
  omega

theorem counterSplit (moment : Nat) : counter moment = moment / 65536 % 43200 * 65536 + moment % 65536 := by
  unfold counter dayTicks
  omega

theorem joinedRegisters (high low : UInt16) :
    ((high.toUInt32 <<< 16) ||| low.toUInt32).toNat = high.toNat * 65536 + low.toNat := by
  have lowSmall : low.toNat < 2^16 := low.toNat_lt
  have highSmall : high.toNat < 2^16 := high.toNat_lt
  have shifted : (high.toUInt32 <<< 16).toNat = high.toNat <<< 16 := by
    rw [UInt32.toNat_shiftLeft]
    show high.toNat <<< 16 % 2^32 = _
    rw [Nat.shiftLeft_eq]
    omega
  rw [UInt32.toNat_or,shifted]
  show high.toNat <<< 16 ||| low.toNat = _
  rw [← Nat.shiftLeft_add_eq_or_of_lt lowSmall,Nat.shiftLeft_eq]

/- In a call shorter than a day, equal high registers belong to the same two seconds, and the
low register was read in them. -/
theorem turnUntorn (call : Interleaving) {read : Nat} {value : UInt32} (done : turn call.moment read = some value) :
    value.toNat = counter (call.moment (read + 1)) := by
  have up := call.ordered read
  have down : call.moment (read + 1) ≤ call.moment (read + 2) := call.ordered (read + 1)
  have start := orderedReads call (Nat.zero_le read)
  have limit := call.short (read + 2)
  unfold turn at done
  simp only at done
  split at done
  · rename_i same
    have units := congrArg UInt16.toNat same
    rw [cnt2sExact,cnt2sExact] at units
    rw [← Option.some.inj done,joinedRegisters,cnt2sExact,cnt32kExact,counterSplit]
    unfold dayTicks at limit
    have unit : call.moment read / 65536 = call.moment (read + 1) / 65536 := by omega
    rw [unit]
  · cases done

theorem turnCarries (call : Interleaving) {read : Nat} (again : turn call.moment read = none) :
    call.moment read / 65536 < call.moment (read + 3) / 65536 := by
  have before := orderedReads call (show read ≤ read + 2 by omega)
  have after := orderedReads call (show read + 2 ≤ read + 3 by omega)
  unfold turn at again
  simp only at again
  split at again
  · cases again
  · rename_i different
    have units : call.moment read / 65536 ≠ call.moment (read + 2) / 65536 := fun same =>
      different (by rw [cnt2s,cnt2s,same])
    omega

/-! The loop. -/

theorem firstTurn (moment : Nat → Nat) (turns read : Nat) :
    counterTicks moment (turns + 1) read =
      match turn moment read with
      | some value => some value
      | none => counterTicks moment turns (read + 3) := rfl

theorem lastTurn (moment : Nat → Nat) (turns read : Nat) :
    counterTicks moment (turns + 1) read =
      match counterTicks moment turns read with
      | some value => some value
      | none => turn moment (read + 3 * turns) := by
  induction turns generalizing read with
  | zero =>
    rw [firstTurn]
    cases turn moment read <;> rfl
  | succ turns ih =>
    rw [firstTurn moment (turns + 1) read,firstTurn moment turns read]
    cases turn moment read with
    | some value => rfl
    | none =>
      have next : read + 3 * (turns + 1) = read + 3 + 3 * turns := by omega
      rw [next]
      exact ih (read + 3)

theorem goneAround (call : Interleaving) {turns : Nat} (again : counterTicks call.moment turns 0 = none) :
    call.moment 0 / 65536 + turns ≤ call.moment (3 * turns) / 65536 := by
  induction turns with
  | zero => exact Nat.le_refl _
  | succ turns ih =>
    rw [lastTurn] at again
    cases before : counterTicks call.moment turns 0 with
    | some value => rw [before] at again; cases again
    | none =>
      rw [before,Nat.zero_add] at again
      have known := ih before
      have carried := turnCarries call again
      have next : 3 * (turns + 1) = 3 * turns + 3 := by omega
      rw [next]
      omega

/- Half a day has 21600 carries. -/
theorem eventuallyReturns (call : Interleaving) : ∃ turns value, Returns call turns value := by
  have done : ∃ turns, counterTicks call.moment turns 0 ≠ none := by
    refine ⟨21602,fun again => ?_⟩
    have known := goneAround call again
    have limit := call.short (3 * 21602)
    unfold dayTicks at limit
    omega
  obtain ⟨turns,last⟩ : ∃ turns, turns + 1 = Nat.find done := by
    refine Nat.exists_eq_add_one.mpr (Nat.pos_of_ne_zero fun zero => ?_) |>.imp fun _ same => same.symm
    have := Nat.find_spec done
    rw [zero] at this
    exact this rfl
  obtain ⟨value,returned⟩ := Option.ne_none_iff_exists'.mp (Nat.find_spec done)
  refine ⟨turns,value,?_,last ▸ returned⟩
  have earlier := Nat.find_min done (show turns < Nat.find done by omega)
  exact not_not.mp earlier

theorem returnsUntorn {call : Interleaving} {turns : Nat} {value : UInt32} (returned : Returns call turns value) :
    Untorn call turns value (call.moment (3 * turns + 1)) := by
  obtain ⟨again,done⟩ := returned
  rw [lastTurn,again,Nat.zero_add] at done
  exact ⟨orderedReads call (Nat.zero_le _),orderedReads call (by omega),turnUntorn call done⟩

/- Within a call the counter does not repeat, so the moment is the only one. -/
theorem momentUnique {call : Interleaving} {turns : Nat} {value : UInt32} {t u : Nat}
    (one : Untorn call turns value t) (other : Untorn call turns value u) : t = u := by
  obtain ⟨oneFrom,oneTo,oneCount⟩ := one
  obtain ⟨otherFrom,otherTo,otherCount⟩ := other
  have limit := call.short (3 * turns + 2)
  have same : counter t = counter u := oneCount.symm.trans otherCount
  unfold counter at same
  unfold dayTicks at limit same
  omega

/-! Differences. -/

theorem elapsedWraps {start finish : UInt32} {t u : Nat} (begun : start.toNat = counter t)
    (ended : finish.toNat = counter u) (later : t ≤ u) (close : u < t + dayTicks) :
    (elapsedTicks start finish).toNat = u - t ↔ t / dayTicks = u / dayTicks := by
  rw [elapsedTicks,UInt32.toNat_sub,begun,ended]
  unfold counter
  unfold dayTicks at close ⊢
  omega

theorem readingsExact (first second : Interleaving) :
    (∃ turns value, Returns first turns value) ∧
    (∀ turns value, Returns first turns value → ∃! t, Untorn first turns value t) ∧
    ∀ m n start finish t u, Returns first m start → Returns second n finish →
      Untorn first m start t → Untorn second n finish u → t ≤ u → u < t + dayTicks →
      ((elapsedTicks start finish).toNat = u - t ↔ t / dayTicks = u / dayTicks) := by
  refine ⟨eventuallyReturns first,fun turns value returned => ?_,?_⟩
  · exact ⟨_,returnsUntorn returned,fun t other => momentUnique other (returnsUntorn returned)⟩
  · intro m n start finish t u _ _ begun ended later close
    exact elapsedWraps begun.2.2 ended.2.2 later close

def atOnce (moment : Nat) : Interleaving where
  moment _ := moment
  ordered _ := Nat.le_refl _
  short _ := Nat.lt_add_of_pos_right (by decide)

/- One tick apart across midnight: the difference wraps at 2^32, the counter at a day. -/
theorem midnightLost : ∃ first second start finish t u,
    Returns first 0 start ∧ Returns second 0 finish ∧ Untorn first 0 start t ∧ Untorn second 0 finish u ∧
      t ≤ u ∧ u < t + dayTicks ∧ (elapsedTicks start finish).toNat ≠ u - t := by
  refine ⟨atOnce (dayTicks - 1),atOnce dayTicks,2831155199,0,dayTicks - 1,dayTicks,?_⟩
  have first : Returns (atOnce (dayTicks - 1)) 0 2831155199 := ⟨rfl,by decide⟩
  have second : Returns (atOnce dayTicks) 0 0 := ⟨rfl,by decide⟩
  exact ⟨first,second,returnsUntorn first,returnsUntorn second,by decide,by decide,by decide⟩

end Ch58xHal.RtcCounter
