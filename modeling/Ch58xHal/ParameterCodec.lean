import Ch58xHal.OctetFields

/-! LL_CONNECTION_PARAM_REQ and LL_CONNECTION_PARAM_RSP: the parser accepts exactly the
images of valid parameter sets. -/
namespace Ch58xHal.ParameterCodec
open ControlPdu ConnectionParamPdu OctetFields

/- Validity over unbounded integers. -/
def RangeHolds (p : ConnectionParamPdu) : Prop :=
  6 ≤ p.intervalMin.toNat ∧ p.intervalMin.toNat ≤ p.intervalMax.toNat ∧ p.intervalMax.toNat ≤ 3200 ∧
    p.latency.toNat ≤ 499 ∧ 10 ≤ p.supervisionTimeout.toNat ∧ p.supervisionTimeout.toNat ≤ 3200 ∧
    2 * (p.latency.toNat + 1) * p.intervalMax.toNat < p.supervisionTimeout.toNat * 8

def OffsetsHold (intervalMax : UInt16) (offsets : List UInt16) (k : Nat) : Prop :=
  (offsets.take k).Nodup ∧ (∀ offset ∈ offsets.take k, offset.toNat < intervalMax.toNat) ∧
    ∀ offset ∈ offsets.drop k, offset = 0xffff

def ReferenceHolds (p : ConnectionParamPdu) (eventCounter : UInt16) : Prop :=
  ((p.referenceEventCount.toNat : Int) - eventCounter.toNat) % 65536 ≤ 32766

def ParametersHold (p : ConnectionParamPdu) (eventCounter : UInt16) : Prop :=
  RangeHolds p ∧ p.preferredPeriodicity.toNat ≤ p.intervalMax.toNat ∧
    ∃ k ≤ 6, OffsetsHold p.intervalMax p.offsets.toList k ∧ (k = 0 ∨ ReferenceHolds p eventCounter)

/-! The validity check. -/

theorem rangeValid (p : ConnectionParamPdu) :
    connectionParameterRangeIsValid p.intervalMin p.intervalMax p.latency p.supervisionTimeout ↔
      RangeHolds p := by
  unfold connectionParameterRangeIsValid RangeHolds
  simp only [Bool.and_eq_true,decide_eq_true_eq,ge_iff_le,gt_iff_lt,UInt16.le_iff_toNat_le]
  simp only [and_assoc]
  rfl

theorem scanAfterInvalid (intervalMax : UInt16) (before rest : List UInt16) (found : Bool) :
    scanOffsets intervalMax before true rest = some found ↔
      (∀ offset ∈ rest, offset = 0xffff) ∧ found = (before != []) := by
  induction rest with
  | nil =>
    rw [scanOffsets]
    simp [eq_comm]
  | cons offset rest ih =>
    rw [scanOffsets]
    split <;> rename_i marker
    · rw [ih]
      simp [marker]
    · simp [marker]

theorem belowNotMarker {offset intervalMax : UInt16} (below : offset.toNat < intervalMax.toNat) :
    offset ≠ 0xffff := by
  rintro rfl
  have top := UInt16.toNat_lt intervalMax
  have marker : (0xffff : UInt16).toNat = 65535 := by decide
  omega

theorem offsetsCons (intervalMax offset : UInt16) (rest : List UInt16) (k : Nat) :
    OffsetsHold intervalMax (offset :: rest) (k+1) ↔
      offset.toNat < intervalMax.toNat ∧ offset ∉ rest.take k ∧ OffsetsHold intervalMax rest k := by
  unfold OffsetsHold
  rw [List.take_succ_cons,List.drop_succ_cons,List.nodup_cons,List.forall_mem_cons]
  constructor
  · rintro ⟨⟨unseen,distinct⟩,⟨small,below⟩,after⟩
    exact ⟨small,unseen,distinct,below,after⟩
  · rintro ⟨small,unseen,distinct,below,after⟩
    exact ⟨⟨unseen,distinct⟩,⟨small,below⟩,after⟩

/- A real offset can only stand inside the prefix. -/
theorem offsetsPrefix {intervalMax offset : UInt16} {rest : List UInt16} {k : Nat}
    (marker : offset ≠ 0xffff) (holds : OffsetsHold intervalMax (offset :: rest) k) :
    ∃ m, k = m + 1 ∧ offset.toNat < intervalMax.toNat ∧ offset ∉ rest.take m ∧
      OffsetsHold intervalMax rest m := by
  cases k with
  | zero => exact absurd (holds.2.2 offset (by simp)) marker
  | succ m => exact ⟨m,rfl,(offsetsCons intervalMax offset rest m).mp holds⟩

/- Induction over the offsets; `before` are those already accepted. -/
theorem scanFrom (intervalMax : UInt16) (before rest : List UInt16) (found : Bool) :
    scanOffsets intervalMax before false rest = some found ↔
      ∃ k ≤ rest.length, OffsetsHold intervalMax rest k ∧ (∀ offset ∈ rest.take k, offset ∉ before) ∧
        found = (before ++ rest.take k != []) := by
  induction rest generalizing before with
  | nil =>
    rw [scanOffsets]
    simp [OffsetsHold,eq_comm]
  | cons offset rest ih =>
    rw [scanOffsets]
    by_cases marker : offset = 0xffff
    · rw [if_pos marker,scanAfterInvalid]
      constructor
      · rintro ⟨later,rfl⟩
        refine ⟨0,by omega,⟨by simp,by simp,?_⟩,by simp,by simp⟩
        exact List.forall_mem_cons.mpr ⟨marker,later⟩
      · rintro ⟨k,_,holds,_,shape⟩
        cases k with
        | zero => exact ⟨(List.forall_mem_cons.mp holds.2.2).2,by simpa using shape⟩
        | succ k => exact absurd marker (belowNotMarker ((offsetsCons _ _ _ _).mp holds).1)
    · rw [if_neg marker]
      by_cases large : false = true ∨ offset ≥ intervalMax
      · rw [if_pos large]
        constructor
        · intro wrong
          cases wrong
        · rintro ⟨k,_,holds,_⟩
          obtain ⟨m,_,small,_⟩ := offsetsPrefix marker holds
          have above := UInt16.le_iff_toNat_le.mp (large.resolve_left Bool.false_ne_true)
          omega
      · rw [if_neg large]
        by_cases repeated : offset ∈ before
        · rw [if_pos repeated]
          constructor
          · intro wrong
            cases wrong
          · rintro ⟨k,_,holds,fresh,_⟩
            obtain ⟨m,rfl,_⟩ := offsetsPrefix marker holds
            exact absurd repeated (fresh offset (by simp))
        · rw [if_neg repeated,ih]
          constructor
          · rintro ⟨k,bound,holds,fresh,shape⟩
            have small : offset.toNat < intervalMax.toNat := by
              by_contra above
              exact large (Or.inr (UInt16.le_iff_toNat_le.mpr (Nat.le_of_not_lt above)))
            have unseen : offset ∉ rest.take k := fun member => fresh offset member (by simp)
            refine ⟨k+1,by simpa using bound,(offsetsCons _ _ _ _).mpr ⟨small,unseen,holds⟩,?_,?_⟩
            · rw [List.take_succ_cons]
              refine List.forall_mem_cons.mpr ⟨repeated,fun other member seen => ?_⟩
              exact fresh other member (List.mem_append_left _ seen)
            · rw [shape,List.take_succ_cons,List.append_assoc,List.singleton_append]
          · rintro ⟨k,bound,holds,fresh,shape⟩
            obtain ⟨m,rfl,_,unseen,tail⟩ := offsetsPrefix marker holds
            rw [List.take_succ_cons] at fresh shape
            refine ⟨m,by simpa using bound,tail,?_,?_⟩
            · intro other member seen
              rcases List.mem_append.mp seen with old | new
              · exact fresh other (List.mem_cons_of_mem _ member) old
              · rw [List.mem_singleton.mp new] at member
                exact unseen member
            · rw [shape,List.append_assoc,List.singleton_append]

theorem referenceValid (p : ConnectionParamPdu) (eventCounter : UInt16) :
    classifyInstant eventCounter p.referenceEventCount ≠ .passed ↔ ReferenceHolds p eventCounter := by
  rw [ne_eq,classifyPassed,ReferenceHolds,UInt16.toNat_sub]
  have first := UInt16.toNat_lt p.referenceEventCount
  have second := UInt16.toNat_lt eventCounter
  omega

theorem parametersValid (p : ConnectionParamPdu) (eventCounter : UInt16) :
    p.parametersAreValid eventCounter ↔ ParametersHold p eventCounter := by
  unfold parametersAreValid ParametersHold
  have periodicity : ¬p.preferredPeriodicity.toUInt16 > p.intervalMax ↔
      p.preferredPeriodicity.toNat ≤ p.intervalMax.toNat := by
    rw [gt_iff_lt,UInt16.lt_iff_toNat_lt,UInt8.toNat_toUInt16]
    exact Nat.not_lt
  have size : p.offsets.toList.length = 6 := Vector.length_toList
  split <;> rename_i bad
  · refine ⟨fun wrong => (nomatch wrong),fun holds => ?_⟩
    rcases bad with range | period
    · rw [(rangeValid p).mpr holds.1] at range
      cases range
    · exact absurd period (periodicity.mpr holds.2.1)
  · obtain ⟨range,period⟩ := not_or.mp bad
    have rangeHolds := (rangeValid p).mp (by simpa using range)
    have periodHolds := periodicity.mp period
    cases scanned : scanOffsets p.intervalMax [] false p.offsets.toList with
    | none =>
      refine ⟨fun wrong => (nomatch wrong),fun ⟨_,_,k,bound,holds,_⟩ => ?_⟩
      have found := (scanFrom p.intervalMax [] p.offsets.toList _).mpr
        ⟨k,by omega,holds,by simp,rfl⟩
      rw [found] at scanned
      cases scanned
    | some found =>
      obtain ⟨k,bound,holds,_,shape⟩ := (scanFrom p.intervalMax [] p.offsets.toList found).mp scanned
      have empty : ∀ k ≤ 6, p.offsets.toList.take k = [] ↔ k = 0 := by
        intro k bound
        rw [List.take_eq_nil_iff,← List.length_eq_zero_iff,size]
        omega
      simp only [Bool.or_eq_true,Bool.not_eq_true',bne_iff_ne]
      rw [referenceValid]
      constructor
      · intro passes
        refine ⟨rangeHolds,periodHolds,k,by omega,holds,?_⟩
        refine passes.imp_left fun absent => ?_
        rw [absent,List.nil_append] at shape
        exact (empty k (by omega)).mp (by simpa using shape.symm)
      · rintro ⟨_,_,m,bound',holds',reference⟩
        have again := (scanFrom p.intervalMax [] p.offsets.toList _).mpr
          ⟨m,by omega,holds',by simp,rfl⟩
        rw [scanned,List.nil_append] at again
        refine reference.imp_left fun zero => ?_
        subst zero
        simpa using again

/-! The codec. -/

def read (payload : List UInt8) : ConnectionParamPdu :=
  ⟨word payload 1,word payload 3,word payload 5,word payload 7,octet payload 9,word payload 10,
    Vector.ofFn (fun i => word payload (12+2*i.val))⟩

theorem readWritten (p : ConnectionParamPdu) (opcode : UInt8) : read (p.write opcode) = p := by
  obtain ⟨intervalMin,intervalMax,latency,timeout,periodicity,reference,⟨⟨items⟩,size⟩⟩ := p
  match items,size with
  | [o0,o1,o2,o3,o4,o5],_ =>
    simp only [read,write,ConnectionParamPdu.mk.injEq]
    refine ⟨fromToLeBytes _,fromToLeBytes _,fromToLeBytes _,fromToLeBytes _,rfl,fromToLeBytes _,?_⟩
    apply Vector.toList_inj.mp
    rw [Vector.toList_ofFn]
    simp [List.ofFn_succ,word,octet,toLeBytes]

theorem writeRead {payload : List UInt8} {opcode : UInt8} (size : payload.length = 24)
    (first : octet payload 0 = opcode) : (read payload).write opcode = payload := by
  unfold write read
  dsimp only
  rw [Vector.toList_ofFn,sliceWords (by omega),← first,sliceOctet (by omega),sliceOctet (by omega),
    sliceWord (by omega),sliceWord (by omega),sliceWord (by omega),sliceWord (by omega),
    sliceWord (by omega)]
  rw [← sliceSplit,← sliceSplit,← sliceSplit,← sliceSplit,← sliceSplit,← sliceSplit,← sliceSplit]
  rw [slice,List.drop_zero,List.take_of_length_le (by omega)]

theorem parseCases (payload : List UInt8) (opcode : UInt8) (eventCounter : UInt16) :
    (payload.length ≠ 24 ∨ octet payload 0 ≠ opcode) ∧
      parse payload opcode eventCounter = .error .malformed ∨
    (payload.length = 24 ∧ octet payload 0 = opcode) ∧ ¬ParametersHold (read payload) eventCounter ∧
      parse payload opcode eventCounter = .error .invalidParameters ∨
    (payload.length = 24 ∧ octet payload 0 = opcode) ∧ ParametersHold (read payload) eventCounter ∧
      parse payload opcode eventCounter = .ok (read payload) := by
  unfold parse pduLen
  by_cases shape : payload.length ≠ 24 ∨ octet payload 0 ≠ opcode
  · exact Or.inl ⟨shape,if_pos shape⟩
  · have exact' : payload.length = 24 ∧ octet payload 0 = opcode := by simpa using shape
    rw [if_neg shape]
    by_cases valid : (read payload).parametersAreValid eventCounter
    · exact Or.inr (Or.inr ⟨exact',(parametersValid _ _).mp valid,if_pos valid⟩)
    · exact Or.inr (Or.inl ⟨exact',mt (parametersValid _ _).mpr valid,if_neg valid⟩)

theorem parseImage (payload : List UInt8) (opcode : UInt8) (eventCounter : UInt16)
    (p : ConnectionParamPdu) :
    parse payload opcode eventCounter = .ok p ↔
      payload = p.write opcode ∧ ParametersHold p eventCounter := by
  constructor
  · intro ok
    rcases parseCases payload opcode eventCounter with ⟨_,bad⟩ | ⟨_,_,bad⟩ | ⟨⟨size,first⟩,holds,done⟩
    · cases bad.symm.trans ok
    · cases bad.symm.trans ok
    · cases done.symm.trans ok
      exact ⟨(writeRead size first).symm,holds⟩
  · rintro ⟨rfl,holds⟩
    have size : (p.write opcode).length = 24 := by
      obtain ⟨_,_,_,_,_,_,⟨⟨items⟩,width⟩⟩ := p
      match items,width with
      | [_,_,_,_,_,_],_ => rfl
    have back : read (p.write opcode) = p := readWritten p opcode
    rcases parseCases (p.write opcode) opcode eventCounter with ⟨bad,_⟩ | ⟨_,bad,_⟩ | ⟨_,_,done⟩
    · rcases bad with length | first
      · exact absurd size length
      · exact absurd rfl first
    · rw [back] at bad
      exact absurd holds bad
    · rw [done,back]

/- What a parser for one opcode may return. -/
def Exact (payload : List UInt8) (opcode : UInt8) (eventCounter : UInt16)
    (result : Except ControlPduError ConnectionParamPdu) : Prop :=
  (∀ p, result = .ok p ↔ payload = p.write opcode ∧ ParametersHold p eventCounter) ∧
  (result = .error .malformed ↔ payload.length ≠ pduLen ∨ octet payload 0 ≠ opcode) ∧
  (result = .error .invalidParameters ↔ payload.length = pduLen ∧ octet payload 0 = opcode ∧
    ¬∃ p, payload = p.write opcode ∧ ParametersHold p eventCounter) ∧
  result ≠ .error .instantPassed

theorem parseExact (payload : List UInt8) (opcode : UInt8) (eventCounter : UInt16) :
    Exact payload opcode eventCounter (parse payload opcode eventCounter) := by
  have image := parseImage payload opcode eventCounter
  refine ⟨image,?_⟩
  rcases parseCases payload opcode eventCounter with ⟨bad,result⟩ | ⟨shape,_,result⟩ | ⟨shape,_,result⟩
  · rw [result]
    refine ⟨⟨fun _ => bad,fun _ => rfl⟩,⟨fun wrong => (nomatch wrong),?_⟩,fun wrong => (nomatch wrong)⟩
    rintro ⟨size,first,_⟩
    exact absurd bad (by simp [pduLen,size,first])
  · have absent : ¬∃ p, payload = p.write opcode ∧ ParametersHold p eventCounter := by
      rintro ⟨p,written⟩
      cases result.symm.trans ((image p).mpr written)
    rw [result]
    refine ⟨⟨fun wrong => (nomatch wrong),?_⟩,⟨fun _ => ⟨shape.1,shape.2,absent⟩,fun _ => rfl⟩,
      fun wrong => (nomatch wrong)⟩
    exact fun bad => absurd bad (by simp [pduLen,shape.1,shape.2])
  · have present := (image _).mp result
    rw [result]
    refine ⟨⟨fun wrong => (nomatch wrong),?_⟩,⟨fun wrong => (nomatch wrong),?_⟩,
      fun wrong => (nomatch wrong)⟩
    · exact fun bad => absurd bad (by simp [pduLen,shape.1,shape.2])
    · exact fun ⟨_,_,absent⟩ => absurd ⟨_,present⟩ absent

theorem parameterPduExact (payload : List UInt8) (eventCounter : UInt16) :
    Exact payload requestOpcode eventCounter (parseRequest payload eventCounter) ∧
    Exact payload responseOpcode eventCounter (parseResponse payload eventCounter) :=
  ⟨parseExact payload requestOpcode eventCounter,parseExact payload responseOpcode eventCounter⟩

end Ch58xHal.ParameterCodec
