import Ch58xHal.ConnectIndCodec

/-! The 32-bit arithmetic of the timing check, in a build that traps overflow and in one that
wraps. The products are formed from the raw fields, before any of them is compared. -/
namespace Ch58xHal.TimingArithmetic
open ControlPdu Connection OctetFields Advertising ConnectIndCodec

inductive Build where
  | trapping
  | wrapping
  deriving DecidableEq, Repr

namespace Build

-- `none` is the panic of an overflow check.
def add (build : Build) (a b : UInt32) : Option UInt32 :=
  match build with
  | trapping => if a.toNat + b.toNat < 2^32 then some (a + b) else none
  | wrapping => some (a + b)

def mul (build : Build) (a b : UInt32) : Option UInt32 :=
  match build with
  | trapping => if a.toNat * b.toNat < 2^32 then some (a * b) else none
  | wrapping => some (a * b)

end Build

def connectionTiming (build : Build) (windowSize : UInt8) (windowOffset interval latency
    supervisionTimeout : UInt16) : Option Bool := do
  let timeoutInIntervalUnits ← build.mul supervisionTimeout.toUInt32 8
  let maximumEventSpan ← build.mul (← build.mul 2 (← build.add latency.toUInt32 1)) interval.toUInt32
  some (windowSize ≥ 1 && windowSize ≤ 8 && interval ≥ 6 && interval ≤ 3200 && windowOffset ≤ interval &&
    windowSize.toUInt16 < interval && latency ≤ 499 && supervisionTimeout ≥ 10 &&
    supervisionTimeout ≤ 3200 && timeoutInIntervalUnits > maximumEventSpan)

/- The sibling check multiplies last, behind the comparisons that bound its factors. -/
def connectionParameterRange (build : Build) (intervalMin intervalMax latency
    supervisionTimeout : UInt16) : Option Bool :=
  if intervalMin ≥ 6 && intervalMin ≤ intervalMax && intervalMax ≤ 3200 && latency ≤ 499 &&
      supervisionTimeout ≥ 10 && supervisionTimeout ≤ 3200 then do
    let timeout ← build.mul supervisionTimeout.toUInt32 8
    let span ← build.mul (← build.mul 2 (← build.add latency.toUInt32 1)) intervalMax.toUInt32
    some (timeout > span)
  else some false

def parseConnectionUpdateInd (build : Build) (payload : List UInt8) (eventCounter : UInt16) :
    Option (Except ControlPduError ConnectionUpdateInd) :=
  if payload.length ≠ ConnectionUpdateInd.pduLen ∨ octet payload 0 ≠ ConnectionUpdateInd.opcode then
    some (.error .malformed)
  else do
    let update : ConnectionUpdateInd := ⟨octet payload 1,word payload 2,word payload 4,
      word payload 6,word payload 8,word payload 10⟩
    let valid ← connectionTiming build update.windowSize update.windowOffset update.interval update.latency
      update.supervisionTimeout
    if valid = false then some (.error .invalidParameters)
    else if classifyInstant eventCounter update.instant = .passed then some (.error .instantPassed)
    else some (.ok update)

def parseConnectInd (build : Build) (packet : List UInt8) (address : DeviceAddress) :
    Option (Except ConnectIndParseError ConnectInd) :=
  if packet.length < 2 + connectIndPayloadLen ∨ octet packet 0 &&& 0x0f ≠ 0x05 then
    some (.error .notConnectInd)
  else if octet packet 1 &&& 0x3f ≠ UInt8.ofNat connectIndPayloadLen then some (.error .invalidLength)
  else if slice packet 8 6 ≠ address.bytes.toList then some (.error .differentAdvertiser)
  else if dataAccessAddressIsValid (readConnectInd packet).accessAddress false = false then
    some (.error .invalidAccessAddress)
  else if ¬(5 ≤ (readConnectInd packet).hopIncrement ∧ (readConnectInd packet).hopIncrement ≤ 16) then
    some (.error .invalidHopIncrement)
  else do
    let c := readConnectInd packet
    let valid ← connectionTiming build c.windowSize c.windowOffset c.interval c.latency c.supervisionTimeout
    if valid = false then some (.error .invalidTiming)
    else if dataChannelMapIsValid c.channelMap = false then some (.error .invalidChannelMap)
    else some (.ok c)

/-! The check against its bounds. -/

/- The timing rules over unbounded integers. -/
def Permitted (windowSize : UInt8) (windowOffset interval latency supervisionTimeout : UInt16) : Prop :=
  (1 ≤ windowSize.toNat ∧ windowSize.toNat ≤ 8) ∧ windowSize.toNat < interval.toNat ∧
  windowOffset.toNat ≤ interval.toNat ∧ (6 ≤ interval.toNat ∧ interval.toNat ≤ 3200) ∧ latency.toNat ≤ 499 ∧
  (10 ≤ supervisionTimeout.toNat ∧ supervisionTimeout.toNat ≤ 3200) ∧
  supervisionTimeout.toNat * 8 > 2 * (latency.toNat + 1) * interval.toNat

/- The span of the latency, `2 * (latency + 1) * interval`, fits 32 bits. -/
def Fits (interval latency : UInt16) : Prop := (latency.toNat + 1) * interval.toNat < 2^31

theorem permittedChecked (windowSize : UInt8) (windowOffset interval latency supervisionTimeout : UInt16) :
    connectionTimingIsValid windowSize windowOffset interval latency supervisionTimeout = true ↔
      Permitted windowSize windowOffset interval latency supervisionTimeout := by
  simp only [connectionTimingIsValid,Permitted,Bool.and_eq_true,decide_eq_true_eq,ge_iff_le,gt_iff_lt,
    UInt8.le_iff_toNat_le,UInt16.le_iff_toNat_le,UInt16.lt_iff_toNat_lt,UInt8.toNat_toUInt16]
  constructor
  · rintro ⟨⟨⟨⟨⟨⟨⟨⟨⟨least,most⟩,low⟩,high⟩,offset⟩,inside⟩,rare⟩,early⟩,late⟩,span⟩
    exact ⟨⟨least,most⟩,inside,offset,⟨low,high⟩,rare,⟨early,late⟩,span⟩
  · rintro ⟨⟨least,most⟩,inside,offset,⟨low,high⟩,rare,⟨early,late⟩,span⟩
    exact ⟨⟨⟨⟨⟨⟨⟨⟨⟨least,most⟩,low⟩,high⟩,offset⟩,inside⟩,rare⟩,early⟩,late⟩,span⟩

theorem productFits (a b : UInt32) (build : Build) (small : a.toNat * b.toNat < 2^32) :
    build.mul a b = some (a * b) ∧ (a * b).toNat = a.toNat * b.toNat := by
  refine ⟨?_,?_⟩
  · cases build with
    | trapping => exact if_pos small
    | wrapping => rfl
  · rw [UInt32.toNat_mul]
    exact Nat.mod_eq_of_lt small

theorem timeoutProduct (timeout : UInt16) (build : Build) :
    build.mul timeout.toUInt32 8 = some (timeout.toUInt32 * 8) ∧
      (timeout.toUInt32 * 8).toNat = timeout.toNat * 8 := by
  have small : timeout.toNat < 2^16 := timeout.toNat_lt
  have fits : timeout.toUInt32.toNat * (8 : UInt32).toNat < 2^32 := by
    show timeout.toUInt32.toNat * 8 < 2^32
    rw [UInt16.toNat_toUInt32]
    omega
  have product := productFits timeout.toUInt32 8 build fits
  rw [UInt16.toNat_toUInt32] at product
  exact product

theorem latencyFactor (latency : UInt16) (build : Build) :
    (build.add latency.toUInt32 1).bind (build.mul 2) = some (2 * (latency.toUInt32 + 1)) ∧
      (2 * (latency.toUInt32 + 1)).toNat = 2 * (latency.toNat + 1) := by
  have small : latency.toNat < 2^16 := latency.toNat_lt
  have summed : (latency.toUInt32 + 1).toNat = latency.toNat + 1 := by
    rw [UInt32.toNat_add,UInt16.toNat_toUInt32]
    exact Nat.mod_eq_of_lt (show latency.toNat + 1 < 2^32 by omega)
  have added : build.add latency.toUInt32 1 = some (latency.toUInt32 + 1) := by
    cases build with
    | trapping =>
      refine if_pos ?_
      rw [UInt16.toNat_toUInt32]
      show latency.toNat + 1 < 2^32
      omega
    | wrapping => rfl
  have product := productFits 2 (latency.toUInt32 + 1) build (by
    rw [summed]
    show 2 * (latency.toNat + 1) < 2^32
    omega)
  rw [summed] at product
  rw [added]
  exact product

/- What the check computes once the last product is known. -/
theorem timingUnfolds (build : Build) (windowSize : UInt8) (windowOffset interval latency
    supervisionTimeout : UInt16) :
    connectionTiming build windowSize windowOffset interval latency supervisionTimeout =
      (build.mul (2 * (latency.toUInt32 + 1)) interval.toUInt32).bind fun span =>
        some (windowSize ≥ 1 && windowSize ≤ 8 && interval ≥ 6 && interval ≤ 3200 &&
          windowOffset ≤ interval && windowSize.toUInt16 < interval && latency ≤ 499 &&
          supervisionTimeout ≥ 10 && supervisionTimeout ≤ 3200 && supervisionTimeout.toUInt32 * 8 > span) := by
  have factor := (latencyFactor latency build).1
  obtain ⟨sum,added,scaled⟩ := Option.bind_eq_some_iff.mp factor
  simp only [connectionTiming,(timeoutProduct supervisionTimeout build).1,added,scaled,Option.bind_eq_bind,
    Option.bind_some]

theorem timingWithin {interval latency : UInt16} (fits : Fits interval latency) (build : Build)
    (windowSize : UInt8) (windowOffset supervisionTimeout : UInt16) :
    connectionTiming build windowSize windowOffset interval latency supervisionTimeout =
      some (connectionTimingIsValid windowSize windowOffset interval latency supervisionTimeout) := by
  have factor := (latencyFactor latency build).2
  have small : (2 * (latency.toUInt32 + 1)).toNat * interval.toUInt32.toNat < 2^32 := by
    rw [factor,UInt16.toNat_toUInt32,Nat.mul_assoc]
    unfold Fits at fits
    omega
  obtain ⟨product,value⟩ := productFits _ _ build small
  rw [factor,UInt16.toNat_toUInt32] at value
  have compared : (supervisionTimeout.toUInt32 * 8 > 2 * (latency.toUInt32 + 1) * interval.toUInt32) =
      (supervisionTimeout.toNat * 8 > 2 * (latency.toNat + 1) * interval.toNat) := by
    rw [gt_iff_lt,UInt32.lt_iff_toNat_lt,value,(timeoutProduct supervisionTimeout build).2]
  rw [timingUnfolds,product,Option.bind_some]
  simp only [compared,connectionTimingIsValid]

/- A span that overflows belongs to fields that some comparison refuses. -/
theorem refusedUnlessFits {windowSize : UInt8} {windowOffset interval latency supervisionTimeout : UInt16}
    (overflows : ¬Fits interval latency) :
    connectionTimingIsValid windowSize windowOffset interval latency supervisionTimeout = false := by
  by_contra accepted
  have permitted := (permittedChecked _ _ _ _ _).mp (by simpa using accepted)
  obtain ⟨_,_,_,⟨_,high⟩,rare,_⟩ := permitted
  refine overflows ?_
  calc (latency.toNat + 1) * interval.toNat
      ≤ 500 * 3200 := Nat.mul_le_mul (by omega) high
    _ < 2^31 := by decide

theorem timingWraps (windowSize : UInt8) (windowOffset interval latency supervisionTimeout : UInt16) :
    connectionTiming .wrapping windowSize windowOffset interval latency supervisionTimeout =
      some (connectionTimingIsValid windowSize windowOffset interval latency supervisionTimeout) := by
  by_cases fits : Fits interval latency
  · exact timingWithin fits ..
  · rw [timingUnfolds,refusedUnlessFits fits]
    have wide : ¬(interval ≤ 3200 ∧ latency ≤ 499) := by
      rintro ⟨high,rare⟩
      rw [UInt16.le_iff_toNat_le] at high rare
      refine fits ?_
      calc (latency.toNat + 1) * interval.toNat
          ≤ 500 * 3200 := Nat.mul_le_mul (Nat.succ_le_succ rare) high
        _ < 2^31 := by decide
    show some _ = some false
    rcases not_and_or.mp wide with long | rare
    · simp [long]
    · simp [rare]

theorem timingTraps {interval latency : UInt16} (overflows : ¬Fits interval latency) (windowSize : UInt8)
    (windowOffset supervisionTimeout : UInt16) :
    connectionTiming .trapping windowSize windowOffset interval latency supervisionTimeout = none := by
  have large : ¬(2 * (latency.toUInt32 + 1)).toNat * interval.toUInt32.toNat < 2^32 := by
    rw [(latencyFactor latency .trapping).2,UInt16.toNat_toUInt32,Nat.mul_assoc]
    unfold Fits at overflows
    omega
  rw [timingUnfolds,show Build.trapping.mul _ _ = none from if_neg large,Option.bind_none]

theorem timingExact (windowSize : UInt8) (windowOffset interval latency supervisionTimeout : UInt16) :
    (∀ build, connectionTiming build windowSize windowOffset interval latency supervisionTimeout =
      some (connectionTimingIsValid windowSize windowOffset interval latency supervisionTimeout)) ↔
      Fits interval latency := by
  constructor
  · intro exact'
    by_contra overflows
    have trapped := timingTraps overflows windowSize windowOffset supervisionTimeout
    rw [exact' .trapping] at trapped
    cases trapped
  · intro fits build
    exact timingWithin fits build ..

/-! Both parsers, up to the point where they check the timing. -/

def UpdateReachesTiming (payload : List UInt8) : Prop :=
  payload.length = ConnectionUpdateInd.pduLen ∧ octet payload 0 = ConnectionUpdateInd.opcode

structure ConnectReachesTiming (packet : List UInt8) (address : DeviceAddress) : Prop where
  shape : ¬(packet.length < 2 + connectIndPayloadLen ∨ octet packet 0 &&& 0x0f ≠ 0x05)
  length : octet packet 1 &&& 0x3f = UInt8.ofNat connectIndPayloadLen
  advertiser : slice packet 8 6 = address.bytes.toList
  access : dataAccessAddressIsValid (readConnectInd packet).accessAddress false = true
  hop : 5 ≤ (readConnectInd packet).hopIncrement ∧ (readConnectInd packet).hopIncrement ≤ 16

theorem updateUnreached {payload : List UInt8} (early : ¬UpdateReachesTiming payload) (build counter) :
    parseConnectionUpdateInd build payload counter = some (ConnectionUpdateInd.parse payload counter) := by
  have refused : payload.length ≠ ConnectionUpdateInd.pduLen ∨ octet payload 0 ≠ ConnectionUpdateInd.opcode :=
    not_and_or.mp early
  rw [parseConnectionUpdateInd,ConnectionUpdateInd.parse,if_pos refused,if_pos refused]

def readUpdate (payload : List UInt8) : ConnectionUpdateInd :=
  ⟨octet payload 1,word payload 2,word payload 4,word payload 6,word payload 8,word payload 10⟩

/- Past the guard both parsers are the timing check and the instant check. -/
theorem updateReached {payload : List UInt8} (reached : UpdateReachesTiming payload) (build counter) :
    parseConnectionUpdateInd build payload counter =
      (connectionTiming build (octet payload 1) (word payload 2) (word payload 4) (word payload 6)
        (word payload 8)).bind (fun valid =>
          if valid = false then some (.error .invalidParameters)
          else if classifyInstant counter (word payload 10) = .passed then some (.error .instantPassed)
          else some (.ok (readUpdate payload))) ∧
    ConnectionUpdateInd.parse payload counter =
      if (readUpdate payload).parametersAreValid = false then .error .invalidParameters
      else if classifyInstant counter (word payload 10) = .passed then .error .instantPassed
      else .ok (readUpdate payload) := by
  have guard := not_or.mpr ⟨not_not.mpr reached.1,not_not.mpr reached.2⟩
  constructor
  · rw [parseConnectionUpdateInd,if_neg guard]
    rfl
  · rw [ConnectionUpdateInd.parse,if_neg guard]
    rfl

theorem updateExact (payload : List UInt8) (counter : UInt16) :
    (∀ build, parseConnectionUpdateInd build payload counter =
      some (ConnectionUpdateInd.parse payload counter)) ↔
      (UpdateReachesTiming payload → Fits (word payload 4) (word payload 6)) := by
  constructor
  · intro exact' reached
    by_contra overflows
    have trapped : parseConnectionUpdateInd .trapping payload counter = none := by
      rw [(updateReached reached .trapping counter).1,timingTraps overflows,Option.bind_none]
    rw [exact' .trapping] at trapped
    cases trapped
  · intro fits build
    by_cases reached : UpdateReachesTiming payload
    · obtain ⟨built,parsed⟩ := updateReached reached build counter
      rw [built,parsed,timingWithin (fits reached),Option.bind_some]
      show (if (readUpdate payload).parametersAreValid = false then _ else _) = _
      split
      · rfl
      · split <;> rfl
    · exact updateUnreached reached build counter

theorem connectUnreached {packet : List UInt8} {address} (early : ¬ConnectReachesTiming packet address) (build) :
    parseConnectInd build packet address = some (parseConnectIndDetailed packet address) := by
  unfold parseConnectInd parseConnectIndDetailed
  split
  · rfl
  rename_i shape
  split
  · rfl
  rename_i length
  split
  · rfl
  rename_i advertiser
  split
  · rfl
  rename_i access
  split
  · rfl
  rename_i hop
  exact absurd ⟨shape,not_not.mp length,not_not.mp advertiser,by simpa using access,not_not.mp hop⟩ early

/- Past the guards both parsers are the timing check and the map check. -/
theorem connectReached {packet : List UInt8} {address} (reached : ConnectReachesTiming packet address) (build) :
    parseConnectInd build packet address =
      (connectionTiming build (octet packet 21) (word packet 22) (word packet 24) (word packet 26)
        (word packet 28)).bind (fun valid =>
          if valid = false then some (.error .invalidTiming)
          else if dataChannelMapIsValid (readConnectInd packet).channelMap = false then
            some (.error .invalidChannelMap)
          else some (.ok (readConnectInd packet))) ∧
    parseConnectIndDetailed packet address =
      if timingIsValid (readConnectInd packet) = false then .error .invalidTiming
      else if dataChannelMapIsValid (readConnectInd packet).channelMap = false then .error .invalidChannelMap
      else .ok (readConnectInd packet) := by
  have access : ¬dataAccessAddressIsValid (readConnectInd packet).accessAddress false = false := by
    simp [reached.access]
  constructor
  · rw [parseConnectInd,if_neg reached.shape,if_neg (not_not.mpr reached.length),
      if_neg (not_not.mpr reached.advertiser),if_neg access,if_neg (not_not.mpr reached.hop)]
    rfl
  · rw [parseConnectIndDetailed,if_neg reached.shape,if_neg (not_not.mpr reached.length),
      if_neg (not_not.mpr reached.advertiser),if_neg access,if_neg (not_not.mpr reached.hop)]

theorem connectExact (packet : List UInt8) (address : DeviceAddress) :
    (∀ build, parseConnectInd build packet address = some (parseConnectIndDetailed packet address)) ↔
      (ConnectReachesTiming packet address → Fits (word packet 24) (word packet 26)) := by
  constructor
  · intro exact' reached
    by_contra overflows
    have trapped : parseConnectInd .trapping packet address = none := by
      rw [(connectReached reached .trapping).1,timingTraps overflows,Option.bind_none]
    rw [exact' .trapping] at trapped
    cases trapped
  · intro fits build
    by_cases reached : ConnectReachesTiming packet address
    · obtain ⟨built,detailed⟩ := connectReached reached build
      rw [built,detailed,timingWithin (fits reached),Option.bind_some]
      show (if timingIsValid (readConnectInd packet) = false then _ else _) = _
      split
      · rfl
      · split <;> rfl
    · exact connectUnreached reached build

/- A parser does not trap, and decides by the timing rules, exactly when it does not reach the timing
check or the span of the latency fits. -/
theorem timingArithmetic (packet : List UInt8) (address : DeviceAddress) (payload : List UInt8)
    (counter : UInt16) :
    ((∀ build, parseConnectInd build packet address = some (parseConnectIndDetailed packet address)) ↔
      (ConnectReachesTiming packet address → Fits (word packet 24) (word packet 26))) ∧
    ((∀ build, parseConnectionUpdateInd build payload counter =
      some (ConnectionUpdateInd.parse payload counter)) ↔
      (UpdateReachesTiming payload → Fits (word payload 4) (word payload 6))) ∧
    ∀ windowSize windowOffset interval latency supervisionTimeout,
      ((∀ build, ∃ verdict,
        connectionTiming build windowSize windowOffset interval latency supervisionTimeout = some verdict ∧
        (verdict = true ↔ Permitted windowSize windowOffset interval latency supervisionTimeout)) ↔
        Fits interval latency) ∧
      (connectionTimingIsValid windowSize windowOffset interval latency supervisionTimeout = true ↔
        Permitted windowSize windowOffset interval latency supervisionTimeout) := by
  refine ⟨connectExact packet address,updateExact payload counter,?_⟩
  intro windowSize windowOffset interval latency supervisionTimeout
  refine ⟨⟨?_,?_⟩,permittedChecked ..⟩
  · intro decided
    by_contra overflows
    obtain ⟨verdict,answered,_⟩ := decided .trapping
    rw [timingTraps overflows] at answered
    cases answered
  · intro fits build
    exact ⟨_,timingWithin fits build ..,permittedChecked ..⟩

/- All bits of the interval and of the latency set. -/
def hostileUpdate : List UInt8 := [0,1,0,0,0xff,0xff,0xff,0xff,0x80,0x0c,1,0]

def hostileConnect : List UInt8 :=
  [0x85,34,6,5,4,3,2,1] ++ sampleAdvertiser.bytes.toList ++ [0x78,0x56,0x34,0x12,0x56,0x34,0x12,2,1,0,
    0xff,0xff,0xff,0xff,0xc8,0,0xff,0xff,0xff,0xff,0x1f,5]

theorem hostileFieldsTrap :
    ¬((∀ packet address build,
        parseConnectInd build packet address = some (parseConnectIndDetailed packet address)) ∧
      ∀ payload counter build,
        parseConnectionUpdateInd build payload counter = some (ConnectionUpdateInd.parse payload counter)) ∧
    parseConnectInd .trapping hostileConnect sampleAdvertiser = none ∧
    parseConnectionUpdateInd .trapping hostileUpdate 0 = none := by
  have update : parseConnectionUpdateInd .trapping hostileUpdate 0 = none := by decide +kernel
  have connect : parseConnectInd .trapping hostileConnect sampleAdvertiser = none := by decide +kernel
  refine ⟨?_,connect,update⟩
  rintro ⟨_,updates⟩
  have same := updates hostileUpdate 0 .trapping
  rw [update] at same
  cases same

/-! The sibling never traps. -/

theorem siblingWithin (build : Build) (intervalMin intervalMax latency supervisionTimeout : UInt16) :
    connectionParameterRange build intervalMin intervalMax latency supervisionTimeout =
      some (connectionParameterRangeIsValid intervalMin intervalMax latency supervisionTimeout) := by
  unfold connectionParameterRange connectionParameterRangeIsValid
  split
  · rename_i ranges
    have bounds := ranges
    simp only [Bool.and_eq_true,decide_eq_true_eq,ge_iff_le,UInt16.le_iff_toNat_le] at bounds
    obtain ⟨⟨⟨⟨_,high⟩,rare⟩,_⟩,_⟩ := bounds
    obtain ⟨timeout,timeoutValue⟩ := timeoutProduct supervisionTimeout build
    obtain ⟨factor,factorValue⟩ := latencyFactor latency build
    obtain ⟨sum,added,scaled⟩ := Option.bind_eq_some_iff.mp factor
    have small : (2 * (latency.toUInt32 + 1)).toNat * intervalMax.toUInt32.toNat < 2^32 := by
      rw [factorValue,UInt16.toNat_toUInt32]
      calc 2 * (latency.toNat + 1) * intervalMax.toNat
          ≤ 2 * 500 * 3200 := Nat.mul_le_mul (Nat.mul_le_mul_left 2 (Nat.succ_le_succ rare)) high
        _ < 2^32 := by decide
    obtain ⟨span,spanValue⟩ := productFits _ _ build small
    rw [factorValue,UInt16.toNat_toUInt32] at spanValue
    simp only [timeout,added,scaled,span,Option.bind_eq_bind,Option.bind_some,ranges,Bool.true_and,
      gt_iff_lt,UInt32.lt_iff_toNat_lt,timeoutValue,spanValue]
  · rename_i outside
    rw [(Bool.not_eq_true _).mp outside,Bool.false_and]

end Ch58xHal.TimingArithmetic
