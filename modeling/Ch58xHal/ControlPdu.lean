import Mathlib.Algebra.Order.Ring.Nat
import Mathlib.Data.List.Basic

/-! Instants and the instant-bearing Control PDUs. Parsing works on the payload with
its opcode octet; every length check precedes the reads, so a read past the end is
never observed and `octet` gives zero there. -/
namespace Ch58xHal.ControlPdu

def octet (bytes : List UInt8) (i : Nat) : UInt8 := bytes.getD i 0

def fromLeBytes (lo hi : UInt8) : UInt16 := lo.toUInt16 ||| (hi.toUInt16 <<< 8)

def word (bytes : List UInt8) (i : Nat) : UInt16 := fromLeBytes (octet bytes i) (octet bytes (i+1))

def toLeBytes (w : UInt16) : List UInt8 := [w.toUInt8,(w >>> 8).toUInt8]

inductive InstantRelation where
  | current
  | future (delta : UInt16)
  | passed
  deriving DecidableEq, Repr

def classifyInstant (eventCounter instant : UInt16) : InstantRelation :=
  let delta := instant - eventCounter
  if delta = 0 then .current
  else if delta ≤ 32766 then .future delta
  else .passed

inductive ControlPduError where
  | malformed
  | invalidParameters
  | instantPassed
  deriving DecidableEq, Repr

inductive InstantProcedure where
  | connectionUpdate
  | channelMapUpdate
  | connectionParametersRequest
  deriving DecidableEq, Repr

def procedureCollisionError (own remote : InstantProcedure) : UInt8 :=
  match own,remote with
  | .connectionUpdate,.connectionParametersRequest => 0x23
  | .connectionParametersRequest,.connectionUpdate => 0x23
  | _,_ => if own = remote then 0x23 else 0x2a

def connectionTimingIsValid (windowSize : UInt8) (windowOffset interval latency
    supervisionTimeout : UInt16) : Bool :=
  let timeoutInIntervalUnits := supervisionTimeout.toNat * 8
  let maximumEventSpan := 2 * (latency.toNat + 1) * interval.toNat
  windowSize ≥ 1 && windowSize ≤ 8 && interval ≥ 6 && interval ≤ 3200 && windowOffset ≤ interval &&
    windowSize.toUInt16 < interval && latency ≤ 499 && supervisionTimeout ≥ 10 &&
    supervisionTimeout ≤ 3200 && timeoutInIntervalUnits > maximumEventSpan

structure ConnectionUpdateInd where
  windowSize : UInt8
  windowOffset : UInt16
  interval : UInt16
  latency : UInt16
  supervisionTimeout : UInt16
  instant : UInt16
  deriving DecidableEq, Repr

namespace ConnectionUpdateInd

def opcode : UInt8 := 0x00
def pduLen : Nat := 12

def parametersAreValid (u : ConnectionUpdateInd) : Bool :=
  connectionTimingIsValid u.windowSize u.windowOffset u.interval u.latency u.supervisionTimeout

def parse (payload : List UInt8) (eventCounter : UInt16) :
    Except ControlPduError ConnectionUpdateInd :=
  if payload.length ≠ pduLen ∨ octet payload 0 ≠ opcode then .error .malformed
  else
    let update : ConnectionUpdateInd := ⟨octet payload 1,word payload 2,word payload 4,
      word payload 6,word payload 8,word payload 10⟩
    if update.parametersAreValid = false then .error .invalidParameters
    else if classifyInstant eventCounter update.instant = .passed then .error .instantPassed
    else .ok update

end ConnectionUpdateInd

abbrev ChannelMap := Vector UInt8 5

def countOnes (b : UInt8) : Nat := (List.range 8).countP (fun i => b.toNat.testBit i)

def dataChannelMapIsValid (map : ChannelMap) : Bool :=
  if map[4] &&& 0xe0 ≠ 0 then false
  else 2 ≤ (map.toList.map countOnes).sum

structure ChannelMapInd where
  map : ChannelMap
  instant : UInt16
  deriving DecidableEq, Repr

namespace ChannelMapInd

def opcode : UInt8 := 0x01
def pduLen : Nat := 8

def parse (payload : List UInt8) (eventCounter : UInt16) : Except ControlPduError ChannelMapInd :=
  if payload.length ≠ pduLen ∨ octet payload 0 ≠ opcode then .error .malformed
  else
    let update : ChannelMapInd := ⟨Vector.ofFn (fun i => octet payload (1+i.val)),word payload 6⟩
    if dataChannelMapIsValid update.map = false then .error .invalidParameters
    else if classifyInstant eventCounter update.instant = .passed then .error .instantPassed
    else .ok update

end ChannelMapInd

def connectionParameterRangeIsValid (intervalMin intervalMax latency
    supervisionTimeout : UInt16) : Bool :=
  intervalMin ≥ 6 && intervalMin ≤ intervalMax && intervalMax ≤ 3200 && latency ≤ 499 &&
    supervisionTimeout ≥ 10 && supervisionTimeout ≤ 3200 &&
    supervisionTimeout.toNat * 8 > 2 * (latency.toNat + 1) * intervalMax.toNat

def connectionUpdateMatchesRequest (intervalMin intervalMax latency supervisionTimeout : UInt16)
    (update : ConnectionUpdateInd) : Bool :=
  update.interval ≥ intervalMin && update.interval ≤ intervalMax && update.latency == latency &&
    update.supervisionTimeout == supervisionTimeout

structure ConnectionParamPdu where
  intervalMin : UInt16
  intervalMax : UInt16
  latency : UInt16
  supervisionTimeout : UInt16
  preferredPeriodicity : UInt8
  referenceEventCount : UInt16
  offsets : Vector UInt16 6
  deriving DecidableEq, Repr

namespace ConnectionParamPdu

def requestOpcode : UInt8 := 0x0f
def responseOpcode : UInt8 := 0x10
def pduLen : Nat := 24

/- Offsets already accepted, whether 0xffff was seen, what is left to read. The result
says whether any real offset was present, or nothing when the list is rejected. -/
def scanOffsets (intervalMax : UInt16) : List UInt16 → Bool → List UInt16 → Option Bool
  | before,_,[] => some (before != [])
  | before,sawInvalid,offset :: rest =>
      if offset = 0xffff then scanOffsets intervalMax before true rest
      else if sawInvalid ∨ offset ≥ intervalMax then none
      else if offset ∈ before then none
      else scanOffsets intervalMax (before ++ [offset]) sawInvalid rest

def parametersAreValid (p : ConnectionParamPdu) (eventCounter : UInt16) : Bool :=
  if connectionParameterRangeIsValid p.intervalMin p.intervalMax p.latency p.supervisionTimeout
      = false ∨ p.preferredPeriodicity.toUInt16 > p.intervalMax then false
  else match scanOffsets p.intervalMax [] false p.offsets.toList with
    | none => false
    | some haveValidOffset =>
        !haveValidOffset || classifyInstant eventCounter p.referenceEventCount != .passed

def parse (payload : List UInt8) (expectedOpcode : UInt8) (eventCounter : UInt16) :
    Except ControlPduError ConnectionParamPdu :=
  if payload.length ≠ pduLen ∨ octet payload 0 ≠ expectedOpcode then .error .malformed
  else
    let parameters : ConnectionParamPdu := ⟨word payload 1,word payload 3,word payload 5,
      word payload 7,octet payload 9,word payload 10,
      Vector.ofFn (fun i => word payload (12+2*i.val))⟩
    if parameters.parametersAreValid eventCounter then .ok parameters
    else .error .invalidParameters

def parseRequest (payload : List UInt8) (eventCounter : UInt16) :
    Except ControlPduError ConnectionParamPdu := parse payload requestOpcode eventCounter

def parseResponse (payload : List UInt8) (eventCounter : UInt16) :
    Except ControlPduError ConnectionParamPdu := parse payload responseOpcode eventCounter

def write (p : ConnectionParamPdu) (opcode : UInt8) : List UInt8 :=
  [opcode] ++ toLeBytes p.intervalMin ++ toLeBytes p.intervalMax ++ toLeBytes p.latency ++
    toLeBytes p.supervisionTimeout ++ [p.preferredPeriodicity] ++
    toLeBytes p.referenceEventCount ++ (p.offsets.toList.map toLeBytes).flatten

end ConnectionParamPdu

/-! Reads at known offsets. -/

theorem octetAfter (front rest : List UInt8) (i : Nat) :
    octet (front ++ rest) (front.length + i) = octet rest i := by
  simp [octet,List.getElem?_append_right]

theorem vectorAfter {n : Nat} (front rest : List UInt8) (v : Vector UInt8 n) :
    Vector.ofFn (fun i : Fin n => octet (front ++ (v.toList ++ rest)) (front.length + i.val)) = v := by
  ext i inside
  have within : i < v.toList.length := by rwa [Vector.length_toList]
  rw [Vector.getElem_ofFn,octetAfter,octet,List.getD_eq_getElem?_getD,
    List.getElem?_append_left within,List.getElem?_eq_getElem within]
  simp

/-! What acceptance guarantees. -/

theorem classifyCurrent (c i : UInt16) : classifyInstant c i = .current ↔ i = c := by
  unfold classifyInstant
  have zero : i - c = 0 ↔ i = c := by
    constructor
    · intro same
      have back := congrArg (· + c) same
      simpa using back
    · rintro rfl
      simp
  dsimp only
  split <;> rename_i delta
  · simpa using zero.mp delta
  · have different : i ≠ c := fun same => delta (zero.mpr same)
    split <;> simp [different]

theorem classifyPassed (c i : UInt16) : classifyInstant c i = .passed ↔ 32766 < (i - c).toNat := by
  unfold classifyInstant
  have large : i - c ≤ 32766 ↔ (i - c).toNat ≤ 32766 := UInt16.le_iff_toNat_le
  have zero : i - c = 0 ↔ (i - c).toNat = 0 := UInt16.toNat_inj.symm
  dsimp only
  split
  · simp [zero.mp (by assumption)]
  · split <;> rename_i below
    · simpa using large.mp below
    · have beyond := mt large.mpr below
      simp only [true_iff]
      omega

theorem parsedUpdate {payload counter update}
    (ok : ConnectionUpdateInd.parse payload counter = .ok update) :
    update.parametersAreValid ∧ classifyInstant counter update.instant ≠ .passed := by
  simp only [ConnectionUpdateInd.parse] at ok
  split at ok <;> try contradiction
  split at ok <;> try contradiction
  split at ok <;> try contradiction
  rename_i _ valid reachable
  cases ok
  exact ⟨by simpa using valid,reachable⟩

theorem parsedMap {payload counter update} (ok : ChannelMapInd.parse payload counter = .ok update) :
    dataChannelMapIsValid update.map ∧ classifyInstant counter update.instant ≠ .passed := by
  simp only [ChannelMapInd.parse] at ok
  split at ok <;> try contradiction
  split at ok <;> try contradiction
  split at ok <;> try contradiction
  rename_i _ valid reachable
  cases ok
  exact ⟨by simpa using valid,reachable⟩

end Ch58xHal.ControlPdu
