import Ch58xHal.ControlPdu
import Ch58xHal.DataHeader
import Ch58xHal.LengthTypeValue
import Ch58xHal.Machines

/-! Legacy advertising PDUs. The output buffers of the builders are always large enough,
so a PDU is the octet list they return. -/
namespace Ch58xHal.Advertising
open ControlPdu DataHeader LengthTypeValue Machines

inductive Error where
  | busy
  | timeout
  | invalidChannel
  | invalidPacket
  | hardware
  deriving DecidableEq, Repr

inductive AddressKind where
  | isPublic
  | random
  deriving DecidableEq, Repr

structure DeviceAddress where
  bytes : Vector UInt8 6
  kind : AddressKind
  deriving DecidableEq, Repr

namespace DeviceAddress

def randomPartAllZero (b : Vector UInt8 6) : Bool :=
  b[0] == 0 && b[1] == 0 && b[2] == 0 && b[3] == 0 && b[4] == 0 && b[5] &&& 0x3f == 0

def randomPartAllOne (b : Vector UInt8 6) : Bool :=
  b[0] == 0xff && b[1] == 0xff && b[2] == 0xff && b[3] == 0xff && b[4] == 0xff &&
    b[5] &&& 0x3f == 0x3f

def randomStatic (bytes : Vector UInt8 6) : Except Error DeviceAddress :=
  if bytes[5] &&& 0xc0 ≠ 0xc0 ∨ randomPartAllZero bytes ∨ randomPartAllOne bytes then
    .error .invalidPacket
  else .ok ⟨bytes,.random⟩

end DeviceAddress

def maxLegacyAdvDataLen : Nat := 31

/- The used part of the source's 31-octet buffer; nothing reads past it. -/
structure AdvertisingData where
  asBytes : List UInt8
  fits : asBytes.length ≤ maxLegacyAdvDataLen
  deriving DecidableEq, Repr

namespace AdvertisingData

def new : AdvertisingData := ⟨[],by decide⟩

def push (d : AdvertisingData) (adType : UInt8) (value : List UInt8) :
    AdvertisingData × Except Error Unit :=
  if h : value.length > 254 ∨ d.asBytes.length + (value.length + 2) > maxLegacyAdvDataLen then
    (d,.error .invalidPacket)
  else
    (⟨d.asBytes ++ (UInt8.ofNat (value.length + 1) :: adType :: value),by
      rw [List.length_append,List.length_cons,List.length_cons]
      omega⟩,.ok ())

end AdvertisingData

def txAdd (kind : AddressKind) : UInt8 :=
  match kind with
  | .isPublic => 0
  | .random => (1 : UInt8) <<< 6

def buildAdvInd (address : DeviceAddress) (data : AdvertisingData) : Except Error (List UInt8) :=
  .ok ([txAdd address.kind,UInt8.ofNat (6 + data.asBytes.length)] ++ address.bytes.toList ++
    data.asBytes)

def buildScanRsp (address : DeviceAddress) (data : AdvertisingData) : Except Error (List UInt8) :=
  .ok ([0x04 ||| txAdd address.kind,UInt8.ofNat (6 + data.asBytes.length)] ++
    address.bytes.toList ++ data.asBytes)

structure LegacyAdvertisement where
  eventType : UInt8
  address : DeviceAddress
  data : List UInt8
  deriving DecidableEq, Repr

/- The HCI event type of a PDU type and where its data starts. -/
def legacyLayout (pduType : UInt8) (payloadLen : Nat) : Option (UInt8 × Nat) :=
  if pduType = 0x00 then some (0,8)
  else if pduType = 0x01 ∧ payloadLen = 12 then some (1,14)
  else if pduType = 0x02 then some (3,8)
  else if pduType = 0x04 then some (4,8)
  else if pduType = 0x06 then some (2,8)
  else none

def parseLegacyAdvertisement (packet : List UInt8) : Except Error LegacyAdvertisement :=
  if packet.length < 8 then .error .invalidPacket
  else
    let payloadLen := (octet packet 1 &&& 0x3f).toNat
    if ¬(6 ≤ payloadLen ∧ payloadLen ≤ 37) ∨ packet.length ≠ payloadLen + 2 then .error .invalidPacket
    else match legacyLayout (octet packet 0 &&& 0x0f) payloadLen with
      | none => .error .invalidPacket
      | some (eventType,dataOffset) =>
          .ok ⟨eventType,⟨Vector.ofFn (fun i => octet packet (2+i.val)),
            if octet packet 0 &&& ((1 : UInt8) <<< 6) ≠ 0 then .random else .isPublic⟩,
            (packet.take (payloadLen + 2)).drop dataOffset⟩

/-! Accumulated fields. -/

def pusher : Machine AdvertisingData Field (Except Error Unit) :=
  ⟨fun d field => d.push field.1 field.2⟩

def pushed (past : List (Field × Except Error Unit)) : List Field :=
  past.filterMap fun call => match call.2 with
    | .ok _ => some call.1
    | .error _ => none

theorem pushCases (d : AdvertisingData) (field : Field) :
    (d.asBytes.length + field.2.length + 2 ≤ 31 ∧ (d.push field.1 field.2).2 = .ok () ∧
      (d.push field.1 field.2).1.asBytes = d.asBytes ++ encodeField field) ∨
    (31 < d.asBytes.length + field.2.length + 2 ∧
      d.push field.1 field.2 = (d,.error .invalidPacket)) := by
  unfold AdvertisingData.push maxLegacyAdvDataLen
  by_cases large : field.2.length > 254 ∨ d.asBytes.length + (field.2.length + 2) > 31
  · rw [dif_pos large]
    exact Or.inr ⟨by omega,rfl⟩
  · rw [dif_neg large]
    exact Or.inl ⟨by omega,rfl,rfl⟩

/- What the buffer holds is the encoding of the fields whose push succeeded. -/
theorem pushedEncoded {past d} (h : History pusher .new past d) :
    d.asBytes = encode (pushed past) ∧ ∀ field ∈ pushed past, Fits field := by
  refine historyInvariant (I := fun past d => d.asBytes = encode (pushed past) ∧
    ∀ field ∈ pushed past, Fits field) ⟨rfl,by simp [pushed]⟩ ?_ h
  intro past d field known
  obtain ⟨bytes,fit⟩ := known
  have snoc : ∀ answer, pushed (past ++ [(field,answer)]) = pushed past ++
      (match answer with | .ok _ => [field] | .error _ => []) := by
    intro answer
    unfold pushed
    rw [filterMapSnoc]
    cases answer <;> rfl
  have stepped : pusher.step d field = d.push field.1 field.2 := rfl
  rw [stepped,snoc]
  obtain ⟨room,done,grown⟩ | ⟨_,refused⟩ := pushCases d field
  · rw [done,grown,bytes]
    refine ⟨(encodeSnoc _ field).symm,?_⟩
    intro other member
    rcases List.mem_append.mp member with old | new
    · exact fit other old
    · rw [List.mem_singleton.mp new]
      unfold Fits
      omega
  · rw [refused]
    simpa using And.intro bytes fit

/-! Encoding and decoding. -/

theorem lengthOctet {n : Nat} (bound : n ≤ 31) : (UInt8.ofNat (6 + n) &&& 0x3f).toNat = 6 + n := by
  have table : ∀ n < 32, (UInt8.ofNat (6 + n) &&& 0x3f).toNat = 6 + n := by decide
  exact table n (by omega)

/- Any header whose type bits name a layout with data at octet 8. -/
theorem parseFramed {header eventType : UInt8} {address : DeviceAddress} {data : AdvertisingData}
    {packet : List UInt8} (shape : packet = [header,UInt8.ofNat (6 + data.asBytes.length)] ++
      address.bytes.toList ++ data.asBytes)
    (layout : ∀ payloadLen, legacyLayout (header &&& 0x0f) payloadLen = some (eventType,8))
    (kind : (if header &&& ((1 : UInt8) <<< 6) ≠ 0 then AddressKind.random else .isPublic) =
      address.kind) :
    parseLegacyAdvertisement packet = .ok ⟨eventType,address,data.asBytes⟩ := by
  have bound : data.asBytes.length ≤ 31 := data.fits
  have size : packet.length = 8 + data.asBytes.length := by
    rw [shape]
    simp only [List.length_append,List.length_cons,List.length_nil,Vector.length_toList]
  have first : octet packet 0 = header := by
    rw [shape]
    rfl
  have second : octet packet 1 = UInt8.ofNat (6 + data.asBytes.length) := by
    rw [shape]
    rfl
  have read : Vector.ofFn (fun i : Fin 6 => octet packet (2 + i.val)) = address.bytes := by
    rw [shape,List.append_assoc]
    exact vectorAfter [header,UInt8.ofNat (6 + data.asBytes.length)] data.asBytes address.bytes
  have body : (packet.take (6 + data.asBytes.length + 2)).drop 8 = data.asBytes := by
    have front : ([header,UInt8.ofNat (6 + data.asBytes.length)] ++
      address.bytes.toList).length = 8 := by simp
    rw [List.take_of_length_le (by omega),shape,← front,List.drop_left]
  have inRange : ¬(¬(6 ≤ 6 + data.asBytes.length ∧ 6 + data.asBytes.length ≤ 37) ∨
      8 + data.asBytes.length ≠ 6 + data.asBytes.length + 2) := by omega
  unfold parseLegacyAdvertisement
  rw [size,if_neg (by omega),first,second]
  dsimp only
  rw [lengthOctet bound,if_neg inRange,layout]
  dsimp only
  rw [body,read,kind]

theorem parseAdvInd (address : DeviceAddress) (data : AdvertisingData) :
    ∃ pdu, buildAdvInd address data = .ok pdu ∧
      parseLegacyAdvertisement pdu = .ok ⟨0,address,data.asBytes⟩ := by
  refine ⟨_,rfl,parseFramed rfl ?_ ?_⟩
  · intro payloadLen
    cases address.kind <;> rfl
  · cases address.kind <;> rfl

theorem parseScanRsp (address : DeviceAddress) (data : AdvertisingData) :
    ∃ pdu, buildScanRsp address data = .ok pdu ∧
      parseLegacyAdvertisement pdu = .ok ⟨4,address,data.asBytes⟩ := by
  refine ⟨_,rfl,parseFramed rfl ?_ ?_⟩
  · intro payloadLen
    cases address.kind <;> rfl
  · cases address.kind <;> rfl

theorem advertisingDataSurvives (fields : List Field) :
    let past := (run pusher .new fields).1
    let d := (run pusher .new fields).2
    (∀ adType value, ((d.push adType value).2 = .ok () ↔ d.asBytes.length + value.length + 2 ≤ 31) ∧
      ((d.push adType value).2 ≠ .ok () → (d.push adType value).1.asBytes = d.asBytes)) ∧
    (∀ address, ∃ pdu, buildAdvInd address d = .ok pdu ∧
      parseLegacyAdvertisement pdu = .ok ⟨0,address,d.asBytes⟩) ∧
    (∀ address, ∃ pdu, buildScanRsp address d = .ok pdu ∧
      parseLegacyAdvertisement pdu = .ok ⟨4,address,d.asBytes⟩) ∧
    decode d.asBytes = some (pushed past) := by
  intro past d
  have history : History pusher .new past d := runHistory pusher .new fields
  obtain ⟨bytes,fit⟩ := pushedEncoded history
  refine ⟨?_,fun address => parseAdvInd address d,fun address => parseScanRsp address d,?_⟩
  · intro adType value
    obtain ⟨room,done,_⟩ | ⟨large,refused⟩ := pushCases d (adType,value)
    · exact ⟨⟨fun _ => room,fun _ => done⟩,fun failed => absurd done failed⟩
    · rw [refused]
      exact ⟨⟨fun done => (nomatch done),fun room => absurd room (Nat.not_le.mpr large)⟩,fun _ => rfl⟩
  · rw [bytes]
    exact decodeEncode fit

end Ch58xHal.Advertising
