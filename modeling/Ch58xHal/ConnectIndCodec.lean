import Ch58xHal.Advertising
import Ch58xHal.Connection
import Ch58xHal.OctetFields

/-! CONNECT_IND: access-address validation, the encoder a Central uses and the decoder of
the advertiser. -/
namespace Ch58xHal.ConnectIndCodec
open ControlPdu ChannelSelection Connection OctetFields Advertising

def advAccessAddress : UInt32 := 0x8e89bed6
def connectIndPayloadLen : Nat := 34

def countOnes32 (w : UInt32) : Nat := (List.range 32).countP (fun i => w.toNat.testBit i)

def transitionCount (value : UInt32) (bits : Nat) : Nat :=
  let mask : UInt32 := if bits = 32 then (0xffffffff : UInt32) >>> 1
    else ((1 : UInt32) <<< UInt32.ofNat (bits - 1)) - 1
  countOnes32 ((value ^^^ (value >>> 1)) &&& mask)

/- The scan for a run of more than six equal bits; the first argument counts the bits left. -/
def runsShort (accessAddress : UInt32) : Nat → UInt32 → Nat → Bool
  | 0,_,_ => true
  | left+1,previous,length =>
      let current := (accessAddress >>> UInt32.ofNat (31 - left)) &&& 1
      if current = previous then
        if length + 1 > 6 then false else runsShort accessAddress left previous (length + 1)
      else runsShort accessAddress left current 1

def dataAccessAddressIsValid (accessAddress : UInt32) (codedPhy : Bool) : Bool :=
  if accessAddress = advAccessAddress ∨ countOnes32 (accessAddress ^^^ advAccessAddress) = 1 then false
  else if accessAddress.toUInt8 = (accessAddress >>> 8).toUInt8 ∧
      (accessAddress >>> 8).toUInt8 = (accessAddress >>> 16).toUInt8 ∧
      (accessAddress >>> 16).toUInt8 = (accessAddress >>> 24).toUInt8 then false
  else if runsShort accessAddress 31 (accessAddress &&& 1) 1 = false then false
  else if transitionCount accessAddress 32 > 24 ∨ transitionCount (accessAddress >>> 26) 6 < 2 then false
  else if codedPhy ∧ (countOnes32 (accessAddress &&& 0xff) < 3 ∨
      transitionCount (accessAddress &&& 0xffff) 16 > 11) then false
  else true

def isScanRequest (packet : List UInt8) (address : DeviceAddress) : Bool :=
  14 ≤ packet.length && octet packet 0 &&& 0x0f == 0x03 && octet packet 1 &&& 0x3f == 12 &&
    slice packet 8 6 == address.bytes.toList

def timingIsValid (c : ConnectInd) : Bool :=
  connectionTimingIsValid c.windowSize c.windowOffset c.interval c.latency c.supervisionTimeout

def connectHeader (initiator advertiser : AddressKind) : UInt8 :=
  (0x05 : UInt8) ||| (if initiator = .random then (1 : UInt8) <<< 6 else 0) |||
    (if advertiser = .random then (1 : UInt8) <<< 7 else 0)

def connectImage (initiator advertiser : DeviceAddress) (c : ConnectInd) : List UInt8 :=
  [connectHeader initiator.kind advertiser.kind] ++ [UInt8.ofNat connectIndPayloadLen] ++
    initiator.bytes.toList ++ advertiser.bytes.toList ++ toLeBytes32 c.accessAddress ++
    toLeBytes24 c.crcInit ++ [c.windowSize] ++ toLeBytes c.windowOffset ++ toLeBytes c.interval ++
    toLeBytes c.latency ++ toLeBytes c.supervisionTimeout ++ c.channelMap.toList ++
    [c.hopIncrement ||| (c.sleepClockAccuracy <<< 5)]

def buildConnectInd (initiator advertiser : DeviceAddress) (c : ConnectInd) :
    Except Error (List UInt8) :=
  if c.initiatorAddress ≠ initiator.bytes ∨
      c.initiatorAddressRandom ≠ decide (initiator.kind = .random) ∨
      dataAccessAddressIsValid c.accessAddress false = false ∨
      ¬(5 ≤ c.hopIncrement ∧ c.hopIncrement ≤ 16) ∨ c.sleepClockAccuracy > 7 ∨
      timingIsValid c = false ∨ dataChannelMapIsValid c.channelMap = false then
    .error .invalidPacket
  else .ok (connectImage initiator advertiser c)

inductive ConnectIndParseError where
  | notConnectInd
  | invalidLength
  | differentAdvertiser
  | invalidAccessAddress
  | invalidHopIncrement
  | invalidTiming
  | invalidChannelMap
  deriving DecidableEq, Repr

/- The fields at their offsets in the packet; the payload starts at octet 2. -/
def readConnectInd (packet : List UInt8) : ConnectInd :=
  { initiatorAddress := Vector.ofFn (fun i => octet packet (2+i.val))
    initiatorAddressRandom := octet packet 0 &&& ((1 : UInt8) <<< 6) != 0
    accessAddress := word32 packet 14
    crcInit := word24 packet 18
    windowSize := octet packet 21
    windowOffset := word packet 22
    interval := word packet 24
    latency := word packet 26
    supervisionTimeout := word packet 28
    channelMap := Vector.ofFn (fun i => octet packet (30+i.val))
    hopIncrement := octet packet 35 &&& 0x1f
    sleepClockAccuracy := octet packet 35 >>> 5 }

def parseConnectIndDetailed (packet : List UInt8) (address : DeviceAddress) :
    Except ConnectIndParseError ConnectInd :=
  if packet.length < 2 + connectIndPayloadLen ∨ octet packet 0 &&& 0x0f ≠ 0x05 then
    .error .notConnectInd
  else if octet packet 1 &&& 0x3f ≠ UInt8.ofNat connectIndPayloadLen then .error .invalidLength
  else if slice packet 8 6 ≠ address.bytes.toList then .error .differentAdvertiser
  else if dataAccessAddressIsValid (readConnectInd packet).accessAddress false = false then
    .error .invalidAccessAddress
  else if ¬(5 ≤ (readConnectInd packet).hopIncrement ∧ (readConnectInd packet).hopIncrement ≤ 16) then
    .error .invalidHopIncrement
  else if timingIsValid (readConnectInd packet) = false then .error .invalidTiming
  else if dataChannelMapIsValid (readConnectInd packet).channelMap = false then
    .error .invalidChannelMap
  else .ok (readConnectInd packet)

/-! What each side checks. -/

structure Encodable (initiator : DeviceAddress) (c : ConnectInd) : Prop where
  bytes : c.initiatorAddress = initiator.bytes
  random : c.initiatorAddressRandom = decide (initiator.kind = .random)
  access : dataAccessAddressIsValid c.accessAddress false
  hop : 5 ≤ c.hopIncrement ∧ c.hopIncrement ≤ 16
  accuracy : c.sleepClockAccuracy ≤ 7
  timing : timingIsValid c
  map : dataChannelMapIsValid c.channelMap

theorem buildEncodes (initiator advertiser : DeviceAddress) (c : ConnectInd) (pdu : List UInt8) :
    buildConnectInd initiator advertiser c = .ok pdu ↔
      Encodable initiator c ∧ pdu = connectImage initiator advertiser c := by
  have guards : ¬(c.initiatorAddress ≠ initiator.bytes ∨
      c.initiatorAddressRandom ≠ decide (initiator.kind = .random) ∨
      dataAccessAddressIsValid c.accessAddress false = false ∨
      ¬(5 ≤ c.hopIncrement ∧ c.hopIncrement ≤ 16) ∨ c.sleepClockAccuracy > 7 ∨
      timingIsValid c = false ∨ dataChannelMapIsValid c.channelMap = false) ↔ Encodable initiator c := by
    simp only [not_or,not_not,ne_eq,Bool.not_eq_false,gt_iff_lt,UInt8.not_lt]
    constructor
    · rintro ⟨address,random,access,hop,accuracy,timing,channels⟩
      exact ⟨address,random,access,hop,accuracy,timing,channels⟩
    · rintro ⟨address,random,access,hop,accuracy,timing,channels⟩
      exact ⟨address,random,access,hop,accuracy,timing,channels⟩
  unfold buildConnectInd
  split <;> rename_i checked
  · refine ⟨fun wrong => (by cases wrong),fun encodes => ?_⟩
    exact absurd checked (guards.mpr encodes.1)
  · refine ⟨fun ok => ⟨guards.mp checked,(Except.ok.inj ok).symm⟩,?_⟩
    rintro ⟨_,rfl⟩
    rfl

structure Accepts (packet : List UInt8) (address : DeviceAddress) : Prop where
  size : 36 ≤ packet.length
  pduType : octet packet 0 &&& 0x0f = 0x05
  length : octet packet 1 &&& 0x3f = 34
  advertiser : slice packet 8 6 = address.bytes.toList
  access : dataAccessAddressIsValid (readConnectInd packet).accessAddress false
  hop : 5 ≤ (readConnectInd packet).hopIncrement ∧ (readConnectInd packet).hopIncrement ≤ 16
  timing : timingIsValid (readConnectInd packet)
  map : dataChannelMapIsValid (readConnectInd packet).channelMap

theorem parseAccepts (packet : List UInt8) (address : DeviceAddress) (c : ConnectInd) :
    parseConnectIndDetailed packet address = .ok c ↔
      Accepts packet address ∧ c = readConnectInd packet := by
  constructor
  · intro ok
    unfold parseConnectIndDetailed at ok
    split at ok <;> try contradiction
    split at ok <;> try contradiction
    split at ok <;> try contradiction
    split at ok <;> try contradiction
    split at ok <;> try contradiction
    split at ok <;> try contradiction
    split at ok <;> try contradiction
    rename_i shape length advertiser access hop timing map
    obtain ⟨size,pduType⟩ := not_or.mp shape
    refine ⟨⟨?_,not_not.mp pduType,not_not.mp length,not_not.mp advertiser,by simpa using access,
      not_not.mp hop,by simpa using timing,by simpa using map⟩,(Except.ok.inj ok).symm⟩
    simpa [connectIndPayloadLen] using size
  · rintro ⟨accepts,rfl⟩
    obtain ⟨size,pduType,length,advertiser,access,hop,timing,map⟩ := accepts
    have shape : ¬(packet.length < 2 + connectIndPayloadLen ∨ octet packet 0 &&& 0x0f ≠ 0x05) := by
      rintro (short | other)
      · exact absurd size (Nat.not_le.mpr short)
      · exact other pduType
    have announced : ¬octet packet 1 &&& 0x3f ≠ UInt8.ofNat connectIndPayloadLen := not_not.mpr length
    unfold parseConnectIndDetailed
    rw [if_neg shape,if_neg announced,if_neg (not_not.mpr advertiser),if_neg (by simp [access]),
      if_neg (not_not.mpr hop),if_neg (by simp [timing]),if_neg (by simp [map])]

/-! Decoding what was encoded. -/

theorem headerRandom (initiator advertiser : AddressKind) :
    (connectHeader initiator advertiser &&& ((1 : UInt8) <<< 6) != 0) = decide (initiator = .random) := by
  cases initiator <;> cases advertiser <;> decide

theorem headerType (initiator advertiser : AddressKind) :
    connectHeader initiator advertiser &&& 0x0f = 0x05 := by
  cases initiator <;> cases advertiser <;> decide

/- The last octet packs a hop increment below 32 and an accuracy below 8. -/
theorem packedOctet {hop sca : UInt8} (hopBound : hop ≤ 16) (scaBound : sca ≤ 7) :
    (hop ||| (sca <<< 5)) &&& 0x1f = hop ∧ (hop ||| (sca <<< 5)) >>> 5 = sca := by
  have table : ∀ h < 17, ∀ s < 8, (UInt8.ofNat h ||| (UInt8.ofNat s <<< 5)) &&& 0x1f = UInt8.ofNat h ∧
      (UInt8.ofNat h ||| (UInt8.ofNat s <<< 5)) >>> 5 = UInt8.ofNat s := by decide
  have at' := table hop.toNat (Nat.lt_succ_of_le (UInt8.le_iff_toNat_le.mp hopBound)) sca.toNat
    (Nat.lt_succ_of_le (UInt8.le_iff_toNat_le.mp scaBound))
  simpa using at'

theorem vectorSix (v : Vector UInt8 6) : ∃ a b c d e f, v = #v[a,b,c,d,e,f] := by
  obtain ⟨⟨items⟩,size⟩ := v
  match items,size with
  | [a,b,c,d,e,f],_ => exact ⟨a,b,c,d,e,f,rfl⟩

theorem vectorFive (v : Vector UInt8 5) : ∃ a b c d e, v = #v[a,b,c,d,e] := by
  obtain ⟨⟨items⟩,size⟩ := v
  match items,size with
  | [a,b,c,d,e],_ => exact ⟨a,b,c,d,e,rfl⟩

theorem imageSize (initiator advertiser : DeviceAddress) (c : ConnectInd) :
    (connectImage initiator advertiser c).length = 36 := by
  simp [connectImage,toLeBytes,toLeBytes24,toLeBytes32]

theorem imageAdvertiser (initiator advertiser : DeviceAddress) (c : ConnectInd) :
    slice (connectImage initiator advertiser c) 8 6 = advertiser.bytes.toList := by
  obtain ⟨⟨a0,a1,a2,a3,a4,a5,initiatorBytes⟩,⟨b0,b1,b2,b3,b4,b5,advertiserBytes⟩⟩ :=
    And.intro (vectorSix initiator.bytes) (vectorSix advertiser.bytes)
  rw [connectImage,initiatorBytes,advertiserBytes]
  rfl

theorem readImage {initiator : DeviceAddress} (advertiser : DeviceAddress) {c : ConnectInd}
    (valid : Encodable initiator c) :
    readConnectInd (connectImage initiator advertiser c) = {c with crcInit := low24 c.crcInit} := by
  obtain ⟨bytes,random,_,hop,accuracy,_,_⟩ := valid
  obtain ⟨initiatorBytes,initiatorKind⟩ := initiator
  obtain ⟨advertiserBytes,advertiserKind⟩ := advertiser
  obtain ⟨address,isRandom,access,crc,size,offset,interval,latency,timeout,map,increment,sca⟩ := c
  obtain ⟨a0,a1,a2,a3,a4,a5,rfl⟩ := vectorSix initiatorBytes
  obtain ⟨b0,b1,b2,b3,b4,b5,rfl⟩ := vectorSix advertiserBytes
  obtain ⟨m0,m1,m2,m3,m4,rfl⟩ := vectorFive map
  dsimp only at bytes random hop accuracy
  subst bytes random
  have packed := packedOctet hop.2 accuracy
  have randomBit := headerRandom initiatorKind advertiserKind
  simp only [connectImage,Vector.toList_mk,readConnectInd,word,word24,word32,octet,toLeBytes,toLeBytes24,
    toLeBytes32,List.cons_append,List.nil_append,List.getD_cons_succ,List.getD_cons_zero,Nat.reduceAdd,
    fromToLeBytes,fromToLeBytes32,low24,packed,randomBit]
  congr 1

theorem decodedImage {initiator : DeviceAddress} (advertiser : DeviceAddress) {c : ConnectInd}
    (valid : Encodable initiator c) :
    parseConnectIndDetailed (connectImage initiator advertiser c) advertiser =
      .ok {c with crcInit := low24 c.crcInit} := by
  have read := readImage advertiser valid
  refine (parseAccepts _ _ _).mpr ⟨⟨?_,?_,?_,imageAdvertiser _ _ _,?_,?_,?_,?_⟩,read.symm⟩
  · exact Nat.le_of_eq (imageSize _ _ _).symm
  · exact headerType _ _
  · have announced : UInt8.ofNat connectIndPayloadLen &&& 0x3f = 34 := by decide
    exact announced
  · rw [read]
    exact valid.access
  · rw [read]
    exact valid.hop
  · rw [read]
    exact valid.timing
  · rw [read]
    exact valid.map

/- The encoder admits every 32-bit CRC initial value but carries 24 bits of it. -/
theorem connectIndRoundTrip {initiator advertiser : DeviceAddress} {c : ConnectInd} {pdu : List UInt8}
    (built : buildConnectInd initiator advertiser c = .ok pdu) :
    parseConnectIndDetailed pdu advertiser = .ok c ↔ c.crcInit.toNat < 2 ^ 24 := by
  obtain ⟨valid,rfl⟩ := (buildEncodes _ _ _ _).mp built
  rw [decodedImage advertiser valid,← low24Exact c.crcInit]
  constructor
  · intro same
    have field := congrArg ConnectInd.crcInit (Except.ok.inj same)
    exact field
  · intro same
    rw [same]

def sampleInitiator : DeviceAddress := ⟨#v[6,5,4,3,2,1],.isPublic⟩
def sampleAdvertiser : DeviceAddress := ⟨#v[1,2,3,4,5,0xc6],.random⟩
def sampleConnect : ConnectInd :=
  ⟨#v[6,5,4,3,2,1],false,0x12345678,0x123456,2,1,24,0,200,allDataChannels,5,0⟩

theorem sampleRoundTrip :
    buildConnectInd sampleInitiator sampleAdvertiser sampleConnect =
      .ok (connectImage sampleInitiator sampleAdvertiser sampleConnect) ∧
    parseConnectIndDetailed (connectImage sampleInitiator sampleAdvertiser sampleConnect) sampleAdvertiser
      = .ok sampleConnect := by
  have built : buildConnectInd sampleInitiator sampleAdvertiser sampleConnect =
    .ok (connectImage sampleInitiator sampleAdvertiser sampleConnect) := by decide +kernel
  exact ⟨built,(connectIndRoundTrip built).mpr (by decide)⟩

theorem crcInitLost :
    buildConnectInd sampleInitiator sampleAdvertiser {sampleConnect with crcInit := 0x1123456} =
      .ok (connectImage sampleInitiator sampleAdvertiser {sampleConnect with crcInit := 0x1123456}) ∧
    parseConnectIndDetailed
      (connectImage sampleInitiator sampleAdvertiser {sampleConnect with crcInit := 0x1123456})
      sampleAdvertiser = .ok sampleConnect ∧
    sampleConnect ≠ {sampleConnect with crcInit := 0x1123456} := by
  decide +kernel

/-! Encoding what was decoded. -/

def initiatorOf (c : ConnectInd) : DeviceAddress :=
  ⟨c.initiatorAddress,if c.initiatorAddressRandom then .random else .isPublic⟩

/- Reserved and ChSel header bits cleared, RxAdd from the advertiser, reserved length bits cleared. -/
def canonicalHeader (header : UInt8) (advertiser : AddressKind) : UInt8 :=
  (header &&& (0x4f : UInt8)) ||| (if advertiser = .random then (1 : UInt8) <<< 7 else 0)

def canonical (packet : List UInt8) (advertiser : AddressKind) : List UInt8 :=
  ((packet.take 36).set 0 (canonicalHeader (octet packet 0) advertiser)).set 1 (octet packet 1 &&& 0x3f)

theorem headerRebuilt (advertiser : AddressKind) : ∀ header : UInt8, header &&& 0x0f = 0x05 →
    connectHeader (if (header &&& ((1 : UInt8) <<< 6) != 0) = true then .random else .isPublic) advertiser =
      canonicalHeader header advertiser := by
  cases advertiser <;> exact DataHeader.forallOctet (by decide +kernel)

theorem unpackedOctet : ∀ octet : UInt8, (octet &&& (0x1f : UInt8)) ||| ((octet >>> 5) <<< 5) = octet :=
  DataHeader.forallOctet (by decide +kernel)

theorem accuracyBound : ∀ octet : UInt8, octet >>> 5 ≤ 7 := DataHeader.forallOctet (by decide +kernel)

theorem canonicalSlices {packet : List UInt8} (size : 36 ≤ packet.length) (advertiser : AddressKind) :
    canonical packet advertiser = [canonicalHeader (octet packet 0) advertiser] ++
      [octet packet 1 &&& 0x3f] ++ slice packet 2 34 := by
  have first : packet.take 36 = slice packet 0 1 ++ slice packet 1 1 ++ slice packet 2 34 := by
    rw [← sliceSplit,← sliceSplit]
    rfl
  rw [canonical,first,← sliceOctet (by omega),← sliceOctet (by omega)]
  rfl

theorem imageRead {packet : List UInt8} {address : DeviceAddress} (accepts : Accepts packet address) :
    connectImage (initiatorOf (readConnectInd packet)) address (readConnectInd packet) =
      canonical packet address.kind := by
  have size := accepts.size
  have header := headerRebuilt address.kind _ accepts.pduType
  have announced : UInt8.ofNat connectIndPayloadLen = octet packet 1 &&& 0x3f := accepts.length.symm
  rw [canonicalSlices size]
  unfold connectImage initiatorOf readConnectInd
  dsimp only
  rw [header,announced,unpackedOctet,← accepts.advertiser,sliceVector (by omega),sliceVector (by omega),
    sliceWord32 (by omega),sliceWord24 (by omega),sliceOctet (by omega),sliceWord (by omega),
    sliceWord (by omega),sliceWord (by omega),sliceWord (by omega),sliceOctet (by omega)]
  simp only [List.append_assoc]
  rw [← sliceSplit,← sliceSplit,← sliceSplit,← sliceSplit,← sliceSplit,← sliceSplit,← sliceSplit,
    ← sliceSplit,← sliceSplit,← sliceSplit]

theorem connectIndReencodes {packet : List UInt8} {address : DeviceAddress} {c : ConnectInd}
    (accepted : parseConnectIndDetailed packet address = .ok c) :
    buildConnectInd (initiatorOf c) address c = .ok (canonical packet address.kind) ∧
    (ChannelSelection1.new c.channelMap c.hopIncrement).isSome ∧
    ∀ connectIndEndUs now, (ActiveConnection.new c connectIndEndUs now).isSome := by
  obtain ⟨accepts,rfl⟩ := (parseAccepts _ _ _).mp accepted
  have selection : (ChannelSelection1.new (readConnectInd packet).channelMap
      (readConnectInd packet).hopIncrement).isSome := by
    unfold ChannelSelection1.new
    rw [dif_pos ⟨accepts.hop,accepts.map⟩]
    rfl
  have valid : Encodable (initiatorOf (readConnectInd packet)) (readConnectInd packet) := by
    refine ⟨rfl,?_,accepts.access,accepts.hop,accuracyBound _,accepts.timing,accepts.map⟩
    unfold initiatorOf
    cases (readConnectInd packet).initiatorAddressRandom <;> rfl
  refine ⟨(buildEncodes _ _ _ _).mpr ⟨valid,(imageRead accepts).symm⟩,selection,?_⟩
  intro connectIndEndUs now
  obtain ⟨channels,made⟩ := Option.isSome_iff_exists.mp selection
  simp only [ActiveConnection.new,ActiveConnection.newFor,made,Option.isSome_some]

theorem sampleReencodes :
    buildConnectInd (initiatorOf sampleConnect) sampleAdvertiser sampleConnect = .ok (canonical
      (connectImage sampleInitiator sampleAdvertiser sampleConnect) sampleAdvertiser.kind) := by
  have accepted : parseConnectIndDetailed (connectImage sampleInitiator sampleAdvertiser sampleConnect)
    sampleAdvertiser = .ok sampleConnect := by decide +kernel
  exact (connectIndReencodes accepted).1

/-! Whom a request is directed at. -/

def DirectedAtOne (a b : DeviceAddress) : Prop :=
  (∀ packet, ¬(isScanRequest packet a ∧ isScanRequest packet b)) ∧
  (∀ packet c d, ¬(parseConnectIndDetailed packet a = .ok c ∧ parseConnectIndDetailed packet b = .ok d)) ∧
  ∀ initiator c pdu, buildConnectInd initiator a c = .ok pdu →
    parseConnectIndDetailed pdu b = .error .differentAdvertiser

theorem scannedAddress {packet : List UInt8} {address : DeviceAddress}
    (scan : isScanRequest packet address) : slice packet 8 6 = address.bytes.toList := by
  simp only [isScanRequest,Bool.and_eq_true,beq_iff_eq] at scan
  exact scan.2

theorem imageElsewhere (initiator : DeviceAddress) {a b : DeviceAddress} (c : ConnectInd)
    (different : a.bytes ≠ b.bytes) :
    parseConnectIndDetailed (connectImage initiator a c) b = .error .differentAdvertiser := by
  have shape : ¬((connectImage initiator a c).length < 2 + connectIndPayloadLen ∨
      octet (connectImage initiator a c) 0 &&& 0x0f ≠ 0x05) := by
    rintro (short | other)
    · rw [imageSize] at short
      exact absurd short (by decide)
    · exact other (headerType initiator.kind a.kind)
  have announced : ¬octet (connectImage initiator a c) 1 &&& 0x3f ≠ UInt8.ofNat connectIndPayloadLen := by
    have length : UInt8.ofNat connectIndPayloadLen &&& 0x3f = UInt8.ofNat connectIndPayloadLen := by decide
    exact not_not.mpr length
  have elsewhere : slice (connectImage initiator a c) 8 6 ≠ b.bytes.toList := by
    rw [imageAdvertiser]
    exact fun same => different (Vector.toList_inj.mp same)
  unfold parseConnectIndDetailed
  rw [if_neg shape,if_neg announced,if_pos elsewhere]

/- A scan request for the six octets alone. -/
def scanRequestFor (address : DeviceAddress) : List UInt8 :=
  [0x03,12,0,0,0,0,0,0] ++ address.bytes.toList

theorem scanRequestHeard {a b : DeviceAddress} (same : a.bytes = b.bytes) :
    isScanRequest (scanRequestFor a) b := by
  obtain ⟨b0,b1,b2,b3,b4,b5,octets⟩ := vectorSix b.bytes
  have pduType : (3 : UInt8) &&& 15 = 3 := by decide
  have length : (12 : UInt8) &&& 63 = 12 := by decide
  rw [isScanRequest,scanRequestFor,same,octets]
  simp [octet,slice,pduType,length]

/- Neither decoder looks at the address type bit that the encoder writes. -/
theorem requestDirectedAtOne (a b : DeviceAddress) :
    DirectedAtOne a b ↔ a.bytes ≠ b.bytes := by
  constructor
  · rintro ⟨scan,_⟩ same
    exact scan (scanRequestFor a) ⟨scanRequestHeard rfl,scanRequestHeard same⟩
  · intro bytes
    have apart : ∀ octets, octets = a.bytes.toList → octets ≠ b.bytes.toList :=
      fun octets first second => bytes (Vector.toList_inj.mp (first.symm.trans second))
    refine ⟨?_,?_,?_⟩
    · rintro packet ⟨first,second⟩
      exact apart _ (scannedAddress first) (scannedAddress second)
    · rintro packet c d ⟨first,second⟩
      exact apart _ ((parseAccepts _ _ _).mp first).1.advertiser ((parseAccepts _ _ _).mp second).1.advertiser
    · intro initiator c pdu built
      obtain ⟨_,rfl⟩ := (buildEncodes _ _ _ _).mp built
      exact imageElsewhere initiator c bytes

theorem addressTypeIgnored :
    sampleAdvertiser ≠ ⟨sampleAdvertiser.bytes,.isPublic⟩ ∧
    isScanRequest (scanRequestFor sampleAdvertiser) sampleAdvertiser ∧
    isScanRequest (scanRequestFor sampleAdvertiser) ⟨sampleAdvertiser.bytes,.isPublic⟩ ∧
    parseConnectIndDetailed (connectImage sampleInitiator sampleAdvertiser sampleConnect)
      sampleAdvertiser = .ok sampleConnect ∧
    parseConnectIndDetailed (connectImage sampleInitiator sampleAdvertiser sampleConnect)
      ⟨sampleAdvertiser.bytes,.isPublic⟩ = .ok sampleConnect := by
  decide +kernel

end Ch58xHal.ConnectIndCodec
