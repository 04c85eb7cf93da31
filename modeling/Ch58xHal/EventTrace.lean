import Ch58xHal.BitFields

/-! The trace record of a connection event, seven 32-bit words for a ring in flash or memory.
Every field keeps its own bits, so the words of a field trace give back the record. -/
namespace Ch58xHal.EventTrace
open BitFields

inductive ConnectionEventCloseReason where
  | continue_
  | bothMdClear
  | deadline
  | radioTimeout
  | invalidCrc
  | invalidMic
  | resourceLimit
  | protocolError
  deriving DecidableEq, Repr

namespace ConnectionEventCloseReason

def code : ConnectionEventCloseReason → UInt8
  | continue_ => 0
  | bothMdClear => 1
  | deadline => 2
  | radioTimeout => 3
  | invalidCrc => 4
  | invalidMic => 5
  | resourceLimit => 6
  | protocolError => 7

def ofCode (code : Nat) : Option ConnectionEventCloseReason :=
  [continue_,bothMdClear,deadline,radioTimeout,invalidCrc,invalidMic,resourceLimit,protocolError][code]?

theorem ofCodeCode (reason : ConnectionEventCloseReason) : ofCode reason.code.toNat = some reason := by
  cases reason <;> rfl

end ConnectionEventCloseReason

structure ConnectionEventTraceRecord where
  eventCounter : UInt16
  channel : UInt8
  legIndex : UInt8
  timestampUs : UInt64
  lleStatus : UInt32
  bbStatus : UInt32
  peerHeader : UInt8
  responseHeader : UInt8
  receivedLen : UInt8
  responseSlot : UInt8
  crcOk : Bool
  acknowledgedTransmit : Bool
  acceptedReceive : Bool
  peerMoreData : Bool
  responseTransmitted : Bool
  closeReason : ConnectionEventCloseReason
  deriving DecidableEq, Repr

def flag (b : Bool) : UInt32 := if b then 1 else 0

namespace ConnectionEventTraceRecord
variable (r : ConnectionEventTraceRecord)

def flags : UInt32 :=
  flag r.crcOk ||| (flag r.acknowledgedTransmit <<< 1) ||| (flag r.acceptedReceive <<< 2) |||
    (flag r.peerMoreData <<< 3) ||| (flag r.responseTransmitted <<< 4) ||| (r.closeReason.code.toUInt32 <<< 8)

def encode : Vector UInt32 7 := #v[
  r.eventCounter.toUInt32 ||| (r.channel.toUInt32 <<< 16) ||| (r.legIndex.toUInt32 <<< 24),
  r.timestampUs.toUInt32,
  (r.timestampUs >>> 32).toUInt32,
  r.lleStatus,
  r.bbStatus,
  r.peerHeader.toUInt32 ||| (r.responseHeader.toUInt32 <<< 8) ||| (r.receivedLen.toUInt32 <<< 16) |||
    (r.responseSlot.toUInt32 <<< 24),
  r.flags]

/- The reader of a trace; three bits of the flags are unused. -/
def decode (words : Vector UInt32 7) : Option ConnectionEventTraceRecord :=
  match unpack [16,8,8] words[0].toNat,unpack [8,8,8,8] words[5].toNat,
    unpack [1,1,1,1,1,3,8] words[6].toNat with
  | [counter,channel,leg],[peer,response,len,slot],[crc,acknowledged,accepted,more,transmitted,_,reason] => do
    let closeReason ← ConnectionEventCloseReason.ofCode reason
    some ⟨UInt16.ofNat counter,UInt8.ofNat channel,UInt8.ofNat leg,
      UInt64.ofNat (words[1].toNat + 2^32 * words[2].toNat),words[3],words[4],UInt8.ofNat peer,
      UInt8.ofNat response,UInt8.ofNat len,UInt8.ofNat slot,crc == 1,acknowledged == 1,accepted == 1,
      more == 1,transmitted == 1,closeReason⟩
  | _,_,_ => none

end ConnectionEventTraceRecord

/-! The words as packed fields. -/

theorem placed {v : UInt32} {width : Nat} (fits : v.toNat < 2^width) (offset : Nat) (room : width + offset ≤ 32)
    (inside : offset < 32) : (v <<< UInt32.ofNat offset).toNat = v.toNat <<< offset := by
  have bits : (UInt32.ofNat offset).toNat = offset := by
    rw [UInt32.toNat_ofNat']
    exact Nat.mod_eq_of_lt (by omega)
  rw [UInt32.toNat_shiftLeft,bits,Nat.mod_eq_of_lt inside,Nat.shiftLeft_eq]
  refine Nat.mod_eq_of_lt ?_
  calc v.toNat * 2^offset < 2^width * 2^offset := Nat.mul_lt_mul_of_pos_right fits (Nat.two_pow_pos _)
    _ = 2^(width + offset) := (Nat.pow_add ..).symm
    _ ≤ 2^32 := Nat.pow_le_pow_right (by decide) room

theorem placedOctet (v : UInt8) (offset : Nat) (room : 8 + offset ≤ 32) :
    (v.toUInt32 <<< UInt32.ofNat offset).toNat = v.toNat <<< offset := by
  have octet : v.toUInt32.toNat < 2^8 := v.toNat_lt
  rw [placed octet offset room (by omega)]
  rfl

theorem placedFlag (b : Bool) (offset : Nat) (inside : offset < 32) :
    (flag b <<< UInt32.ofNat offset).toNat = b.toNat <<< offset := by
  have value : (flag b).toNat = b.toNat := by cases b <;> rfl
  have bit : (flag b).toNat < 2^1 := value ▸ b.toNat_lt
  rw [placed bit offset (by omega) inside,value]

section Words
variable (r : ConnectionEventTraceRecord)

def counterFields : List Field := [(16,r.eventCounter.toNat),(8,r.channel.toNat),(8,r.legIndex.toNat)]

def headerFields : List Field :=
  [(8,r.peerHeader.toNat),(8,r.responseHeader.toNat),(8,r.receivedLen.toNat),(8,r.responseSlot.toNat)]

def flagFields : List Field :=
  [(1,r.crcOk.toNat),(1,r.acknowledgedTransmit.toNat),(1,r.acceptedReceive.toNat),(1,r.peerMoreData.toNat),
    (1,r.responseTransmitted.toNat),(3,0),(8,r.closeReason.code.toNat)]

theorem counterPacked : r.encode[0].toNat = pack (counterFields r) := by
  show (r.eventCounter.toUInt32 ||| (r.channel.toUInt32 <<< UInt32.ofNat 16) |||
    (r.legIndex.toUInt32 <<< UInt32.ofNat 24)).toNat = _
  rw [UInt32.toNat_or,UInt32.toNat_or,placedOctet _ 16 (by decide),placedOctet _ 24 (by decide)]
  simp only [counterFields,pack,Nat.zero_shiftLeft,Nat.or_zero,Nat.shiftLeft_or_distrib,← Nat.shiftLeft_add,
    Nat.or_assoc]
  rfl

theorem headersPacked : r.encode[5].toNat = pack (headerFields r) := by
  show (r.peerHeader.toUInt32 ||| (r.responseHeader.toUInt32 <<< UInt32.ofNat 8) |||
    (r.receivedLen.toUInt32 <<< UInt32.ofNat 16) ||| (r.responseSlot.toUInt32 <<< UInt32.ofNat 24)).toNat = _
  rw [UInt32.toNat_or,UInt32.toNat_or,UInt32.toNat_or,placedOctet _ 8 (by decide),placedOctet _ 16 (by decide),
    placedOctet _ 24 (by decide)]
  simp only [headerFields,pack,Nat.zero_shiftLeft,Nat.or_zero,Nat.shiftLeft_or_distrib,← Nat.shiftLeft_add,
    Nat.or_assoc]
  rfl

theorem flagsPacked : r.encode[6].toNat = pack (flagFields r) := by
  show (flag r.crcOk ||| (flag r.acknowledgedTransmit <<< UInt32.ofNat 1) |||
    (flag r.acceptedReceive <<< UInt32.ofNat 2) ||| (flag r.peerMoreData <<< UInt32.ofNat 3) |||
    (flag r.responseTransmitted <<< UInt32.ofNat 4) |||
    (r.closeReason.code.toUInt32 <<< UInt32.ofNat 8)).toNat = _
  have first : (flag r.crcOk).toNat = r.crcOk.toNat := by cases r.crcOk <;> rfl
  rw [UInt32.toNat_or,UInt32.toNat_or,UInt32.toNat_or,UInt32.toNat_or,UInt32.toNat_or,first,
    placedFlag _ 1 (by decide),placedFlag _ 2 (by decide),placedFlag _ 3 (by decide),placedFlag _ 4 (by decide),
    placedOctet _ 8 (by decide)]
  simp only [flagFields,pack,Nat.zero_shiftLeft,Nat.or_zero,Nat.zero_or,Nat.shiftLeft_or_distrib,
    ← Nat.shiftLeft_add,Nat.or_assoc]

theorem timestampHalves :
    UInt64.ofNat (r.encode[1].toNat + 2^32 * r.encode[2].toNat) = r.timestampUs := by
  have low : r.encode[1].toNat = r.timestampUs.toNat % 2^32 := UInt64.toNat_toUInt32 _
  have high : r.encode[2].toNat = r.timestampUs.toNat / 2^32 := by
    show (r.timestampUs >>> 32).toUInt32.toNat = _
    rw [UInt64.toNat_toUInt32,UInt64.toNat_shiftRight,Nat.shiftRight_eq_div_pow]
    have wide : r.timestampUs.toNat < 2^64 := r.timestampUs.toNat_lt
    show r.timestampUs.toNat / 2^32 % 2^32 = _
    omega
  rw [low,high,Nat.mod_add_div,UInt64.ofNat_toNat]

theorem bitRead (b : Bool) : (b.toNat == 1) = b := by cases b <;> rfl

theorem decodeEncode : ConnectionEventTraceRecord.decode r.encode = some r := by
  have octets : ∀ v : UInt8, v.toNat < 256 := fun v => v.toNat_lt
  have counters : ∀ f ∈ counterFields r, f.2 < 2^f.1 := by
    have counter : r.eventCounter.toNat < 65536 := r.eventCounter.toNat_lt
    simp [counterFields,octets,counter]
  have headers : ∀ f ∈ headerFields r, f.2 < 2^f.1 := by
    simp [headerFields,octets]
  have flags : ∀ f ∈ flagFields r, f.2 < 2^f.1 := by
    have bit : ∀ b : Bool, b.toNat < 2^1 := Bool.toNat_lt
    simp only [flagFields,List.forall_mem_cons]
    exact ⟨bit _,bit _,bit _,bit _,bit _,by decide,octets _,fun _ absent => (nomatch absent)⟩
  have counterRead := unpackPack counters
  have headerRead := unpackPack headers
  have flagRead := unpackPack flags
  rw [← counterPacked] at counterRead
  rw [← headersPacked] at headerRead
  rw [← flagsPacked] at flagRead
  simp only [counterFields,headerFields,flagFields,List.map_cons,List.map_nil] at counterRead headerRead flagRead
  unfold ConnectionEventTraceRecord.decode
  rw [counterRead,headerRead,flagRead,timestampHalves]
  simp only [ConnectionEventCloseReason.ofCodeCode,bitRead,UInt8.ofNat_toNat,UInt16.ofNat_toNat]
  rfl

end Words

theorem traceLossless :
    (∀ r : ConnectionEventTraceRecord, ConnectionEventTraceRecord.decode r.encode = some r) ∧
    ∀ a b : ConnectionEventTraceRecord, a ≠ b → a.encode ≠ b.encode := by
  refine ⟨decodeEncode,?_⟩
  intro a b different same
  have read := decodeEncode a
  rw [same,decodeEncode b] at read
  exact different (Option.some.inj read).symm

end Ch58xHal.EventTrace
