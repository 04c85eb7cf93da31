import Mathlib.Algebra.Order.Ring.Nat
import Mathlib.Data.List.Basic

/-! Data Physical Channel header bits and the sequence state of one ACL connection.
The sequence numbers are whole octets in the source; `new` masks them to one bit and
every later operation keeps them there. -/
namespace Ch58xHal.DataHeader

def dataHeaderNesn : UInt8 := (1 : UInt8) <<< 2
def dataHeaderSn : UInt8 := (1 : UInt8) <<< 3
def dataHeaderMd : UInt8 := (1 : UInt8) <<< 4
def dataHeaderSequenceMask : UInt8 := dataHeaderNesn ||| dataHeaderSn

def nesn (header : UInt8) : UInt8 := (header >>> 2) &&& 1
def sn (header : UInt8) : UInt8 := (header >>> 3) &&& 1

/- A packet received before the Peripheral response may acknowledge only an owner
carried into the event. -/
def acknowledgesTransmitOwner (peerHeader transmitSn : UInt8)
    (outstandingAtEventEntry receivedAfterPrimaryTransmit : Bool) : Bool :=
  (outstandingAtEventEntry || receivedAfterPrimaryTransmit) && nesn peerHeader != transmitSn

structure DataSequenceState where
  transmitSn : UInt8
  expectedSn : UInt8
  deriving DecidableEq, Repr

structure DataSequenceObservation where
  acknowledgedTransmit : Bool
  acceptedReceive : Bool
  peerMoreData : Bool
  deriving DecidableEq, Repr

namespace DataSequenceState

def new (transmitSn expectedSn : UInt8) : DataSequenceState := ⟨transmitSn &&& 1,expectedSn &&& 1⟩

def observe (s : DataSequenceState) (peerHeader : UInt8) : DataSequenceState × DataSequenceObservation :=
  let acknowledgedTransmit := nesn peerHeader != s.transmitSn
  let acceptedReceive := sn peerHeader == s.expectedSn
  (⟨if acknowledgedTransmit then s.transmitSn ^^^ 1 else s.transmitSn,
    if acceptedReceive then s.expectedSn ^^^ 1 else s.expectedSn⟩,
   ⟨acknowledgedTransmit,acceptedReceive,peerHeader &&& dataHeaderMd != 0⟩)

/- Patch only the sequence and MD fields of a staged PDU. -/
def responseHeader (s : DataSequenceState) (stagedHeader : UInt8) (moreData : Bool) : UInt8 :=
  let header := (stagedHeader &&& ~~~(dataHeaderSequenceMask ||| dataHeaderMd)) |||
    (s.expectedSn <<< 2) ||| (s.transmitSn <<< 3)
  if moreData then header ||| dataHeaderMd else header

end DataSequenceState

/- The backend's header refresh just before RX; it leaves MD and LLID alone. -/
def refreshTransmitSequenceHeader (header transmitSn expectedSn : UInt8) : UInt8 :=
  (header &&& ~~~dataHeaderSequenceMask) ||| ((expectedSn &&& 1) * dataHeaderNesn) |||
    ((transmitSn &&& 1) * dataHeaderSn)

/-! One-bit values. Octet identities are finite facts, checked over all 256 headers. -/

def IsBit (b : UInt8) : Prop := b = 0 ∨ b = 1
instance (b) : Decidable (IsBit b) := by unfold IsBit; infer_instance

theorem forallOctet {P : UInt8 → Prop} (h : ∀ b : BitVec 8, P ⟨b⟩) : ∀ u, P u := fun u => h u.toBitVec

theorem maskIsBit (b : UInt8) : IsBit (b &&& 1) := by
  revert b; exact forallOctet (by decide +kernel)

theorem flipIsBit {b : UInt8} (h : IsBit b) : IsBit (b ^^^ 1) := by
  rcases h with rfl | rfl <;> decide

theorem flipNe {b : UInt8} (h : IsBit b) : b ^^^ 1 ≠ b := by
  rcases h with rfl | rfl <;> decide

theorem flipOfNe {a b : UInt8} (ha : IsBit a) (hb : IsBit b) (different : a ≠ b) : a ^^^ 1 = b := by
  rcases ha with rfl | rfl <;> rcases hb with rfl | rfl <;> first | contradiction | decide

/- A header carries both sequence numbers of its sender and the label of the staged one. -/
theorem responseFields (s : DataSequenceState) (valid : IsBit s.expectedSn ∧ IsBit s.transmitSn)
    (staged : UInt8) (more : Bool) :
    nesn (s.responseHeader staged more) = s.expectedSn ∧ sn (s.responseHeader staged more) = s.transmitSn ∧
      s.responseHeader staged more &&& 3 = staged &&& 3 := by
  obtain ⟨t,e⟩ := s
  obtain ⟨he,ht⟩ := valid
  simp only at he ht
  rcases he with rfl | rfl <;> rcases ht with rfl | rfl <;> cases more <;>
    (revert staged; exact forallOctet (by decide +kernel))

theorem responseNesn (s : DataSequenceState) (valid : IsBit s.expectedSn ∧ IsBit s.transmitSn)
    (staged : UInt8) (more : Bool) : nesn (s.responseHeader staged more) = s.expectedSn :=
  (responseFields s valid staged more).1

theorem responseSn (s : DataSequenceState) (valid : IsBit s.expectedSn ∧ IsBit s.transmitSn)
    (staged : UInt8) (more : Bool) : sn (s.responseHeader staged more) = s.transmitSn :=
  (responseFields s valid staged more).2.1

theorem responseLlid (s : DataSequenceState) (valid : IsBit s.expectedSn ∧ IsBit s.transmitSn)
    (staged : UInt8) (more : Bool) : s.responseHeader staged more &&& 3 = staged &&& 3 :=
  (responseFields s valid staged more).2.2

-- What one side learns from a header the other side built from its own sequence state.
theorem observeResponse (s peer : DataSequenceState)
    (valid : IsBit peer.expectedSn ∧ IsBit peer.transmitSn) (staged : UInt8) (more : Bool) :
    (s.observe (peer.responseHeader staged more)).1 =
      ⟨if peer.expectedSn != s.transmitSn then s.transmitSn ^^^ 1 else s.transmitSn,
       if peer.transmitSn = s.expectedSn then s.expectedSn ^^^ 1 else s.expectedSn⟩ ∧
    (s.observe (peer.responseHeader staged more)).2.acknowledgedTransmit =
      (peer.expectedSn != s.transmitSn) ∧
    (s.observe (peer.responseHeader staged more)).2.acceptedReceive =
      decide (peer.transmitSn = s.expectedSn) := by
  simp [DataSequenceState.observe,responseNesn peer valid,responseSn peer valid,beq_eq_decide]

theorem refreshedNesn (header : UInt8) {t e : UInt8} (ht : IsBit t) (he : IsBit e) :
    nesn (refreshTransmitSequenceHeader header t e) = e := by
  rcases ht with rfl | rfl <;> rcases he with rfl | rfl <;>
    (revert header; exact forallOctet (by decide +kernel))

theorem refreshedSn (header : UInt8) {t e : UInt8} (ht : IsBit t) (he : IsBit e) :
    sn (refreshTransmitSequenceHeader header t e) = t := by
  rcases ht with rfl | rfl <;> rcases he with rfl | rfl <;>
    (revert header; exact forallOctet (by decide +kernel))

theorem refreshedLlid (header : UInt8) {t e : UInt8} (ht : IsBit t) (he : IsBit e) :
    refreshTransmitSequenceHeader header t e &&& 3 = header &&& 3 := by
  rcases ht with rfl | rfl <;> rcases he with rfl | rfl <;>
    (revert header; exact forallOctet (by decide +kernel))

end Ch58xHal.DataHeader
