import Ch58xHal.AclQueue
import Ch58xHal.ControlLabels
import Ch58xHal.SequencedLink

/-! The connection on the air. A Central that follows the sequence rules sends a stream of PDUs;
packets are lost, corrupted or heard, answers are lost or delivered, and the radio may deny an
answer it sent. The frame on air carries the sequence numbers of the start of the event, so an
acknowledgement is one event late; either direction is a stop-and-wait link all the same. -/
namespace Ch58xHal.ArqPeers
open ControlPdu Connection ConnectionEvent ConnectionRun DataHeader DataPlane AclQueue ControlLabels
open StopAndWait SequencedLink SlotQueue
open Machines (Machine History)

structure CentralPdu where
  header : UInt8
  payload : List UInt8
  labelled : header &&& 0x03 ≠ 0
  fits : payload.length ≤ maxDataPduPayload

/- A PDU of the Peripheral, with what the connection had it built for. -/
structure Aired where
  kind : TransmittedPdu
  pdu : Fragment
  deriving DecidableEq, Repr

/- The Central is at the PDU with the number `sent`. -/
structure Peers where
  link : Link
  central : DataSequenceState
  sent : Nat

inductive Fate where
  | lost
  | corrupt (received : ExchangeResult) (delivered : Bool)
  | heard (moreData : Bool) (rssiDbm : Int8) (timestampUs : Nat) (transmitted delivered : Bool)

-- Whether the Central gets what the Peripheral put on air; nothing does after a lost packet.
def Fate.delivered : Fate → Bool
  | lost => false
  | corrupt _ delivered => delivered
  | heard _ _ _ _ delivered => delivered

inductive Occasion where
  | host (packet : Packet)
  | deadlines (now : Nat)
  | skip (now : Nat) (clock : Nat → Nat)
  | event (clock : EventClock) (fate : Fate)

structure Observed where
  queued : List Fragment
  completed : List Fragment
  taken : Option Aired
  forwarded : List HostCall

def wire (header : UInt8) (payload : List UInt8) : List UInt8 :=
  header :: payload.length.toUInt8 :: payload

section Machine
variable (stream : Nat → CentralPdu)

def receives (s : Peers) : Fate → Option ExchangeResult
  | .lost => none
  | .corrupt received _ => some {received with crcOk := false}
  | .heard moreData rssiDbm timestampUs transmitted _ =>
    some ⟨wire (s.central.responseHeader (stream s.sent).header moreData) (stream s.sent).payload,
      rssiDbm,true,timestampUs,transmitted⟩

def inputOf (s : Peers) : Occasion → Input
  | .host packet => .host packet
  | .deadlines now => .deadlines now
  | .skip now clock => .skip now clock
  | .event clock fate => .event clock (receives stream s fate)

def delivers : Occasion → Bool
  | .event _ fate => fate.delivered
  | _ => false

/- The Central reads a frame as the Peripheral reads a packet. -/
def answer (o : Occasion) (frame : Option (List UInt8)) : Option (UInt8 × List UInt8) :=
  if delivers o then frame.bind fun octets => receivedPdu ⟨octets,0,true,0,true⟩ else none

/- What the frame on air was built for: chosen in an earlier event, or in this one. -/
def airedKind (before after : DataPath) : TransmittedPdu :=
  if before.transmitted = .none then after.transmitted else before.transmitted

def takeReply (s : Peers) (link : Link) (heard : Option (UInt8 × List UInt8)) : Peers × Option Aired :=
  match heard with
  | none => (⟨link,s.central,s.sent⟩,none)
  | some (header,payload) =>
    let observed := s.central.observe header
    (⟨link,observed.1,if observed.2.acknowledgedTransmit then s.sent + 1 else s.sent⟩,
     if observed.2.acceptedReceive then
       some ⟨airedKind s.link.connection.toDataPath link.connection.toDataPath,header &&& 0x03,payload⟩
     else none)

-- The packets `queue_acl` accepts.
def queues (link : Link) : Occasion → List Fragment
  | .host packet =>
    if link.down = false ∧ packet.kind = .aclData ∧
        (link.connection.queueAcl link.connection.handle packet.bytes).isOk then [fragmentOf packet] else []
  | _ => []

def upward : HostCall → Bool
  | .sendAcl _ _ => true
  | _ => false

/- A completion is for the oldest packets in the queue. -/
def proceed (s : Peers) (o : Occasion) : Peers × Observed :=
  let done := step s.link (inputOf stream s o)
  let after := takeReply s done.1 (answer o (done.2.exchange.map ExchangeRequest.transmit))
  (after.1,
   ⟨queues s.link o,(held s.link.connection.toDataPath).take (regained done.2.calls),after.2,
    done.2.calls.filter upward⟩)

def peers : Machine Peers Occasion Observed := ⟨proceed stream⟩

/- The call that hands a PDU of the Central to the Host, if it carries ACL data. -/
def aclOf (handle : UInt16) (n : Nat) : List HostCall :=
  DataPlane.forwarded handle ((stream n).header &&& 0x03) (stream n).payload

end Machine

abbrev Past := List (Occasion × Observed)

def queued (past : Past) : List Fragment := past.flatMap fun entry => entry.2.queued
def completed (past : Past) : List Fragment := past.flatMap fun entry => entry.2.completed
def taken (past : Past) : List Aired := past.filterMap fun entry => entry.2.taken
def handedOver (past : Past) : List HostCall := past.flatMap fun entry => entry.2.forwarded

def aclData (unit : Aired) : Option Fragment := if unit.kind = .acl then some unit.pdu else none
def payloads (units : List Aired) : List Fragment := units.filterMap aclData

/-! Frames. -/

inductive Honest : Aired → Prop where
  | acl {pdu} (label : pdu.llid = llidContinuation ∨ pdu.llid = llidStart) : Honest ⟨.acl,pdu⟩
  | control {pdu} (label : pdu.llid = llidControl) : Honest ⟨.control,pdu⟩
  | empty : Honest ⟨.empty,⟨llidContinuation,[]⟩⟩

theorem honestLabel {unit : Aired} (honest : Honest unit) :
    unit.pdu.llid = 1 ∨ unit.pdu.llid = 2 ∨ unit.pdu.llid = 3 := by
  cases honest with
  | acl label => exact label.elim Or.inl fun start => Or.inr (Or.inl start)
  | control label => exact Or.inr (Or.inr label)
  | empty => exact Or.inl rfl

theorem honestKind {unit : Aired} (honest : Honest unit) : unit.kind ≠ .none := by
  cases honest <;> exact fun none => (nomatch none)

theorem readWire {header : UInt8} {payload : List UInt8} (label : header &&& 0x03 ≠ 0)
    (fits : payload.length ≤ maxDataPduPayload) (rssi timestamp transmitted) :
    receivedPdu ⟨wire header payload,rssi,true,timestamp,transmitted⟩ = some (header,payload) := by
  have length : payload.length.toUInt8.toNat = payload.length :=
    Nat.mod_eq_of_lt (Nat.lt_of_le_of_lt fits (by decide))
  unfold receivedPdu wire
  simp only [length,Bool.true_eq_false,if_false]
  rw [if_neg (not_or.mpr ⟨Nat.not_lt.mpr fits,label⟩),if_neg (Nat.lt_irrefl _),List.take_length]

theorem frameLabel {llid t e : UInt8} (label : llid = 1 ∨ llid = 2 ∨ llid = 3) (ht : IsBit t) (he : IsBit e) :
    (llid ||| (e <<< 2) ||| (t <<< 3)) &&& 3 = llid := by
  rcases label with rfl | rfl | rfl <;> rcases ht with rfl | rfl <;> rcases he with rfl | rfl <;> decide

/-! The frame of an event. -/

/- The cached frame, built for a PDU that waits for its acknowledgement. -/
inductive Loaded (d : DataPath) : Option Aired → Prop where
  | idle (frame : d.txFrame = []) (kind : d.transmitted = .none) : Loaded d none
  | loaded {header unit} (frame : d.txFrame = wire header unit.pdu.bytes) (kind : d.transmitted = unit.kind)
      (label : header &&& 0x03 = unit.pdu.llid) (honest : Honest unit)
      (fits : unit.pdu.bytes.length ≤ maxDataPduPayload)
      (head : unit.kind = .acl → d.pending.map fragment = some unit.pdu) : Loaded d (some unit)

/- The frame as it goes on air, with the sequence numbers of the moment. -/
structure Ready (d : DataPath) (unit : Aired) : Prop where
  loaded : Loaded d (some unit)
  frame : ∃ header, d.txFrame = wire header unit.pdu.bytes ∧ header &&& 0x03 = unit.pdu.llid ∧
    nesn header = d.expectedSn ∧ sn header = d.transmitSn

section Staging
variable {d : DataPath} {control : Option PendingData}

theorem loadedAlike {after : DataPath} {current} (loaded : Loaded d current) (frame : after.txFrame = d.txFrame)
    (kind : after.transmitted = d.transmitted)
    (head : ∀ pdu, d.pending.map fragment = some pdu → after.pending.map fragment = some pdu) :
    Loaded after current := by
  cases loaded with
  | idle empty none => exact .idle (frame.trans empty) (kind.trans none)
  | loaded cached owner label honest fits first =>
    exact .loaded (frame.trans cached) (kind.trans owner) label honest fits fun acl => head _ (first acl)

theorem stageIdle (frame : d.txFrame = []) (kind : d.transmitted = .none) :
    stage d control = {d with
      transmitted := kindToSend d control
      txFrame := refreshed d (frameOf (selected {d with transmitted := kindToSend d control} control)
        d.transmitSn d.expectedSn)
      txFrameFresh := true} := by
  simp [stage,build,select,frame,kind,refreshed,frameOf]

theorem stageAgain {header rest} (frame : d.txFrame = header :: rest) (kind : d.transmitted ≠ .none) :
    stage d control =
      {d with txFrame := refreshTransmitSequenceHeader header d.transmitSn d.expectedSn :: rest} := by
  simp [stage,build,select,frame,kind,refreshed]

/- What a fresh frame is built for. -/
theorem chosenUnit (control : Option PendingData) (controls : ∀ pdu, control = some pdu → pdu.llid = llidControl)
    (acls : ∀ pdu, d.pending = some pdu → pdu.llid = llidContinuation ∨ pdu.llid = llidStart) :
    ∃ unit : Aired, unit.kind = kindToSend d control ∧ Honest unit ∧
      unit.pdu.bytes.length ≤ maxDataPduPayload ∧
      (unit.kind = .acl → d.pending.map fragment = some unit.pdu) ∧
      ∀ t e, frameOf (selected {d with transmitted := kindToSend d control} control) t e =
        wire (unit.pdu.llid ||| (e <<< 2) ||| (t <<< 3)) unit.pdu.bytes := by
  cases control with
  | some pdu =>
    refine ⟨⟨.control,fragment pdu⟩,rfl,.control (controls pdu rfl),pdu.fits,fun acl => (by cases acl),?_⟩
    exact fun _ _ => rfl
  | none =>
    cases pending : d.pending with
    | some pdu =>
      refine ⟨⟨.acl,fragment pdu⟩,?_,.acl (acls pdu pending),pdu.fits,fun _ => rfl,?_⟩
      · simp [kindToSend,pending]
      · intro t e
        simp [kindToSend,selected,pending,frameOf,fragment,wire]
    | none =>
      refine ⟨⟨.empty,⟨llidContinuation,[]⟩⟩,?_,.empty,Nat.zero_le _,fun acl => (by cases acl),?_⟩
      · simp [kindToSend,pending]
      · intro t e
        simp [kindToSend,selected,pending,frameOf,wire]

theorem stageReady {current} (loaded : Loaded d current) (ht : IsBit d.transmitSn) (he : IsBit d.expectedSn)
    (controls : ∀ pdu, control = some pdu → pdu.llid = llidControl)
    (acls : ∀ pdu, d.pending = some pdu → pdu.llid = llidContinuation ∨ pdu.llid = llidStart) :
    ∃ unit, Ready (stage d control) unit ∧ (current = none ∨ current = some unit) ∧
      (d.transmitted = .none ∧ (stage d control).txFrameFresh = true ∨ d.transmitted = unit.kind) := by
  cases loaded with
  | idle frame kind =>
    obtain ⟨unit,owner,honest,fits,head,built⟩ := chosenUnit control controls acls
    have staged : stage d control = _ := stageIdle frame kind
    rw [built] at staged
    have label := frameLabel (honestLabel honest) ht he
    have kept := refreshedLlid (unit.pdu.llid ||| (d.expectedSn <<< 2) ||| (d.transmitSn <<< 3)) ht he
    refine ⟨unit,?_,Or.inl rfl,Or.inl ⟨kind,by rw [staged]⟩⟩
    rw [staged]
    exact ⟨.loaded rfl owner.symm (kept.trans label) honest fits head,
      _,rfl,kept.trans label,refreshedNesn _ ht he,refreshedSn _ ht he⟩
  | @loaded header unit frame kind label honest fits head =>
    have chosen : d.transmitted ≠ .none := kind ▸ honestKind honest
    have kept := refreshedLlid header ht he
    refine ⟨unit,?_,Or.inr rfl,Or.inr kind⟩
    rw [stageAgain frame chosen]
    exact ⟨.loaded rfl kind (kept.trans label) honest fits head,
      _,rfl,kept.trans label,refreshedNesn _ ht he,refreshedSn _ ht he⟩

end Staging

/-! Both directions. -/

/- `expects` is the sequence number the Central takes next. -/
structure Outward (d : DataPath) (expects : UInt8) (completed : List Fragment) (taken : List Aired)
    (h : Half Aired) : Prop where
  tracks : Tracks h d.transmitSn expects
  loaded : Loaded d h.current
  known : payloads h.acked = completed
  accepted : h.accepted = taken
  honest : ∀ unit ∈ taken, Honest unit

section Directions
variable {d after : DataPath} {expects : UInt8} {completed : List Fragment} {taken : List Aired} {h : Half Aired}

theorem loadedHonest {unit} (loaded : Loaded d (some unit)) : Honest unit := by
  cases loaded with
  | loaded _ _ _ honest => exact honest

theorem outwardAlike (outward : Outward d expects completed taken h) (frame : after.txFrame = d.txFrame)
    (kind : after.transmitted = d.transmitted) (sequence : after.transmitSn = d.transmitSn)
    (head : ∀ pdu, d.pending.map fragment = some pdu → after.pending.map fragment = some pdu) :
    Outward after expects completed taken h :=
  ⟨sequence.symm ▸ outward.tracks,loadedAlike outward.loaded frame kind head,outward.known,outward.accepted,
    outward.honest⟩

theorem outwardStaged {unit} (outward : Outward d expects completed taken h) (ready : Ready after unit)
    (current : h.current = none ∨ h.current = some unit) (sequence : after.transmitSn = d.transmitSn) :
    ∃ h', Outward after expects completed taken h' ∧ h'.current = some unit := by
  have tracks : Tracks h after.transmitSn expects := sequence.symm ▸ outward.tracks
  rcases current with idle | again
  · have settled : h.crossed = false := by
      by_contra crossed
      have held := h.held (by simpa using crossed)
      rw [idle] at held
      cases held
    exact ⟨h.load unit,⟨tracksLoad tracks settled unit,ready.loaded,outward.known,
      (loadAccepted h unit settled).trans outward.accepted,outward.honest⟩,rfl⟩
  · exact ⟨h,⟨tracks,again ▸ ready.loaded,outward.known,outward.accepted,outward.honest⟩,again⟩

/- The Central may get the frame, and the packet heard may acknowledge it; only a frame the
Central took before is acknowledged. -/
theorem outwardMoved {unit} (outward : Outward d expects completed taken h) (current : h.current = some unit)
    (delivered acks : Bool) (told : acks = true → expects ≠ d.transmitSn) :
    (∃ h', Outward (if acks then release d else d)
      (if delivered = true ∧ d.transmitSn = expects then expects ^^^ 1 else expects)
      (completed ++ if acks then payloads [unit] else [])
      (taken ++ if delivered = true ∧ d.transmitSn = expects then [unit] else []) h') ∧
    (completed ++ if acks then payloads [unit] else []) <+: payloads taken := by
  have before : completed <+: payloads taken := by
    rw [← outward.known,← outward.accepted]
    exact (ackedPrefix h).filterMap aclData
  cases crossed : h.crossed with
  | true =>
    have different : expects ≠ d.transmitSn := outward.tracks.crossed.mp crossed
    have again : ¬(delivered = true ∧ d.transmitSn = expects) := fun both => different both.2.symm
    rw [if_neg again,if_neg again,List.append_nil]
    cases acks with
    | false =>
      refine ⟨⟨h,?_⟩,?_⟩
      · simpa using outward
      · simpa using before
    | true =>
      have whole : payloads taken = completed ++ payloads [unit] := by
        rw [← outward.accepted,← outward.known,Half.accepted,if_pos crossed,current]
        exact List.filterMap_append
      refine ⟨⟨h.acknowledge,tracksAcknowledge outward.tracks crossed,?_,?_,?_,outward.honest⟩,?_⟩
      · rw [acknowledgeCrossed h crossed]
        exact .idle rfl rfl
      · rw [acknowledgeCrossed h crossed,idleAcked,outward.accepted]
        exact whole
      · rw [acknowledgeCrossed h crossed,idleAccepted,outward.accepted]
      · exact whole ▸ List.prefix_rfl
  | false =>
    have same := tracksEqual outward.tracks crossed
    have silent : acks = false := by
      by_contra acked
      exact told (by simpa using acked) same
    subst silent
    rw [if_neg Bool.false_ne_true,if_neg Bool.false_ne_true,List.append_nil]
    cases delivered with
    | false =>
      refine ⟨⟨h,?_⟩,before⟩
      simpa using outward
    | true =>
      have fresh : true = true ∧ d.transmitSn = expects := ⟨rfl,same.symm⟩
      rw [if_pos fresh,if_pos fresh]
      refine ⟨⟨h.arrive,tracksArrive outward.tracks crossed current,outward.loaded,outward.known,?_,?_⟩,before⟩
      · rw [arriveNew h current crossed,outward.accepted]
      · intro other member
        rcases List.mem_append.mp member with old | new
        · exact outward.honest other old
        · rw [List.mem_singleton.mp new]
          exact loadedHonest (current ▸ outward.loaded)

theorem inwardMoved {sent log} {t e : UInt8} {g : Half Nat} (inward : Inward sent log t e g)
    (delivered heard : Bool) :
    ∃ g', Inward (if delivered = true ∧ e ≠ t then sent + 1 else sent)
      (log ++ if heard = true ∧ t = e then [sent] else [])
      (if delivered = true ∧ e ≠ t then t ^^^ 1 else t) (if heard = true ∧ t = e then e ^^^ 1 else e) g' := by
  by_cases same : t = e
  · obtain ⟨g',taken,_⟩ := inwardHeard inward
    cases heard with
    | true =>
      refine ⟨g',?_⟩
      simpa [same] using taken
    | false =>
      refine ⟨g,?_⟩
      simpa [same] using inward
  · have different : e ≠ t := Ne.symm same
    have crossed := inward.tracks.crossed.mpr different
    obtain ⟨g',acknowledged⟩ := inwardAcknowledged inward crossed
    cases delivered with
    | true =>
      refine ⟨g',?_⟩
      simpa [same,different] using acknowledged
    | false =>
      refine ⟨g,?_⟩
      simpa [same] using inward

/- What the Central makes of a frame. -/
theorem replyTaken {unit} (ready : Ready d unit) (s : Peers) (link : Link) (o : Occasion)
    (kind : airedKind s.link.connection.toDataPath link.connection.toDataPath = unit.kind) :
    takeReply s link (answer o (some d.txFrame)) =
      (⟨link,
        ⟨if delivers o = true ∧ d.expectedSn ≠ s.central.transmitSn then s.central.transmitSn ^^^ 1
          else s.central.transmitSn,
         if delivers o = true ∧ d.transmitSn = s.central.expectedSn then s.central.expectedSn ^^^ 1
          else s.central.expectedSn⟩,
        if delivers o = true ∧ d.expectedSn ≠ s.central.transmitSn then s.sent + 1 else s.sent⟩,
       if delivers o = true ∧ d.transmitSn = s.central.expectedSn then some unit else none) := by
  obtain ⟨header,frame,label,ack,sequence⟩ := ready.frame
  have honest := loadedHonest ready.loaded
  have fits : unit.pdu.bytes.length ≤ maxDataPduPayload := by
    cases ready.loaded with
    | loaded _ _ _ _ fits => exact fits
  have readable : header &&& 0x03 ≠ 0 := by
    rw [label]
    rcases honestLabel honest with one | two | three
    · rw [one]; decide
    · rw [two]; decide
    · rw [three]; decide
  have read := readWire readable fits 0 0 true
  unfold answer
  cases delivers o with
  | false => simp [takeReply]
  | true =>
    simp only [if_true,Option.bind_some,frame,read,takeReply,DataSequenceState.observe,ack,sequence,kind,label,
      true_and,bne_iff_ne,beq_iff_eq]

end Directions

end Ch58xHal.ArqPeers
