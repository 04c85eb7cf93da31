import Ch58xHal.ChannelSelection
import Ch58xHal.Llcp
import Ch58xHal.SlotQueue

/-! The state of one Peripheral connection and the operations that stay inside it. The
source's record is flat; its fields are grouped here by what writes them, so an operation
of one group leaves the others alone by its type. Instants are microseconds as naturals:
the source's `u64` clock panics, rather than wraps, after half a million years. -/
namespace Ch58xHal.Connection
open ControlPdu ChannelSelection Llcp SlotQueue

def connectionHandle : UInt16 := 1
abbrev maxDataPduPayload : Nat := 27
abbrev aclQueueCapacity : Nat := 4
def aclCredits : Nat := 5
def llidContinuation : UInt8 := 0x01
def llidStart : UInt8 := 0x02
def llidControl : UInt8 := 0x03
def rxSetupLeadUs : Nat := 1000
def localSleepClockPpm : Nat := 50
def maxDataPacketAirtimeUs : Nat := (1 + 4 + 2 + maxDataPduPayload + 3) * 8
def procedureResponseTimeoutUs : UInt32 := 40000000

def hciSuccess : UInt8 := 0x00
def hciCommandDisallowed : UInt8 := 0x0c
def hciInvalidParameters : UInt8 := 0x12
def hciControllerBusy : UInt8 := 0x3a

def saturatingMul (a b : Nat) : Nat := min (a*b) (2^64-1)

def sleepClockAccuracyPpm (sca : UInt8) : Nat :=
  match (sca &&& 7).toNat with
  | 0 => 500
  | 1 => 250
  | 2 => 150
  | 3 => 100
  | 4 => 75
  | 5 => 50
  | 6 => 30
  | _ => 20

/- Rounded up, so that integer arithmetic never underestimates the drift. -/
def windowWideningUs (elapsedUs : Nat) (centralSca : UInt8) (localScaPpm : Nat) : Nat :=
  let totalPpm := sleepClockAccuracyPpm centralSca + localScaPpm
  let whole := elapsedUs / 1000000
  let remainder := elapsedUs % 1000000
  saturatingAdd (saturatingMul whole totalPpm) ((saturatingMul remainder totalPpm + 999999) / 1000000)

structure ConnectInd where
  initiatorAddress : Vector UInt8 6
  initiatorAddressRandom : Bool
  accessAddress : UInt32
  crcInit : UInt32
  windowSize : UInt8
  windowOffset : UInt16
  interval : UInt16
  latency : UInt16
  supervisionTimeout : UInt16
  channelMap : ChannelMap
  hopIncrement : UInt8
  sleepClockAccuracy : UInt8
  deriving DecidableEq, Repr

-- The channel map of concrete requests: all 37 data channels.
def allDataChannels : ChannelMap := #v[0xff,0xff,0xff,0xff,0x1f]

structure PendingData where
  bytes : List UInt8
  llid : UInt8
  ownerToken : UInt32
  fits : bytes.length ≤ maxDataPduPayload
  deriving DecidableEq, Repr

inductive TransmittedPdu where
  | none
  | control
  | acl
  | empty
  deriving DecidableEq, Repr

structure LocalConnectionParamRequest where
  intervalMin : UInt16
  intervalMax : UInt16
  latency : UInt16
  supervisionTimeout : UInt16
  deriving DecidableEq, Repr

def LocalConnectionParamRequest.accepts (r : LocalConnectionParamRequest)
    (update : ConnectionUpdateInd) : Bool :=
  connectionUpdateMatchesRequest r.intervalMin r.intervalMax r.latency r.supervisionTimeout update

structure EventTiming where
  request : ConnectInd
  channels : ChannelSelection1
  nextAnchor : Nat
  lastSyncAnchor : Nat
  receiveWindowSizeUs : Nat
  eventCounter : UInt16
  supervisionDeadline : Nat
  deriving DecidableEq, Repr

-- `txFrame` is the first `tx_frame_len` octets of the source's buffer.
structure DataPath where
  transmitSn : UInt8
  expectedSn : UInt8
  nextAclOwnerToken : UInt32
  pending : Option PendingData
  queuedAcl : Slots PendingData aclQueueCapacity
  transmitted : TransmittedPdu
  txFrame : List UInt8
  txFrameFresh : Bool
  deriving DecidableEq, Repr

structure ControlPlane where
  nextControlOwnerToken : UInt32
  pendingControl : Option PendingData
  priorityControl : Option PendingData
  queuedControl : Option PendingData
  pendingConnectionUpdate : Option ConnectionUpdateInd
  pendingChannelMap : Option ChannelMapInd
  localConnectionParamRequest : Option LocalConnectionParamRequest
  procedures : ProcedureManager
  deriving DecidableEq, Repr

structure ActiveConnection extends EventTiming, DataPath, ControlPlane where
  handle : UInt16
  lastRssi : Int8
  deriving DecidableEq, Repr

inductive PacketKind where
  | cmd
  | aclData
  | syncData
  | event
  | isoData
  deriving DecidableEq, Repr

structure Packet where
  kind : PacketKind
  bytes : List UInt8
  deriving DecidableEq, Repr

/-! Timing. -/

namespace EventTiming

def interval (t : EventTiming) : Nat := t.request.interval.toNat * 1250

def wideningUs (t : EventTiming) : Nat :=
  windowWideningUs (t.nextAnchor - t.lastSyncAnchor) t.request.sleepClockAccuracy localSleepClockPpm

-- Nothing stands for the panic of an instant before the start of the clock.
def receiveOpen (t : EventTiming) : Option Nat :=
  if rxSetupLeadUs + t.wideningUs ≤ t.nextAnchor then
    some (t.nextAnchor - (rxSetupLeadUs + t.wideningUs))
  else none

/- WinSize belongs only to the first transmit window after CONNECT_IND or an update. -/
def takeReceiveTimeout (t : EventTiming) : EventTiming × Nat :=
  ({t with receiveWindowSizeUs := 0},
   saturatingAdd (saturatingAdd (saturatingAdd rxSetupLeadUs (saturatingMul t.wideningUs 2))
    t.receiveWindowSizeUs) maxDataPacketAirtimeUs)

def synchronize (t : EventTiming) (anchorUs : Nat) : EventTiming :=
  {t with nextAnchor := anchorUs,lastSyncAnchor := anchorUs,receiveWindowSizeUs := 0}

def nextChannel (t : EventTiming) : EventTiming × Channel :=
  ({t with channels := t.channels.nextChannel.1},t.channels.nextChannel.2)

end EventTiming

namespace ActiveConnection

def newFor (handle : UInt16) (request : ConnectInd) (connectIndEndUs now : Nat) :
    Option ActiveConnection :=
  match ChannelSelection1.new request.channelMap request.hopIncrement with
  | none => none
  | some channels => some
    { handle := handle
      request := request
      channels := channels
      nextAnchor := connectIndEndUs + (request.windowOffset.toNat + 1) * 1250
      lastSyncAnchor := connectIndEndUs
      receiveWindowSizeUs := request.windowSize.toNat * 1250
      eventCounter := 0
      supervisionDeadline := now + request.supervisionTimeout.toNat * 10000
      transmitSn := 0
      expectedSn := 0
      nextAclOwnerToken := 1
      nextControlOwnerToken := 0x80000001
      pending := none
      queuedAcl := Slots.empty PendingData aclQueueCapacity
      pendingControl := none
      priorityControl := none
      queuedControl := none
      transmitted := .none
      txFrame := []
      txFrameFresh := false
      pendingConnectionUpdate := none
      pendingChannelMap := none
      localConnectionParamRequest := none
      procedures := ProcedureManager.new
      lastRssi := -127 }

def new (request : ConnectInd) (connectIndEndUs now : Nat) : Option ActiveConnection :=
  newFor connectionHandle request connectIndEndUs now

def receiveClose (c : ActiveConnection) : Nat :=
  let instantWindowUs := match c.pendingConnectionUpdate with
    | some update =>
      if update.instant = c.eventCounter then update.windowSize.toNat * 1250 else c.receiveWindowSizeUs
    | none => c.receiveWindowSizeUs
  c.nextAnchor + saturatingAdd (saturatingAdd c.wideningUs instantWindowUs) maxDataPacketAirtimeUs

/- The new transmit window begins one old interval plus WinOffset after the old anchor. -/
def scheduleFollowingEvent (c : ActiveConnection) : ActiveConnection :=
  let counter := c.eventCounter + 1
  let offset := match c.pendingConnectionUpdate with
    | some update => if update.instant = counter then update.windowOffset.toNat * 1250 else 0
    | none => 0
  {c with eventCounter := counter,nextAnchor := c.nextAnchor + c.interval + offset}

def applyChannelMap (c : ActiveConnection) : Except UInt8 ActiveConnection :=
  match c.pendingChannelMap with
  | none => .ok c
  | some update =>
    if update.instant = c.eventCounter then
      match c.channels.updateMap update.map with
      | none => .error 0x1e
      | some channels => .ok {c with
          channels := channels
          request := {c.request with channelMap := update.map}
          pendingChannelMap := none}
    else .ok c

def installUpdate (c : ActiveConnection) (update : ConnectionUpdateInd) (now : Nat) : ActiveConnection :=
  {c with
    request := {c.request with
      windowSize := update.windowSize
      windowOffset := update.windowOffset
      interval := update.interval
      latency := update.latency
      supervisionTimeout := update.supervisionTimeout}
    receiveWindowSizeUs := update.windowSize.toNat * 1250
    supervisionDeadline := now + update.supervisionTimeout.toNat * 10000
    pendingConnectionUpdate := none}

def parametersChange (c : ActiveConnection) (update : ConnectionUpdateInd) : Bool :=
  c.request.interval != update.interval || c.request.latency != update.latency ||
    c.request.supervisionTimeout != update.supervisionTimeout

/- With whether a connection update was applied and whether the parameters changed. -/
def applyConnectionUpdate (c : ActiveConnection) (now : Nat) : ActiveConnection × Bool × Bool :=
  match c.pendingConnectionUpdate with
  | none => (c,false,false)
  | some update =>
    if update.instant = c.eventCounter then (c.installUpdate update now,true,c.parametersChange update)
    else (c,false,false)

def applyInstants (c : ActiveConnection) (now : Nat) : Except UInt8 (ActiveConnection × Bool × Bool) :=
  match c.applyChannelMap with
  | .error reason => .error reason
  | .ok c =>
    let updated := c.applyConnectionUpdate now
    .ok ({updated.1 with procedures := updated.1.procedures.onConnectionEvent updated.1.eventCounter 0x28},
      updated.2)

/- The block around every `apply_instants`: whether the Host is to be told. -/
def settleInstants (c : ActiveConnection) (now : Nat) : Except UInt8 (ActiveConnection × Bool) :=
  match c.applyInstants now with
  | .error reason => .error reason
  | .ok (c,applied,changed) =>
    let notify := changed || (applied && c.localConnectionParamRequest.isSome)
    .ok (if applied then {c with localConnectionParamRequest := none} else c,notify)

/- One turn of the loop in `skip_expired_events`. -/
def skipEvent (c : ActiveConnection) (now : Nat) : Except UInt8 (ActiveConnection × Bool) :=
  match c.settleInstants now with
  | .error reason => .error reason
  | .ok (c,notify) =>
    let c := {c with toEventTiming := c.nextChannel.1}
    .ok (c.scheduleFollowingEvent,notify)

/- `turns` is how often the 16-bit count can still be raised; `clock` is what the clock
shows at each turn. -/
def skipLoop (now : Nat) (clock : Nat → Nat) :
    Nat → UInt16 → Bool → ActiveConnection → Except UInt8 (ActiveConnection × UInt16 × Bool)
  | turns,count,notify,c =>
    if c.receiveClose < now then
      match c.skipEvent (clock count.toNat) with
      | .error reason => .error reason
      | .ok (c,more) =>
        match turns with
        | 0 => .error 0x08
        | turns+1 => skipLoop now clock turns (count+1) (notify || more) c
    else .ok (c,count,notify)

def skipExpiredEvents (c : ActiveConnection) (now : Nat) (clock : Nat → Nat) :
    Except UInt8 (ActiveConnection × UInt16 × Bool) := skipLoop now clock 65535 0 false c

end ActiveConnection

/-! ACL queue. -/

namespace DataPath

def llidOfBoundary (rawHandle : UInt16) : UInt8 :=
  if (rawHandle >>> 12) &&& 0x03 = 1 then llidContinuation else llidStart

def store (d : DataPath) (data : PendingData) : Option DataPath :=
  if d.pending.isNone then some {d with pending := some data}
  else match d.queuedAcl.insert data with
    | none => none
    | some queued => some {d with queuedAcl := queued}

def queueAcl (d : DataPath) (handle : UInt16) (bytes : List UInt8) : Except UInt8 DataPath :=
  if bytes.length < 4 then .error hciCommandDisallowed
  else
    let rawHandle := word bytes 0
    let length := (word bytes 2).toNat
    if h : rawHandle &&& 0x0fff ≠ handle ∨ length + 4 ≠ bytes.length ∨ maxDataPduPayload < length then
      .error hciInvalidParameters
    else
      let data : PendingData := ⟨bytes.drop 4,llidOfBoundary rawHandle,d.nextAclOwnerToken,by
        simp only [List.length_drop,not_or,not_not] at h ⊢
        omega⟩
      match d.store data with
      | none => .error hciCommandDisallowed
      | some d => .ok {d with nextAclOwnerToken := max (d.nextAclOwnerToken + 1) 1}

end DataPath

/-! Control queue and procedures. -/

namespace ControlPlane

def allocateControlToken (p : ControlPlane) : ControlPlane × ProcedureToken :=
  ({p with nextControlOwnerToken := (p.nextControlOwnerToken + 1) ||| 0x80000000},
   ⟨p.nextControlOwnerToken,p.nextControlOwnerToken.toUInt8⟩)

def queueControlWithToken (p : ControlPlane) (bytes : List UInt8) (token : ProcedureToken) :
    ControlPlane × Bool :=
  if fits : bytes.length ≤ maxDataPduPayload then
    let data : PendingData := ⟨bytes,llidControl,token.ownerToken,fits⟩
    if p.pendingControl.isNone then ({p with pendingControl := some data},true)
    else if p.queuedControl.isNone then ({p with queuedControl := some data},true)
    else (p,false)
  else (p,false)

def queueControlOwned (p : ControlPlane) (bytes : List UInt8) : ControlPlane × Option ProcedureToken :=
  let allocated := p.allocateControlToken
  let queued := allocated.1.queueControlWithToken bytes allocated.2
  (queued.1,if queued.2 then some allocated.2 else none)

def queueControl (p : ControlPlane) (bytes : List UInt8) : ControlPlane × Bool :=
  ((p.queueControlOwned bytes).1,(p.queueControlOwned bytes).2.isSome)

-- `let _ = self.procedures.fail(…)`
def failProcedure (p : ControlPlane) (initiator : ProcedureInitiator) (error : UInt8) : ControlPlane :=
  match p.procedures.fail initiator error with
  | .ok procedures => {p with procedures := procedures}
  | .error _ => p

def queueRemoteProcedureResponseWithFollowup (p : ControlPlane) (kind : ProcedureKind)
    (requestOpcode : UInt8) (response : List UInt8) (expectedResponseOpcode : Option UInt8)
    (responseTimeoutUs : Option UInt32) : ControlPlane × Bool :=
  match response with
  | [] => (p,false)
  | responseOpcode :: _ =>
    let allocated := p.allocateControlToken
    let p := allocated.1
    let context := ProcedureContext.new kind .remoteSide allocated.2 responseOpcode
      expectedResponseOpcode none responseTimeoutUs
    match p.procedures.startRemote context with
    | .error (.collision error) => p.queueControl [0x11,requestOpcode,error]
    | .error _ => p.queueControl [0x11,requestOpcode,0x23]
    | .ok procedures =>
      let p := {p with procedures := procedures}
      match p.procedures.responseQueued allocated.2 responseOpcode with
      | .error _ => (p.failProcedure .remoteSide 0x3a,false)
      | .ok procedures =>
        let queued := {p with procedures := procedures}.queueControlWithToken response allocated.2
        if queued.2 then queued else (queued.1.failProcedure .remoteSide 0x3a,false)

def queueRemoteProcedureResponse (p : ControlPlane) (kind : ProcedureKind) (requestOpcode : UInt8)
    (response : List UInt8) : ControlPlane × Bool :=
  p.queueRemoteProcedureResponseWithFollowup kind requestOpcode response none none

def remoteConnectionParametersActive (p : ControlPlane) : Bool :=
  p.procedures.remoteSide.any fun c => c.kind == .connectionParameters && c.active

def startRemoteInstantProcedure (p : ControlPlane) (kind : ProcedureKind) (opcode : UInt8)
    (instant : UInt16) : ControlPlane × Option UInt8 :=
  let allocated := p.allocateControlToken
  let p := allocated.1
  let context := ProcedureContext.new kind .remoteSide allocated.2 opcode none (some instant) none
  match p.procedures.startRemote context with
  | .ok procedures => ({p with procedures := procedures},none)
  | .error (.collision error) => (p,some error)
  | .error _ => (p,some 0x23)

def queueLocalProcedure (p : ControlPlane) (kind : ProcedureKind) (request : List UInt8)
    (expectedResponseOpcode : Option UInt8) (responseTimeoutUs : Option UInt32) : ControlPlane × Bool :=
  match request with
  | [] => (p,false)
  | requestOpcode :: _ =>
    let allocated := p.allocateControlToken
    let p := allocated.1
    let context := ProcedureContext.new kind .localSide allocated.2 requestOpcode
      expectedResponseOpcode none responseTimeoutUs
    match p.procedures.startLocal context with
    | .error _ => (p,false)
    | .ok procedures =>
      let queued := {p with procedures := procedures}.queueControlWithToken request allocated.2
      if queued.2 then queued else (queued.1.failProcedure .localSide 0x3a,false)

def queueLocalProcedureRequest (p : ControlPlane) (kind : ProcedureKind) (request : List UInt8)
    (expectedResponseOpcode : UInt8) : ControlPlane × Bool :=
  p.queueLocalProcedure kind request (some expectedResponseOpcode) (some procedureResponseTimeoutUs)

def localProcedureActive (p : ControlPlane) (kind : ProcedureKind) : Bool :=
  p.procedures.localSide.any fun c => c.kind == kind && c.active

def procedureForControlOwner (p : ControlPlane) (ownerToken : UInt32) :
    Option (ProcedureInitiator × ProcedureToken) :=
  match p.procedures.localSide.filter (fun c => c.token.ownerToken == ownerToken) with
  | some c => some (.localSide,c.token)
  | none =>
    match p.procedures.remoteSide.filter (fun c => c.token.ownerToken == ownerToken) with
    | some c => some (.remoteSide,c.token)
    | none => none

/- The three bookkeeping calls on the PDU in `pending_control`: a PDU without a procedure
needs none, and the manager's error is all that is left of a refused one. -/
def onPendingProcedure (p : ControlPlane)
    (act : ProcedureInitiator → ProcedureToken → Except ProcedureError ProcedureManager) :
    Option ControlPlane :=
  match p.pendingControl with
  | none => some p
  | some pending =>
    match p.procedureForControlOwner pending.ownerToken with
    | none => some p
    | some (initiator,token) =>
      match act initiator token with
      | .error _ => none
      | .ok procedures => some {p with procedures := procedures}

def planPendingControlProcedure (p : ControlPlane) : Option ControlPlane :=
  p.onPendingProcedure p.procedures.txPlanned

def completePendingControlTransmit (p : ControlPlane) : Option ControlPlane :=
  p.onPendingProcedure p.procedures.txDone

def acknowledgePendingControl (p : ControlPlane) (nowUs : Nat) : Option ControlPlane :=
  p.onPendingProcedure fun initiator token => p.procedures.nesnAck initiator token nowUs

end ControlPlane

/- Swap rather than overwrite: an unsent ordinary PDU waits in the priority slot. -/
def ActiveConnection.promotePriorityControlIfIdle (c : ActiveConnection) : ActiveConnection :=
  if c.transmitted = .none ∧ c.txFrame = [] ∧ c.priorityControl.isSome then
    {c with pendingControl := c.priorityControl,priorityControl := c.pendingControl}
  else c

end Ch58xHal.Connection
