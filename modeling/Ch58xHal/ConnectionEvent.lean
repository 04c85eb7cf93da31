import Ch58xHal.Connection

/-! One connection event, the received Control PDUs and the Host's packets. Calls that
leave the connection (HCI events, ACL to the Host, the idle command handler) are recorded
in the order the source makes them; the radio's answer and the clock are inputs. -/
namespace Ch58xHal.ConnectionEvent
open ControlPdu ChannelSelection Llcp Connection DataHeader

def hciPbContinuing : UInt16 := (1 : UInt16) <<< 12
def hciPbFirstFlushable : UInt16 := (2 : UInt16) <<< 12

inductive HostCall where
  | completedAcl (handle count : UInt16)
  | sendAcl (handleAndFlags : UInt16) (payload : List UInt8)
  | event (code : UInt8) (params : List UInt8)
  | commandStatus (opcode : UInt16) (status : UInt8)
  | commandComplete (opcode : UInt16) (status : UInt8) (returnData : List UInt8)
  | handleCommand (bytes : List UInt8)
  deriving DecidableEq, Repr

section Emit
variable (c : ActiveConnection)

def emitDisconnection (reason : UInt8) : HostCall :=
  .event 0x05 ([hciSuccess] ++ toLeBytes c.handle ++ [reason])

def emitConnectionUpdateResult (status : UInt8) : HostCall :=
  .event 0x3e ([0x03,status] ++ toLeBytes c.handle ++ toLeBytes c.request.interval ++
    toLeBytes c.request.latency ++ toLeBytes c.request.supervisionTimeout)

def emitConnectionUpdateComplete : HostCall := emitConnectionUpdateResult c hciSuccess

def notifyHost (notify : Bool) : List HostCall :=
  if notify then [emitConnectionUpdateComplete c] else []

end Emit

/-! Received Control PDUs. -/

/- What a handler leaves of the control plane, what it calls, and the reason for which it
ends the connection. -/
structure Handled where
  control : ControlPlane
  calls : List HostCall
  reason : Option UInt8
  deriving DecidableEq, Repr

section Handlers
variable (c : ActiveConnection)

def handleConnectionUpdateInd (payload : List UInt8) : Handled :=
  let p := c.toControlPlane
  match ConnectionUpdateInd.parse payload c.eventCounter with
  | .ok update =>
    if p.pendingConnectionUpdate.isNone then
      if p.localConnectionParamRequest.any (fun request => !request.accepts update) then
        ⟨p,[],some 0x20⟩
      else
        let owned : ControlPlane × Option UInt8 :=
          if p.localConnectionParamRequest.isSome then
            match p.procedures.expectedResponseWithInstant .localSide 0x00 update.instant with
            | .ok procedures => ({p with procedures := procedures},none)
            | .error _ => (p,some 0x3d)
          else if p.remoteConnectionParametersActive then
            match p.procedures.expectedResponseWithInstant .remoteSide 0x00 update.instant with
            | .ok procedures => ({p with procedures := procedures},none)
            | .error _ => (p,some 0x3d)
          else p.startRemoteInstantProcedure .connectionUpdate 0x00 update.instant
        match owned with
        | (p,some error) => ⟨p,[],some error⟩
        | (p,none) => ⟨{p with pendingConnectionUpdate := some update},[],none⟩
    else ⟨p,[],some 0x1e⟩
  | .error .instantPassed => ⟨p,[],some 0x28⟩
  | .error _ => ⟨p,[],some 0x1e⟩

/- Abandons the Host's own connection parameter request and tells it why. -/
def dropLocalRequest (p : ControlPlane) (error : UInt8) : Handled :=
  ⟨{p with localConnectionParamRequest := none}.failProcedure .localSide error,
    [emitConnectionUpdateResult c error],none⟩

def handleChannelMapInd (payload : List UInt8) : Handled :=
  let p := c.toControlPlane
  match ChannelMapInd.parse payload c.eventCounter with
  | .ok update =>
    if p.pendingChannelMap.isNone then
      let cleared : Handled :=
        if p.localConnectionParamRequest.isSome then
          dropLocalRequest c p (procedureCollisionError .connectionParametersRequest .channelMapUpdate)
        else ⟨p,[],none⟩
      match cleared.control.startRemoteInstantProcedure .channelMapUpdate 0x01 update.instant with
      | (p,some error) => ⟨p,cleared.calls,some error⟩
      | (p,none) => ⟨{p with pendingChannelMap := some update},cleared.calls,none⟩
    else ⟨p,[],some 0x1e⟩
  | .error .instantPassed => ⟨p,[],some 0x28⟩
  | .error _ => ⟨p,[],some 0x1e⟩

def handleUnknownRsp (payload : List UInt8) : Handled :=
  let p := c.toControlPlane
  if octet payload 1 = 0x0f ∧ p.localConnectionParamRequest.isSome then dropLocalRequest c p 0x1a
  else ⟨p,[],none⟩

def handleRejectExtInd (payload : List UInt8) : Handled :=
  let p := c.toControlPlane
  if octet payload 1 = 0x0f ∧ p.localConnectionParamRequest.isSome then
    dropLocalRequest c p (octet payload 2)
  else if octet payload 1 = 0x10 ∧ p.remoteConnectionParametersActive then
    ⟨p.failProcedure .remoteSide (octet payload 2),[emitConnectionUpdateResult c (octet payload 2)],none⟩
  else ⟨p,[],none⟩

def handleConnectionParamReq (payload : List UInt8) : Handled :=
  let p := c.toControlPlane
  match ConnectionParamPdu.parseRequest payload c.eventCounter with
  | .ok request =>
    let collision : Option UInt8 :=
      if p.pendingChannelMap.isSome then
        some (procedureCollisionError .channelMapUpdate .connectionParametersRequest)
      else if p.pendingConnectionUpdate.isSome then
        some (procedureCollisionError .connectionUpdate .connectionParametersRequest)
      else none
    match collision with
    | some error => ⟨(p.queueControl [0x11,0x0f,error]).1,[],none⟩
    | none =>
      let cleared : Handled :=
        if p.localConnectionParamRequest.isSome then
          dropLocalRequest c p
            (procedureCollisionError .connectionParametersRequest .connectionParametersRequest)
        else ⟨p,[],none⟩
      let response := request.write ConnectionParamPdu.responseOpcode
      ⟨(cleared.control.queueRemoteProcedureResponseWithFollowup .connectionParameters 0x0f response
        (some 0x00) (some procedureResponseTimeoutUs)).1,cleared.calls,none⟩
  -- `InstantPassed` is `unreachable!()` there: no branch of `parse` gives it.
  | .error _ => ⟨(p.queueControl [0x11,0x0f,0x1e]).1,[],none⟩

def handleLlControl (payload : List UInt8) : Handled :=
  let p := c.toControlPlane
  match payload with
  | [] => ⟨p,[],none⟩
  | opcode :: rest =>
    let length := rest.length + 1
    if opcode = 0x00 then handleConnectionUpdateInd c payload
    else if opcode = 0x01 then handleChannelMapInd c payload
    else if opcode = 0x02 then
      if length = 2 then ⟨p,[],some (octet payload 1)⟩ else ⟨p,[],some 0x1e⟩
    else if opcode = 0x07 ∧ length = 2 then handleUnknownRsp c payload
    else if opcode = 0x11 ∧ length = 3 then handleRejectExtInd c payload
    else if opcode = 0x08 ∧ length = 9 then
      ⟨(p.queueRemoteProcedureResponse .featureExchange 0x08
        [0x09,octet payload 1 &&& 0x06,0,0,0,0,0,0,0]).1,[],none⟩
    else if opcode = 0x0c ∧ length = 6 then
      ⟨(p.queueRemoteProcedureResponse .versionExchange 0x0c [0x0c,0x09,0xff,0xff,0x00,0x00]).1,[],none⟩
    else if opcode = 0x0f then handleConnectionParamReq c payload
    else if opcode = 0x10 then ⟨(p.queueControl [0x11,0x10,0x1e]).1,[],none⟩
    else if opcode = 0x12 ∧ length = 1 then
      ⟨(p.queueRemoteProcedureResponse .ping 0x12 [0x13]).1,[],none⟩
    else ⟨(p.queueControl [0x07,opcode]).1,[],none⟩

end Handlers

/-! One event. -/

structure ExchangeRequest where
  channel : Channel
  deadline : Nat
  timeout : Nat
  transmit : List UInt8
  deriving DecidableEq, Repr

structure ExchangeResult where
  payload : List UInt8
  rssiDbm : Int8
  crcOk : Bool
  timestampUs : Nat
  transmitted : Bool
  deriving DecidableEq, Repr

/- The clock readings of one event, in the order it takes them. -/
structure EventClock where
  entry : Nat
  received : Nat
  acknowledged : Nat
  closing : Nat
  deriving DecidableEq, Repr

structure EventOutcome where
  connection : ActiveConnection
  calls : List HostCall
  exchange : Option ExchangeRequest
  reason : Option UInt8
  deriving DecidableEq, Repr

section Stages
variable (c : ActiveConnection)

def selectTransmitted : ActiveConnection :=
  if c.transmitted = .none then
    {c with transmitted :=
      if c.pendingControl.isSome then .control
      else if c.pending.isSome then .acl
      else .empty}
  else c

def selectedPdu : Option PendingData :=
  match c.transmitted with
  | .control => c.pendingControl
  | .acl => c.pending
  | .empty => none
  | .none => none

def frameOf (selected : Option PendingData) (transmitSn expectedSn : UInt8) : List UInt8 :=
  let llid := match selected with
    | some data => data.llid
    | none => llidContinuation
  let payload := match selected with
    | some data => data.bytes
    | none => []
  (llid ||| (expectedSn <<< 2) ||| (transmitSn <<< 3)) :: payload.length.toUInt8 :: payload

def buildTransmitFrame : Option ActiveConnection :=
  let planned : Option ControlPlane :=
    if c.transmitted = .control then c.planPendingControlProcedure else some c.toControlPlane
  match planned with
  | none => none
  | some control => some {c with
      toControlPlane := control
      txFrame := frameOf (selectedPdu c) c.transmitSn c.expectedSn
      txFrameFresh := true}

def refreshFrame : List UInt8 → List UInt8
  | [] => []
  | header :: rest => refreshTransmitSequenceHeader header c.transmitSn c.expectedSn :: rest

/- From the promoted control PDU to the frame handed to the radio. -/
def stageTransmit : Option ActiveConnection :=
  let c := selectTransmitted c.promotePriorityControlIfIdle
  let built := if c.txFrame = [] then buildTransmitFrame c else some c
  match built with
  | none => none
  | some c => some {c with txFrame := refreshFrame c c.txFrame}

def noteTransmission (transmitted : Bool) : Option ActiveConnection :=
  if c.txFrameFresh ∧ transmitted then
    let completed : Option ControlPlane :=
      if c.transmitted = .control then c.completePendingControlTransmit else some c.toControlPlane
    match completed with
    | none => none
    | some control => some {c with toControlPlane := control,txFrameFresh := false}
  else some c

def sentTerminate (transmitted : Bool) : Bool :=
  transmitted && c.transmitted == .control && c.localProcedureActive .termination &&
    c.pendingControl.any (fun pdu => octet pdu.bytes 0 == 0x02)

-- The header and payload of a packet that counts as received.
def receivedPdu (received : ExchangeResult) : Option (UInt8 × List UInt8) :=
  if received.crcOk = false then none
  else match received.payload with
    | header :: length :: body =>
      if maxDataPduPayload < length.toNat ∨ header &&& 0x03 = 0 then none
      else if body.length < length.toNat then none
      else some (header,body.take length.toNat)
    | _ => none

def releaseOwner : ActiveConnection × List HostCall :=
  match c.transmitted with
  | .control =>
    match c.priorityControl with
    | some priority => ({c with pendingControl := some priority,priorityControl := none},[])
    | none => ({c with pendingControl := c.queuedControl,queuedControl := none},[])
  | .acl => ({c with pending := c.queuedAcl.first,queuedAcl := c.queuedAcl.shift},
      [.completedAcl c.handle 1])
  | .empty => (c,[])
  | .none => (c,[])

def acknowledgeTransmit (header : UInt8) (outstanding : Bool) (now : Nat) :
    Option (ActiveConnection × List HostCall) :=
  if acknowledgesTransmitOwner header c.transmitSn outstanding false then
    let acknowledged : Option ControlPlane :=
      if c.transmitted = .control then c.acknowledgePendingControl now else some c.toControlPlane
    match acknowledged with
    | none => none
    | some control =>
      let released := releaseOwner {c with toControlPlane := control}
      some ({released.1 with
        transmitted := .none
        txFrame := []
        txFrameFresh := false
        transmitSn := released.1.transmitSn ^^^ 1},released.2)
  else some (c,[])

/- ACL payloads go to the Host, Control PDUs to their handlers; an empty PDU only moves
the sequence number. -/
def acceptReceive (header : UInt8) (payload : List UInt8) :
    ActiveConnection × List HostCall × Option UInt8 :=
  if (header >>> 3) &&& 1 = c.expectedSn then
    let c := {c with expectedSn := c.expectedSn ^^^ 1}
    let llid := header &&& 0x03
    if llid = llidControl then
      let handled := handleLlControl c payload
      ({c with toControlPlane := handled.control},handled.calls,handled.reason)
    else if payload ≠ [] ∧ (llid = llidContinuation ∨ llid = llidStart) then
      let flags := if llid = llidContinuation then hciPbContinuing else hciPbFirstFlushable
      (c,[.sendAcl (c.handle ||| flags) payload],none)
    else (c,[],none)
  else (c,[],none)

end Stages

/- What follows a received packet. -/
def closeEvent (c : ActiveConnection) (clock : EventClock) (received : ExchangeResult)
    (header : UInt8) (payload : List UInt8) (outstanding terminate : Bool) :
    ActiveConnection × List HostCall × Option UInt8 :=
  let c := {c with
    lastRssi := received.rssiDbm
    supervisionDeadline := clock.received + c.request.supervisionTimeout.toNat * 10000}
  let anchor := received.timestampUs - (1 + 4 + 2 + payload.length + 3) * 8
  match acknowledgeTransmit c header outstanding clock.acknowledged with
  | none => (c,[],some 0x1f)
  | some (c,released) =>
    let accepted := acceptReceive c header payload
    match accepted.1.settleInstants clock.closing with
    | .error reason => (accepted.1,released ++ accepted.2.1,some reason)
    | .ok (c,notify) =>
      let told := released ++ accepted.2.1 ++ notifyHost c notify
      ({c with toEventTiming := c.synchronize anchor},told,
        if terminate then some 0x16 else accepted.2.2)

def connectionEvent (c : ActiveConnection) (clock : EventClock) (radio : Option ExchangeResult) :
    EventOutcome :=
  match c.settleInstants clock.entry with
  | .error reason => ⟨c,[],none,some reason⟩
  | .ok (c,notify) =>
    let told := notifyHost c notify
    let hopped := c.nextChannel
    let c := {c with toEventTiming := hopped.1}
    let receiveDeadline := c.receiveClose
    let timeout := c.takeReceiveTimeout
    let c := {c with toEventTiming := timeout.1}
    match stageTransmit c with
    | none => ⟨c,told,none,some 0x1f⟩
    | some c =>
      let request : ExchangeRequest := ⟨hopped.2,receiveDeadline,timeout.2,c.txFrame⟩
      let outstanding := !c.txFrameFresh
      match radio with
      | none => ⟨c,told,some request,none⟩
      | some received =>
        match noteTransmission c received.transmitted with
        | none => ⟨c,told,some request,some 0x1f⟩
        | some c =>
          let terminate := sentTerminate c received.transmitted
          match receivedPdu received with
          | none => ⟨c,told,some request,none⟩
          | some (header,payload) =>
            let closed := closeEvent c clock received header payload outstanding terminate
            ⟨closed.1,told ++ closed.2.1,some request,closed.2.2⟩

/-! Host packets. -/

section Host
variable (c : ActiveConnection)

/- With what the command calls and whether the connection must stop at once. -/
def handleConnectedCommand (bytes : List UInt8) : ActiveConnection × List HostCall × Bool :=
  if bytes.length < 3 ∨ bytes.length ≠ 3 + (octet bytes 2).toNat then (c,[],false)
  else
    let opcode := word bytes 0
    let params := bytes.drop 3
    if opcode = 0x0c03 ∧ params = [] then (c,[.handleCommand bytes],true)
    else if opcode = 0x0406 ∧ params.length = 3 then
      if word params 0 ≠ c.handle ∨ c.localProcedureActive .termination then
        (c,[.commandStatus opcode hciCommandDisallowed],false)
      else
        let queued := c.queueLocalProcedure .termination [0x02,octet params 2] none none
        ({c with toControlPlane := queued.1},
          [.commandStatus opcode (if queued.2 then hciSuccess else hciControllerBusy)],false)
    else if opcode = 0x1405 ∧ params.length = 2 then
      if word params 0 ≠ c.handle then (c,[.commandComplete opcode 0x02 params],false)
      else (c,[.commandComplete opcode hciSuccess (toLeBytes c.handle ++ [c.lastRssi.toUInt8])],false)
    else if opcode = 0x2013 ∧ params.length = 14 then
      let intervalMin := word params 2
      let intervalMax := word params 4
      let latency := word params 6
      let timeout := word params 8
      if word params 0 ≠ c.handle ∨
          connectionParameterRangeIsValid intervalMin intervalMax latency timeout = false then
        (c,[.commandStatus opcode hciInvalidParameters],false)
      else if c.localConnectionParamRequest.isSome ∨ c.remoteConnectionParametersActive ∨
          c.pendingConnectionUpdate.isSome ∨ c.pendingChannelMap.isSome then
        (c,[.commandStatus opcode hciControllerBusy],false)
      else
        let request : ConnectionParamPdu := ⟨intervalMin,intervalMax,latency,timeout,0,c.eventCounter,
          Vector.replicate 6 0xffff⟩
        let queued := c.queueLocalProcedureRequest .connectionParameters
          (request.write ConnectionParamPdu.requestOpcode) 0x00
        if queued.2 then
          ({c with
            toControlPlane := {queued.1 with
              localConnectionParamRequest := some ⟨intervalMin,intervalMax,latency,timeout⟩}},
            [.commandStatus opcode hciSuccess],false)
        else ({c with toControlPlane := queued.1},[.commandStatus opcode hciControllerBusy],false)
    else (c,[.handleCommand bytes],false)

def processConnectedHostPacket (packet : Packet) : ActiveConnection × List HostCall × Bool :=
  match packet.kind with
  | .aclData =>
    match c.queueAcl c.handle packet.bytes with
    | .ok path => ({c with toDataPath := path},[],false)
    | .error _ => (c,[],false)
  | .cmd => handleConnectedCommand c packet.bytes
  | _ => (c,[],false)

end Host

end Ch58xHal.ConnectionEvent
