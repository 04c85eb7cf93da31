import Ch58xHal.ConnectIndCodec
import Ch58xHal.RadioChip
import Ch58xHal.TurnLoops

/-! The operations of the radio. Delays without an access leave no trace here, the received
octets are returned instead of written to a caller's buffer, and a loop bounded by the clock takes
the number of its turns; `none` is a loop that still runs. -/
namespace Ch58xHal.RadioOperations
open Routines TurnLoops DeviceRegisters ChannelSelection RadioChip
open Advertising (Error DeviceAddress AddressKind)
open ConnectIndCodec (isScanRequest)

@[irreducible] def maxOperationPolls : Nat := 65536
def legacyAdvRxMaxLen : Nat := maxLegacyAdvPayloadLen
def legacyAdvResponseWindowUs : Nat := 650
def lle1mTransitionCountdown : UInt32 := 0x18e

/- Where the linker has put the three buffers. -/
structure Layout where
  tx : UInt32
  response : UInt32
  rx : UInt32

def frequencyMhz (channel : Channel) : UInt16 :=
  if channel.index = 37 then 2402
  else if channel.index = 38 then 2426
  else if channel.index = 39 then 2480
  else if channel.index ≤ 10 then 2404 + channel.index.toUInt16 * 2
  else 2428 + (channel.index.toUInt16 - 11) * 2

/-! Preparing an operation. -/

def configureSynth (channel : Channel) (receive : Bool) : Operation Unit := do
  let frequencyKhz := (frequencyMhz channel).toUInt32 * 1000 - if receive then 1000 else 0
  modifyRegister config2c (· ||| 0x02)
  let whole := (frequencyKhz / 64000) &&& 0x1f
  let fraction := (((frequencyKhz % 64000) <<< (10 : UInt32)) / 250) &&& 0x0003ffff
  modifyRegister config44 fun value => (value &&& 0xfe0c0000) ||| (whole <<< (20 : UInt32)) ||| fraction

def setBbChannel (channel : Channel) : Operation Unit :=
  modifyRegister bbConfig fun value => (value &&& ~~~0x7f) ||| channel.index.toUInt32

def setChannel (channel : Channel) : Operation Unit := do
  setBbChannel channel
  configureSynth channel false

def setReceiveChannel (channel : Channel) : Operation Unit := do
  setBbChannel channel
  configureSynth channel true
  modifyRegister config2c (· &&& ~~~0x03)

def stageTransmit (layout : Layout) (channel : Channel) (packet : List UInt8) : Operation Unit := do
  let chip ← get
  rejectIf (chip.digitalInitialized = false ∨ chip.frontendCalibrated = false) .hardware
  rejectIf (packet.length < 2 ∨ packet.length > rfDmaBufferLen) .invalidPacket
  modify fun chip => { chip with txBuffer := encodeTransmitBuffer packet }
  setChannel channel
  writeRegister lleTxBuffer layout.tx

def stageResponse (layout : Layout) (packet : List UInt8) : Operation UInt32 := do
  rejectIf (packet.length < 2 ∨ packet.length > rfDmaBufferLen) .invalidPacket
  modify fun chip => { chip with responseBuffer := encodeTransmitBuffer packet }
  pure layout.response

def setBbMode (mode : UInt32) : Operation Unit :=
  modifyRegister bbConfig fun value => (value &&& ~~~bbModeMask) ||| mode

def enableAnalog : Operation Unit := modifyRegister analogEnable08 (· ||| 0x00330000)

def prepareCommonOperation (mode : UInt32) : Operation Unit := do
  writeLleConfigHigh (if mode = lleModeTx then 0x50 else 1)
  modifyRegister bbTxControl fun value => (value &&& ~~~0x03) ||| 0x01
  setBbMode bbModeActive
  enableAnalog
  writeRegister lleMode mode

def prepareReceiveOperation : Operation Unit := do
  writeLleConfigHigh 1
  setBbMode bbModeActive
  enableAnalog
  writeRegister lleMode lleModeRx

def configureTransmitPhy1m (packetLen : Nat) : Operation Unit := do
  modifyRegister bbConfig (· &&& ~~~((1 : UInt32) <<< 7))
  modifyRegister lleInterruptEnable (· &&& ~~~lleStatusTiming)
  writeRegister lleStatus lleStatusTiming
  writeRegister lleOperationCountdown (tx1mCountdown packetLen)

def configureReceivePhy1m : Operation Unit := do
  modifyRegister bbConfig (· &&& ~~~((1 : UInt32) <<< 7))
  modifyRegister bbReceiveConfig18 fun value => (value &&& ~~~0xff0003ff) ||| 0x7f000132

def continueTxToRx1m (channel : Channel) : Operation Unit := do
  writeRegister lleStatus lleStatusTxToRx
  modifyRegister bbTxControl fun value => (value &&& ~~~0x03) ||| 0x01
  configureSynth channel true
  configureReceivePhy1m
  writeRegister lleStatus lleStatusTiming
  writeRegister lleOperationCountdown lle1mTransitionCountdown

def releaseReceiveToTransmit1m (channel : Channel) (transmitAddress : UInt32) (transmitLen : Nat)
    (receivedLen : UInt8) : Operation Unit := do
  writeRegister lleTxBuffer transmitAddress
  writeRegister lleRxToTxTiming (rxToTxTiming receivedLen)
  writeRegister lleStatus lleStatusRxToTx
  modifyRegister bbTxControl fun value => (value &&& ~~~0x03) ||| 0x01
  configureSynth channel false
  configureTransmitPhy1m transmitLen
  modifyRegister bbConfig fun value => (value &&& ~~~bbModeMask) ||| bbModeActive ||| ((1 : UInt32) <<< 23)
  enableAnalog
  writeRegister lleMode lleModeTx
  modifyRegister bbTxControl (· &&& ~~~0x03)

def startTransmitOperation : Operation Unit := do
  modifyRegister bbConfig (· ||| ((1 : UInt32) <<< 23))
  modifyRegister bbTxControl (· &&& ~~~0x03)
  writeRegister lleCommand 2

def shutDownOperation : Operation Unit := do
  storeCaptureCountdown 0
  modifyRegister lleMode (· &&& ~~~0x10)
  modifyRegister lleMode (· &&& ~~~0x700)
  modifyRegister lleCommand (· ||| 0x08)
  setBbMode bbModeIdle
  modifyRegister analogEnable08 (· &&& 0xffcdffff)
  writeRegister lleMode lleModeIdle

def clearBbInterruptStatus : Operation Unit := do
  let observed ← readRegister bbInterruptStatus
  writeRegister bbInterruptStatus (observed &&& bbInterruptStatusMask)

def clearLleStatus : Operation Unit := writeRegister lleStatus 0xffffffff

/-! Waiting. -/

def pollSettle : Nat → Operation Unit
  | 0 => throw .timeout
  | polls+1 => do
    if (← readRegister lleOperationCountdown) = 0 then pure () else pollSettle polls

def waitForSettleCountdown : Operation Unit := pollSettle maxOperationPolls

def pollOperation (completionMask : UInt32) : Nat → Operation Unit
  | 0 => throw .timeout
  | polls+1 => do
    if (← readRegister lleStatus) &&& completionMask ≠ 0 then pure ()
    else if (← readRegister lleOperationCountdown) = 0 then throw .timeout
    else pollOperation completionMask polls

def waitForOperation (completionMask : UInt32) : Operation Unit := pollOperation completionMask maxOperationPolls

/- Scanning owns the capture point that the interrupt serves in an exchange. -/
def serveCapture (started : Bool) : Operation Bool := do
  let bbStatus ← readRegister bbInterruptStatus
  if bbStatus &&& captureStarted ≠ 0 then
    writeRegister bbInterruptStatus (captureAck bbStatus)
    writeRegister lleStatus lleStatusTiming
    writeRegister lleOperationCountdown (rx1mCaptureCountdown legacyAdvRxMaxLen)
    pure true
  else pure started

def receiveComplete (started : Bool) : Operation Bool := do
  if started then
    let status ← readRegister lleStatus
    pure (decide (status &&& (lleStatusRxComplete ||| lleStatusRxCaptureComplete) ≠ 0))
  else pure false

def windowOver (deadline : Nat) (started : Bool) : Operation Bool := do
  if started then pure false else do pure (decide (deadline ≤ (← now)))

def pollReceive (deadline : Nat) : Nat → Bool → Operation Unit
  | 0,_ => throw .timeout
  | polls+1,started => do
    let started ← serveCapture started
    if ← receiveComplete started then pure ()
    else if (← readRegister lleOperationCountdown) = 0 then throw .timeout
    else if ← windowOver deadline started then throw .timeout
    else pollReceive deadline polls started

def waitForPolledReceiveOperation (softwareReceiveDeadline : Nat) : Operation Unit :=
  pollReceive softwareReceiveDeadline maxOperationPolls false

-- `while Instant::now() < deadline`
def clockedPass {S : Type} (deadline : S → Nat) (turn : S → Operation (S × Bool)) (s : S) : Operation (S × Bool) := do
  if (← now) < deadline s then turn s else pure (s,false)

/-! The received packet. -/

def copyReceivedPacket (room : Nat) (advertising : Bool) : Operation (List UInt8) := do
  let length ← readDmaByte 1
  let payloadLen := if advertising then (length &&& 0x3f).toNat else length.toNat
  match classifyReceivedLength advertising payloadLen with
  | .physicalDmaOverflow =>
    modify fun chip => { chip with physicalDmaOverflows := chip.physicalDmaOverflows + 1 }
    pure []
  | .unsupportedCapability =>
    modify fun chip => { chip with unsupportedPacketLengths := chip.unsupportedPacketLengths + 1 }
    pure []
  | .accepted wireLen => if room < wireLen then pure [] else (List.range wireLen).mapM readDmaByte

structure ReceivedPacket where
  payload : List UInt8
  rssiDbm : Int8
  crcOk : Bool
  timestampUs : Nat
  deriving DecidableEq, Repr

-- The negation wraps, as it does without overflow checks.
def readRssi : Operation Int8 := do
  let status ← readRegister bbRssiStatus
  pure (-(status >>> 15).toUInt8.toInt8)

def crcOk : Operation Bool := do
  let status ← readRegister bbInterruptStatus
  pure (decide (status &&& crcError = 0))

-- `as_micros().saturating_mul(4).clamp(1, u32::MAX)`
def receiveTicks (timeout : Nat) : UInt32 := UInt32.ofNat (min (max (min (timeout * 4) (2^64 - 1)) 1) (2^32 - 1))

/-! Single transmissions and receptions. -/

def transmitBlocking (layout : Layout) (channel : Channel) (packet : List UInt8) : Operation Unit := do
  stageTransmit layout channel packet
  prepareCommonOperation lleModeTx
  modifyRegister lleConfig (· &&& ~~~0x01)
  clearLleStatus
  clearBbInterruptStatus
  writeRegister lleOperationCountdown 0xa0
  waitForSettleCountdown
  configureTransmitPhy1m packet.length
  startTransmitOperation
  let waited ← try
      waitForOperation lleStatusTxComplete
      pure (Except.ok ())
    catch error => pure (.error error)
  shutDownOperation
  match waited with
  | .ok () => pure ()
  | .error error => throw error

def receiveBlocking (layout : Layout) (channel : Channel) (timeout room : Nat) : Operation ReceivedPacket := do
  let chip ← get
  rejectIf (chip.digitalInitialized = false ∨ chip.frontendCalibrated = false) .hardware
  rejectIf (room = 0) .invalidPacket
  modify fun chip => { chip with rxBuffer := Vector.replicate rfDmaBufferLen 0xff }
  writeRegister lleRxBuffer layout.rx
  setReceiveChannel channel
  modifyRegister lleConfig (· &&& ~~~0x01)
  clearLleStatus
  clearBbInterruptStatus
  configureReceivePhy1m
  enableInterrupt false
  writeRegister lleOperationCountdown (receiveTicks timeout)
  prepareReceiveOperation
  let softwareReceiveDeadline := (← now) + timeout
  writeRegister lleCommand 1
  let waited ← try
      waitForPolledReceiveOperation softwareReceiveDeadline
      pure (Except.ok ())
    catch error => pure (.error error)
  let crcOk ← crcOk
  let payload ← copyReceivedPacket room (decide (chip.accessAddress = ConnectIndCodec.advAccessAddress))
  let rssiDbm ← readRssi
  shutDownOperation
  enableInterrupt true
  match waited with
  | .error error => throw error
  | .ok () =>
    rejectIf (payload.length = 0) .timeout
    let timestampUs ← now
    pure ⟨payload,rssiDbm,crcOk,timestampUs⟩

/-! The exchange of a connection event. -/

structure ExchangeResult where
  received : ReceivedPacket
  transmitted : Bool
  deriving DecidableEq, Repr

structure Exchanging where
  timestampUs : Option Nat
  turnaround : Bool
  transmitted : Bool

/- The register path that lets the staged response go. -/
def releaseStaged (channel : Channel) (transmitLen : Nat) (length : UInt8) : Operation Unit := do
  writeRegister lleRxToTxTiming (rxToTxTiming length)
  writeRegister lleStatus lleStatusRxComplete
  writeRegister lleStatus lleStatusRxToTx
  modifyRegister bbTxControl fun value => (value &&& ~~~0x03) ||| 0x01
  configureTransmitPhy1m transmitLen
  configureSynth channel false
  modifyRegister bbConfig fun value => (value &&& ~~~bbModeMask) ||| bbModeActive ||| ((1 : UInt32) <<< 23)
  enableAnalog
  writeRegister lleMode lleModeTx
  modifyRegister bbTxControl (· &&& ~~~0x03)

/- One turn of the loop, with whether it goes on. -/
def exchangeTurn (channel : Channel) (transmitLen receiveDeadline : Nat) (s : Exchanging) :
    Operation (Exchanging × Bool) := do
  let status ← readRegister lleStatus
  if status &&& lleStatusRxToTx ≠ 0 ∧ s.turnaround = false then
    let length ← readDmaByte 1
    let timestampUs ← now
    let s := { s with timestampUs := some timestampUs }
    let bbStatus ← readRegister bbInterruptStatus
    if bbStatus &&& crcError ≠ 0 ∨ length.toNat > connectionRxMaxWirePayloadLen then pure (s,false)
    else
      releaseStaged channel transmitLen length
      pure ({ s with turnaround := true },true)
  else if s.turnaround ∧ status &&& lleStatusRxComplete ≠ 0 then
    writeRegister lleStatus lleStatusRxComplete
    pure ({ s with transmitted := true },false)
  else if (← readRegister lleOperationCountdown) = 0 then pure (s,false)
  else if s.turnaround then pure (s,true)
  else do pure (s,decide (¬receiveDeadline ≤ (← now)))

def exchangeLoop (channel : Channel) (transmitLen receiveDeadline : Nat) : Nat → Exchanging → Operation (Option Exchanging) :=
  repeatTurns (clockedPass (fun _ => receiveDeadline + 1000) (exchangeTurn channel transmitLen receiveDeadline))

/- Up to the loop: the deadline of the receive window. -/
def armExchange (layout : Layout) (channel : Channel) (deadline timeout : Nat) (transmit : List UInt8) (room : Nat) :
    Operation Nat := do
  rejectIf (room < connectionEventRxBufferLen) .invalidPacket
  stageTransmit layout channel transmit
  modify fun chip => { chip with rxBuffer := Vector.replicate rfDmaBufferLen 0xff }
  writeRegister lleRxBuffer layout.rx
  setReceiveChannel channel
  prepareCommonOperation lleModeRx
  modifyRegister lleConfig (· ||| 0x01)
  clearLleStatus
  clearBbInterruptStatus
  configureReceivePhy1m
  storeCaptureCountdown (rx1mCaptureCountdown connectionRxMaxWirePayloadLen)
  writeRegister lleOperationCountdown (receiveTicks timeout)
  writeRegister lleCommand 1
  pure (min ((← now) + timeout) deadline)

def concludeExchange (room : Nat) (s : Exchanging) : Operation ExchangeResult := do
  let crcOk ← crcOk
  let payload ← copyReceivedPacket room false
  let rssiDbm ← readRssi
  shutDownOperation
  match s.timestampUs with
  | none => throw .timeout
  | some timestampUs =>
    rejectIf (payload.length < 2) .invalidPacket
    pure ⟨⟨payload,rssiDbm,crcOk,timestampUs⟩,s.transmitted⟩

def exchange (layout : Layout) (turns : Nat) (channel : Channel) (deadline timeout : Nat)
    (transmit : List UInt8) (room : Nat) : Operation (Option ExchangeResult) := do
  let receiveDeadline ← armExchange layout channel deadline timeout transmit room
  match ← exchangeLoop channel transmit.length receiveDeadline turns ⟨none,false,false⟩ with
  | none => pure none
  | some s => do pure (some (← concludeExchange room s))

/-! The exchange after an advertisement. -/

structure Listening where
  deadline : Nat
  armed : Bool
  responding : Bool
  bufferedEnd : Option Nat
  received : Option (List UInt8 × Bool × Nat)

section Advertise
variable (layout : Layout) (channel : Channel) (timeout : Nat) (transmit scanResponse : List UInt8)
  (advertiserAddress : Vector UInt8 6) (room : Nat)

def ownAddress : DeviceAddress :=
  ⟨advertiserAddress,if transmit.getD 0 0 &&& ((1 : UInt8) <<< 6) ≠ 0 then .random else .isPublic⟩

def armReceive (status : UInt32) (s : Listening) : Operation Listening := do
  if s.armed = false ∧ status &&& (lleStatusTxToRx ||| lleStatusTxComplete) ≠ 0 then
    continueTxToRx1m channel
    pure { s with armed := true,deadline := (← now) + max timeout legacyAdvResponseWindowUs }
  else pure s

def noteBuffered (pduType length : UInt8) (s : Listening) : Operation Listening := do
  if s.armed ∧ s.bufferedEnd = none ∧ legacyRequestPayloadLenIsValid pduType length.toNat then
    pure { s with bufferedEnd := some ((← now) + (length.toNat + 3) * 8) }
  else pure s

def bufferedScan (pduType : UInt8) (s : Listening) : Operation Bool := do
  match s.bufferedEnd with
  | none => pure false
  | some finish => if pduType = 3 then do pure (decide (finish ≤ (← now))) else pure false

def captured : Operation Bool := do
  if ← loadCaptureSeen then
    if (← readRegister lleStatus) &&& (lleStatusRxComplete ||| lleStatusRxCaptureComplete) ≠ 0 then pure true
    else do pure (decide ((← readRegister lleOperationCountdown) = 0))
  else pure false

def firstReread (payload : List UInt8) : Operation UInt8 := if payload.length ≥ 2 then readDmaByte 0 else pure 0xff

/- A packet may have arrived: what the loop goes on with, and whether it does; `none` is nothing
received yet. -/
def classifyRequest (length : UInt8) (s : Listening) : Operation (Option (Listening × Bool)) := do
  let crcOk ← crcOk
  let payload ← copyReceivedPacket room true
  let first ← firstReread payload
  if first ≠ 0xff then
    let timestampUs ← now
    let s := { s with received := some (payload,crcOk,timestampUs) }
    if crcOk ∧ isScanRequest payload (ownAddress transmit advertiserAddress) then
      releaseReceiveToTransmit1m channel layout.response scanResponse.length length
      pure (some ({ s with responding := true,deadline := (← now) + 1000 },true))
    else pure (some (s,false))
  else pure none

def finishResponse (status : UInt32) (s : Listening) : Listening × Bool :=
  (s,!(s.responding && decide (status &&& (lleStatusRxComplete ||| lleStatusTxComplete) ≠ 0)))

def listenTurn (s : Listening) : Operation (Listening × Bool) := do
  let status ← readRegister lleStatus
  let s ← armReceive channel timeout status s
  let pduType := (← readDmaByte 0) &&& 0x0f
  let length := (← readDmaByte 1) &&& 0x3f
  let s ← noteBuffered pduType length s
  let scanned ← bufferedScan pduType s
  let captured ← captured
  if s.armed ∧ s.responding = false ∧ (status &&& lleStatusRxToTx ≠ 0 ∨ captured ∨ scanned) then
    match ← classifyRequest layout channel transmit scanResponse advertiserAddress room length s with
    | some turned => pure turned
    | none => pure (finishResponse status s)
  else pure (finishResponse status s)

def listenLoop : Nat → Listening → Operation (Option Listening) :=
  repeatTurns (clockedPass Listening.deadline
    (listenTurn layout channel timeout transmit scanResponse advertiserAddress room))

/- Up to the loop: the deadline before the receiver is armed. -/
def armAdvertising : Operation Nat := do
  stageTransmit layout channel transmit
  let _ ← stageResponse layout scanResponse
  modify fun chip => { chip with rxBuffer := Vector.replicate rfDmaBufferLen 0xff }
  writeRegister lleRxBuffer layout.rx
  prepareCommonOperation lleModeTx
  modifyRegister lleConfig (· ||| 1)
  clearLleStatus
  clearBbInterruptStatus
  writeRegister lleOperationCountdown 0xa0
  waitForSettleCountdown
  configureTransmitPhy1m transmit.length
  storeCaptureCountdown (rx1mCaptureCountdown legacyAdvRxMaxLen)
  storeCaptureSeen false
  startTransmitOperation
  pure ((← now) + 2000)

def concludeAdvertising (s : Listening) : Operation ReceivedPacket := do
  let rssiDbm ← readRssi
  shutDownOperation
  match s.received with
  | none => throw .timeout
  | some (payload,crcOk,timestampUs) => pure ⟨payload,rssiDbm,crcOk,timestampUs⟩

def advertisingExchange (turns : Nat) : Operation (Option ReceivedPacket) := do
  let deadline ← armAdvertising layout channel transmit scanResponse
  match ← listenLoop layout channel timeout transmit scanResponse advertiserAddress room turns
      ⟨deadline,false,false,none,none⟩ with
  | none => pure none
  | some s => do pure (some (← concludeAdvertising s))

end Advertise

end Ch58xHal.RadioOperations
