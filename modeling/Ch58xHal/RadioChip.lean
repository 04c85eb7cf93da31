import Ch58xHal.Advertising
import Ch58xHal.ChannelSelection
import Ch58xHal.DeviceRegisters
import Ch58xHal.Triples

/-! The radio's registers, buffers and interrupt. Before every access of the program the device
has one more moment: it raises status flags, decides what its countdown and its measurements
show, may replace the received octets, lets time pass and may run the capture interrupt. -/
namespace Ch58xHal.RadioChip
open Routines DeviceRegisters
open Advertising (Error)

def bbBase : Nat := 0x4000c100
def lleBase : Nat := 0x4000c200
def rfendBase : Nat := 0x4000d000

def bbConfig : Nat := bbBase + 0x00
def bbTxCrcInit : Nat := bbBase + 0x04
def bbTxAccessAddress : Nat := bbBase + 0x08
def bbReceiveConfig10 : Nat := bbBase + 0x10
def bbReceiveConfig18 : Nat := bbBase + 0x18
def bbTxControl : Nat := bbBase + 0x2c
def bbRssiStatus : Nat := bbBase + 0x30
def bbInterruptEnable : Nat := bbBase + 0x34
def bbInterruptStatus : Nat := bbBase + 0x38
def bbConfig3c : Nat := bbBase + 0x3c
def lleCommand : Nat := lleBase + 0x00
def lleConfig : Nat := lleBase + 0x04
def lleStatus : Nat := lleBase + 0x08
def lleInterruptEnable : Nat := lleBase + 0x0c
def lleRxToTxTiming : Nat := lleBase + 0x1c
def lleMode : Nat := lleBase + 0x50
def lleOperationCountdown : Nat := lleBase + 0x64
def lleTxBuffer : Nat := lleBase + 0x78
def lleRxBuffer : Nat := lleBase + 0x7c
def control04 : Nat := rfendBase + 0x04
def analogEnable08 : Nat := rfendBase + 0x08
def resetControl0c : Nat := rfendBase + 0x0c
def config28 : Nat := rfendBase + 0x28
def config2c : Nat := rfendBase + 0x2c
def config30 : Nat := rfendBase + 0x30
def config38 : Nat := rfendBase + 0x38
def config3c : Nat := rfendBase + 0x3c
def config44 : Nat := rfendBase + 0x44
def config48 : Nat := rfendBase + 0x48
def config4c : Nat := rfendBase + 0x4c
def filter50 : Nat := rfendBase + 0x50
def adc58 : Nat := rfendBase + 0x58
def config5c : Nat := rfendBase + 0x5c
def tuneCo90 : Nat := rfendBase + 0x90
def tuneGa94 : Nat := rfendBase + 0x94
def filterStatus9c : Nat := rfendBase + 0x9c

def tuneTable (index : Nat) : Nat := rfendBase + 0xa0 + index * 4

/- What is set up once and used by every operation. -/
def settingRegisters : List Nat := bbTxCrcInit :: bbTxAccessAddress :: (List.range 13).map tuneTable

def kind (address : Nat) : Kind :=
  if address = lleStatus ∨ address = bbInterruptStatus then .flags
  else if address ∈ [bbRssiStatus,lleCommand,lleOperationCountdown,tuneCo90,tuneGa94,filterStatus9c] then .driven
  else .held

def bbModeMask : UInt32 := 0x300
def bbModeIdle : UInt32 := 0x100
def bbModeActive : UInt32 := 0x200
def lleModeIdle : UInt32 := 0x00030000
def lleModeCalibration : UInt32 := 0x00030558
def lleModeRx : UInt32 := 0x00030158
def lleModeTx : UInt32 := 0x00030258
def lleStatusRxComplete : UInt32 := (1 : UInt32) <<< 0
def lleStatusTxComplete : UInt32 := (1 : UInt32) <<< 1
def lleStatusRxToTx : UInt32 := (1 : UInt32) <<< 2
def lleStatusTxToRx : UInt32 := (1 : UInt32) <<< 3
def lleStatusRxCaptureComplete : UInt32 := (1 : UInt32) <<< 17
def lleStatusTiming : UInt32 := lleStatusRxCaptureComplete
def bbInterruptStatusMask : UInt32 := 0x000001f0
def crcError : UInt32 := (1 : UInt32) <<< 5
def captureStarted : UInt32 := (1 : UInt32) <<< 6

/-! Lengths and countdowns. -/

def maxLlDataPayloadLen : Nat := 27
def maxLegacyAdvPayloadLen : Nat := 37
def rfDmaBufferLen : Nat := 64
def llHeaderLen : Nat := 2
def maxLegacyAdvWireLen : Nat := llHeaderLen + maxLegacyAdvPayloadLen
def maxDataWireLen : Nat := llHeaderLen + maxLlDataPayloadLen
def connectionRxMaxWirePayloadLen : Nat := maxLlDataPayloadLen
def connectionEventRxBufferLen : Nat := 2 + connectionRxMaxWirePayloadLen

inductive ReceiveLengthPolicy where
  | accepted (wireLen : Nat)
  | physicalDmaOverflow
  | unsupportedCapability
  deriving DecidableEq, Repr

def classifyReceivedLength (advertising : Bool) (payloadLen : Nat) : ReceiveLengthPolicy :=
  let wireLen := llHeaderLen + payloadLen
  if wireLen > rfDmaBufferLen then .physicalDmaOverflow
  else if wireLen > (if advertising then maxLegacyAdvWireLen else maxDataWireLen) then .unsupportedCapability
  else .accepted wireLen

def legacyRequestPayloadLenIsValid (pduType : UInt8) (payloadLen : Nat) : Bool :=
  pduType == 0x03 && payloadLen == 12 || pduType == 0x05 && payloadLen == 34

def tx1mCountdown (packetLen : Nat) : UInt32 := ((UInt32.ofNat packetLen + 2) * 8 + 0xee) <<< 1

def rx1mCaptureCountdown (maxPacketLen : Nat) : UInt32 := ((UInt32.ofNat maxPacketLen + 5) <<< 4) + 0x3c

def rxToTxTiming (_receivedLen : UInt8) : UInt32 := 0x76

-- The capture interrupt owns bit 6, the consumer of the packet the CRC flag.
def captureAck (status : UInt32) : UInt32 := status &&& captureStarted

abbrev Bank := Vector UInt8 rfDmaBufferLen

/- Nothing stands for the panic on a packet longer than the bank; every caller has checked. -/
def encodeTransmitBuffer (packet : List UInt8) : Bank := Vector.ofFn fun i => packet.getD i.val 0

/-! The chip. -/

structure Moment where
  activity : Activity Nat
  interrupt : Bool
  -- what the baseband still raises while the interrupt runs
  late : UInt32
  received : Option Bank
  us : Nat

inductive Access where
  | read (address : Nat) (value : UInt32)
  | write (address : Nat) (value : UInt32)
  | octet (index : Nat) (value : UInt8)
  deriving DecidableEq, Repr

/- The fields of `Radio` and the statics of its module. `moments` is the whole behaviour of the
device and `elapsed` how much of it is over; `log` is the program's own accesses, each with the
moments before it, for the proofs. -/
structure Chip where
  words : Nat → UInt32
  txBuffer : Bank
  responseBuffer : Bank
  rxBuffer : Bank
  rxCaptureCountdown : UInt32
  captureSeen : Bool
  physicalDmaOverflows : UInt32
  unsupportedPacketLengths : UInt32
  interruptEnabled : Bool
  accessAddress : UInt32
  crcInit : UInt32
  digitalInitialized : Bool
  frontendCalibrated : Bool
  moments : Nat → Moment
  elapsed : Nat
  clockUs : Nat
  log : List (Nat × Access)

/- The interrupt up to its second look at the status, and the rest of it. -/
def blebCapture (chip : Chip) : Chip :=
  let status := chip.words bbInterruptStatus
  if status &&& captureStarted ≠ 0 then
    let acknowledged := store kind bbInterruptStatus (captureAck status) chip.words
    if chip.rxCaptureCountdown ≠ 0 then
      { chip with
        words := store kind lleOperationCountdown chip.rxCaptureCountdown
          (store kind lleStatus lleStatusTiming acknowledged)
        captureSeen := true }
    else { chip with words := acknowledged }
  else chip

def blebRemaining (chip : Chip) : Chip :=
  { chip with words := store kind bbInterruptStatus (chip.words bbInterruptStatus &&& 0x190) chip.words }

def raiseLate (late : UInt32) (chip : Chip) : Chip :=
  { chip with words := Function.update chip.words bbInterruptStatus (chip.words bbInterruptStatus ||| late) }

def settleMoment (moment : Moment) (chip : Chip) : Chip :=
  { chip with
    words := settle kind moment.activity chip.words
    rxBuffer := moment.received.getD chip.rxBuffer
    elapsed := chip.elapsed + 1
    clockUs := chip.clockUs + moment.us }

def elapse (chip : Chip) : Chip :=
  let moment := chip.moments chip.elapsed
  let settled := settleMoment moment chip
  if moment.interrupt && chip.interruptEnabled then
    blebRemaining (raiseLate moment.late (blebCapture settled))
  else raiseLate moment.late settled

/-! Accesses. -/

abbrev Operation := Routine Error Chip

def readRegister (address : Nat) : Operation UInt32 := do
  modify elapse
  let chip ← get
  set { chip with log := chip.log ++ [(chip.elapsed,Access.read address (chip.words address))] }
  pure (chip.words address)

def writeRegister (address : Nat) (value : UInt32) : Operation Unit :=
  modify fun chip =>
    let chip := elapse chip
    { chip with words := store kind address value chip.words,log := chip.log ++ [(chip.elapsed,.write address value)] }

def modifyRegister (address : Nat) (f : UInt32 → UInt32) : Operation Unit := do
  let value ← readRegister address
  writeRegister address (f value)

-- The half-word at +0x06 is the upper half of the configuration word.
def writeLleConfigHigh (value : UInt32) : Operation Unit :=
  modify fun chip =>
    let chip := elapse chip
    { chip with
      words := store kind lleConfig ((chip.words lleConfig &&& 0xffff) ||| (value <<< (16 : UInt32))) chip.words
      log := chip.log ++ [(chip.elapsed,.write (lleBase + 0x06) value)] }

def readDmaByte (index : Nat) : Operation UInt8 := do
  modify elapse
  let chip ← get
  let octet := chip.rxBuffer.toList.getD index 0
  set { chip with log := chip.log ++ [(chip.elapsed,Access.octet index octet)] }
  pure octet

def now : Operation Nat := do
  modify elapse
  let chip ← get
  pure chip.clockUs

def storeCaptureCountdown (countdown : UInt32) : Operation Unit :=
  modify fun chip => { elapse chip with rxCaptureCountdown := countdown }

def storeCaptureSeen (seen : Bool) : Operation Unit :=
  modify fun chip => { elapse chip with captureSeen := seen }

def loadCaptureSeen : Operation Bool := do
  modify elapse
  let chip ← get
  pure chip.captureSeen

def enableInterrupt (enabled : Bool) : Operation Unit :=
  modify fun chip => { elapse chip with interruptEnabled := enabled }

end Ch58xHal.RadioChip
