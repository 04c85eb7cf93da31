import Ch58xHal.ControlPdu
import Ch58xHal.Machines

/-! Ownership of Link Layer control procedures. One local and one remote context
advance only from exact TX, NESN, response, timeout and instant events; a refused
call leaves the manager as it was. Microsecond times are naturals, saturated where
the source saturates a `u64`; deadline zero means that none is armed. -/
namespace Ch58xHal.Llcp
open ControlPdu Machines

inductive ProcedureKind where
  | termination
  | featureExchange
  | versionExchange
  | connectionParameters
  | connectionUpdate
  | channelMapUpdate
  | ping
  deriving DecidableEq, Repr

def ProcedureKind.instantProcedure : ProcedureKind → Option InstantProcedure
  | .connectionParameters => some .connectionParametersRequest
  | .connectionUpdate => some .connectionUpdate
  | .channelMapUpdate => some .channelMapUpdate
  | _ => none

inductive ProcedureInitiator where
  | localSide
  | remoteSide
  deriving DecidableEq, Repr

inductive ProcedurePhase where
  | queued
  | awaitingTxAck
  | awaitingResponse
  | responseQueued
  | awaitingInstant
  | complete
  | failed
  deriving DecidableEq, Repr

structure ProcedureToken where
  ownerToken : UInt32
  generation : UInt8
  deriving DecidableEq, Repr

structure ProcedureContext where
  kind : ProcedureKind
  initiator : ProcedureInitiator
  phase : ProcedurePhase
  token : ProcedureToken
  txOpcode : UInt8
  expectedResponseOpcode : Option UInt8
  instant : Option UInt16
  responseTimeoutUs : UInt32
  responseDeadlineUs : Nat
  pendingResponse : Bool
  error : Option UInt8
  deriving DecidableEq, Repr

def saturatingAdd (a b : Nat) : Nat := min (a+b) (2^64-1)

namespace ProcedureContext

def new (kind : ProcedureKind) (initiator : ProcedureInitiator) (token : ProcedureToken)
    (txOpcode : UInt8) (expectedResponseOpcode : Option UInt8) (instant : Option UInt16)
    (responseTimeoutUs : Option UInt32) : ProcedureContext :=
  ⟨kind,initiator,.queued,token,txOpcode,expectedResponseOpcode,instant,
    responseTimeoutUs.getD 0,0,false,none⟩

def Finished (c : ProcedureContext) : Prop := c.phase = .complete ∨ c.phase = .failed
instance (c) : Decidable (Finished c) := inferInstanceAs (Decidable (_ ∨ _))

def active (c : ProcedureContext) : Bool := !decide c.Finished

def responseDeadline (c : ProcedureContext) : Option Nat :=
  if c.responseDeadlineUs = 0 then none else some c.responseDeadlineUs

def Sendable (c : ProcedureContext) : Prop := c.phase = .queued ∨ c.phase = .responseQueued
instance (c) : Decidable (Sendable c) := inferInstanceAs (Decidable (_ ∨ _))

def deadlineFrom (c : ProcedureContext) (nowUs : Nat) : Nat :=
  if c.responseTimeoutUs = 0 then 0 else saturatingAdd nowUs c.responseTimeoutUs.toNat

def afterAck (c : ProcedureContext) (nowUs : Nat) : ProcedureContext :=
  if c.pendingResponse then
    if c.instant.isSome then {c with phase := .awaitingInstant,pendingResponse := false}
    else if c.expectedResponseOpcode.isSome then
      {c with
        responseDeadlineUs := c.deadlineFrom nowUs
        phase := .awaitingResponse
        pendingResponse := false}
    else {c with phase := .complete,pendingResponse := false}
  else if c.expectedResponseOpcode.isSome then
    {c with phase := .awaitingResponse,responseDeadlineUs := c.deadlineFrom nowUs}
  else if c.instant.isSome then {c with phase := .awaitingInstant}
  else {c with phase := .complete}

def afterResponse (c : ProcedureContext) : ProcedureContext :=
  {c with
    responseDeadlineUs := 0
    phase := if c.instant.isSome then .awaitingInstant else .complete}

def Due (c : ProcedureContext) (nowUs : Nat) : Prop :=
  (c.phase = .awaitingResponse ∨ c.phase = .awaitingInstant) ∧ c.responseDeadlineUs ≠ 0 ∧
    c.responseDeadlineUs ≤ nowUs
instance (c nowUs) : Decidable (Due c nowUs) := inferInstanceAs (Decidable (_ ∧ _))

def withFailure (c : ProcedureContext) (error : UInt8) : ProcedureContext :=
  {c with phase := .failed,error := some error,responseDeadlineUs := 0}

def checkTimeout (nowUs : Nat) (error : UInt8) (c : ProcedureContext) : ProcedureContext :=
  if c.Due nowUs then c.withFailure error else c

def onConnectionEvent (eventCounter : UInt16) (passedError : UInt8) (c : ProcedureContext) :
    ProcedureContext :=
  if c.phase ≠ .awaitingInstant then c
  else match c.instant with
    | none => c
    | some instant =>
      match classifyInstant eventCounter instant with
      | .current => {c with phase := .complete,responseDeadlineUs := 0}
      | .future _ => c
      | .passed => c.withFailure passedError

end ProcedureContext

inductive ProcedureError where
  | busy
  | collision (code : UInt8)
  | missingContext
  | staleToken
  | invalidPhase
  | wrongOpcode
  deriving DecidableEq, Repr

-- The source's fields `local` and `remote`.
structure ProcedureManager where
  localSide : Option ProcedureContext
  remoteSide : Option ProcedureContext
  deriving DecidableEq, Repr

namespace ProcedureManager
open ProcedureContext (Sendable)

def new : ProcedureManager := ⟨none,none⟩

def context (s : ProcedureManager) : ProcedureInitiator → Option ProcedureContext
  | .localSide => s.localSide
  | .remoteSide => s.remoteSide

def put (s : ProcedureManager) (initiator : ProcedureInitiator) (c : ProcedureContext) :
    ProcedureManager :=
  match initiator with
  | .localSide => {s with localSide := some c}
  | .remoteSide => {s with remoteSide := some c}

def collision (own remote : ProcedureKind) : ProcedureError :=
  match own.instantProcedure,remote.instantProcedure with
  | some own,some remote => .collision (procedureCollisionError own remote)
  | _,_ => .busy

def startLocal (s : ProcedureManager) (c : ProcedureContext) :
    Except ProcedureError ProcedureManager :=
  if c.initiator ≠ .localSide then .error .invalidPhase
  else if s.localSide.any ProcedureContext.active then .error .busy
  else .ok {s with localSide := some c}

-- A remote indication is already on air: its instant needs no local transmission first.
def indicated (c : ProcedureContext) : ProcedureContext :=
  if c.instant.isSome then {c with phase := .awaitingInstant} else c

def startRemote (s : ProcedureManager) (c : ProcedureContext) :
    Except ProcedureError ProcedureManager :=
  if c.initiator ≠ .remoteSide then .error .invalidPhase
  else match s.remoteSide.filter ProcedureContext.active with
    | some remote => .error (collision remote.kind c.kind)
    | none =>
      match s.localSide.filter (fun own => own.active && own.kind.instantProcedure.isSome &&
          c.kind.instantProcedure.isSome) with
      | some own => .error (collision own.kind c.kind)
      | none => .ok {s with remoteSide := some (indicated c)}

/- `context_mut` and the body behind it: no body writes before its last check. -/
def contextMut (s : ProcedureManager) (initiator : ProcedureInitiator)
    (body : ProcedureContext → Except ProcedureError ProcedureContext) :
    Except ProcedureError ProcedureManager :=
  match s.context initiator with
  | none => .error .missingContext
  | some c =>
    match body c with
    | .error e => .error e
    | .ok c => .ok (s.put initiator c)

def txPlanned (s : ProcedureManager) (initiator : ProcedureInitiator) (token : ProcedureToken) :
    Except ProcedureError ProcedureManager :=
  s.contextMut initiator fun c =>
    if c.token ≠ token then .error .staleToken
    else if ¬Sendable c then .error .invalidPhase
    else .ok c

def txDone (s : ProcedureManager) (initiator : ProcedureInitiator) (token : ProcedureToken) :
    Except ProcedureError ProcedureManager :=
  s.contextMut initiator fun c =>
    if c.token ≠ token then .error .staleToken
    else if ¬Sendable c then .error .invalidPhase
    else .ok {c with phase := .awaitingTxAck}

def nesnAck (s : ProcedureManager) (initiator : ProcedureInitiator) (token : ProcedureToken)
    (nowUs : Nat) : Except ProcedureError ProcedureManager :=
  s.contextMut initiator fun c =>
    if c.token ≠ token then .error .staleToken
    else if c.phase ≠ .awaitingTxAck then .error .invalidPhase
    else .ok (c.afterAck nowUs)

def expectedResponse (s : ProcedureManager) (initiator : ProcedureInitiator) (opcode : UInt8) :
    Except ProcedureError ProcedureManager :=
  s.contextMut initiator fun c =>
    if c.phase ≠ .awaitingResponse then .error .invalidPhase
    else if c.expectedResponseOpcode ≠ some opcode then .error .wrongOpcode
    else .ok c.afterResponse

/- The response timer stays armed until the instant is applied. -/
def expectedResponseWithInstant (s : ProcedureManager) (initiator : ProcedureInitiator)
    (opcode : UInt8) (instant : UInt16) : Except ProcedureError ProcedureManager :=
  s.contextMut initiator fun c =>
    if c.phase ≠ .awaitingResponse then .error .invalidPhase
    else if c.expectedResponseOpcode ≠ some opcode then .error .wrongOpcode
    else .ok {c with instant := some instant,phase := .awaitingInstant}

def responseQueued (s : ProcedureManager) (token : ProcedureToken) (txOpcode : UInt8) :
    Except ProcedureError ProcedureManager :=
  s.contextMut .remoteSide fun c =>
    if ¬(c.phase = .queued ∨ c.phase = .awaitingResponse) then .error .invalidPhase
    else .ok {c with
      token := token
      txOpcode := txOpcode
      pendingResponse := true
      phase := .responseQueued}

def checkTimeouts (s : ProcedureManager) (nowUs : Nat) (error : UInt8) : ProcedureManager × Bool :=
  (⟨s.localSide.map (ProcedureContext.checkTimeout nowUs error),
    s.remoteSide.map (ProcedureContext.checkTimeout nowUs error)⟩,
   s.localSide.any (fun c => decide (c.Due nowUs)) || s.remoteSide.any (fun c => decide (c.Due nowUs)))

def fail (s : ProcedureManager) (initiator : ProcedureInitiator) (error : UInt8) :
    Except ProcedureError ProcedureManager :=
  s.contextMut initiator fun c => .ok {c.withFailure error with pendingResponse := false}

def onConnectionEvent (s : ProcedureManager) (eventCounter : UInt16) (passedError : UInt8) :
    ProcedureManager :=
  ⟨s.localSide.map (ProcedureContext.onConnectionEvent eventCounter passedError),
    s.remoteSide.map (ProcedureContext.onConnectionEvent eventCounter passedError)⟩

end ProcedureManager

/-! The manager as a machine: any caller, any order of its eleven operations. -/

/- The arguments of `ProcedureContext::new`. -/
structure Request where
  kind : ProcedureKind
  initiator : ProcedureInitiator
  token : ProcedureToken
  txOpcode : UInt8
  expectedResponseOpcode : Option UInt8
  instant : Option UInt16
  responseTimeoutUs : Option UInt32
  deriving DecidableEq, Repr

def Request.context (r : Request) : ProcedureContext :=
  .new r.kind r.initiator r.token r.txOpcode r.expectedResponseOpcode r.instant r.responseTimeoutUs

inductive Call where
  | startLocal (request : Request)
  | startRemote (request : Request)
  | txPlanned (initiator : ProcedureInitiator) (token : ProcedureToken)
  | txDone (initiator : ProcedureInitiator) (token : ProcedureToken)
  | nesnAck (initiator : ProcedureInitiator) (token : ProcedureToken) (nowUs : Nat)
  | expectedResponse (initiator : ProcedureInitiator) (opcode : UInt8)
  | expectedResponseWithInstant (initiator : ProcedureInitiator) (opcode : UInt8) (instant : UInt16)
  | responseQueued (token : ProcedureToken) (txOpcode : UInt8)
  | checkTimeouts (nowUs : Nat) (error : UInt8)
  | fail (initiator : ProcedureInitiator) (error : UInt8)
  | onConnectionEvent (eventCounter : UInt16) (passedError : UInt8)
  deriving DecidableEq, Repr

inductive Answer where
  | done
  | refused (error : ProcedureError)
  | anyFailed (failed : Bool)
  deriving DecidableEq, Repr

def answer (s : ProcedureManager) : Except ProcedureError ProcedureManager → ProcedureManager × Answer
  | .ok after => (after,.done)
  | .error e => (s,.refused e)

def call (s : ProcedureManager) : Call → ProcedureManager × Answer
  | .startLocal r => answer s (s.startLocal r.context)
  | .startRemote r => answer s (s.startRemote r.context)
  | .txPlanned i t => answer s (s.txPlanned i t)
  | .txDone i t => answer s (s.txDone i t)
  | .nesnAck i t now => answer s (s.nesnAck i t now)
  | .expectedResponse i op => answer s (s.expectedResponse i op)
  | .expectedResponseWithInstant i op instant => answer s (s.expectedResponseWithInstant i op instant)
  | .responseQueued t op => answer s (s.responseQueued t op)
  | .checkTimeouts now e => ((s.checkTimeouts now e).1,.anyFailed (s.checkTimeouts now e).2)
  | .fail i e => answer s (s.fail i e)
  | .onConnectionEvent counter e => (s.onConnectionEvent counter e,.done)

def caller : Machine ProcedureManager Call Answer := ⟨call⟩

end Ch58xHal.Llcp
