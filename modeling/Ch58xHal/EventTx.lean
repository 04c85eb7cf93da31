import Mathlib.Algebra.Order.Ring.Nat
import Mathlib.Data.List.Basic

/-! Rolling two-slot ownership policy of a connection event. Payload ids and counts
are octets bounded by eight in the source and are naturals here; the generation is the
octet that really wraps. A call that fails still returns the state it leaves behind. -/
namespace Ch58xHal.EventTx

inductive ConnectionEventTxSlot where
  | slot0 | slot1
  deriving DecidableEq, Repr

def ConnectionEventTxSlot.other : ConnectionEventTxSlot → ConnectionEventTxSlot
  | .slot0 => .slot1
  | .slot1 => .slot0

/- A two-element array indexed through `slot_index`. -/
structure PerSlot (α : Type) where
  at0 : α
  at1 : α
  deriving DecidableEq, Repr

namespace PerSlot
variable {α : Type}

def get (p : PerSlot α) : ConnectionEventTxSlot → α
  | .slot0 => p.at0
  | .slot1 => p.at1

def set (p : PerSlot α) (slot : ConnectionEventTxSlot) (value : α) : PerSlot α :=
  match slot with
  | .slot0 => ⟨value,p.at1⟩
  | .slot1 => ⟨p.at0,value⟩

@[simp] theorem getSet (p : PerSlot α) (slot : ConnectionEventTxSlot) (value : α) :
    (p.set slot value).get slot = value := by
  cases slot <;> rfl

@[simp] theorem getSetOther (p : PerSlot α) (slot : ConnectionEventTxSlot) (value : α) :
    (p.set slot value).get slot.other = p.get slot.other := by
  cases slot <;> rfl

@[simp] theorem getOtherSet (p : PerSlot α) (slot : ConnectionEventTxSlot) (value : α) :
    (p.set slot.other value).get slot = p.get slot := by
  cases slot <;> rfl

theorem setGet (p : PerSlot α) (slot : ConnectionEventTxSlot) : p.set slot (p.get slot) = p := by
  cases slot <;> rfl

@[simp] theorem setSet (p : PerSlot α) (slot : ConnectionEventTxSlot) (a b : α) :
    (p.set slot a).set slot b = p.set slot b := by
  cases slot <;> rfl

theorem setComm (p : PerSlot α) (slot : ConnectionEventTxSlot) (a b : α) :
    (p.set slot a).set slot.other b = (p.set slot.other b).set slot a := by
  cases slot <;> rfl

end PerSlot

@[simp] theorem otherOther (slot : ConnectionEventTxSlot) : slot.other.other = slot := by
  cases slot <;> rfl

structure ConnectionEventTxToken where
  payloadId : Nat
  ownerToken : UInt32
  generation : UInt8
  deriving DecidableEq, Repr

def maxConnectionEventTxPayloads : Nat := 8

structure ConnectionEventTxRefill where
  slot : ConnectionEventTxSlot
  token : ConnectionEventTxToken
  deriving DecidableEq, Repr

structure ConnectionEventTxDecision where
  responseSlot : ConnectionEventTxSlot
  responseToken : Option ConnectionEventTxToken
  responseIsRetry : Bool
  acknowledgedResponse : Bool
  acknowledgedToken : Option ConnectionEventTxToken
  refillAfterTransmit : Option ConnectionEventTxRefill
  morePayloadsAfterResponse : Bool
  deriving DecidableEq, Repr

inductive ConnectionEventTxError where
  | tooManyPayloads
  | ackWithoutOutstandingResponse
  | responsePlanAlreadyPending
  | completionDoesNotMatchDecision
  deriving DecidableEq, Repr

structure ConnectionEventOutstanding where
  slot : ConnectionEventTxSlot
  token : Option ConnectionEventTxToken
  deriving DecidableEq, Repr

structure ConnectionEventTxState where
  slots : PerSlot (Option ConnectionEventTxToken)
  generations : PerSlot UInt8
  outstanding : Option ConnectionEventOutstanding
  planned : Option ConnectionEventTxDecision
  payloadCount : Nat
  nextPayloadId : Nat
  ownerTokens : List UInt32
  lastReleasedSlot : ConnectionEventTxSlot
  deriving DecidableEq, Repr

namespace ConnectionEventTxState

def fromOwnerTokens (ownerTokens : List UInt32) (payloadCount : Nat) : ConnectionEventTxState :=
  let token := fun id => some (ConnectionEventTxToken.mk id (ownerTokens.getD id 0) 0)
  { slots := match payloadCount with
      | 0 => ⟨none,none⟩
      | 1 => ⟨token 0,none⟩
      | _ => ⟨token 0,token 1⟩
    generations := ⟨0,0⟩
    outstanding := none
    planned := none
    payloadCount := payloadCount
    nextPayloadId := if payloadCount > 1 then 2 else payloadCount
    ownerTokens := ownerTokens
    lastReleasedSlot := .slot0 }

def new (payloadCount : UInt8) : ConnectionEventTxState :=
  let boundedCount := min payloadCount.toNat maxConnectionEventTxPayloads
  fromOwnerTokens ((List.range maxConnectionEventTxPayloads).map
    (fun id => if id < boundedCount then UInt32.ofNat id else 0)) boundedCount

/- The caller's list copied into the zeroed eight-entry array. -/
def copied (ownerTokens : List UInt32) : List UInt32 :=
  ownerTokens ++ List.replicate (maxConnectionEventTxPayloads - ownerTokens.length) 0

def newWithOwnerTokens (ownerTokens : List UInt32) :
    Except ConnectionEventTxError ConnectionEventTxState :=
  if ownerTokens.length > maxConnectionEventTxPayloads then .error .tooManyPayloads
  else .ok (fromOwnerTokens (copied ownerTokens) ownerTokens.length)

/- Resume an outstanding Empty in slot 0; payload 0 moves to slot 1. -/
def withEmptyRetry (ownerTokens : List UInt32) : Except ConnectionEventTxError ConnectionEventTxState :=
  match newWithOwnerTokens ownerTokens with
  | .error e => .error e
  | .ok state => .ok { state with
      slots := ⟨none,state.slots.at0⟩
      nextPayloadId := if ownerTokens.isEmpty then 0 else 1
      outstanding := some ⟨.slot0,none⟩ }

def stagedSlot (slots : PerSlot (Option ConnectionEventTxToken)) : Option ConnectionEventTxSlot :=
  match slots.at0,slots.at1 with
  | some left,some right => if right.payloadId < left.payloadId then some .slot1 else some .slot0
  | some _,none => some .slot0
  | none,some _ => some .slot1
  | none,none => none

def refill (s : ConnectionEventTxState) (slot : ConnectionEventTxSlot) : ConnectionEventTxRefill :=
  ⟨slot,⟨s.nextPayloadId,s.ownerTokens.getD s.nextPayloadId 0,s.generations.get slot + 1⟩⟩

/- The tail of `preview_select`: choose a response from the slots left after the
acknowledgement, and the slot that may be refilled once it was sent. -/
def choose (s : ConnectionEventTxState) (slots : PerSlot (Option ConnectionEventTxToken))
    (lastReleasedSlot : ConnectionEventTxSlot) (acknowledged : Option ConnectionEventOutstanding) :
    ConnectionEventTxDecision :=
  let responseSlot := (stagedSlot slots).getD lastReleasedSlot
  let candidate := responseSlot.other
  let releasedSlot := (acknowledged.map ConnectionEventOutstanding.slot).or
    (if (slots.get candidate).isNone then some candidate else none)
  let refillAfterTransmit := releasedSlot.bind
    (fun slot => if s.nextPayloadId < s.payloadCount then some (s.refill slot) else none)
  { responseSlot := responseSlot
    responseToken := slots.get responseSlot
    responseIsRetry := false
    acknowledgedResponse := acknowledged.isSome
    acknowledgedToken := acknowledged.bind ConnectionEventOutstanding.token
    refillAfterTransmit := refillAfterTransmit
    morePayloadsAfterResponse := (slots.get candidate).isSome || refillAfterTransmit.isSome ||
      decide (s.nextPayloadId < s.payloadCount) }

def retry (s : ConnectionEventTxState) (outstanding : ConnectionEventOutstanding) :
    ConnectionEventTxDecision :=
  { responseSlot := outstanding.slot
    responseToken := outstanding.token
    responseIsRetry := true
    acknowledgedResponse := false
    acknowledgedToken := none
    refillAfterTransmit := none
    morePayloadsAfterResponse := (s.slots.get outstanding.slot.other).isSome ||
      decide (s.nextPayloadId < s.payloadCount) }

def previewSelect (s : ConnectionEventTxState) (acknowledgedTransmit : Bool) :
    Except ConnectionEventTxError ConnectionEventTxDecision :=
  if s.planned.isSome then .error .responsePlanAlreadyPending
  else match s.outstanding with
    | some outstanding =>
        if !acknowledgedTransmit then .ok (s.retry outstanding)
        else .ok (s.choose (s.slots.set outstanding.slot none) outstanding.slot (some outstanding))
    | none =>
        if acknowledgedTransmit then .error .ackWithoutOutstandingResponse
        else .ok (s.choose s.slots s.lastReleasedSlot none)

def select (s : ConnectionEventTxState) (acknowledgedTransmit : Bool) :
    ConnectionEventTxState × Except ConnectionEventTxError ConnectionEventTxDecision :=
  match s.previewSelect acknowledgedTransmit with
  | .error e => (s,.error e)
  | .ok decision =>
      if decision.acknowledgedResponse then
        match s.outstanding with
        | none => (s,.error .ackWithoutOutstandingResponse)
        | some outstanding =>
            ({ s with
                outstanding := none
                slots := s.slots.set outstanding.slot none
                lastReleasedSlot := outstanding.slot
                planned := some decision },.ok decision)
      else ({ s with planned := some decision },.ok decision)

/- The owner table, slot and generation checks of a refill before it is committed. -/
def refillMatches (s : ConnectionEventTxState) (r : ConnectionEventTxRefill) : Bool :=
  (s.slots.get r.slot).isNone && r.token.payloadId == s.nextPayloadId &&
    r.token.generation == s.generations.get r.slot + 1 &&
    s.ownerTokens[r.token.payloadId]? == some r.token.ownerToken

def completeTransmit (s : ConnectionEventTxState) (decision : ConnectionEventTxDecision) :
    ConnectionEventTxState × Except ConnectionEventTxError Unit :=
  if s.planned ≠ some decision then (s,.error .completionDoesNotMatchDecision)
  else if s.outstanding.any (fun o => o.slot != decision.responseSlot || o.token != decision.responseToken)
    then (s,.error .completionDoesNotMatchDecision)
  else if decision.refillAfterTransmit.any (fun r => !s.refillMatches r)
    then (s,.error .completionDoesNotMatchDecision)
  else
    let sent := { s with
      planned := none
      outstanding := some ⟨decision.responseSlot,decision.responseToken⟩ }
    match decision.refillAfterTransmit with
    | none => (sent,.ok ())
    | some r => ({ sent with
        generations := s.generations.set r.slot r.token.generation
        slots := s.slots.set r.slot (some r.token)
        nextPayloadId := s.nextPayloadId + 1 },.ok ())

def abortTransmit (s : ConnectionEventTxState) (decision : ConnectionEventTxDecision) :
    ConnectionEventTxState × Except ConnectionEventTxError Unit :=
  if s.planned ≠ some decision then (s,.error .completionDoesNotMatchDecision)
  else ({ s with planned := none },.ok ())

def released (s : ConnectionEventTxState) (o : ConnectionEventOutstanding) : ConnectionEventTxState :=
  {s with outstanding := none, slots := s.slots.set o.slot none, lastReleasedSlot := o.slot}

/- The five things `select` can do, guards included. -/
theorem selectPending {s : ConnectionEventTxState} {d} (pending : s.planned = some d) (ack : Bool) :
    s.select ack = (s,.error .responsePlanAlreadyPending) := by
  simp [select,previewSelect,pending]

theorem selectUnasked {s : ConnectionEventTxState} (ready : s.planned = none)
    (silent : s.outstanding = none) : s.select true = (s,.error .ackWithoutOutstandingResponse) := by
  simp [select,previewSelect,ready,silent]

theorem selectFresh {s : ConnectionEventTxState} (ready : s.planned = none)
    (silent : s.outstanding = none) :
    s.select false = ({s with planned := some (s.choose s.slots s.lastReleasedSlot none)},
      .ok (s.choose s.slots s.lastReleasedSlot none)) := by
  have unacknowledged : (s.choose s.slots s.lastReleasedSlot none).acknowledgedResponse = false := rfl
  simp [select,previewSelect,ready,silent,unacknowledged]

theorem selectRetry {s : ConnectionEventTxState} (ready : s.planned = none) {o}
    (out : s.outstanding = some o) :
    s.select false = ({s with planned := some (s.retry o)},.ok (s.retry o)) := by
  have unacknowledged : (s.retry o).acknowledgedResponse = false := rfl
  simp [select,previewSelect,ready,out,unacknowledged]

theorem selectAcknowledged {s : ConnectionEventTxState} (ready : s.planned = none) {o}
    (out : s.outstanding = some o) :
    s.select true =
      ({s.released o with planned := some (s.choose (s.slots.set o.slot none) o.slot (some o))},
        .ok (s.choose (s.slots.set o.slot none) o.slot (some o))) := by
  have acknowledged : (s.choose (s.slots.set o.slot none) o.slot (some o)).acknowledgedResponse = true := rfl
  simp [select,previewSelect,ready,out,acknowledged,released]

theorem completeUnplanned {s : ConnectionEventTxState} {d} (other : s.planned ≠ some d) :
    s.completeTransmit d = (s,.error .completionDoesNotMatchDecision) := by
  simp [completeTransmit,other]

theorem abortUnplanned {s : ConnectionEventTxState} {d} (other : s.planned ≠ some d) :
    s.abortTransmit d = (s,.error .completionDoesNotMatchDecision) := by
  simp [abortTransmit,other]

theorem abortPlanned {s : ConnectionEventTxState} {d} (pending : s.planned = some d) :
    s.abortTransmit d = ({s with planned := none},.ok ()) := by
  simp [abortTransmit,pending]

def sent (s : ConnectionEventTxState) (d : ConnectionEventTxDecision) : ConnectionEventTxState :=
  {s with planned := none, outstanding := some ⟨d.responseSlot,d.responseToken⟩}

theorem completePlain {s : ConnectionEventTxState} {d} (pending : s.planned = some d)
    (same : ∀ o, s.outstanding = some o → o.slot = d.responseSlot ∧ o.token = d.responseToken)
    (none : d.refillAfterTransmit = none) : s.completeTransmit d = (s.sent d,.ok ()) := by
  cases out : s.outstanding with
  | none => simp [completeTransmit,pending,out,none,sent]
  | some o => simp [completeTransmit,pending,out,none,sent,same o out]

theorem completeRefill {s : ConnectionEventTxState} {d r} (pending : s.planned = some d)
    (silent : s.outstanding = none) (found : d.refillAfterTransmit = some r)
    (good : s.refillMatches r = true) :
    s.completeTransmit d = ({s.sent d with
      generations := s.generations.set r.slot r.token.generation
      slots := s.slots.set r.slot (some r.token)
      nextPayloadId := s.nextPayloadId + 1 },.ok ()) := by
  simp [completeTransmit,pending,silent,found,good,sent]

end ConnectionEventTxState
end Ch58xHal.EventTx
