import Ch58xHal.OwnershipSteps

/-! The Control PDUs in their slots and the procedures they belong to, joined only by an owner
token. While a PDU waits for the air its procedure is ready to send; once it went out the
procedure waits for the acknowledgement. That is kept unless a handler fails a procedure
whose PDU is still in a slot, or the token counter comes round to a token still in use. -/
namespace Ch58xHal.ControlSlots
open ControlPdu Llcp LlcpSteps Connection ConnectionEvent ConnectionRun ControlHandlers
open InstantOwners OwnershipSteps

-- `priority_control` is never filled: `Tidy.single`.
def Holds (p : ControlPlane) (pdu : PendingData) : Prop :=
  p.pendingControl = some pdu ∨ p.queuedControl = some pdu

def Belongs (c : ProcedureContext) (pdu : PendingData) : Prop := c.token.ownerToken = pdu.ownerToken

/- The PDU in `pending_control`: not chosen, chosen for the next transmission, or out and
waiting for its acknowledgement. -/
inductive Progress where
  | waiting
  | chosen
  | out
  deriving DecidableEq, Repr

def Progress.Expects : Progress → ProcedureContext → Prop
  | .out,c => c.phase = .awaitingTxAck
  | .waiting,c => c.Sendable
  | .chosen,c => c.Sendable

structure Tidy (p : ControlPlane) (air : Progress) : Prop where
  single : p.priorityControl = none
  first : ∀ pdu side c, p.pendingControl = some pdu → p.procedures.context side = some c → Belongs c pdu →
    air.Expects c
  second : ∀ pdu side c, p.queuedControl = some pdu → p.procedures.context side = some c → Belongs c pdu →
    c.Sendable
  apart : ∀ a b, p.pendingControl = some a → p.queuedControl = some b → a.ownerToken ≠ b.ownerToken
  sides : ∀ a b, p.procedures.localSide = some a → p.procedures.remoteSide = some b →
    a.token.ownerToken ≠ b.token.ownerToken
  present : air ≠ .waiting → p.pendingControl.isSome = true

/- The next two tokens are nobody's: no handler allocates more. -/
def Unheld (p : ControlPlane) : Prop :=
  ∀ token, token = p.nextControlOwnerToken ∨ token = p.allocateControlToken.1.nextControlOwnerToken →
    (∀ pdu, Holds p pdu → pdu.ownerToken ≠ token) ∧
    ∀ side c, p.procedures.context side = some c → c.token.ownerToken ≠ token

/- Fewer PDUs, the same procedures as far as their tokens and kinds go. -/
structure Descends (p after : ControlPlane) : Prop where
  slots : ∀ pdu, Holds after pdu → Holds p pdu
  contexts : ∀ side c, after.procedures.context side = some c →
    ∃ before, p.procedures.context side = some before ∧ c.token = before.token ∧ c.kind = before.kind
  next : after.nextControlOwnerToken = p.nextControlOwnerToken

theorem descendsTrans {p middle after : ControlPlane} (first : Descends p middle) (second : Descends middle after) :
    Descends p after := by
  refine ⟨fun pdu held => first.slots pdu (second.slots pdu held),?_,second.next.trans first.next⟩
  intro side c held
  obtain ⟨before,held',token,kind⟩ := second.contexts side c held
  obtain ⟨origin,held'',token',kind'⟩ := first.contexts side before held'
  exact ⟨origin,held'',token.trans token',kind.trans kind'⟩

theorem unheldKept {p after : ControlPlane} (descends : Descends p after) (unheld : Unheld p) : Unheld after := by
  intro token next
  have same : after.allocateControlToken.1.nextControlOwnerToken = p.allocateControlToken.1.nextControlOwnerToken := by
    simp only [ControlPlane.allocateControlToken,descends.next]
  rw [descends.next,same] at next
  obtain ⟨slots,contexts⟩ := unheld token next
  refine ⟨fun pdu held => slots pdu (descends.slots pdu held),?_⟩
  intro side c held
  obtain ⟨before,held',token',_⟩ := descends.contexts side c held
  rw [token']
  exact contexts side before held'

/-! What one operation does. -/

section Operations
variable {p : ControlPlane} {air : Progress}

theorem heldPhase (tidy : Tidy p air) {pdu side c} (held : Holds p pdu) (context : p.procedures.context side = some c)
    (mine : Belongs c pdu) : c.Sendable ∨ c.phase = .awaitingTxAck := by
  rcases held with first | second
  · have phase := tidy.first pdu side c first context mine
    cases air with
    | waiting => exact Or.inl phase
    | chosen => exact Or.inl phase
    | out => exact Or.inr phase
  · exact Or.inl (tidy.second pdu side c second context mine)

/- Procedures may change as long as none of those that do has a PDU in a slot. -/
theorem tidyProcedures {procedures : ProcedureManager} (tidy : Tidy p air)
    (kept : ∀ side c, procedures.context side = some c →
      p.procedures.context side = some c ∨ ∀ pdu, Holds p pdu → ¬Belongs c pdu)
    (sides : ∀ a b, procedures.localSide = some a → procedures.remoteSide = some b →
      a.token.ownerToken ≠ b.token.ownerToken) : Tidy {p with procedures := procedures} air := by
  refine ⟨tidy.single,?_,?_,tidy.apart,sides,tidy.present⟩
  · intro pdu side c slot context mine
    rcases kept side c context with same | other
    · exact tidy.first pdu side c slot same mine
    · exact absurd mine (other pdu (Or.inl slot))
  · intro pdu side c slot context mine
    rcases kept side c context with same | other
    · exact tidy.second pdu side c slot same mine
    · exact absurd mine (other pdu (Or.inr slot))

theorem tidyQueue {bytes token} (tidy : Tidy p air) (fresh : ∀ pdu, Holds p pdu → pdu.ownerToken ≠ token.ownerToken)
    (ready : ∀ side c, p.procedures.context side = some c → c.token.ownerToken = token.ownerToken → c.Sendable) :
    Tidy (p.queueControlWithToken bytes token).1 air := by
  unfold ControlPlane.queueControlWithToken
  split
  · rename_i fits
    dsimp only
    by_cases empty : p.pendingControl.isNone = true
    · rw [if_pos empty]
      have waiting : air = .waiting := by
        by_contra other
        have filled := tidy.present other
        rw [Option.isNone_iff_eq_none.mp empty] at filled
        cases filled
      subst waiting
      refine ⟨tidy.single,?_,tidy.second,?_,tidy.sides,fun wrong => absurd rfl wrong⟩
      · rintro pdu side c ⟨⟩ context mine
        exact ready side c context mine
      · rintro a b ⟨⟩ queued
        exact (fresh b (Or.inr queued)).symm
    · rw [if_neg empty]
      split
      · refine ⟨tidy.single,tidy.first,?_,?_,tidy.sides,tidy.present⟩
        · rintro pdu side c ⟨⟩ context mine
          exact ready side c context mine
        · rintro a b pending ⟨⟩
          exact fresh a (Or.inl pending)
      · exact tidy
  · exact tidy

theorem allocatedTidy (tidy : Tidy p air) : Tidy p.allocateControlToken.1 air :=
  ⟨tidy.single,tidy.first,tidy.second,tidy.apart,tidy.sides,tidy.present⟩

theorem sidesPut {side : ProcedureInitiator} {new : ProcedureContext}
    (other : ∀ i c, i ≠ side → p.procedures.context i = some c → c.token.ownerToken ≠ new.token.ownerToken) :
    ∀ a b, (p.procedures.put side new).localSide = some a → (p.procedures.put side new).remoteSide = some b →
      a.token.ownerToken ≠ b.token.ownerToken := by
  intro a b own remote
  cases side with
  | localSide =>
    cases own
    exact (other .remoteSide b (by decide) remote).symm
  | remoteSide =>
    cases remote
    exact other .localSide a (by decide) own

/- A procedure put on one side, with a token no slot knows. -/
theorem tidyPut (tidy : Tidy p air) {side : ProcedureInitiator} {new : ProcedureContext}
    (slots : ∀ pdu, Holds p pdu → ¬Belongs new pdu)
    (other : ∀ i c, i ≠ side → p.procedures.context i = some c → c.token.ownerToken ≠ new.token.ownerToken) :
    Tidy {p with procedures := p.procedures.put side new} air := by
  refine tidyProcedures tidy ?_ (sidesPut other)
  intro i c held
  rw [contextPut] at held
  split at held
  · cases held
    exact Or.inr slots
  · exact Or.inl held

theorem otherSide (tidy : Tidy p air) {side i : ProcedureInitiator} {c own : ProcedureContext}
    (held : p.procedures.context side = some own) (other : i ≠ side) (present : p.procedures.context i = some c) :
    c.token.ownerToken ≠ own.token.ownerToken := by
  cases side with
  | localSide =>
    cases i with
    | localSide => exact absurd rfl other
    | remoteSide => exact (tidy.sides own c held present).symm
  | remoteSide =>
    cases i with
    | localSide => exact tidy.sides c own present held
    | remoteSide => exact absurd rfl other

/- A procedure without a PDU in a slot moves on under its token. -/
theorem movedTidy (tidy : Tidy p air) {side : ProcedureInitiator} {own x : ProcedureContext}
    (held : p.procedures.context side = some own) (token : x.token = own.token)
    (spared : ∀ pdu, Holds p pdu → ¬Belongs own pdu) :
    Tidy {p with procedures := p.procedures.put side x} air := by
  refine tidyPut tidy ?_ ?_
  · intro pdu holds mine
    rw [Belongs,token] at mine
    exact spared pdu holds mine
  · intro i c other present
    rw [token]
    exact otherSide tidy held other present

theorem failedTidy (tidy : Tidy p air) {side error}
    (spared : ∀ c pdu, p.procedures.context side = some c → Holds p pdu → ¬Belongs c pdu) :
    Tidy (p.failProcedure side error) air := by
  cases held : p.procedures.context side with
  | none =>
    rw [failMissing held]
    exact tidy
  | some c =>
    rw [failHeld held]
    exact movedTidy tidy held rfl fun pdu holds => spared c pdu held holds

/-! Procedures that get a new token. -/

theorem freshSlots (unheld : Unheld p) {pdu} (holds : Holds p pdu) :
    pdu.ownerToken ≠ p.nextControlOwnerToken := (unheld _ (Or.inl rfl)).1 pdu holds

theorem freshContexts (unheld : Unheld p) {side c} (held : p.procedures.context side = some c) :
    c.token.ownerToken ≠ p.nextControlOwnerToken := (unheld _ (Or.inl rfl)).2 side c held

theorem startedTidy (tidy : Tidy p air) (unheld : Unheld p) {side} {new : ProcedureContext}
    (token : new.token = p.allocateControlToken.2) :
    Tidy {p.allocateControlToken.1 with procedures := p.procedures.put side new} air := by
  have own : new.token.ownerToken = p.nextControlOwnerToken := congrArg ProcedureToken.ownerToken token
  refine tidyPut (allocatedTidy tidy) ?_ ?_
  · intro pdu holds mine
    exact freshSlots unheld holds (mine.symm.trans own)
  · intro i c _ held
    rw [own]
    exact freshContexts unheld held

/- The new procedure with its PDU in a slot. -/
theorem postedTidy (tidy : Tidy p air) (unheld : Unheld p) {side bytes} {new : ProcedureContext}
    (token : new.token = p.allocateControlToken.2) (ready : new.Sendable) :
    Tidy ({p.allocateControlToken.1 with procedures := p.procedures.put side new}.queueControlWithToken bytes
      p.allocateControlToken.2).1 air := by
  refine tidyQueue (startedTidy tidy unheld token) (fun pdu holds => freshSlots unheld holds) ?_
  intro i c held same
  have held : (p.procedures.put side new).context i = some c := held
  rw [contextPut] at held
  split at held
  · cases held
    exact ready
  · exact absurd same (freshContexts unheld held)

/- A PDU that belongs to no procedure. -/
theorem answeredTidy (tidy : Tidy p air)
    (slots : ∀ pdu, Holds p pdu → pdu.ownerToken ≠ p.nextControlOwnerToken)
    (contexts : ∀ side c, p.procedures.context side = some c → c.token.ownerToken ≠ p.nextControlOwnerToken)
    (bytes) : Tidy (p.queueControl bytes).1 air := by
  unfold ControlPlane.queueControl ControlPlane.queueControlOwned
  exact tidyQueue (allocatedTidy tidy) slots fun side c held same => absurd same (contexts side c held)

theorem respondedTidy (tidy : Tidy p air) (unheld : Unheld p) {kind opcode response expected timeout after}
    (responds : Responds p kind opcode response expected timeout after) : Tidy after air := by
  cases responds with
  | silent => exact tidy
  | refused error =>
    obtain ⟨slots,contexts⟩ := unheld _ (Or.inr rfl)
    exact answeredTidy (allocatedTidy tidy) slots contexts _
  | answered form idle exclusive put queued =>
    subst put
    exact postedTidy tidy unheld rfl (Or.inr rfl)
  | failed => exact startedTidy tidy unheld rfl

theorem indicatedTidy (tidy : Tidy p air) (unheld : Unheld p) {kind opcode instant after}
    (started : p.startRemoteInstantProcedure kind opcode instant = (after,none)) : Tidy after air := by
  obtain ⟨c,_,_,_,token,_,_,rfl⟩ := instantStarted started
  exact startedTidy tidy unheld token

theorem requestedTidy (tidy : Tidy p air) (unheld : Unheld p) {kind request expected timeout result}
    (starts : Starts p kind request expected timeout result) : Tidy result.1 air := by
  cases starts with
  | silent => exact tidy
  | busy => exact allocatedTidy tidy
  | started form idle put queued =>
    subst put
    exact postedTidy tidy unheld rfl (Or.inl rfl)
  | failed => exact startedTidy tidy unheld rfl

end Operations

/-! Which Control PDUs fail a procedure. -/

/- The Host's request is abandoned, and with it the local procedure. -/
def Abandons (o : Ownership) (payload : List UInt8) : Prop :=
  o.request.isSome = true ∧
    (payload = [0x07,0x0f] ∨ (∃ code, payload = [0x11,0x0f,code]) ∨
      (∃ m, ChannelMapInd.parse payload o.counter = .ok m) ∧ o.map = none ∨
      (∃ r, ConnectionParamPdu.parseRequest payload o.counter = .ok r) ∧ o.map = none ∧ o.update = none)

/- The Central rejects the answer to its own request. -/
def RejectsAnswer (payload : List UInt8) : Prop := ∃ code, payload = [0x11,0x10,code]

/- What a handler's calls say about the procedures it failed. -/
inductive Tells (c : ActiveConnection) (payload : List UInt8) (handled : Handled) : Prop where
  | quiet (calls : handled.calls = [])
  | abandoned (why : Abandons (owned c) payload) (request : handled.control.localConnectionParamRequest = none)
  | rejected (why : RejectsAnswer payload)
      (request : handled.control.localConnectionParamRequest = c.localConnectionParamRequest)

section Tells
variable (c : ActiveConnection) (payload : List UInt8)

theorem updateTells : Tells c payload (handleConnectionUpdateInd c payload) := by
  unfold handleConnectionUpdateInd
  dsimp only
  split
  · split_ifs <;> (try split) <;> exact .quiet rfl
  · exact .quiet rfl
  · exact .quiet rfl

theorem droppedRequest (error) :
    (dropLocalRequest c c.toControlPlane error).control.localConnectionParamRequest = none := by
  have same := failView c.toEventTiming {c.toControlPlane with localConnectionParamRequest := none} .localSide error
  exact congrArg Ownership.request same

theorem mapTells : Tells c payload (handleChannelMapInd c payload) := by
  unfold handleChannelMapInd
  dsimp only
  cases parsed : ChannelMapInd.parse payload c.eventCounter with
  | error e => cases e <;> exact .quiet rfl
  | ok update =>
    dsimp only
    by_cases free : c.pendingChannelMap.isNone = true
    · rw [if_pos free]
      by_cases asked : c.localConnectionParamRequest.isSome = true
      · rw [if_pos asked]
        have why : Abandons (owned c) payload :=
          ⟨asked,Or.inr (Or.inr (Or.inl ⟨⟨update,parsed⟩,Option.isNone_iff_eq_none.mp free⟩))⟩
        have request := droppedRequest c
          (procedureCollisionError .connectionParametersRequest .channelMapUpdate)
        split
        · rename_i started
          rw [instantRefused started]
          exact .abandoned why request
        · rename_i started
          obtain ⟨_,_,_,_,_,_,_,rfl⟩ := instantStarted started
          exact .abandoned why request
      · rw [if_neg asked]
        split <;> exact .quiet rfl
    · rw [if_neg free]
      exact .quiet rfl

theorem unknownTells (form : payload.length = 2) (opcode : octet payload 0 = 0x07) :
    Tells c payload (handleUnknownRsp c payload) := by
  unfold handleUnknownRsp
  dsimp only
  split
  · rename_i refused
    match payload,form with
    | [first,second],_ =>
      have first' : first = 0x07 := opcode
      have second' : second = 0x0f := refused.1
      subst first' second'
      exact .abandoned ⟨refused.2,Or.inl rfl⟩ (droppedRequest c _)
  · exact .quiet rfl

theorem rejectTells {request code : UInt8} (form : payload = [0x11,request,code]) :
    Tells c payload (handleRejectExtInd c payload) := by
  subst form
  unfold handleRejectExtInd
  dsimp only
  split
  · rename_i refused
    have first : request = 0x0f := refused.1
    subst first
    exact .abandoned ⟨refused.2,Or.inr (Or.inl ⟨code,rfl⟩)⟩ (droppedRequest c _)
  · split
    · rename_i refused
      have first : request = 0x10 := refused.1
      subst first
      exact .rejected ⟨code,rfl⟩ (congrArg Ownership.request (failView c.toEventTiming c.toControlPlane _ _))
    · exact .quiet rfl

theorem parameterTells : Tells c payload (handleConnectionParamReq c payload) := by
  unfold handleConnectionParamReq
  dsimp only
  cases parsed : ConnectionParamPdu.parseRequest payload c.eventCounter with
  | error e => exact .quiet rfl
  | ok request =>
    dsimp only
    by_cases map : c.pendingChannelMap.isSome = true
    · rw [if_pos map]
      exact .quiet rfl
    rw [if_neg map]
    by_cases update : c.pendingConnectionUpdate.isSome = true
    · rw [if_pos update]
      exact .quiet rfl
    rw [if_neg update]
    dsimp only
    by_cases asked : c.localConnectionParamRequest.isSome = true
    · rw [if_pos asked]
      have why : Abandons (owned c) payload :=
        ⟨asked,Or.inr (Or.inr (Or.inr ⟨⟨request,parsed⟩,Option.not_isSome_iff_eq_none.mp map,
          Option.not_isSome_iff_eq_none.mp update⟩))⟩
      obtain ⟨procedures,same⟩ := respondView c.toEventTiming (responseResponds
        (dropLocalRequest c c.toControlPlane requestCollision).control .connectionParameters 0x0f
        (request.write ConnectionParamPdu.responseOpcode) (some 0x00) (some procedureResponseTimeoutUs))
      exact .abandoned why ((congrArg Ownership.request same).trans (droppedRequest c requestCollision))
    · rw [if_neg asked]
      exact .quiet rfl

theorem controlTells : Tells c payload (handleLlControl c payload) := by
  have path := controlDispatches c payload
  generalize handleLlControl c payload = handled at path ⊢
  cases path with
  | empty => exact .quiet rfl
  | update => exact updateTells c _
  | map => exact mapTells c _
  | terminated => exact .quiet rfl
  | malformed => exact .quiet rfl
  | unknown => exact unknownTells c _ rfl rfl
  | reject => exact rejectTells c _ rfl
  | answered => exact .quiet rfl
  | parameters => exact parameterTells c _
  | refused => exact .quiet rfl

end Tells

/- No PDU in a slot belongs to the procedure on this side. -/
def Spared (p : ControlPlane) (side : ProcedureInitiator) : Prop :=
  ∀ c pdu, p.procedures.context side = some c → Holds p pdu → ¬Belongs c pdu

section Handled
variable {c : ActiveConnection} {payload : List UInt8} {air : Progress}

theorem answeredSpared {p : ControlPlane} (tidy : Tidy p air) {side own} (held : p.procedures.context side = some own)
    (other : ¬own.Sendable) (other' : own.phase ≠ .awaitingTxAck) : ∀ pdu, Holds p pdu → ¬Belongs own pdu := by
  intro pdu holds mine
  rcases heldPhase tidy holds held mine with ready | waiting
  · exact other ready
  · exact other' waiting

theorem clearedTidy (tidy : Tidy c.toControlPlane air)
    (spared : c.localConnectionParamRequest.isSome = true → Spared c.toControlPlane .localSide) (error) :
    Tidy (cleared c error).control air := by
  unfold cleared
  split
  · rename_i asked
    have dropped : Tidy {c.toControlPlane with localConnectionParamRequest := none} air :=
      ⟨tidy.single,tidy.first,tidy.second,tidy.apart,tidy.sides,tidy.present⟩
    exact failedTidy dropped (spared asked)
  · exact tidy

theorem failedDescends (p : ControlPlane) (side error) : Descends p (p.failProcedure side error) := by
  cases held : p.procedures.context side with
  | none =>
    rw [failMissing held]
    exact ⟨fun _ holds => holds,fun _ own present => ⟨own,present,rfl,rfl⟩,rfl⟩
  | some own =>
    rw [failHeld held]
    refine ⟨fun _ holds => holds,?_,rfl⟩
    intro i x present
    have present : (p.procedures.put side (abandoned own error)).context i = some x := present
    rw [contextPut] at present
    split at present
    · rename_i mine
      cases present
      exact ⟨own,by rw [mine,held],rfl,rfl⟩
    · exact ⟨x,present,rfl,rfl⟩

theorem clearedDescends (error) : Descends c.toControlPlane (cleared c error).control := by
  unfold cleared
  split
  · have dropped := failedDescends {c.toControlPlane with localConnectionParamRequest := none} .localSide error
    exact ⟨dropped.slots,dropped.contexts,dropped.next⟩
  · exact ⟨fun _ holds => holds,fun _ own present => ⟨own,present,rfl,rfl⟩,rfl⟩

theorem abandonedWhy {handled : Handled} (tells : Tells c payload handled) (calls : handled.calls ≠ [])
    (asked : c.localConnectionParamRequest.isSome = true)
    (request : handled.control.localConnectionParamRequest = none) : Abandons (owned c) payload := by
  cases tells with
  | quiet silent => exact absurd silent calls
  | abandoned why => exact why
  | rejected why same =>
    rw [same] at request
    rw [request] at asked
    cases asked

/- The handlers keep the books, unless they fail a procedure with a PDU in a slot. -/
theorem handledTidy (tidy : Tidy c.toControlPlane air) (unheld : Unheld c.toControlPlane)
    (own : Abandons (owned c) payload → Spared c.toControlPlane .localSide)
    (other : RejectsAnswer payload → c.remoteConnectionParametersActive = true →
      Spared c.toControlPlane .remoteSide) :
    Tidy (handleLlControl c payload).control air := by
  have path := controlHandles c payload
  have tells := controlTells c payload
  generalize handleLlControl c payload = handled at path tells ⊢
  -- the two colliding requests start by abandoning the Host's own
  have clearing : ∀ {error}, handled.calls = (cleared c error).calls →
      handled.control.localConnectionParamRequest = none → Tidy (cleared c error).control air := by
    intro error calls request
    refine clearedTidy tidy (fun asked => own (abandonedWhy tells ?_ asked request)) error
    rw [calls,cleared,if_pos asked]
    exact List.cons_ne_nil _ _
  cases path with
  | ignored => exact tidy
  | ended => exact tidy
  | refused answer =>
    exact answeredTidy tidy (fun _ holds => freshSlots unheld holds) (fun _ _ held => freshContexts unheld held) _
  | @dropped error asked code =>
    have dropping : cleared c error = dropLocalRequest c c.toControlPlane error := if_pos asked
    rw [← dropping]
    exact clearedTidy tidy (fun _ => own (abandonedWhy tells (List.cons_ne_nil _ _) asked
      (droppedRequest c error))) error
  | @rejected error active =>
    refine failedTidy tidy (other ?_ active)
    cases tells with
    | quiet silent => cases silent
    | abandoned why request =>
      have kept : (c.failProcedure .remoteSide error).localConnectionParamRequest = c.localConnectionParamRequest :=
        congrArg Ownership.request (failView c.toEventTiming c.toControlPlane .remoteSide error)
      have asked : c.localConnectionParamRequest.isSome = true := why.1
      rw [← kept,show (c.failProcedure .remoteSide error).localConnectionParamRequest = none from request] at asked
      cases asked
    | rejected why => exact why
  | responded plain responds => exact respondedTidy tidy unheld responds
  | requested responds =>
    obtain ⟨procedures,same⟩ := respondView c.toEventTiming responds
    have request := (congrArg Ownership.request same).trans (clearedFree c requestCollision).1
    exact respondedTidy (clearing rfl request) (unheldKept (clearedDescends _) unheld) responds
  | @updateAnswered update i procedures parsed free owner answer =>
    obtain ⟨own,held,waiting,rfl⟩ := answeredDone answer
    have spared : ∀ pdu, Holds c.toControlPlane pdu → ¬Belongs own pdu :=
      answeredSpared tidy held (by simp [ProcedureContext.Sendable,waiting]) (by simp [waiting])
    have answered := movedTidy (x := {own with instant := some update.instant,phase := .awaitingInstant})
      tidy held rfl spared
    exact ⟨answered.single,answered.first,answered.second,answered.apart,answered.sides,answered.present⟩
  | updateIndicated parsed free unrequested started =>
    have indicated := indicatedTidy tidy unheld started
    exact ⟨indicated.single,indicated.first,indicated.second,indicated.apart,indicated.sides,indicated.present⟩
  | updateCollided => exact allocatedTidy tidy
  | @mapStored update after parsed free started =>
    have request : after.localConnectionParamRequest = none := by
      obtain ⟨_,_,_,_,_,_,_,rfl⟩ := instantStarted started
      exact (clearedFree c mapCollision).1
    have indicated := indicatedTidy (clearing rfl request) (unheldKept (clearedDescends _) unheld) started
    exact ⟨indicated.single,indicated.first,indicated.second,indicated.apart,indicated.sides,indicated.present⟩
  | mapCollided => exact allocatedTidy (clearing rfl (clearedFree c mapCollision).1)

end Handled

/-! The three bookkeeping calls. -/

section Calls
variable {p : ControlPlane} {air : Progress}

theorem ownerFound {token : UInt32} {side own} (found : p.procedureForControlOwner token = some (side,own)) :
    ∃ c, p.procedures.context side = some c ∧ c.token = own ∧ c.token.ownerToken = token := by
  unfold ControlPlane.procedureForControlOwner at found
  split at found
  · rename_i c present
    cases found
    obtain ⟨held,mine⟩ := Option.filter_eq_some_iff.mp present
    exact ⟨c,held,rfl,by simpa using mine⟩
  · split at found
    · rename_i c present
      cases found
      obtain ⟨held,mine⟩ := Option.filter_eq_some_iff.mp present
      exact ⟨c,held,rfl,by simpa using mine⟩
    · cases found

theorem ownerMissing {token : UInt32} (missing : p.procedureForControlOwner token = none) :
    ∀ side c, p.procedures.context side = some c → c.token.ownerToken ≠ token := by
  intro side c held same
  unfold ControlPlane.procedureForControlOwner at missing
  cases side with
  | localSide =>
    have held : p.procedures.localSide = some c := held
    simp [held,Option.filter_some,same] at missing
  | remoteSide =>
    have held : p.procedures.remoteSide = some c := held
    simp only [held,Option.filter_some,same,beq_self_eq_true,if_true] at missing
    split at missing <;> cases missing

/- A call on the PDU in `pending_control` finds no procedure, or one in the phase it expects. -/
theorem pendingActs {g : ProcedureInitiator → ProcedureToken → Except ProcedureError ProcedureManager}
    {f : ProcedureContext → ProcedureContext} {pdu : PendingData} (pending : p.pendingControl = some pdu)
    (accepts : ∀ side c, p.procedures.context side = some c → Belongs c pdu →
      g side c.token = .ok (p.procedures.put side (f c))) :
    p.onPendingProcedure g = some p ∧ (∀ side c, p.procedures.context side = some c → ¬Belongs c pdu) ∨
    ∃ side c, p.procedures.context side = some c ∧ Belongs c pdu ∧
      p.onPendingProcedure g = some {p with procedures := p.procedures.put side (f c)} := by
  unfold ControlPlane.onPendingProcedure
  simp only [pending]
  cases owner : p.procedureForControlOwner pdu.ownerToken with
  | none => exact Or.inl ⟨rfl,ownerMissing owner⟩
  | some pair =>
    obtain ⟨side,token⟩ := pair
    obtain ⟨c,held,rfl,mine⟩ := ownerFound owner
    refine Or.inr ⟨side,c,held,mine,?_⟩
    simp only [accepts side c held mine]

theorem putSame {s : ProcedureManager} {side c} (held : s.context side = some c) : s.put side c = s := by
  cases side with
  | localSide => exact congrArg (fun own => {s with localSide := own}) held.symm
  | remoteSide => exact congrArg (fun remote => {s with remoteSide := remote}) held.symm

theorem readyFirst (tidy : Tidy p air) (early : air ≠ .out) {pdu side c} (pending : p.pendingControl = some pdu)
    (held : p.procedures.context side = some c) (mine : Belongs c pdu) : c.Sendable := by
  have phase := tidy.first pdu side c pending held mine
  cases air with
  | waiting => exact phase
  | chosen => exact phase
  | out => exact absurd rfl early

/- Nothing is on air: what is chosen to be air next is free. -/
theorem rechosenTidy (tidy : Tidy p air) (early : air ≠ .out) {next : Progress} (early' : next ≠ .out)
    (present : next ≠ .waiting → p.pendingControl.isSome = true) : Tidy p next := by
  refine ⟨tidy.single,?_,tidy.second,tidy.apart,tidy.sides,present⟩
  intro pdu side c pending held mine
  have ready := readyFirst tidy early pending held mine
  cases next with
  | waiting => exact ready
  | chosen => exact ready
  | out => exact absurd rfl early'

theorem plannedTidy (tidy : Tidy p air) (early : air ≠ .out) : p.planPendingControlProcedure = some p := by
  cases pending : p.pendingControl with
  | none => simp [ControlPlane.planPendingControlProcedure,ControlPlane.onPendingProcedure,pending]
  | some pdu =>
    have accepts : ∀ side c, p.procedures.context side = some c → Belongs c pdu →
        p.procedures.txPlanned side c.token = .ok (p.procedures.put side (id c)) := by
      intro side c held mine
      have ready : c.Sendable := readyFirst tidy early pending held mine
      simp [ProcedureManager.txPlanned,ProcedureManager.contextMut,held,ready]
    rcases pendingActs pending accepts with ⟨done,_⟩ | ⟨side,c,held,_,done⟩
    · exact done
    · rw [id,putSame held] at done
      exact done

/- Bookkeeping keeps the tokens and kinds of the procedures. -/
theorem putDescends {side c new} (held : p.procedures.context side = some c) (token : new.token = c.token)
    (kind : new.kind = c.kind) : Descends p {p with procedures := p.procedures.put side new} := by
  refine ⟨fun _ holds => holds,?_,rfl⟩
  intro i x present
  have present : (p.procedures.put side new).context i = some x := present
  rw [contextPut] at present
  split at present
  · rename_i mine
    cases present
    exact ⟨c,by rw [mine,held],token,kind⟩
  · exact ⟨x,present,rfl,rfl⟩

theorem descendsSelf (p : ControlPlane) : Descends p p :=
  ⟨fun _ holds => holds,fun _ own present => ⟨own,present,rfl,rfl⟩,rfl⟩

/- The procedure of the PDU in `pending_control` moves: no other belongs to that PDU, and none
of those with a PDU in the queue has moved. -/
theorem ownerMoved (tidy : Tidy p air) {pdu side own x} (pending : p.pendingControl = some pdu)
    (held : p.procedures.context side = some own) (mine : Belongs own pdu) (token : x.token = own.token) :
    (∀ i c, (p.procedures.put side x).context i = some c → Belongs c pdu → c = x) ∧
    (∀ queued i c, p.queuedControl = some queued → (p.procedures.put side x).context i = some c →
      Belongs c queued → c.Sendable) ∧
    (∀ a b, (p.procedures.put side x).localSide = some a → (p.procedures.put side x).remoteSide = some b →
      a.token.ownerToken ≠ b.token.ownerToken) := by
  refine ⟨?_,?_,?_⟩
  · intro i c present belongs
    rw [contextPut] at present
    split at present
    · cases present
      rfl
    · rename_i other
      exact absurd (belongs.trans mine.symm) (otherSide tidy held other present)
  · intro queued i c slot present belongs
    rw [contextPut] at present
    split at present
    · cases present
      rw [Belongs,token] at belongs
      exact absurd (mine.symm.trans belongs) (tidy.apart pdu queued pending slot)
    · exact tidy.second queued i c slot present belongs
  · refine sidesPut ?_
    intro i c other present
    rw [token]
    exact otherSide tidy held other present

theorem completedTidy (tidy : Tidy p .chosen) :
    ∃ after, p.completePendingControlTransmit = some after ∧ Tidy after .out ∧ Descends p after ∧
      after.pendingControl = p.pendingControl ∧ after.queuedControl = p.queuedControl := by
  have present := tidy.present (by decide)
  obtain ⟨pdu,pending⟩ := Option.isSome_iff_exists.mp present
  have accepts : ∀ side c, p.procedures.context side = some c → Belongs c pdu →
      p.procedures.txDone side c.token = .ok (p.procedures.put side {c with phase := .awaitingTxAck}) := by
    intro side c held mine
    have ready : c.Sendable := tidy.first pdu side c pending held mine
    simp [ProcedureManager.txDone,ProcedureManager.contextMut,held,ready]
  rcases pendingActs (f := fun c => {c with phase := .awaitingTxAck}) pending accepts with
    ⟨done,nobody⟩ | ⟨side,own,held,mine,done⟩
  · refine ⟨p,done,⟨tidy.single,?_,tidy.second,tidy.apart,tidy.sides,fun _ => present⟩,descendsSelf p,
      rfl,rfl⟩
    intro pdu' side c pending' held mine
    rw [pending] at pending'
    cases pending'
    exact absurd mine (nobody side c held)
  · refine ⟨_,done,?_,putDescends held rfl rfl,rfl,rfl⟩
    obtain ⟨first,second,sides⟩ := ownerMoved (x := {own with phase := .awaitingTxAck}) tidy pending held mine rfl
    refine ⟨tidy.single,?_,second,tidy.apart,sides,fun _ => present⟩
    intro pdu' i c pending' held' mine'
    have pending' : p.pendingControl = some pdu' := pending'
    rw [pending] at pending'
    cases pending'
    rw [first i c held' mine']
    rfl

/- What a release leaves in the slots. -/
def released (p : ControlPlane) : ControlPlane := {p with pendingControl := p.queuedControl,queuedControl := none}

theorem releasedTidy {procedures : ProcedureManager} (tidy : Tidy p air)
    (second : ∀ pdu side c, p.queuedControl = some pdu → procedures.context side = some c → Belongs c pdu →
      c.Sendable)
    (sides : ∀ a b, procedures.localSide = some a → procedures.remoteSide = some b →
      a.token.ownerToken ≠ b.token.ownerToken) :
    Tidy (released {p with procedures := procedures}) .waiting :=
  ⟨tidy.single,second,fun _ _ _ wrong => (nomatch wrong),fun _ _ _ wrong => (nomatch wrong),sides,
    fun wrong => absurd rfl wrong⟩

theorem releasedDescends (p : ControlPlane) : Descends p (released p) := by
  refine ⟨?_,fun _ own present => ⟨own,present,rfl,rfl⟩,rfl⟩
  intro pdu holds
  rcases holds with first | second
  · exact Or.inr first
  · cases second

theorem afterAckToken (c : ProcedureContext) (nowUs : Nat) :
    (c.afterAck nowUs).token = c.token ∧ (c.afterAck nowUs).kind = c.kind := by
  unfold ProcedureContext.afterAck
  split_ifs <;> exact ⟨rfl,rfl⟩

theorem acknowledgedTidy (tidy : Tidy p .out) (nowUs : Nat) :
    ∃ after, p.acknowledgePendingControl nowUs = some after ∧ Tidy (released after) .waiting ∧ Descends p after ∧
      after.priorityControl = none ∧ after.queuedControl = p.queuedControl := by
  obtain ⟨pdu,pending⟩ := Option.isSome_iff_exists.mp (tidy.present (by decide))
  have accepts : ∀ side c, p.procedures.context side = some c → Belongs c pdu →
      p.procedures.nesnAck side c.token nowUs = .ok (p.procedures.put side (c.afterAck nowUs)) := by
    intro side c held mine
    have waiting : c.phase = .awaitingTxAck := tidy.first pdu side c pending held mine
    simp [ProcedureManager.nesnAck,ProcedureManager.contextMut,held,waiting]
  rcases pendingActs (g := fun side token => p.procedures.nesnAck side token nowUs)
    (f := fun c => c.afterAck nowUs) pending accepts with
    ⟨done,_⟩ | ⟨side,own,held,mine,done⟩
  · exact ⟨p,done,releasedTidy tidy tidy.second tidy.sides,descendsSelf p,tidy.single,rfl⟩
  · obtain ⟨token,kind⟩ := afterAckToken own nowUs
    obtain ⟨_,second,sides⟩ := ownerMoved tidy pending held mine token
    exact ⟨_,done,releasedTidy tidy second sides,putDescends held token kind,tidy.single,rfl⟩

end Calls

/-! Instants. -/

theorem eventContext (s : ProcedureManager) (counter error) (side) :
    (s.onConnectionEvent counter error).context side =
      (s.context side).map (ProcedureContext.onConnectionEvent counter error) := by
  cases side <;> rfl

theorem eventMoves (c : ProcedureContext) (counter error) :
    (c.onConnectionEvent counter error = c ∨ c.phase = .awaitingInstant) ∧
      (c.onConnectionEvent counter error).token = c.token ∧ (c.onConnectionEvent counter error).kind = c.kind := by
  unfold ProcedureContext.onConnectionEvent
  split
  · exact ⟨Or.inl rfl,rfl,rfl⟩
  · rename_i waiting
    have phase : c.phase = .awaitingInstant := not_not.mp waiting
    split
    · exact ⟨Or.inl rfl,rfl,rfl⟩
    · split <;> exact ⟨Or.inr phase,rfl,rfl⟩

theorem settledTidy {c after : ActiveConnection} {now notify air} (tidy : Tidy c.toControlPlane air)
    (ok : c.settleInstants now = .ok (after,notify)) :
    Tidy after.toControlPlane air ∧ Descends c.toControlPlane after.toControlPlane := by
  obtain ⟨channels,request,window,deadline,map,update,asked,rfl⟩ := settleShape ok
  have came : ∀ side x, (c.procedures.onConnectionEvent c.eventCounter 0x28).context side = some x →
      ∃ before, c.procedures.context side = some before ∧ x = before.onConnectionEvent c.eventCounter 0x28 := by
    intro side x present
    rw [eventContext] at present
    obtain ⟨before,held,moved⟩ := Option.map_eq_some_iff.mp present
    exact ⟨before,held,moved.symm⟩
  have swept : Tidy {c.toControlPlane with
      procedures := c.procedures.onConnectionEvent c.eventCounter 0x28} air := by
    refine tidyProcedures tidy ?_ ?_
    · intro side x present
      obtain ⟨before,held,rfl⟩ := came side x present
      obtain ⟨same | waiting,token,_⟩ := eventMoves before c.eventCounter 0x28
      · rw [same]
        exact Or.inl held
      · refine Or.inr fun pdu holds mine => ?_
        rw [Belongs,token] at mine
        exact answeredSpared tidy held (by simp [ProcedureContext.Sendable,waiting]) (by simp [waiting]) pdu holds mine
    · intro a b own remote
      obtain ⟨a',held,rfl⟩ := came .localSide a own
      obtain ⟨b',held',rfl⟩ := came .remoteSide b remote
      rw [(eventMoves a' _ _).2.1,(eventMoves b' _ _).2.1]
      exact tidy.sides a' b' held held'
  refine ⟨⟨swept.single,swept.first,swept.second,swept.apart,swept.sides,swept.present⟩,fun _ holds => holds,?_,rfl⟩
  intro side x present
  obtain ⟨before,held,rfl⟩ := came side x present
  exact ⟨before,held,(eventMoves before _ _).2⟩

end Ch58xHal.ControlSlots
