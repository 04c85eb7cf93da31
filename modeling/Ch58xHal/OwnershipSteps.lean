import Mathlib.Logic.Relation
import Ch58xHal.DataPlane

/-! The connection refines the ownership machine: every block of the code is a path of
shifts. -/
namespace Ch58xHal.OwnershipSteps
open ControlPdu Llcp LlcpSteps Connection ConnectionEvent ConnectionRun ControlHandlers DataPlane InstantOwners
open Machines

/- From one ownership to a later one. -/
abbrev Walks : Ownership → Ownership → Prop := Relation.ReflTransGen Shift

theorem walkKept {o o' : Ownership} (walk : Walks o o') (known : Consistent o) : Consistent o' := by
  induction walk with
  | refl => exact known
  | tail _ shift ih => exact shiftKept shift ih

/- Only the procedures moved. -/
def Calm (o o' : Ownership) : Prop := Walks o o' ∧ ∃ procedures, o' = {o with procedures := procedures}

theorem calmHere (o : Ownership) : Calm o o := ⟨.refl,o.procedures,rfl⟩

theorem calmTrans {o o' o'' : Ownership} (first : Calm o o') (second : Calm o' o'') : Calm o o'' := by
  obtain ⟨walk,_,rfl⟩ := first
  obtain ⟨walk',procedures,rfl⟩ := second
  exact ⟨walk.trans walk',procedures,rfl⟩

/-! Views of the control plane. -/

def view (t : EventTiming) (p : ControlPlane) : Ownership :=
  ⟨p.procedures,p.pendingConnectionUpdate,p.pendingChannelMap,p.localConnectionParamRequest,t.eventCounter,
    ⟨t.request.windowSize,t.request.windowOffset,t.request.interval,t.request.latency,
      t.request.supervisionTimeout⟩,t.channels.map⟩

def owned (c : ActiveConnection) : Ownership := view c.toEventTiming c.toControlPlane

def resultStatus : HostCall → Option UInt8
  | .event code params => if code = 0x3e ∧ params.head? = some 0x03 then params[1]? else none
  | _ => none

def results (calls : List HostCall) : List UInt8 := calls.filterMap resultStatus

section Queues
variable (t : EventTiming) (p : ControlPlane)

theorem allocateView : view t p.allocateControlToken.1 = view t p := rfl

theorem queueTokenView (bytes token) : view t (p.queueControlWithToken bytes token).1 = view t p := by
  unfold ControlPlane.queueControlWithToken
  split
  · dsimp only
    split_ifs <;> rfl
  · rfl

theorem queueControlView (bytes) : view t (p.queueControl bytes).1 = view t p := by
  unfold ControlPlane.queueControl ControlPlane.queueControlOwned
  exact queueTokenView t _ _ _

theorem failView (side error) :
    view t (p.failProcedure side error) = {view t p with procedures := failSide p.procedures side error} := by
  unfold ControlPlane.failProcedure failSide
  cases p.procedures.fail side error <;> rfl

end Queues

/-! Bookkeeping of the PDU on air. -/

theorem txPlannedAdvances {s after : ProcedureManager} {side token} (ok : s.txPlanned side token = .ok after) :
    ∃ c c', s.context side = some c ∧ Advance c c' ∧ after = s.put side c' := by
  unfold ProcedureManager.txPlanned ProcedureManager.contextMut at ok
  cases held : s.context side with
  | none => simp [held] at ok
  | some c =>
    simp only [held] at ok
    split_ifs at ok
    cases ok
    exact ⟨c,c,rfl,.planned,rfl⟩

theorem txDoneAdvances {s after : ProcedureManager} {side token} (ok : s.txDone side token = .ok after) :
    ∃ c c', s.context side = some c ∧ Advance c c' ∧ after = s.put side c' := by
  unfold ProcedureManager.txDone ProcedureManager.contextMut at ok
  cases held : s.context side with
  | none => simp [held] at ok
  | some c =>
    simp only [held] at ok
    split_ifs at ok with stale ready
    cases ok
    exact ⟨c,_,rfl,.sent ready,rfl⟩

theorem nesnAckAdvances {s after : ProcedureManager} {side token now}
    (ok : s.nesnAck side token now = .ok after) :
    ∃ c c', s.context side = some c ∧ Advance c c' ∧ after = s.put side c' := by
  unfold ProcedureManager.nesnAck ProcedureManager.contextMut at ok
  cases held : s.context side with
  | none => simp [held] at ok
  | some c =>
    simp only [held] at ok
    split_ifs at ok with stale waiting
    cases ok
    exact ⟨c,_,rfl,.acknowledged now (not_not.mp waiting),rfl⟩

theorem pendingCalm {t : EventTiming} {p after : ControlPlane} {act}
    (advances : ∀ side token procedures, act side token = .ok procedures →
      ∃ c c', p.procedures.context side = some c ∧ Advance c c' ∧ procedures = p.procedures.put side c')
    (ok : p.onPendingProcedure act = some after) : Calm (view t p) (view t after) := by
  unfold ControlPlane.onPendingProcedure at ok
  split at ok
  · cases ok
    exact calmHere _
  · split at ok
    · cases ok
      exact calmHere _
    · split at ok
      · cases ok
      · rename_i side token _ _ procedures done
        cases ok
        obtain ⟨c,c',held,move,rfl⟩ := advances side token procedures done
        exact ⟨.single (.advanced (o := view t p) held move),_,rfl⟩

/-! Remote procedures. -/

theorem respondWalk (t : EventTiming) {p after : ControlPlane} {kind opcode response expected timeout}
    (responds : Responds p kind opcode response expected timeout after)
    (plain : kind.instantProcedure = none ∨ kind = .connectionParameters ∧ expected.isSome = true) :
    Walks (view t p) (view t after) := by
  cases responds with
  | silent empty => exact .refl
  | refused error =>
    rw [queueControlView,allocateView]
  | @answered _ first rest form idle exclusive put queued =>
    rw [queueTokenView,put]
    refine .single (.responding (o := view t p) idle rfl (Or.inl rfl) ?_)
    rcases plain with other | ⟨parameters,expects⟩
    · exact Or.inl other
    · exact Or.inr ⟨parameters,expects,exclusive (by rw [parameters]; rfl)⟩
  | @failed first rest form idle exclusive =>
    refine .single (.responding (o := view t p) idle rfl (Or.inr rfl) ?_)
    rcases plain with other | ⟨parameters,expects⟩
    · exact Or.inl other
    · exact Or.inr ⟨parameters,expects,exclusive (by rw [parameters]; rfl)⟩

/- Only the procedures, whatever becomes of the response. -/
theorem respondView (t : EventTiming) {p after : ControlPlane} {kind opcode response expected timeout}
    (responds : Responds p kind opcode response expected timeout after) :
    ∃ procedures, view t after = {view t p with procedures := procedures} := by
  cases responds with
  | silent => exact ⟨_,rfl⟩
  | refused error => exact ⟨_,queueControlView t p.allocateControlToken.1 _⟩
  | answered form idle exclusive put queued => exact ⟨_,queueTokenView t _ _ _⟩
  | failed => exact ⟨_,rfl⟩

theorem startView (t : EventTiming) {p : ControlPlane} {kind request expected timeout result}
    (starts : Starts p kind request expected timeout result) :
    ∃ procedures, view t result.1 = {view t p with procedures := procedures} := by
  cases starts with
  | silent => exact ⟨_,rfl⟩
  | busy => exact ⟨_,rfl⟩
  | started form idle put queued => exact ⟨_,queueTokenView t _ _ _⟩
  | failed => exact ⟨_,rfl⟩

/-! Received Control PDUs. -/

theorem dropWalk (c : ActiveConnection) {error} (outstanding : c.localConnectionParamRequest.isSome = true) :
    Walks (owned c) (view c.toEventTiming (dropLocalRequest c c.toControlPlane error).control) := by
  unfold dropLocalRequest
  rw [failView]
  exact .single (.dropped (o := owned c) outstanding)

theorem clearWalk (c : ActiveConnection) (error : UInt8) :
    Walks (owned c) (view c.toEventTiming (cleared c error).control) := by
  unfold cleared
  split
  · rename_i asked
    exact dropWalk c asked
  · exact .refl

theorem clearedView (c : ActiveConnection) (error : UInt8) :
    ∃ procedures, view c.toEventTiming (cleared c error).control =
      {owned c with procedures := procedures,request := none} := by
  unfold cleared
  split
  · exact ⟨_,failView c.toEventTiming {c.toControlPlane with localConnectionParamRequest := none} .localSide error⟩
  · rename_i asked
    have free : c.localConnectionParamRequest = none := by simpa using asked
    refine ⟨c.procedures,?_⟩
    rw [← free]
    rfl

theorem clearedFree (c : ActiveConnection) (error : UInt8) :
    (cleared c error).control.localConnectionParamRequest = none ∧
      (cleared c error).control.pendingChannelMap = c.pendingChannelMap := by
  obtain ⟨procedures,same⟩ := clearedView c error
  exact ⟨congrArg Ownership.request same,congrArg Ownership.map same⟩

theorem parametersKind {p : ControlPlane} {c} (active : p.remoteConnectionParametersActive = true)
    (held : p.procedures.remoteSide = some c) : c.kind = .connectionParameters := by
  rw [ControlPlane.remoteConnectionParametersActive,held] at active
  simp only [Option.any_some,Bool.and_eq_true,beq_iff_eq] at active
  exact active.1

section Handlers
variable (c : ActiveConnection) (payload : List UInt8)

theorem answerWalk {update i procedures} (parsed : ConnectionUpdateInd.parse payload c.eventCounter = .ok update)
    (free : c.pendingConnectionUpdate = none) (owner : Answers c update i)
    (answer : c.procedures.expectedResponseWithInstant i 0x00 update.instant = .ok procedures) :
    Walks (owned c) (view c.toEventTiming {c.toControlPlane with
      procedures := procedures
      pendingConnectionUpdate := some update}) := by
  obtain ⟨own,held,waiting,rfl⟩ := answeredDone answer
  refine .single (.updateAnswered (o := owned c) free (parsedUpdate parsed).2 held waiting ?_)
  cases i with
  | localSide => exact Or.inl ⟨rfl,owner⟩
  | remoteSide => exact Or.inr ⟨rfl,owner.1,parametersKind owner.2 held⟩

theorem indicateWalk {update after} (parsed : ConnectionUpdateInd.parse payload c.eventCounter = .ok update)
    (free : c.pendingConnectionUpdate = none) (unrequested : c.localConnectionParamRequest = none)
    (started : c.startRemoteInstantProcedure .connectionUpdate 0x00 update.instant = (after,none)) :
    Walks (owned c) (view c.toEventTiming {after with pendingConnectionUpdate := some update}) := by
  obtain ⟨x,kind,phase,dated,_,idle,exclusive,rfl⟩ := instantStarted started
  exact .single (.updateIndicated (o := owned c) free unrequested (parsedUpdate parsed).2 idle
    (exclusive rfl) kind phase dated)

theorem storeWalk {update after} (parsed : ChannelMapInd.parse payload c.eventCounter = .ok update)
    (free : c.pendingChannelMap = none)
    (started : (cleared c mapCollision).control.startRemoteInstantProcedure .channelMapUpdate 0x01
      update.instant = (after,none)) :
    Walks (owned c) (view c.toEventTiming {after with pendingChannelMap := some update}) := by
  obtain ⟨unrequested,same⟩ := clearedFree c mapCollision
  obtain ⟨x,kind,phase,dated,_,idle,exclusive,rfl⟩ := instantStarted started
  have indicated := Shift.mapIndicated (o := view c.toEventTiming (cleared c mapCollision).control)
    (same.trans free) unrequested (parsedMap parsed).1 (parsedMap parsed).2 idle (exclusive rfl) kind
    phase dated
  exact (clearWalk c mapCollision).tail indicated

/- The step lemma of the received Control PDUs, also of those that end the connection. -/
theorem controlWalk : Walks (owned c) (view c.toEventTiming (handleLlControl c payload).control) := by
  have path := controlHandles c payload
  generalize handleLlControl c payload = handled at path ⊢
  cases path with
  | ignored => exact .refl
  | ended => exact .refl
  | refused =>
    rw [queueControlView]
    exact .refl
  | dropped asked => exact dropWalk c asked
  | rejected active =>
    rw [failView]
    exact .single (.rejected (o := owned c) active)
  | responded plain responds => exact respondWalk c.toEventTiming responds (Or.inl plain)
  | requested responds =>
    exact (clearWalk c requestCollision).trans (respondWalk c.toEventTiming responds (Or.inr ⟨rfl,rfl⟩))
  | updateAnswered parsed free owner answer => exact answerWalk c payload parsed free owner answer
  | updateIndicated parsed free unrequested started => exact indicateWalk c payload parsed free unrequested started
  | updateCollided => exact .refl
  | mapStored parsed free started => exact storeWalk c payload parsed free started
  | mapCollided => exact clearWalk c mapCollision

end Handlers

/-! Instants and the event counter. -/

theorem resultsNotify (c : ActiveConnection) (notify) :
    results (notifyHost c notify) = if notify then [0] else [] := by
  cases notify <;> rfl

theorem appliedMap {c after : ActiveConnection} (ok : c.applyChannelMap = .ok after) :
    owned after = {owned c with
      map := if (owned c).mapDue then none else c.pendingChannelMap
      channelMap := (owned c).settle.channelMap} := by
  unfold ActiveConnection.applyChannelMap at ok
  cases pending : c.pendingChannelMap with
  | none =>
    rw [pending] at ok
    cases ok
    simp [owned,view,Ownership.mapDue,Ownership.settle,pending]
  | some update =>
    simp only [pending] at ok
    by_cases now : update.instant = c.eventCounter
    · rw [if_pos now] at ok
      cases channels : c.channels.updateMap update.map with
      | none => simp [channels] at ok
      | some channels' =>
        have installed := (ChannelSelection.updatedMap channels).1
        rw [channels] at ok
        cases ok
        simp [owned,view,Ownership.mapDue,Ownership.settle,pending,now,installed]
    · rw [if_neg now] at ok
      cases ok
      simp [owned,view,Ownership.mapDue,Ownership.settle,pending,now]

theorem appliedUpdate (c : ActiveConnection) (now) :
    owned (c.applyConnectionUpdate now).1 =
        {owned c with
          update := if (owned c).updateDue then none else c.pendingConnectionUpdate
          parameters := (owned c).settle.parameters} ∧
      (c.applyConnectionUpdate now).2.1 = (owned c).updateDue ∧
      ((c.applyConnectionUpdate now).2.2 = true → (owned c).updateDue = true) := by
  unfold ActiveConnection.applyConnectionUpdate
  cases pending : c.pendingConnectionUpdate with
  | none => simp [owned,view,Ownership.updateDue,Ownership.settle,pending]
  | some update =>
    by_cases now : update.instant = c.eventCounter
    · simp [owned,view,Ownership.updateDue,Ownership.settle,parametersOf,pending,now,
        ActiveConnection.installUpdate]
    · simp [owned,view,Ownership.updateDue,Ownership.settle,pending,now]

theorem settleOwned {c after : ActiveConnection} {now notify} (ok : c.settleInstants now = .ok (after,notify)) :
    owned after = (owned c).settle ∧ (notify = true → (owned c).updateDue = true) ∧
      ((owned c).updateDue = true → c.localConnectionParamRequest.isSome = true → notify = true) := by
  unfold ActiveConnection.settleInstants ActiveConnection.applyInstants at ok
  cases mapped : c.applyChannelMap with
  | error reason => simp [mapped] at ok
  | ok middle =>
    have first := appliedMap mapped
    obtain ⟨second,applied,changed⟩ := appliedUpdate middle now
    have due : (owned middle).updateDue = (owned c).updateDue := by rw [first]; rfl
    have pending : middle.pendingConnectionUpdate = c.pendingConnectionUpdate := congrArg Ownership.update first
    rw [mapped] at ok
    obtain ⟨same,told⟩ := Prod.mk.inj (Except.ok.inj ok)
    generalize middle.applyConnectionUpdate now = updated at second applied changed same told
    have force : (owned middle).settle.parameters = (owned c).settle.parameters := by rw [first]; rfl
    rw [due,pending,force,first] at second
    rw [due] at applied changed
    have request : updated.1.localConnectionParamRequest = c.localConnectionParamRequest :=
      congrArg Ownership.request second
    have swept : owned {updated.1 with
        procedures := updated.1.procedures.onConnectionEvent updated.1.eventCounter 0x28} =
        {owned updated.1 with
          procedures := (owned updated.1).procedures.onConnectionEvent (owned updated.1).counter 0x28} := rfl
    refine ⟨?_,?_,?_⟩
    · rw [← same,applied]
      cases isDue : (owned c).updateDue with
      | true =>
        rw [if_pos rfl]
        show {owned {updated.1 with procedures := _} with request := none} = _
        rw [swept,second]
        simp only [Ownership.settle,isDue]
        rfl
      | false =>
        rw [if_neg Bool.false_ne_true,swept,second]
        simp only [Ownership.settle,isDue]
        rfl
    · rw [← told,applied]
      intro notified
      rcases Bool.or_eq_true_iff.mp notified with differs | requested
      · exact changed differs
      · exact (Bool.and_eq_true_iff.mp requested).1
    · intro isDue asked
      rw [← told,applied,isDue,request,asked]
      simp

theorem settleWalk {c after : ActiveConnection} {now notify}
    (ok : c.settleInstants now = .ok (after,notify)) : Walks (owned c) (owned after) := by
  rw [(settleOwned ok).1]
  exact .single .settled

theorem takenClear {α : Type} (due : α → Bool) (x : Option α) :
    (if x.any due then none else x).any due = false := by
  by_cases now : x.any due = true
  · rw [if_pos now]
    rfl
  · rw [if_neg now]
    exact Bool.eq_false_iff.mpr now

theorem settledClear (o : Ownership) : o.settle.updateDue = false ∧ o.settle.mapDue = false :=
  ⟨takenClear _ o.update,takenClear _ o.map⟩

theorem scheduleWalk {c : ActiveConnection} (updateClear : (owned c).updateDue = false)
    (mapClear : (owned c).mapDue = false) : Walks (owned c) (owned c.scheduleFollowingEvent) :=
  .single (.scheduled updateClear mapClear)

/- One turn of `skip_expired_events`. -/
theorem skipWalk {c after : ActiveConnection} {now notify} (ok : c.skipEvent now = .ok (after,notify)) :
    Walks (owned c) (owned after) := by
  obtain ⟨settled,settles,rfl⟩ := skipShape ok
  have clear := settledClear (owned c)
  rw [← (settleOwned settles).1] at clear
  exact (settleWalk settles).trans
    (scheduleWalk (c := {settled with toEventTiming := settled.nextChannel.1}) clear.1 clear.2)

/-! One event. -/

theorem planCalm {t : EventTiming} {p after : ControlPlane} (ok : p.planPendingControlProcedure = some after) :
    Calm (view t p) (view t after) :=
  pendingCalm (fun _ _ _ done => txPlannedAdvances done) ok

theorem completeCalm {t : EventTiming} {p after : ControlPlane} (ok : p.completePendingControlTransmit = some after) :
    Calm (view t p) (view t after) :=
  pendingCalm (fun _ _ _ done => txDoneAdvances done) ok

theorem acknowledgedCalm {t : EventTiming} {p after : ControlPlane} {now} (ok : p.acknowledgePendingControl now = some after) :
    Calm (view t p) (view t after) :=
  pendingCalm (fun _ _ _ done => nesnAckAdvances done) ok

theorem buildCalm {c built : ActiveConnection} (ok : buildTransmitFrame c = some built) :
    Calm (owned c) (owned built) := by
  unfold buildTransmitFrame at ok
  dsimp only at ok
  split at ok
  · cases ok
  · rename_i control planned
    cases ok
    split at planned
    · exact planCalm planned
    · cases planned
      exact calmHere _

theorem stageCalm {c staged : ActiveConnection} (ok : stageTransmit c = some staged) :
    Calm (owned c) (owned staged) := by
  have chosen : owned (selectTransmitted c.promotePriorityControlIfIdle) = owned c := by
    have promoted : owned c.promotePriorityControlIfIdle = owned c := by
      unfold ActiveConnection.promotePriorityControlIfIdle
      split <;> rfl
    obtain ⟨_,timing,control,_⟩ := selectPath c.promotePriorityControlIfIdle
    rw [← promoted,owned,owned,control,timing]
  unfold stageTransmit at ok
  dsimp only at ok
  rw [← chosen]
  generalize selectTransmitted c.promotePriorityControlIfIdle = selected at ok ⊢
  split at ok
  · cases ok
  · rename_i built made
    cases ok
    show Calm (owned selected) (owned built)
    split at made
    · exact buildCalm made
    · cases made
      exact calmHere _

theorem noteCalm {c noted : ActiveConnection} {transmitted} (ok : noteTransmission c transmitted = some noted) :
    Calm (owned c) (owned noted) := by
  unfold noteTransmission at ok
  split at ok
  · dsimp only at ok
    split at ok
    · cases ok
    · rename_i control completed
      cases ok
      split at completed
      · exact completeCalm completed
      · cases completed
        exact calmHere _
  · cases ok
    exact calmHere _

theorem releasedOwned (c : ActiveConnection) :
    owned (releaseOwner c).1 = owned c ∧ results (releaseOwner c).2 = [] := by
  unfold releaseOwner
  split
  · split <;> exact ⟨rfl,rfl⟩
  · exact ⟨rfl,rfl⟩
  · exact ⟨rfl,rfl⟩
  · exact ⟨rfl,rfl⟩

theorem acknowledgeCalm {c after : ActiveConnection} {header outstanding now calls}
    (ok : acknowledgeTransmit c header outstanding now = some (after,calls)) :
    Calm (owned c) (owned after) ∧ results calls = [] := by
  unfold acknowledgeTransmit at ok
  split at ok
  · dsimp only at ok
    split at ok
    · cases ok
    · rename_i control acknowledged
      cases ok
      obtain ⟨same,quiet⟩ := releasedOwned {c with toControlPlane := control}
      have calm : Calm (owned c) (view c.toEventTiming control) := by
        split at acknowledged
        · exact acknowledgedCalm acknowledged
        · cases acknowledged
          exact calmHere _
      refine ⟨?_,quiet⟩
      show Calm (owned c) (owned (releaseOwner {c with toControlPlane := control}).1)
      rw [same]
      exact calm
  · cases ok
    exact ⟨calmHere _,rfl⟩

/- A new Control PDU is handed on once its sequence number has moved. -/
theorem acceptControl {c : ActiveConnection} {header : UInt8} {payload : List UInt8}
    (fresh : (header >>> 3) &&& 1 = c.expectedSn) (control : header &&& 0x03 = llidControl) :
    acceptReceive c header payload =
      ({c with
          expectedSn := c.expectedSn ^^^ 1
          toControlPlane := (handleLlControl {c with expectedSn := c.expectedSn ^^^ 1} payload).control},
        (handleLlControl {c with expectedSn := c.expectedSn ^^^ 1} payload).calls,
        (handleLlControl {c with expectedSn := c.expectedSn ^^^ 1} payload).reason) := by
  unfold acceptReceive
  rw [if_pos fresh]
  dsimp only
  rw [if_pos control]

theorem acceptWalk (c : ActiveConnection) (header payload) :
    Walks (owned c) (owned (acceptReceive c header payload).1) := by
  unfold acceptReceive
  split
  · dsimp only
    split
    · exact controlWalk {c with expectedSn := c.expectedSn ^^^ 1} payload
    · split <;> exact .refl
  · exact .refl

theorem stageSequence (d : DataPath) (control) : (stage d control).expectedSn = d.expectedSn := by
  have chosen : (select d control).expectedSn = d.expectedSn := by
    unfold select
    split <;> rfl
  rw [← chosen]
  unfold stage build
  split <;> rfl

theorem acknowledgedSequence {c acked : ActiveConnection} {header outstanding now calls}
    (acks : acknowledgeTransmit c header outstanding now = some (acked,calls)) : acked.expectedSn = c.expectedSn := by
  obtain ⟨path,_,_⟩ := acknowledgePath acks
  have kept := congrArg DataPath.expectedSn path
  unfold acknowledge at kept
  split at kept <;> exact kept

theorem notedSequence {c settled staged noted : ActiveConnection} {now notify transmitted}
    (settles : c.settleInstants now = .ok (settled,notify)) (stages : stageTransmit (opened settled) = some staged)
    (notes : noteTransmission staged transmitted = some noted) : noted.expectedSn = c.expectedSn := by
  obtain ⟨offered,_,staging,_⟩ := stagedData settles stages
  obtain ⟨path,_⟩ := notePath notes
  exact (congrArg DataPath.expectedSn path).trans
    ((congrArg DataPath.expectedSn staging).trans (stageSequence c.toDataPath offered))

end Ch58xHal.OwnershipSteps
