import Ch58xHal.PunctualInstants

/-! The Host's own disconnect. Of the local context only the Termination procedure is
followed: received PDUs and instants leave it alone, so an event moves it by the
transmission and the acknowledgement of its PDU and by nothing else. -/
namespace Ch58xHal.Termination
open ControlPdu Llcp LlcpSteps Connection ConnectionEvent ConnectionRun ControlHandlers DataPlane InstantOwners
open OwnershipSteps OwnershipRun PunctualInstants Machines DataHeader

def terminating (side : Option ProcedureContext) : Option ProcedureContext :=
  side.filter fun c => c.kind == .termination

def termination (p : ControlPlane) : Option ProcedureContext := terminating p.procedures.localSide

/- The Termination procedure has run to its end, which only an acknowledgement gives it. -/
def acknowledged (p : ControlPlane) : Bool := (termination p).any fun c => c.phase == .complete

theorem terminatingSome {side : Option ProcedureContext} {c} :
    terminating side = some c ↔ side = some c ∧ c.kind = .termination := by
  rw [terminating,Option.filter_eq_some_iff,beq_iff_eq]

theorem terminatingAlike {c c' : ProcedureContext} (kind : c'.kind = c.kind)
    (other : terminating (some c) = none) : terminating (some c') = none := by
  simp only [terminating,Option.filter_some,kind] at other ⊢
  split at other
  · cases other
  · rename_i different
    rw [if_neg different]

/-! Received Control PDUs. -/

theorem queueTokenProcedures (p : ControlPlane) (bytes token) :
    (p.queueControlWithToken bytes token).1.procedures = p.procedures := by
  unfold ControlPlane.queueControlWithToken
  split
  · dsimp only
    split_ifs <;> rfl
  · rfl

theorem queueControlProcedures (p : ControlPlane) (bytes) :
    (p.queueControl bytes).1.procedures = p.procedures :=
  queueTokenProcedures p.allocateControlToken.1 bytes p.allocateControlToken.2

theorem respondsLocal {p after : ControlPlane} {kind opcode response expected timeout}
    (responds : Responds p kind opcode response expected timeout after) :
    after.procedures.localSide = p.procedures.localSide := by
  cases responds with
  | silent => rfl
  | refused error =>
    rw [queueControlProcedures]
    rfl
  | answered form idle exclusive put queued =>
    rw [queueTokenProcedures,put]
    rfl
  | failed => rfl

theorem failedTermination {p : ControlPlane} (absent : termination p = none) (error) :
    termination (p.failProcedure .localSide error) = none := by
  unfold termination at absent ⊢
  cases held : p.procedures.localSide with
  | none =>
    have missing : p.procedures.context .localSide = none := held
    rw [failMissing missing,held]
    rfl
  | some own =>
    have present : p.procedures.context .localSide = some own := held
    rw [failHeld present]
    rw [held] at absent
    exact terminatingAlike (c := own) rfl absent

theorem failedRemote (p : ControlPlane) (error) :
    (p.failProcedure .remoteSide error).procedures.localSide = p.procedures.localSide := by
  unfold ControlPlane.failProcedure ProcedureManager.fail ProcedureManager.contextMut
  cases p.procedures.context .remoteSide <;> rfl

section Handlers
variable (c : ActiveConnection) (payload : List UInt8)
  (exclusive : c.localConnectionParamRequest.isSome = true → termination c.toControlPlane = none)
include exclusive

/- A request of the Host's own and its Termination never share the local context. -/
theorem droppedTermination (asked : c.localConnectionParamRequest.isSome = true) (error) :
    termination (dropLocalRequest c c.toControlPlane error).control = termination c.toControlPlane := by
  have absent := exclusive asked
  rw [absent]
  exact failedTermination (p := {c.toControlPlane with localConnectionParamRequest := none}) absent error

theorem clearedTermination (error) :
    termination (cleared c error).control = termination c.toControlPlane := by
  unfold cleared
  split
  · rename_i asked
    exact droppedTermination c exclusive asked error
  · rfl

theorem answeredTermination {update i after} (owner : Answers c update i)
    (answer : c.procedures.expectedResponseWithInstant i 0x00 update.instant = .ok after) :
    terminating after.localSide = termination c.toControlPlane := by
  obtain ⟨own,held,_,rfl⟩ := answeredDone answer
  cases i with
  | remoteSide => rfl
  | localSide =>
    obtain ⟨r,found,_⟩ := owner
    have absent := exclusive (by rw [found]; rfl)
    rw [absent]
    unfold termination at absent
    rw [show c.procedures.localSide = some own from held] at absent
    exact terminatingAlike (c := own) rfl absent

theorem handledTermination : termination (handleLlControl c payload).control =
    termination c.toControlPlane := by
  have path := controlHandles c payload
  generalize handleLlControl c payload = handled at path ⊢
  cases path with
  | ignored => rfl
  | ended => rfl
  | refused => exact congrArg (fun s => terminating s.localSide) (queueControlProcedures _ _)
  | dropped asked => exact droppedTermination c exclusive asked _
  | rejected => exact congrArg terminating (failedRemote _ _)
  | responded plain responds => exact congrArg terminating (respondsLocal responds)
  | requested responds =>
    exact (congrArg terminating (respondsLocal responds)).trans (clearedTermination c exclusive _)
  | updateAnswered parsed free owner answer => exact answeredTermination c exclusive owner answer
  | updateIndicated parsed free unrequested started =>
    obtain ⟨_,_,_,_,_,_,_,rfl⟩ := instantStarted started
    rfl
  | updateCollided => rfl
  | mapStored parsed free started =>
    obtain ⟨_,_,_,_,_,_,_,rfl⟩ := instantStarted started
    exact clearedTermination c exclusive _
  | mapCollided => exact clearedTermination c exclusive _

end Handlers

/-! The PDU on air. -/

/- The Termination procedure whose token the pending Control PDU carries. -/
def mineOnAir (p : ControlPlane) : Option ProcedureContext :=
  (termination p).filter fun c => p.pendingControl.any fun pdu => c.token.ownerToken == pdu.ownerToken

theorem mineOnAirSome {p : ControlPlane} {c} : mineOnAir p = some c ↔
    termination p = some c ∧ ∃ pdu, p.pendingControl = some pdu ∧ c.token.ownerToken = pdu.ownerToken := by
  rw [mineOnAir,Option.filter_eq_some_iff]
  cases p.pendingControl <;> simp

theorem advanceKind {c c' : ProcedureContext} (move : Advance c c') : c'.kind = c.kind := by
  cases move with
  | planned => rfl
  | sent ready => rfl
  | acknowledged nowUs waiting =>
    unfold ProcedureContext.afterAck
    split_ifs <;> rfl

/- A Termination waits for nothing but its acknowledgement. -/
structure Plain (c : ProcedureContext) : Prop where
  undated : c.instant = none
  unanswered : c.expectedResponseOpcode = none
  early : c.phase ≠ .awaitingInstant

inductive Akin : Option ProcedureContext → Option ProcedureContext → Prop where
  | same (x) : Akin x x
  | moved {c c'} (token : c'.token = c.token) (complete : c'.phase = .complete ↔ c.phase = .complete)
      (active : c'.active = c.active) (plain : Plain c → Plain c') : Akin (some c) (some c')

section Pending
variable {p after : ControlPlane}

/- The local side is asked for the owner first, so its Termination cannot be passed over. -/
theorem mineActs {act} (ok : p.onPendingProcedure act = some after) {c} (mine : mineOnAir p = some c) :
    act .localSide c.token = .ok after.procedures := by
  obtain ⟨held,pdu,pending,token⟩ := mineOnAirSome.mp mine
  obtain ⟨present,_⟩ := terminatingSome.mp held
  have owner : p.procedureForControlOwner pdu.ownerToken = some (.localSide,c.token) := by
    simp [ControlPlane.procedureForControlOwner,present,Option.filter_some,token]
  unfold ControlPlane.onPendingProcedure at ok
  simp only [pending,owner] at ok
  cases done : act .localSide c.token with
  | error e => simp [done] at ok
  | ok procedures =>
    rw [done] at ok
    cases ok
    rfl

theorem otherActs {act} (ok : p.onPendingProcedure act = some after) (other : mineOnAir p = none)
    (advances : ∀ side token procedures, act side token = .ok procedures →
      ∃ c c', p.procedures.context side = some c ∧ Advance c c' ∧ procedures = p.procedures.put side c') :
    termination after = termination p := by
  unfold ControlPlane.onPendingProcedure at ok
  cases pending : p.pendingControl with
  | none =>
    rw [pending] at ok
    cases ok
    rfl
  | some pdu =>
    cases owner : p.procedureForControlOwner pdu.ownerToken with
    | none =>
      simp only [pending,owner] at ok
      cases ok
      rfl
    | some pair =>
      obtain ⟨side,token⟩ := pair
      simp only [pending,owner] at ok
      cases done : act side token with
      | error e => simp [done] at ok
      | ok procedures =>
        rw [done] at ok
        cases ok
        obtain ⟨c,c',held,move,rfl⟩ := advances side token procedures done
        cases side with
        | remoteSide => rfl
        | localSide =>
          have held : p.procedures.localSide = some c := held
          have same : c.token.ownerToken = pdu.ownerToken := by
            by_contra different
            have skipped : (c.token.ownerToken == pdu.ownerToken) = false := beq_eq_false_iff_ne.mpr different
            unfold ControlPlane.procedureForControlOwner at owner
            rw [held,Option.filter_some,skipped] at owner
            simp only [Bool.false_eq_true,if_false] at owner
            split at owner <;> cases owner
          have absent : terminating (some c) = none := by
            by_contra present
            obtain ⟨x,found⟩ := Option.ne_none_iff_exists'.mp present
            obtain ⟨mine,kind⟩ := terminatingSome.mp found
            cases mine
            have mine : mineOnAir p = some c :=
              mineOnAirSome.mpr ⟨terminatingSome.mpr ⟨held,kind⟩,pdu,pending,same⟩
            rw [other] at mine
            cases mine
          show terminating (some c') = terminating p.procedures.localSide
          rw [held,absent]
          exact terminatingAlike (advanceKind move) absent

/- Bookkeeping short of an acknowledgement: the procedure keeps its token and its end is
no nearer. -/
theorem akinActs {act} (ok : p.onPendingProcedure act = some after)
    (akin : ∀ side token procedures, act side token = .ok procedures →
      ∃ c c', p.procedures.context side = some c ∧ c'.kind = c.kind ∧ Akin (some c) (some c') ∧
        procedures = p.procedures.put side c') :
    Akin (termination p) (termination after) ∧ after.pendingControl = p.pendingControl := by
  unfold ControlPlane.onPendingProcedure at ok
  split at ok
  · cases ok
    exact ⟨.same _,rfl⟩
  · split at ok
    · cases ok
      exact ⟨.same _,rfl⟩
    · split at ok
      · cases ok
      · rename_i side token _ _ procedures done
        cases ok
        obtain ⟨c,c',held,kind,moved,rfl⟩ := akin side token procedures done
        refine ⟨?_,rfl⟩
        cases side with
        | remoteSide => exact .same _
        | localSide =>
          have held : p.procedures.localSide = some c := held
          show Akin (terminating p.procedures.localSide) (terminating (some c'))
          rw [held]
          by_cases mine : c.kind = .termination
          · rw [terminatingSome.mpr ⟨rfl,mine⟩,terminatingSome.mpr ⟨rfl,kind.trans mine⟩]
            exact moved
          · have absent : terminating (some c) = none := by
              simp [terminating,Option.filter_some,mine]
            rw [absent,terminatingAlike kind absent]
            exact .same _

theorem planAkin (ok : p.planPendingControlProcedure = some after) :
    Akin (termination p) (termination after) ∧ after.pendingControl = p.pendingControl := by
  refine akinActs ok fun side token procedures done => ?_
  unfold ProcedureManager.txPlanned ProcedureManager.contextMut at done
  cases held : p.procedures.context side with
  | none => simp [held] at done
  | some c =>
    simp only [held] at done
    split_ifs at done
    cases done
    exact ⟨c,c,rfl,rfl,.same _,rfl⟩

theorem sentAkin (ok : p.completePendingControlTransmit = some after) :
    Akin (termination p) (termination after) ∧ after.pendingControl = p.pendingControl := by
  refine akinActs ok fun side token procedures done => ?_
  unfold ProcedureManager.txDone ProcedureManager.contextMut at done
  cases held : p.procedures.context side with
  | none => simp [held] at done
  | some c =>
    simp only [held] at done
    split_ifs at done with stale ready
    cases done
    refine ⟨c,{c with phase := .awaitingTxAck},rfl,rfl,.moved rfl ?_ ?_ ?_,rfl⟩
    · rcases ready with phase | phase <;> simp [phase]
    · rcases ready with phase | phase <;> simp [ProcedureContext.active,ProcedureContext.Finished,phase]
    · exact fun plain => ⟨plain.undated,plain.unanswered,by simp⟩

/- With the acknowledgement of its PDU the procedure is over. -/
theorem acknowledgedTermination {now} (ok : p.acknowledgePendingControl now = some after)
    (plain : ∀ c, termination p = some c → Plain c) :
    acknowledged after = (acknowledged p || (mineOnAir p).isSome) ∧ ∀ c, termination after = some c → Plain c := by
  cases mine : mineOnAir p with
  | none =>
    have same := otherActs ok mine fun _ _ _ done => nesnAckAdvances done
    refine ⟨?_,same ▸ plain⟩
    rw [acknowledged,same,acknowledged]
    simp
  | some c =>
    have done := mineActs ok mine
    have held := (mineOnAirSome.mp mine).1
    obtain ⟨present,kind⟩ := terminatingSome.mp held
    obtain ⟨undated,unanswered,_⟩ := plain c held
    unfold ProcedureManager.nesnAck ProcedureManager.contextMut at done
    rw [show p.procedures.context .localSide = some c from present] at done
    dsimp only at done
    split_ifs at done with waiting
    have ends : (c.afterAck now).phase = .complete ∧ (c.afterAck now).kind = .termination ∧
        Plain (c.afterAck now) := by
      unfold ProcedureContext.afterAck
      simp only [undated,unanswered,Option.isSome_none,Bool.false_eq_true,if_false]
      split <;> exact ⟨rfl,kind,rfl,rfl,fun wrong => (nomatch wrong)⟩
    have done : termination after = some (c.afterAck now) := by
      unfold termination
      rw [← Except.ok.inj done]
      exact terminatingSome.mpr ⟨rfl,ends.2.1⟩
    constructor
    · rw [acknowledged,done]
      simp [ends.1]
    · intro x found
      rw [done] at found
      cases found
      exact ends.2.2

end Pending

/-! One event. -/

/- What of a control plane decides whether its disconnect is acknowledged. -/
def PlainSide (p : ControlPlane) : Prop := ∀ c, termination p = some c → Plain c

theorem akinKept {p after : ControlPlane} (akin : Akin (termination p) (termination after))
    (slot : after.pendingControl = p.pendingControl) (plain : PlainSide p) :
    acknowledged after = acknowledged p ∧ (mineOnAir after).isSome = (mineOnAir p).isSome ∧ PlainSide after := by
  unfold acknowledged mineOnAir PlainSide at *
  rw [slot]
  generalize termination p = x at akin plain ⊢
  generalize termination after = y at akin ⊢
  cases akin with
  | same => exact ⟨rfl,rfl,plain⟩
  | moved token complete _ keeps =>
    refine ⟨?_,?_,?_⟩
    · simp only [Option.any_some]
      rw [Bool.eq_iff_iff,beq_iff_eq,beq_iff_eq]
      exact complete
    · simp only [Option.filter_some,token]
      split <;> rfl
    · rintro _ ⟨⟩
      exact keeps (plain _ rfl)

theorem settledTermination {c after : ActiveConnection} {now notify}
    (ok : c.settleInstants now = .ok (after,notify)) (plain : PlainSide c.toControlPlane) :
    termination after.toControlPlane = termination c.toControlPlane := by
  have procedures : after.procedures = c.procedures.onConnectionEvent c.eventCounter 0x28 :=
    congrArg Ownership.procedures (settleOwned ok).1
  unfold PlainSide termination at *
  rw [procedures]
  show terminating (c.procedures.localSide.map (ProcedureContext.onConnectionEvent c.eventCounter 0x28)) = _
  cases held : c.procedures.localSide with
  | none => rfl
  | some own =>
    rw [held] at plain
    by_cases mine : own.kind = .termination
    · have early := (plain own (terminatingSome.mpr ⟨rfl,mine⟩)).early
      have same : own.onConnectionEvent c.eventCounter 0x28 = own := by
        unfold ProcedureContext.onConnectionEvent
        rw [if_pos early]
      rw [Option.map_some,same]
    · have absent : terminating (some own) = none := by
        simp [terminating,Option.filter_some,mine]
      rw [Option.map_some,absent]
      exact terminatingAlike (settledSide own c.eventCounter).2 absent

/- The connection once the event has chosen what to send. -/
def chosen (c : ActiveConnection) : ActiveConnection := selectTransmitted c.promotePriorityControlIfIdle

theorem chosenProcedures (c : ActiveConnection) : (chosen c).procedures = c.procedures := by
  have promoted : c.promotePriorityControlIfIdle.procedures = c.procedures := by
    unfold ActiveConnection.promotePriorityControlIfIdle
    split <;> rfl
  obtain ⟨_,_,control,_⟩ := selectPath c.promotePriorityControlIfIdle
  rw [← promoted]
  exact congrArg ControlPlane.procedures control

theorem chosenShape (c : ActiveConnection) :
    (chosen c).pendingControl = (if c.transmitted = .none ∧ c.txFrame = [] ∧ c.priorityControl.isSome then
      c.priorityControl else c.pendingControl) ∧
    (chosen c).toDataPath = select c.toDataPath (chosen c).pendingControl := by
  obtain ⟨path,_,control,_⟩ := selectPath c.promotePriorityControlIfIdle
  have pending : (chosen c).pendingControl = c.promotePriorityControlIfIdle.pendingControl :=
    congrArg ControlPlane.pendingControl control
  constructor
  · rw [pending]
    unfold ActiveConnection.promotePriorityControlIfIdle
    split <;> rfl
  · rw [pending,← (promotePath c).1]
    exact path

theorem settledChosen {c after : ActiveConnection} {now notify} (ok : c.settleInstants now = .ok (after,notify)) :
    (chosen (opened after)).pendingControl = (chosen c).pendingControl ∧
      (chosen (opened after)).toDataPath = (chosen c).toDataPath := by
  have pending : (chosen (opened after)).pendingControl = (chosen c).pendingControl := by
    rw [(chosenShape (opened after)).1,(chosenShape c).1]
    obtain ⟨channels,request,window,deadline,map,update,asked,rfl⟩ := settleShape ok
    rfl
  have path : (opened after).toDataPath = c.toDataPath := (settlePath ok).1
  exact ⟨pending,by rw [(chosenShape (opened after)).2,(chosenShape c).2,pending,path]⟩

theorem selectFrame (d : DataPath) (control) : (select d control).txFrame = d.txFrame ∧
    (select d control).txFrameFresh = d.txFrameFresh ∧ (select d control).transmitSn = d.transmitSn := by
  unfold select
  split <;> exact ⟨rfl,rfl,rfl⟩

/- A frame that went out in an earlier event and waits for its acknowledgement. -/
def carried (c : ActiveConnection) : Bool := c.txFrame != [] && !c.txFrameFresh

theorem stagedTermination {c staged : ActiveConnection} (ok : stageTransmit c = some staged)
    (plain : PlainSide c.toControlPlane) :
    acknowledged staged.toControlPlane = acknowledged c.toControlPlane ∧
      (mineOnAir staged.toControlPlane).isSome = (mineOnAir (chosen c).toControlPlane).isSome ∧
      PlainSide staged.toControlPlane ∧ staged.transmitted = (chosen c).transmitted ∧
      (!staged.txFrameFresh) = carried c ∧ staged.transmitSn = c.transmitSn := by
  have procedures := chosenProcedures c
  have same : termination (chosen c).toControlPlane = termination c.toControlPlane := by
    rw [termination,procedures,termination]
  have plain' : PlainSide (chosen c).toControlPlane := fun x found => plain x (same ▸ found)
  have before : acknowledged (chosen c).toControlPlane = acknowledged c.toControlPlane := by
    rw [acknowledged,same,acknowledged]
  have path := (chosenShape c).2
  unfold stageTransmit at ok
  dsimp only at ok
  rw [show selectTransmitted c.promotePriorityControlIfIdle = chosen c from rfl] at ok
  have frame : (chosen c).txFrame = c.txFrame ∧ (chosen c).txFrameFresh = c.txFrameFresh ∧
      (chosen c).transmitSn = c.transmitSn := by
    obtain ⟨frame,fresh,sequence⟩ := selectFrame c.toDataPath (chosen c).pendingControl
    rw [← path] at frame fresh sequence
    exact ⟨frame,fresh,sequence⟩
  by_cases empty : (chosen c).txFrame = []
  · rw [if_pos empty] at ok
    cases made : buildTransmitFrame (chosen c) with
    | none => simp [made] at ok
    | some built =>
      rw [made] at ok
      cases ok
      unfold buildTransmitFrame at made
      dsimp only at made
      split at made
      · cases made
      · rename_i control planned
        cases made
        have kept : acknowledged control = acknowledged (chosen c).toControlPlane ∧
            (mineOnAir control).isSome = (mineOnAir (chosen c).toControlPlane).isSome ∧ PlainSide control := by
          split at planned
          · obtain ⟨akin,slot⟩ := planAkin planned
            exact akinKept akin slot plain'
          · cases planned
            exact ⟨rfl,rfl,plain'⟩
        obtain ⟨ack,mine,plain''⟩ := kept
        refine ⟨ack.trans before,mine,plain'',rfl,?_,frame.2.2⟩
        rw [frame.1] at empty
        simp [carried,empty]
  · rw [if_neg empty] at ok
    cases ok
    refine ⟨before,rfl,plain',rfl,?_,frame.2.2⟩
    rw [frame.1] at empty
    simp [carried,empty,frame.2.1]

theorem notedTermination {c noted : ActiveConnection} {transmitted}
    (ok : noteTransmission c transmitted = some noted) (plain : PlainSide c.toControlPlane) :
    acknowledged noted.toControlPlane = acknowledged c.toControlPlane ∧
      (mineOnAir noted.toControlPlane).isSome = (mineOnAir c.toControlPlane).isSome ∧
      PlainSide noted.toControlPlane := by
  unfold noteTransmission at ok
  split at ok
  · dsimp only at ok
    split at ok
    · cases ok
    · rename_i control completed
      cases ok
      split at completed
      · obtain ⟨akin,slot⟩ := sentAkin completed
        exact akinKept akin slot plain
      · cases completed
        exact ⟨rfl,rfl,plain⟩
  · cases ok
    exact ⟨rfl,rfl,plain⟩

theorem releasedTermination (c : ActiveConnection) :
    termination (releaseOwner c).1.toControlPlane = termination c.toControlPlane := by
  unfold releaseOwner
  split
  · split <;> rfl
  · rfl
  · rfl
  · rfl

theorem ackedTermination {c after : ActiveConnection} {header outstanding now calls}
    (ok : acknowledgeTransmit c header outstanding now = some (after,calls)) (plain : PlainSide c.toControlPlane) :
    acknowledged after.toControlPlane = (acknowledged c.toControlPlane ||
      (acknowledgesTransmitOwner header c.transmitSn outstanding false &&
        (c.transmitted == .control && (mineOnAir c.toControlPlane).isSome))) ∧
      PlainSide after.toControlPlane := by
  unfold acknowledgeTransmit at ok
  split at ok
  · rename_i acks
    dsimp only at ok
    split at ok
    · cases ok
    · rename_i control acknowledges
      cases ok
      have released := releasedTermination {c with toControlPlane := control}
      have same : acknowledged (releaseOwner {c with toControlPlane := control}).1.toControlPlane =
          acknowledged control := by
        rw [acknowledged,released,acknowledged]
      have plainly : PlainSide control → PlainSide (releaseOwner {c with toControlPlane := control}).1.toControlPlane :=
        fun known x found => known x (released ▸ found)
      split at acknowledges
      · rename_i onAir
        obtain ⟨done,plain'⟩ := acknowledgedTermination acknowledges plain
        refine ⟨?_,plainly plain'⟩
        show acknowledged (releaseOwner {c with toControlPlane := control}).1.toControlPlane = _
        rw [same,done,acks,onAir]
        simp
      · rename_i other
        cases acknowledges
        refine ⟨?_,plainly plain⟩
        show acknowledged (releaseOwner c).1.toControlPlane = _
        rw [same]
        simp [other]
  · rename_i quiet
    cases ok
    exact ⟨by simp [quiet],plain⟩

theorem acceptedTermination {c : ActiveConnection}
    (exclusive : c.localConnectionParamRequest.isSome = true → termination c.toControlPlane = none)
    (header payload) :
    termination (acceptReceive c header payload).1.toControlPlane = termination c.toControlPlane := by
  unfold acceptReceive
  split
  · dsimp only
    split
    · exact handledTermination {c with expectedSn := c.expectedSn ^^^ 1} payload exclusive
    · split <;> rfl
  · rfl

theorem consistentExclusive {c : ActiveConnection} (known : Consistent (owned c)) :
    c.localConnectionParamRequest.isSome = true → termination c.toControlPlane = none := by
  intro asked
  have requested : c.localConnectionParamRequest.isSome = parametersActive c.procedures.localSide := known.requested
  rw [asked] at requested
  unfold termination
  cases held : c.procedures.localSide with
  | none => rfl
  | some own =>
    rw [held] at requested
    have parameters : own.kind = .connectionParameters := by
      simp [parametersActive] at requested
      exact requested.1
    simp [terminating,Option.filter_some,parameters]

theorem settleRefused {c : ActiveConnection} {now reason} (refused : c.settleInstants now = .error reason) :
    reason = 0x1e := by
  unfold ActiveConnection.settleInstants ActiveConnection.applyInstants ActiveConnection.applyChannelMap at refused
  cases pending : c.pendingChannelMap with
  | none => simp [pending] at refused
  | some update =>
    simp only [pending] at refused
    by_cases due : update.instant = c.eventCounter
    · rw [if_pos due] at refused
      cases moved : c.channels.updateMap update.map with
      | none =>
        rw [moved] at refused
        exact (Except.error.inj refused).symm
      | some channels => simp [moved] at refused
    · rw [if_neg due] at refused
      cases refused

/- The LL_TERMINATE_IND of the Host's disconnect is what this event sends. -/
def onAir (c : ActiveConnection) : Bool :=
  (chosen c).transmitted == .control && (mineOnAir (chosen c).toControlPlane).isSome

/- The packet of this event acknowledges that PDU, sent in an earlier event. -/
def confirms (c : ActiveConnection) (radio : Option ExchangeResult) : Bool :=
  radio.any fun received => (receivedPdu received).any fun pdu =>
    acknowledgesTransmitOwner pdu.1 c.transmitSn (carried c) false && onAir c

/- The reasons of a refused bookkeeping or channel map, after which nothing is left to say. -/
def Broken (reason : Option UInt8) : Prop := reason = some 0x1e ∨ reason = some 0x1f

theorem closedTermination {c after : ActiveConnection}
    {clock received header payload outstanding terminate told reason}
    (closes : Closes c clock received header payload outstanding terminate after told reason)
    (whole : ¬Broken reason) (known : Consistent (owned c)) (plain : PlainSide c.toControlPlane) :
    acknowledged after.toControlPlane = (acknowledged c.toControlPlane ||
      (acknowledgesTransmitOwner header c.transmitSn outstanding false &&
        (c.transmitted == .control && (mineOnAir c.toControlPlane).isSome))) ∧
      PlainSide after.toControlPlane := by
  cases closes with
  | unacknowledged => exact absurd (Or.inr rfl) whole
  | unsettled acks refused =>
    rw [settleRefused refused] at whole
    exact absurd (Or.inl rfl) whole
  | @closed acked released settled notify acks settles =>
    obtain ⟨done,ackedPlain⟩ := ackedTermination acks plain
    have later : Consistent (owned acked) := walkKept (acknowledgeCalm acks).1.1 known
    have accepted := acceptedTermination (consistentExclusive later) header payload
    have acceptedPlain : PlainSide (acceptReceive acked header payload).1.toControlPlane :=
      fun x found => ackedPlain x (accepted ▸ found)
    have last := settledTermination settles acceptedPlain
    refine ⟨?_,fun x found => acceptedPlain x (last ▸ found)⟩
    rw [← done]
    show acknowledged settled.toControlPlane = _
    rw [acknowledged,last,accepted,acknowledged]

theorem openedTermination {c settled staged : ActiveConnection} {now notify} (known : Consistent (owned c))
    (plain : PlainSide c.toControlPlane) (settles : c.settleInstants now = .ok (settled,notify))
    (stages : stageTransmit (opened settled) = some staged) :
    acknowledged staged.toControlPlane = acknowledged c.toControlPlane ∧
      (staged.transmitted == .control && (mineOnAir staged.toControlPlane).isSome) = onAir c ∧
      PlainSide staged.toControlPlane ∧ (!staged.txFrameFresh) = carried c ∧
      staged.transmitSn = c.transmitSn ∧ Consistent (owned staged) := by
  have same := settledTermination settles plain
  obtain ⟨pending,path⟩ := settledChosen settles
  obtain ⟨kept,_⟩ := settlePath settles
  have openedPlain : PlainSide (opened settled).toControlPlane := fun x found => plain x (same ▸ found)
  obtain ⟨done,mine,stagedPlain,kind,fresh,sequence⟩ := stagedTermination stages openedPlain
  have walk := (settleWalk settles).trans (openedCalm stages).1
  refine ⟨?_,?_,stagedPlain,?_,?_,walkKept walk known⟩
  · rw [done]
    show acknowledged settled.toControlPlane = _
    rw [acknowledged,same,acknowledged]
  · have transmitted : (chosen (opened settled)).transmitted = (chosen c).transmitted :=
      congrArg DataPath.transmitted path
    have sides : termination (chosen (opened settled)).toControlPlane = termination (chosen c).toControlPlane := by
      unfold termination
      rw [chosenProcedures,chosenProcedures]
      exact same
    rw [mine,kind,onAir,transmitted,mineOnAir,mineOnAir,sides,pending]
  · rw [fresh,carried,carried]
    exact congrArg (fun d : DataPath => d.txFrame != [] && !d.txFrameFresh) kept
  · exact sequence.trans (congrArg DataPath.transmitSn kept)

/- What one event does to the disconnect: its end comes with an acknowledging packet. -/
theorem eventTermination {c : ActiveConnection} {clock radio} (known : Consistent (owned c))
    (plain : PlainSide c.toControlPlane) (whole : ¬Broken (connectionEvent c clock radio).reason) :
    acknowledged (connectionEvent c clock radio).connection.toControlPlane =
        (acknowledged c.toControlPlane || confirms c radio) ∧
      PlainSide (connectionEvent c clock radio).connection.toControlPlane := by
  have path := eventRuns c clock radio
  generalize connectionEvent c clock radio = outcome at path whole ⊢
  cases path with
  | unsettled refused =>
    rw [settleRefused refused] at whole
    exact absurd (Or.inl rfl) whole
  | unstaged => exact absurd (Or.inr rfl) whole
  | silent settles stages =>
    obtain ⟨same,_,stagedPlain,_⟩ := openedTermination known plain settles stages
    exact ⟨by simp [same,confirms],stagedPlain⟩
  | uncompleted => exact absurd (Or.inr rfl) whole
  | unreadable settles stages notes rejected =>
    obtain ⟨same,_,stagedPlain,_⟩ := openedTermination known plain settles stages
    obtain ⟨still,_,notedPlain⟩ := notedTermination notes stagedPlain
    exact ⟨by simp [still,same,confirms,rejected],notedPlain⟩
  | @heard settled notify staged received noted header payload after told reason settles stages notes read closes =>
    obtain ⟨same,mine,stagedPlain,fresh,sequence,stagedKnown⟩ := openedTermination known plain settles stages
    obtain ⟨still,mine',notedPlain⟩ := notedTermination notes stagedPlain
    obtain ⟨notedPath,_⟩ := notePath notes
    have notedKnown : Consistent (owned noted) := walkKept (noteCalm notes).1 stagedKnown
    obtain ⟨done,closedPlain⟩ := closedTermination closes whole notedKnown notedPlain
    have kind : noted.transmitted = staged.transmitted := by
      have same := congrArg DataPath.transmitted notedPath
      exact same
    have number : noted.transmitSn = staged.transmitSn := by
      have same := congrArg DataPath.transmitSn notedPath
      exact same
    refine ⟨?_,closedPlain⟩
    rw [done]
    show (acknowledged noted.toControlPlane || (acknowledgesTransmitOwner header noted.transmitSn
      (!staged.txFrameFresh) false && (noted.transmitted == .control &&
        (mineOnAir noted.toControlPlane).isSome))) = _
    rw [still,same,number,sequence,fresh,kind,mine',mine]
    simp [confirms,read]

/-! Runs. -/

theorem startsPlain {p : ControlPlane} {kind request expected timeout result}
    (starts : Starts p kind request expected timeout result) (plain : PlainSide p)
    (unanswered : kind = .termination → expected = none) : PlainSide result.1 := by
  have fresh : ∀ {c : ProcedureContext}, c.kind = kind → c.instant = none →
      c.expectedResponseOpcode = expected → c.phase ≠ .awaitingInstant →
      ∀ x, terminating (some c) = some x → Plain x := by
    intro c same undated expects early x found
    obtain ⟨mine,termination⟩ := terminatingSome.mp found
    cases mine
    exact ⟨undated,expects.trans (unanswered (same.symm.trans termination)),early⟩
  cases starts with
  | silent empty => exact plain
  | busy active => exact plain
  | @started after first rest form idle put queued =>
    intro x found
    rw [termination,queueTokenProcedures,put] at found
    exact fresh (c := requesting kind p.allocateControlToken.2 first expected timeout) rfl rfl rfl
      (fun wrong => (nomatch wrong)) x found
  | failed form idle => exact fresh rfl rfl rfl (fun wrong => (nomatch wrong))

theorem commandPlain {c : ActiveConnection} (plain : PlainSide c.toControlPlane) (bytes) :
    PlainSide (handleConnectedCommand c bytes).1.toControlPlane := by
  unfold handleConnectedCommand
  split
  · exact plain
  dsimp only
  split
  · exact plain
  split
  · split
    · exact plain
    · exact startsPlain (localStarts _ _ _ _ _) plain fun _ => rfl
  split
  · split <;> exact plain
  split
  · split
    · exact plain
    · split
      · exact plain
      · split
        · exact startsPlain (localStarts _ .connectionParameters _ _ _) plain fun wrong => (nomatch wrong)
        · exact startsPlain (localStarts _ .connectionParameters _ _ _) plain fun wrong => (nomatch wrong)
  · exact plain

theorem stepPlain {link : Link} {input : Input} (known : Consistent (owned link.connection))
    (plain : PlainSide link.connection.toControlPlane) (lives : (step link input).1.down = false) :
    PlainSide (step link input).1.connection.toControlPlane := by
  have path := (stepContinues lives).2
  generalize (step link input).1.connection = after at path ⊢
  generalize (step link input).2 = report at path
  cases path with
  | @host packet =>
    have served := hostServes link.connection packet
    generalize processConnectedHostPacket link.connection packet = done at served ⊢
    cases served with
    | ignored => exact plain
    | queued => exact plain
    | command => exact commandPlain plain packet.bytes
  | deadlines => exact plain
  | skip skips =>
    unfold ActiveConnection.skipExpiredEvents at skips
    refine skipKeeps (P := fun x => PlainSide x.toControlPlane) ?_ plain skips
    intro x t x' told before _ skipped
    obtain ⟨settled,settles,rfl⟩ := skipShape skipped
    have same := settledTermination settles before
    exact fun y found => before y (same ▸ found)
  | @event clock radio goes =>
    have whole : ¬Broken (connectionEvent link.connection clock radio).reason := by
      rw [goes]
      rintro (wrong | wrong) <;> cases wrong
    exact (eventTermination known plain whole).2

theorem runPlain {request endUs now c} (created : ActiveConnection.new request endUs now = some c)
    {trace link} (run : History runner ⟨c,false⟩ trace link) :
    link.down = false → PlainSide link.connection.toControlPlane := by
  induction run with
  | start =>
    intro _ x found
    obtain ⟨_,_,fresh⟩ := createdOwned created
    have procedures : c.procedures = ProcedureManager.new := congrArg Ownership.procedures fresh
    have found : terminating c.procedures.localSide = some x := found
    rw [procedures] at found
    cases found
  | step before input ih =>
    intro lives
    have running := stepRunning lives
    exact stepPlain (runConsistent created before running) (ih running) lives

/-! When an event ends with 0x16. -/

/- The Termination procedure of the Host's disconnect runs. -/
def ending (p : ControlPlane) : Bool := (termination p).any ProcedureContext.active

theorem activeEnding (p : ControlPlane) : p.localProcedureActive .termination = ending p := by
  unfold ControlPlane.localProcedureActive ending termination terminating
  cases p.procedures.localSide with
  | none => rfl
  | some c => cases kind : c.kind == .termination <;> simp [Option.filter_some,kind]

theorem akinEnding {p after : ControlPlane} (akin : Akin (termination p) (termination after)) :
    ending after = ending p := by
  unfold ending
  generalize termination p = x at akin ⊢
  generalize termination after = y at akin ⊢
  cases akin with
  | same => rfl
  | moved token complete active keeps => simp [active]

theorem chosenEnding (c : ActiveConnection) : ending (chosen c).toControlPlane = ending c.toControlPlane := by
  unfold ending termination
  rw [chosenProcedures]

theorem stagedEnding {c staged : ActiveConnection} (ok : stageTransmit c = some staged) :
    ending staged.toControlPlane = ending c.toControlPlane ∧ staged.pendingControl = (chosen c).pendingControl ∧
      staged.transmitted = (chosen c).transmitted := by
  rw [← chosenEnding c]
  unfold stageTransmit at ok
  dsimp only at ok
  rw [show selectTransmitted c.promotePriorityControlIfIdle = chosen c from rfl] at ok
  split at ok
  · cases ok
  · rename_i built made
    cases ok
    split at made
    · unfold buildTransmitFrame at made
      dsimp only at made
      split at made
      · cases made
      · rename_i control planned
        cases made
        split at planned
        · obtain ⟨akin,slot⟩ := planAkin planned
          exact ⟨akinEnding akin,slot,rfl⟩
        · cases planned
          exact ⟨rfl,rfl,rfl⟩
    · cases made
      exact ⟨rfl,rfl,rfl⟩

theorem notedEnding {c noted : ActiveConnection} {transmitted} (ok : noteTransmission c transmitted = some noted) :
    ending noted.toControlPlane = ending c.toControlPlane ∧ noted.pendingControl = c.pendingControl ∧
      noted.transmitted = c.transmitted := by
  unfold noteTransmission at ok
  split at ok
  · dsimp only at ok
    split at ok
    · cases ok
    · rename_i control completed
      cases ok
      split at completed
      · obtain ⟨akin,slot⟩ := sentAkin completed
        exact ⟨akinEnding akin,slot,rfl⟩
      · cases completed
        exact ⟨rfl,rfl,rfl⟩
  · cases ok
    exact ⟨rfl,rfl,rfl⟩

/- The frame of this event is an LL_TERMINATE_IND while the Host's disconnect runs. -/
def sendsTerminate (c : ActiveConnection) : Bool :=
  (chosen c).transmitted == .control && c.localProcedureActive .termination &&
    (chosen c).pendingControl.any fun pdu => octet pdu.bytes 0 == 0x02

/- `sent_terminate`, from the connection before the event. -/
theorem sentSends {c settled staged noted : ActiveConnection} {now notify transmitted} (plain : PlainSide c.toControlPlane)
    (settles : c.settleInstants now = .ok (settled,notify)) (stages : stageTransmit (opened settled) = some staged)
    (notes : noteTransmission staged transmitted = some noted) :
    sentTerminate noted transmitted = (transmitted && sendsTerminate c) := by
  obtain ⟨active,pending,kind⟩ := stagedEnding stages
  obtain ⟨active',pending',kind'⟩ := notedEnding notes
  obtain ⟨slot,path⟩ := settledChosen settles
  have settledActive : ending settled.toControlPlane = ending c.toControlPlane := by
    unfold ending
    rw [settledTermination settles plain]
  have running : noted.localProcedureActive .termination = c.localProcedureActive .termination := by
    rw [activeEnding,activeEnding,active',active]
    exact settledActive
  have sends : noted.transmitted = (chosen c).transmitted := by
    rw [kind',kind]
    exact congrArg DataPath.transmitted path
  unfold sentTerminate sendsTerminate
  rw [running,sends,pending',pending,slot]
  simp only [Bool.and_assoc]

/- A new LL_TERMINATE_IND of the Central that says 0x16 itself. -/
def terminates (c : ActiveConnection) (header : UInt8) (payload : List UInt8) : Bool :=
  decide ((header >>> 3) &&& 1 = c.expectedSn ∧ header &&& 0x03 = llidControl ∧ payload = [0x02,0x16])

/- A readable packet ends the connection with 0x16 where the LL_TERMINATE_IND goes out in the same
event, or where it is itself the Central's LL_TERMINATE_IND with that code. -/
def endsLocally (c : ActiveConnection) (radio : Option ExchangeResult) : Bool :=
  radio.any fun received => (receivedPdu received).any fun pdu =>
    (received.transmitted && sendsTerminate c) ||
      terminates c pdu.1 pdu.2

theorem terminatedReason {c : ActiveConnection} {header : UInt8} (fresh : (header >>> 3) &&& 1 = c.expectedSn)
    (control : header &&& 0x03 = llidControl) : (acceptReceive c header [0x02,0x16]).2.2 = some 0x16 := by
  rw [acceptControl fresh control]
  rfl

theorem reasonCloses {c : ActiveConnection} {clock radio} (plain : PlainSide c.toControlPlane)
    (ended : (connectionEvent c clock radio).reason = some 0x16) : endsLocally c radio = true := by
  have path := eventRuns c clock radio
  generalize connectionEvent c clock radio = outcome at path ended
  cases path with
  | unsettled refused =>
    rw [settleRefused refused] at ended
    cases ended
  | unstaged => cases ended
  | silent => cases ended
  | uncompleted => cases ended
  | unreadable => cases ended
  | @heard settled notify staged received noted header payload after told reason settles stages notes read closed =>
    have sent := sentSends plain settles stages notes
    have ended : reason = some 0x16 := ended
    subst ended
    generalize gives : (some 0x16 : Option UInt8) = reason at closed
    cases closed with
    | unacknowledged => cases gives
    | unsettled acks refused =>
      rw [settleRefused refused] at gives
      cases gives
    | closed acks settles' =>
      unfold endsLocally
      rw [Option.any_some,read,Option.any_some,← sent]
      split at gives
      · rename_i terminate
        simp [terminate]
      · obtain ⟨⟨fresh,control⟩,code⟩ := acceptedReason gives.symm
        have form := code.resolve_left (by decide)
        rw [acknowledgedSequence acks] at fresh
        have sequence : noted.expectedSn = c.expectedSn := notedSequence settles stages notes
        have fresh : (header >>> 3) &&& 1 = c.expectedSn := fresh.trans sequence
        simp [terminates,fresh,control,form]

/- Whoever is to end it, bookkeeping that fails ends it first. -/
theorem closesReason {c : ActiveConnection} (clock) {radio} (plain : PlainSide c.toControlPlane)
    (valid : MapValid (owned c)) (ends : endsLocally c radio = true) :
    (connectionEvent c clock radio).reason = some 0x16 ∨ (connectionEvent c clock radio).reason = some 0x1f := by
  have path := eventRuns c clock radio
  generalize connectionEvent c clock radio = outcome at path ⊢
  cases path with
  | unsettled refused =>
    obtain ⟨after,told,settles⟩ := settleTotal valid clock.entry
    rw [settles] at refused
    cases refused
  | unstaged => exact Or.inr rfl
  | silent => cases ends
  | uncompleted => exact Or.inr rfl
  | unreadable settles stages notes rejected => simp [endsLocally,rejected] at ends
  | @heard settled notify staged received noted header payload after told reason settles stages notes read closed =>
    have sent := sentSends plain settles stages notes
    cases closed with
    | unacknowledged => exact Or.inr rfl
    | @unsettled acked released reason acks refused =>
      have opening := walkValid ((settleWalk settles).trans (openedCalm stages).1) valid
      have noting := walkValid (noteCalm notes).1 opening
      have acking : MapValid (owned acked) := walkValid (acknowledgeCalm acks).1.1 noting
      obtain ⟨after,told,settles'⟩ := settleTotal (walkValid (acceptWalk acked header payload) acking) clock.closing
      rw [settles'] at refused
      cases refused
    | @closed acked released settled' notify' acks settles' =>
      refine Or.inl ?_
      show (if sentTerminate noted received.transmitted then some 0x16 else (acceptReceive acked header payload).2.2) = _
      unfold endsLocally at ends
      rw [Option.any_some,read,Option.any_some,← sent] at ends
      split
      · rfl
      · rename_i other
        simp only [other,Bool.false_or,terminates,decide_eq_true_eq] at ends
        obtain ⟨fresh,control,form⟩ := ends
        have sequence : noted.expectedSn = c.expectedSn := notedSequence settles stages notes
        have fresh : (header >>> 3) &&& 1 = acked.expectedSn :=
          fresh.trans (sequence.symm.trans (acknowledgedSequence acks).symm)
        rw [show payload = [0x02,0x16] from form]
        exact terminatedReason fresh control

/- An event that ends the connection with 0x16 comes after the acknowledgement of the disconnect, or
brings it: the frame went out in an earlier event and the packet's NESN has moved past it. -/
def Awaited (c : ActiveConnection) (radio : Option ExchangeResult) : Prop :=
  endsLocally c radio = true → acknowledged c.toControlPlane = true ∨ confirms c radio = true

theorem disconnectAcknowledged {request endUs now c} (created : ActiveConnection.new request endUs now = some c)
    {trace link} (run : History runner ⟨c,false⟩ trace link) (running : link.down = false) (clock radio) :
    (Awaited link.connection radio → (connectionEvent link.connection clock radio).reason = some 0x16 →
      acknowledged (connectionEvent link.connection clock radio).connection.toControlPlane = true) ∧
    (¬Awaited link.connection radio →
      (connectionEvent link.connection clock radio).reason = some 0x1f ∨
      (connectionEvent link.connection clock radio).reason = some 0x16 ∧
        acknowledged (connectionEvent link.connection clock radio).connection.toControlPlane = false) := by
  have known := runConsistent created run running
  have plain := runPlain created run running
  have exact' : (connectionEvent link.connection clock radio).reason = some 0x16 →
      acknowledged (connectionEvent link.connection clock radio).connection.toControlPlane =
        (acknowledged link.connection.toControlPlane || confirms link.connection radio) := by
    intro ended
    refine (eventTermination known plain ?_).1
    rw [ended]
    rintro (wrong | wrong) <;> cases wrong
  constructor
  · intro awaited ended
    rw [exact' ended,Bool.or_eq_true]
    exact awaited (reasonCloses plain ended)
  · intro unawaited
    obtain ⟨ends,missing⟩ := Classical.not_imp.mp unawaited
    rcases closesReason clock plain (historyValid (createdValid created) run running) ends with ended | lost
    · refine Or.inr ⟨ended,?_⟩
      rw [exact' ended]
      simpa using missing
    · exact Or.inl lost

def disconnectCommand : Input := .host ⟨.cmd,[0x06,0x04,3,1,0,0x13]⟩

def disconnecting : Link := (step ⟨sampleConnection,false⟩ disconnectCommand).1

-- The Central's empty packet; the second one acknowledges the Peripheral's first frame.
def polled (header : UInt8) (crcOk : Bool) : ExchangeResult := ⟨[header,0],-40,crcOk,3000,true⟩

def sentOnce : Link := (step disconnecting (.event ⟨2000,2000,2000,2000⟩ (some (polled 0x01 false)))).1

theorem disconnectEndsAcknowledged :
    (connectionEvent sentOnce.connection ⟨2000,2000,2000,2000⟩ (some (polled 0x05 true))).reason = some 0x16 ∧
    acknowledged (connectionEvent sentOnce.connection ⟨2000,2000,2000,2000⟩
      (some (polled 0x05 true))).connection.toControlPlane = true := by
  have ended : (connectionEvent sentOnce.connection ⟨2000,2000,2000,2000⟩
      (some (polled 0x05 true))).reason = some 0x16 := by decide +kernel
  have run : History runner ⟨sampleConnection,false⟩ _ sentOnce :=
    (History.start.step disconnectCommand).step (.event ⟨2000,2000,2000,2000⟩ (some (polled 0x01 false)))
  refine ⟨ended,(disconnectAcknowledged sampleCreated run (by decide +kernel) _ _).1 (fun _ => Or.inr ?_) ended⟩
  decide +kernel

/- Sent once, never acknowledged, and the connection is over. -/
theorem disconnectEndsUnacknowledged :
    (step ⟨sampleConnection,false⟩ disconnectCommand).2.calls = [.commandStatus 0x0406 hciSuccess] ∧
    (connectionEvent disconnecting.connection ⟨2000,2000,2000,2000⟩ (some (polled 0x01 true))).reason =
      some 0x16 ∧
    (connectionEvent disconnecting.connection ⟨2000,2000,2000,2000⟩
      (some (polled 0x01 true))).connection.procedures.localSide.map (fun c => (c.kind,c.phase)) =
      some (.termination,.awaitingTxAck) := by
  decide +kernel

end Ch58xHal.Termination
