import Ch58xHal.DataPlane

/-! What waits in the Control slots is a Control PDU: its LLID says so, whoever queued it. -/
namespace Ch58xHal.ControlLabels
open ControlPdu Llcp Connection ConnectionEvent ConnectionRun ControlHandlers DataPlane

def Slotted (p : ControlPlane) (pdu : PendingData) : Prop :=
  p.pendingControl = some pdu ∨ p.priorityControl = some pdu ∨ p.queuedControl = some pdu

def Labelled (p : ControlPlane) : Prop := ∀ pdu, Slotted p pdu → pdu.llid = llidControl

section Operations
variable {p after : ControlPlane}

theorem fewerLabelled (labelled : Labelled p) (fewer : ∀ pdu, Slotted after pdu → Slotted p pdu) :
    Labelled after := fun pdu slotted => labelled pdu (fewer pdu slotted)

theorem queuedLabelled (labelled : Labelled p) (bytes token) :
    Labelled (p.queueControlWithToken bytes token).1 := by
  unfold ControlPlane.queueControlWithToken
  split
  · dsimp only
    split_ifs
    · rintro pdu (pending | priority | queued)
      · cases pending
        rfl
      · exact labelled pdu (Or.inr (Or.inl priority))
      · exact labelled pdu (Or.inr (Or.inr queued))
    · rintro pdu (pending | priority | queued)
      · exact labelled pdu (Or.inl pending)
      · exact labelled pdu (Or.inr (Or.inl priority))
      · cases queued
        rfl
    · exact labelled
  · exact labelled

theorem answeredLabelled (labelled : Labelled p) (bytes) : Labelled (p.queueControl bytes).1 :=
  queuedLabelled (p := p.allocateControlToken.1) labelled bytes p.allocateControlToken.2

theorem failedLabelled (labelled : Labelled p) (side error) : Labelled (p.failProcedure side error) := by
  unfold ControlPlane.failProcedure
  split <;> exact labelled

theorem respondedLabelled (labelled : Labelled p) {kind opcode response expected timeout}
    (responds : Responds p kind opcode response expected timeout after) : Labelled after := by
  cases responds with
  | silent => exact labelled
  | refused => exact answeredLabelled (p := p.allocateControlToken.1) labelled _
  | answered => exact queuedLabelled (by exact labelled) _ _
  | failed => exact labelled

theorem requestedLabelled (labelled : Labelled p) {kind request expected timeout result}
    (starts : Starts p kind request expected timeout result) : Labelled result.1 := by
  cases starts with
  | silent => exact labelled
  | busy => exact labelled
  | started => exact queuedLabelled (by exact labelled) _ _
  | failed => exact labelled

/- Bookkeeping moves procedures only. -/
theorem pendingLabelled (labelled : Labelled p) {act} (ok : p.onPendingProcedure act = some after) :
    Labelled after := by
  unfold ControlPlane.onPendingProcedure at ok
  split at ok
  · cases ok
    exact labelled
  · split at ok
    · cases ok
      exact labelled
    · split at ok
      · cases ok
      · cases ok
        exact labelled

end Operations

section Event
variable {c after : ActiveConnection}

theorem clearedLabelled (labelled : Labelled c.toControlPlane) (error) : Labelled (cleared c error).control := by
  unfold cleared
  split
  · exact failedLabelled (p := {c.toControlPlane with localConnectionParamRequest := none}) labelled _ _
  · exact labelled

theorem handledLabelled (labelled : Labelled c.toControlPlane) {payload handled}
    (path : Handles c payload handled) : Labelled handled.control := by
  cases path with
  | ignored => exact labelled
  | ended => exact labelled
  | refused => exact answeredLabelled labelled _
  | dropped =>
    exact failedLabelled (p := {c.toControlPlane with localConnectionParamRequest := none}) labelled _ _
  | rejected => exact failedLabelled labelled _ _
  | responded _ responds => exact respondedLabelled labelled responds
  | requested responds => exact respondedLabelled (clearedLabelled labelled _) responds
  | updateAnswered => exact labelled
  | updateIndicated _ _ _ started =>
    obtain ⟨_,_,_,_,_,_,_,rfl⟩ := instantStarted started
    exact labelled
  | updateCollided => exact labelled
  | mapStored _ _ started =>
    obtain ⟨_,_,_,_,_,_,_,rfl⟩ := instantStarted started
    exact clearedLabelled labelled _
  | mapCollided => exact clearedLabelled labelled _

theorem settledLabelled (labelled : Labelled c.toControlPlane) {now notify}
    (settles : c.settleInstants now = .ok (after,notify)) : Labelled after.toControlPlane := by
  obtain ⟨channels,request,window,deadline,map,update,asked,rfl⟩ := settleShape settles
  exact labelled

theorem promotedLabelled (labelled : Labelled c.toControlPlane) :
    Labelled c.promotePriorityControlIfIdle.toControlPlane := by
  unfold ActiveConnection.promotePriorityControlIfIdle
  split
  · refine fewerLabelled labelled ?_
    rintro pdu (pending | priority | queued)
    · exact Or.inr (Or.inl pending)
    · exact Or.inl priority
    · exact Or.inr (Or.inr queued)
  · exact labelled

theorem stagedLabelled (labelled : Labelled c.toControlPlane) (stages : stageTransmit c = some after) :
    Labelled after.toControlPlane := by
  have chosen : Labelled (selectTransmitted c.promotePriorityControlIfIdle).toControlPlane := by
    rw [(selectPath c.promotePriorityControlIfIdle).2.2.1]
    exact promotedLabelled labelled
  unfold stageTransmit at stages
  dsimp only at stages
  generalize selectTransmitted c.promotePriorityControlIfIdle = staged at chosen stages
  by_cases empty : staged.txFrame = []
  · rw [if_pos empty] at stages
    unfold buildTransmitFrame at stages
    dsimp only at stages
    by_cases control : staged.transmitted = .control
    · rw [if_pos control] at stages
      cases planned : staged.planPendingControlProcedure with
      | none => simp [planned] at stages
      | some plane =>
        rw [planned] at stages
        cases stages
        exact pendingLabelled chosen planned
    · rw [if_neg control] at stages
      cases stages
      exact chosen
  · rw [if_neg empty] at stages
    cases stages
    exact chosen

theorem notedLabelled (labelled : Labelled c.toControlPlane) {transmitted}
    (notes : noteTransmission c transmitted = some after) : Labelled after.toControlPlane := by
  unfold noteTransmission at notes
  split at notes
  · dsimp only at notes
    by_cases control : c.transmitted = .control
    · rw [if_pos control] at notes
      cases completed : c.completePendingControlTransmit with
      | none => simp [completed] at notes
      | some plane =>
        rw [completed] at notes
        cases notes
        exact pendingLabelled labelled completed
    · rw [if_neg control] at notes
      cases notes
      exact labelled
  · cases notes
    exact labelled

theorem releasedLabelled (labelled : Labelled c.toControlPlane) : Labelled (releaseOwner c).1.toControlPlane := by
  unfold releaseOwner
  split
  · split
    · rename_i priority waiting
      refine fewerLabelled labelled ?_
      rintro pdu (pending | none | queued)
      · exact Or.inr (Or.inl (waiting.trans pending))
      · cases none
      · exact Or.inr (Or.inr queued)
    · refine fewerLabelled labelled ?_
      rintro pdu (pending | priority | none)
      · exact Or.inr (Or.inr pending)
      · exact Or.inr (Or.inl priority)
      · cases none
  · exact labelled
  · exact labelled
  · exact labelled

theorem acknowledgedLabelled (labelled : Labelled c.toControlPlane) {header outstanding now calls}
    (acks : acknowledgeTransmit c header outstanding now = some (after,calls)) :
    Labelled after.toControlPlane := by
  unfold acknowledgeTransmit at acks
  split at acks
  · dsimp only at acks
    by_cases control : c.transmitted = .control
    · rw [if_pos control] at acks
      cases acknowledged : c.acknowledgePendingControl now with
      | none => simp [acknowledged] at acks
      | some plane =>
        rw [acknowledged] at acks
        cases acks
        exact releasedLabelled (c := {c with toControlPlane := plane}) (pendingLabelled labelled acknowledged)
    · rw [if_neg control] at acks
      cases acks
      exact releasedLabelled labelled
  · cases acks
    exact labelled

theorem acceptedLabelled (labelled : Labelled c.toControlPlane) (header payload) :
    Labelled (acceptReceive c header payload).1.toControlPlane := by
  unfold acceptReceive
  split
  · dsimp only
    split
    · exact handledLabelled (c := {c with expectedSn := c.expectedSn ^^^ 1}) labelled (controlHandles ..)
    · split <;> exact labelled
  · exact labelled

theorem closedLabelled {clock received header payload outstanding terminate told reason}
    (labelled : Labelled c.toControlPlane)
    (closes : Closes c clock received header payload outstanding terminate after told reason) :
    Labelled after.toControlPlane := by
  cases closes with
  | unacknowledged => exact labelled
  | unsettled acks => exact acceptedLabelled (acknowledgedLabelled labelled acks) header payload
  | closed acks settles =>
    have settled := settledLabelled (acceptedLabelled (acknowledgedLabelled labelled acks) header payload) settles
    exact settled

theorem eventLabelled (labelled : Labelled c.toControlPlane) (clock radio) :
    Labelled (connectionEvent c clock radio).connection.toControlPlane := by
  have opening : ∀ {settled notify}, c.settleInstants clock.entry = .ok (settled,notify) →
      Labelled (opened settled).toControlPlane := by
    intro settled notify settles
    have kept := settledLabelled labelled settles
    exact kept
  have path := eventRuns c clock radio
  generalize connectionEvent c clock radio = outcome at path ⊢
  cases path with
  | unsettled => exact labelled
  | unstaged settles => exact opening settles
  | silent settles stages => exact stagedLabelled (opening settles) stages
  | uncompleted settles stages => exact stagedLabelled (opening settles) stages
  | unreadable settles stages notes => exact notedLabelled (stagedLabelled (opening settles) stages) notes
  | heard settles stages notes read closes =>
    have noted := notedLabelled (stagedLabelled (opening settles) stages) notes
    exact closedLabelled (c := heard _ clock _) noted closes

end Event

/-! Whole steps. -/

theorem commandLabelled {c : ActiveConnection} (labelled : Labelled c.toControlPlane) (bytes) :
    Labelled (handleConnectedCommand c bytes).1.toControlPlane := by
  have queued : ∀ kind request expected timeout,
      Labelled (c.queueLocalProcedure kind request expected timeout).1 :=
    fun kind request expected timeout => requestedLabelled labelled (localStarts ..)
  unfold handleConnectedCommand
  dsimp only
  split_ifs
  all_goals first
    | exact labelled
    | exact queued _ _ _ _

theorem stepLabelled {link : Link} (labelled : Labelled link.connection.toControlPlane) (input : Input) :
    Labelled (step link input).1.connection.toControlPlane := by
  cases running : link.down with
  | true => rwa [stepOver running]
  | false =>
    cases input with
    | host packet =>
      rw [stepHost running]
      have kept : Labelled (processConnectedHostPacket link.connection packet).1.toControlPlane := by
        have served := hostServes link.connection packet
        generalize processConnectedHostPacket link.connection packet = done at served ⊢
        cases served with
        | ignored => exact labelled
        | queued => exact labelled
        | command => exact commandLabelled labelled packet.bytes
      unfold hostStep
      dsimp only
      split <;> exact kept
    | deadlines now =>
      rw [stepDeadlines running]
      unfold deadlinesStep
      dsimp only
      split_ifs <;> exact labelled
    | skip now clock =>
      rw [stepSkip running]
      cases skips : link.connection.skipExpiredEvents now clock with
      | error reason =>
        rw [skipRefused skips]
        exact labelled
      | ok result =>
        obtain ⟨after,count,notify⟩ := result
        rw [skipDone skips]
        refine skipKeeps (P := fun c => Labelled c.toControlPlane) ?_ labelled skips
        intro c now after notify labelled _ skips
        obtain ⟨settled,settles,rfl⟩ := skipShape skips
        have kept := settledLabelled labelled settles
        exact kept
    | event clock radio =>
      rw [stepEvent running]
      have kept := eventLabelled labelled clock radio
      unfold eventStep
      dsimp only
      split <;> exact kept

theorem createdLabelled {handle request endUs now c}
    (created : ActiveConnection.newFor handle request endUs now = some c) : Labelled c.toControlPlane := by
  unfold ActiveConnection.newFor at created
  split at created
  · cases created
  · cases created
    rintro pdu (pending | priority | queued)
    · cases pending
    · cases priority
    · cases queued

end Ch58xHal.ControlLabels
