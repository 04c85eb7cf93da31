import Ch58xHal.ControlHandlers

/-! The data path of a connection on its own. Of the control plane it sees one thing, the
Control PDU that would go out next; every call of a connection is one of the moves below
on its sequence numbers, its ACL queue and its cached frame. -/
namespace Ch58xHal.DataPlane
open ControlPdu Llcp Connection ConnectionEvent ConnectionRun ControlHandlers DataHeader Machines SlotQueue

/- The calls that carry ACL data or its completion to the Host. -/
def aclCall : HostCall → Bool
  | .completedAcl _ _ => true
  | .sendAcl _ _ => true
  | _ => false

section Moves
variable (d : DataPath)

def kindToSend (control : Option PendingData) : TransmittedPdu :=
  if control.isSome then .control else if d.pending.isSome then .acl else .empty

def select (control : Option PendingData) : DataPath :=
  if d.transmitted = .none then {d with transmitted := kindToSend d control} else d

def selected (control : Option PendingData) : Option PendingData :=
  match d.transmitted with
  | .control => control
  | .acl => d.pending
  | .empty => none
  | .none => none

def build (control : Option PendingData) : DataPath :=
  if d.txFrame = [] then
    {d with txFrame := frameOf (selected d control) d.transmitSn d.expectedSn,txFrameFresh := true}
  else d

def refreshed : List UInt8 → List UInt8
  | [] => []
  | header :: rest => refreshTransmitSequenceHeader header d.transmitSn d.expectedSn :: rest

def stage (control : Option PendingData) : DataPath :=
  let d := build (select d control) control
  {d with txFrame := refreshed d d.txFrame}

def note (transmitted : Bool) : DataPath := {d with txFrameFresh := d.txFrameFresh && !transmitted}

def buffer : Buffer PendingData aclQueueCapacity := ⟨d.pending,d.queuedAcl⟩

def release : DataPath :=
  {d with
    pending := if d.transmitted = .acl then d.queuedAcl.first else d.pending
    queuedAcl := if d.transmitted = .acl then d.queuedAcl.shift else d.queuedAcl
    transmitted := .none
    txFrame := []
    txFrameFresh := false
    transmitSn := d.transmitSn ^^^ 1}

def acknowledge (header : UInt8) (outstanding : Bool) : DataPath :=
  if acknowledgesTransmitOwner header d.transmitSn outstanding false then release d else d

def accept (header : UInt8) : DataPath :=
  if sn header = d.expectedSn then {d with expectedSn := d.expectedSn ^^^ 1} else d

end Moves

section CallsMade
variable (handle : UInt16) (d : DataPath)

def completion (header : UInt8) (outstanding : Bool) : List HostCall :=
  if acknowledgesTransmitOwner header d.transmitSn outstanding false = true ∧ d.transmitted = .acl then
    [.completedAcl handle 1] else []

def forwarded (llid : UInt8) (payload : List UInt8) : List HostCall :=
  if llid ≠ llidControl ∧ payload ≠ [] ∧ (llid = llidContinuation ∨ llid = llidStart) then
    [.sendAcl (handle ||| if llid = llidContinuation then hciPbContinuing else hciPbFirstFlushable) payload]
  else []

def forwarding (header : UInt8) (payload : List UInt8) : List HostCall :=
  if sn header = d.expectedSn then forwarded handle (header &&& 0x03) payload else []

end CallsMade

/-! The stages of an event on the data path. -/

theorem settlePath {c : ActiveConnection} {now after notify}
    (ok : c.settleInstants now = .ok (after,notify)) :
    after.toDataPath = c.toDataPath ∧ after.handle = c.handle := by
  obtain ⟨channels,request,window,deadline,map,update,asked,rfl⟩ := settleShape ok
  exact ⟨rfl,rfl⟩

theorem skipPath {c : ActiveConnection} {now after notify} (ok : c.skipEvent now = .ok (after,notify)) :
    after.toDataPath = c.toDataPath ∧ after.handle = c.handle := by
  obtain ⟨settled,settles,rfl⟩ := skipShape ok
  have kept := settlePath settles
  exact kept

theorem promotePath (c : ActiveConnection) :
    c.promotePriorityControlIfIdle.toDataPath = c.toDataPath ∧
      c.promotePriorityControlIfIdle.toEventTiming = c.toEventTiming ∧
      c.promotePriorityControlIfIdle.handle = c.handle := by
  unfold ActiveConnection.promotePriorityControlIfIdle
  split <;> exact ⟨rfl,rfl,rfl⟩

theorem selectPath (c : ActiveConnection) :
    (selectTransmitted c).toDataPath = select c.toDataPath c.pendingControl ∧
      (selectTransmitted c).toEventTiming = c.toEventTiming ∧
      (selectTransmitted c).toControlPlane = c.toControlPlane ∧
      (selectTransmitted c).handle = c.handle := by
  unfold selectTransmitted select
  split <;> exact ⟨rfl,rfl,rfl,rfl⟩

theorem buildPath {c built : ActiveConnection} (empty : c.txFrame = [])
    (ok : buildTransmitFrame c = some built) :
    built.toDataPath = build c.toDataPath c.pendingControl ∧
      built.toEventTiming = c.toEventTiming ∧ built.handle = c.handle := by
  unfold buildTransmitFrame at ok
  dsimp only at ok
  split at ok
  · cases ok
  · cases ok
    have same : selectedPdu c = selected c.toDataPath c.pendingControl := rfl
    simp [build,empty,same]

/- Staging a frame depends on the control plane only through the PDU it would send. -/
theorem stagePath {c staged : ActiveConnection} (ok : stageTransmit c = some staged) :
    staged.toDataPath = stage c.toDataPath c.promotePriorityControlIfIdle.pendingControl ∧
      staged.toEventTiming = c.toEventTiming ∧ staged.handle = c.handle := by
  obtain ⟨promotedPath,promotedTiming,promotedHandle⟩ := promotePath c
  obtain ⟨path,timing,control,handle⟩ := selectPath c.promotePriorityControlIfIdle
  unfold stageTransmit at ok
  dsimp only at ok
  rw [← promotedPath,← promotedTiming,← promotedHandle,← timing,← handle,stage,← path]
  rw [← control]
  generalize selectTransmitted c.promotePriorityControlIfIdle = chosen at ok ⊢
  by_cases empty : chosen.txFrame = []
  · rw [if_pos empty] at ok
    cases made : buildTransmitFrame chosen with
    | none => simp [made] at ok
    | some built =>
      obtain ⟨builtPath,builtTiming,builtHandle⟩ := buildPath empty made
      rw [made] at ok
      cases ok
      rw [← builtPath]
      exact ⟨rfl,builtTiming,builtHandle⟩
  · rw [if_neg empty] at ok
    cases ok
    have same : build chosen.toDataPath chosen.pendingControl = chosen.toDataPath := if_neg empty
    rw [same]
    exact ⟨rfl,rfl,rfl⟩

theorem notePath {c noted : ActiveConnection} {transmitted}
    (ok : noteTransmission c transmitted = some noted) :
    noted.toDataPath = note c.toDataPath transmitted ∧ noted.handle = c.handle := by
  unfold noteTransmission at ok
  split at ok
  · rename_i sent
    dsimp only at ok
    split at ok
    · cases ok
    · cases ok
      simp [note,sent.1,sent.2]
  · rename_i unsent
    cases ok
    have same : (c.txFrameFresh && !transmitted) = c.txFrameFresh := by
      cases fresh : c.txFrameFresh <;> cases transmitted <;> simp_all
    simp [note,same]

theorem acknowledgePath {c after : ActiveConnection} {header outstanding now calls}
    (ok : acknowledgeTransmit c header outstanding now = some (after,calls)) :
    after.toDataPath = acknowledge c.toDataPath header outstanding ∧ after.handle = c.handle ∧
      calls = completion c.handle c.toDataPath header outstanding := by
  unfold acknowledgeTransmit at ok
  unfold acknowledge completion
  split at ok
  · rename_i acks
    dsimp only at ok
    split at ok
    · cases ok
    · rename_i control _
      cases ok
      simp only [acks,true_and,if_true]
      unfold releaseOwner release
      cases kind : c.transmitted with
      | control =>
        dsimp only
        cases waiting : control.priorityControl <;> simp
      | acl => simp
      | empty => simp
      | none => simp
  · rename_i quiet
    cases ok
    simp [quiet]

/- Handlers of Control PDUs call the Host only about the fate of a connection update. -/
def OnlyResults (c : ActiveConnection) (calls : List HostCall) : Prop :=
  ∀ call ∈ calls, ∃ status, call = emitConnectionUpdateResult c status

section Handlers
variable (c : ActiveConnection)

theorem noResults : OnlyResults c [] := by
  intro call member
  cases member

theorem oneResult (status) : OnlyResults c [emitConnectionUpdateResult c status] := by
  intro call member
  exact ⟨status,List.mem_singleton.mp member⟩

theorem clearedCalls (error) : OnlyResults c (cleared c error).calls := by
  unfold cleared
  split
  · exact oneResult c error
  · exact noResults c

theorem controlCalls (payload) : OnlyResults c (handleLlControl c payload).calls := by
  have path := controlHandles c payload
  generalize handleLlControl c payload = handled at path ⊢
  cases path with
  | ignored => exact noResults c
  | ended => exact noResults c
  | refused => exact noResults c
  | dropped => exact oneResult c _
  | rejected => exact oneResult c _
  | responded => exact noResults c
  | requested => exact clearedCalls c _
  | updateAnswered => exact noResults c
  | updateIndicated => exact noResults c
  | updateCollided => exact noResults c
  | mapStored => exact clearedCalls c _
  | mapCollided => exact clearedCalls c _

end Handlers

theorem resultsQuiet {c : ActiveConnection} {calls} (h : OnlyResults c calls) : calls.filter aclCall = [] := by
  apply List.filter_eq_nil_iff.mpr
  intro call member
  obtain ⟨status,rfl⟩ := h call member
  simp [aclCall,emitConnectionUpdateResult]

theorem notifyQuiet (c : ActiveConnection) (notify) : (notifyHost c notify).filter aclCall = [] := by
  unfold notifyHost
  split <;> rfl

theorem acceptPath (c : ActiveConnection) (header payload) :
    (acceptReceive c header payload).1.toDataPath = accept c.toDataPath header ∧
      (acceptReceive c header payload).1.handle = c.handle ∧
      (acceptReceive c header payload).2.1.filter aclCall = forwarding c.handle c.toDataPath header payload := by
  unfold acceptReceive accept forwarding sn
  split
  · dsimp only
    split
    · rename_i control
      have quiet := resultsQuiet (controlCalls {c with expectedSn := c.expectedSn ^^^ 1} payload)
      simp [forwarded,control,quiet]
    · rename_i data
      split
      · rename_i nonempty
        simp [forwarded,data,nonempty,aclCall]
      · rename_i none
        simp [forwarded,none]
  · simp

/-! One event, and one call, as moves of the data path. -/

/- Between two events only these two PDUs can become the next Control PDU on air. -/
def Offers (c : ActiveConnection) (control : Option PendingData) : Prop :=
  control = c.pendingControl ∨ control = c.priorityControl

theorem promoteOffers (c : ActiveConnection) : Offers c c.promotePriorityControlIfIdle.pendingControl := by
  unfold ActiveConnection.promotePriorityControlIfIdle
  split
  · exact .inr rfl
  · exact .inl rfl

inductive DataRuns (c : ActiveConnection) :
    Option ExchangeResult → DataPath → Option (List UInt8) → List HostCall → Prop where
  | refused (radio) : DataRuns c radio c.toDataPath none []
  | silent (radio) {control} (offered : Offers c control) :
      DataRuns c radio (stage c.toDataPath control) (some (stage c.toDataPath control).txFrame) []
  | noted {received control} (offered : Offers c control) :
      DataRuns c (some received) (note (stage c.toDataPath control) received.transmitted)
        (some (stage c.toDataPath control).txFrame) []
  | heard {received control header payload} (offered : Offers c control)
      (read : receivedPdu received = some (header,payload))
      {staged acknowledged : DataPath} {outstanding : Bool}
      (stages : staged = stage c.toDataPath control)
      (earlier : outstanding = !staged.txFrameFresh)
      (acks : acknowledged = acknowledge (note staged received.transmitted) header outstanding) :
      DataRuns c (some received) (accept acknowledged header) (some staged.txFrame)
        (completion c.handle (note staged received.transmitted) header outstanding ++
          forwarding c.handle acknowledged header payload)

theorem settleOffers {c : ActiveConnection} {now after notify control}
    (ok : c.settleInstants now = .ok (after,notify)) (offered : Offers (opened after) control) :
    Offers c control := by
  obtain ⟨channels,request,window,deadline,map,update,asked,rfl⟩ := settleShape ok
  exact offered

theorem stagedData {c settled staged : ActiveConnection} {now notify}
    (settles : c.settleInstants now = .ok (settled,notify))
    (stages : stageTransmit (opened settled) = some staged) :
    ∃ control, Offers c control ∧ staged.toDataPath = stage c.toDataPath control ∧
      staged.handle = c.handle := by
  obtain ⟨keptPath,keptHandle⟩ := settlePath settles
  obtain ⟨path,_,handle⟩ := stagePath stages
  have offered := settleOffers settles (promoteOffers (opened settled))
  have before : (opened settled).toDataPath = c.toDataPath := keptPath
  rw [before] at path
  exact ⟨_,offered,path,handle.trans keptHandle⟩

theorem closeData {c after : ActiveConnection} {clock received header payload outstanding terminate told reason}
    (closes : Closes c clock received header payload outstanding terminate after told reason) :
    after.handle = c.handle ∧
    (after.toDataPath = c.toDataPath ∧ told.filter aclCall = [] ∨
     after.toDataPath = accept (acknowledge c.toDataPath header outstanding) header ∧
      told.filter aclCall = completion c.handle c.toDataPath header outstanding ++
        forwarding c.handle (acknowledge c.toDataPath header outstanding) header payload) := by
  have released : (completion c.handle c.toDataPath header outstanding).filter aclCall =
      completion c.handle c.toDataPath header outstanding := by
    unfold completion
    split <;> rfl
  cases closes with
  | unacknowledged refused => exact ⟨rfl,.inl ⟨rfl,rfl⟩⟩
  | unsettled acknowledged refused =>
    obtain ⟨ackPath,ackHandle,rfl⟩ := acknowledgePath acknowledged
    obtain ⟨accPath,accHandle,accCalls⟩ := acceptPath _ header payload
    refine ⟨accHandle.trans ackHandle,.inr ⟨?_,?_⟩⟩
    · rw [accPath,ackPath]
    · rw [List.filter_append,released,accCalls,ackPath,ackHandle]
  | closed acknowledged settles =>
    obtain ⟨ackPath,ackHandle,rfl⟩ := acknowledgePath acknowledged
    obtain ⟨accPath,accHandle,accCalls⟩ := acceptPath _ header payload
    obtain ⟨setPath,setHandle⟩ := settlePath settles
    refine ⟨setHandle.trans (accHandle.trans ackHandle),.inr ⟨?_,?_⟩⟩
    · exact setPath.trans (accPath.trans (by rw [ackPath]))
    · rw [List.filter_append,List.filter_append,released,accCalls,ackPath,ackHandle,notifyQuiet,
        List.append_nil]

theorem eventData (c clock radio) :
    DataRuns c radio (connectionEvent c clock radio).connection.toDataPath
      ((connectionEvent c clock radio).exchange.map ExchangeRequest.transmit)
      ((connectionEvent c clock radio).calls.filter aclCall) ∧
    (connectionEvent c clock radio).connection.handle = c.handle := by
  have path := eventRuns c clock radio
  generalize connectionEvent c clock radio = outcome at path ⊢
  cases path with
  | unsettled refused => exact ⟨.refused radio,rfl⟩
  | @unstaged _ settled notify settles refused =>
    obtain ⟨kept,handle⟩ := settlePath settles
    have before : (opened settled).toDataPath = c.toDataPath := kept
    rw [before,notifyQuiet]
    exact ⟨.refused radio,handle⟩
  | @silent settled notify staged settles stages =>
    obtain ⟨control,offered,path,handle⟩ := stagedData settles stages
    simp only [notifyQuiet,path,requested,Option.map_some]
    exact ⟨.silent none offered,handle⟩
  | @uncompleted settled notify staged received settles stages refused =>
    obtain ⟨control,offered,path,handle⟩ := stagedData settles stages
    simp only [notifyQuiet,path,requested,Option.map_some]
    exact ⟨.silent (some received) offered,handle⟩
  | @unreadable settled notify staged received noted settles stages notes rejected =>
    obtain ⟨control,offered,path,handle⟩ := stagedData settles stages
    obtain ⟨notedPath,notedHandle⟩ := notePath notes
    simp only [notifyQuiet,notedPath,path,requested,Option.map_some]
    exact ⟨.noted offered,notedHandle.trans handle⟩
  | @heard settled notify staged received noted header payload after told reason settles stages notes read closes =>
    obtain ⟨control,offered,path,handle⟩ := stagedData settles stages
    obtain ⟨notedPath,notedHandle⟩ := notePath notes
    obtain ⟨closedHandle,closed⟩ := closeData closes
    have same : (heard noted clock received).toDataPath = note (stage c.toDataPath control) received.transmitted := by
      rw [← path]
      exact notedPath
    have handles : (heard noted clock received).handle = c.handle := notedHandle.trans handle
    refine ⟨?_,closedHandle.trans handles⟩
    simp only [List.filter_append,notifyQuiet,List.nil_append,requested,Option.map_some,path]
    rw [same,handles] at closed
    obtain ⟨stopped,quiet⟩ | ⟨moved,calls⟩ := closed
    · rw [stopped,quiet]
      exact .noted offered
    · rw [moved,calls,show staged.txFrameFresh = (stage c.toDataPath control).txFrameFresh from
        congrArg DataPath.txFrameFresh path]
      exact .heard offered read rfl rfl rfl

/- The Host packets that reach the queue, with what `queue_acl` keeps of them. -/
inductive DataStep (c : ActiveConnection) : Input → DataPath → Option (List UInt8) → List HostCall → Prop where
  | kept (input) (refused : ∀ packet, input = .host packet → packet.kind = .aclData →
      ∃ status, c.queueAcl c.handle packet.bytes = .error status) : DataStep c input c.toDataPath none []
  | queued {packet path} (acl : packet.kind = .aclData)
      (ok : c.queueAcl c.handle packet.bytes = .ok path) : DataStep c (.host packet) path none []
  | ran {clock radio path frame calls} (runs : DataRuns c radio path frame calls) :
      DataStep c (.event clock radio) path frame calls

/- A queued packet leaves the frame on air and the sequence numbers alone. -/
theorem queuedShape {d path : DataPath} {handle bytes} (ok : d.queueAcl handle bytes = .ok path) :
    ∃ pending queued token, path =
      {d with pending := pending,queuedAcl := queued,nextAclOwnerToken := token} := by
  unfold DataPath.queueAcl DataPath.store at ok
  split at ok
  · cases ok
  · dsimp only at ok
    split at ok
    · cases ok
    · split at ok
      · cases ok
      · rename_i stored
        cases ok
        split at stored
        · cases stored
          exact ⟨_,_,_,rfl⟩
        · split at stored
          · cases stored
          · cases stored
            exact ⟨_,_,_,rfl⟩

theorem commandPath (c : ActiveConnection) (bytes) :
    (handleConnectedCommand c bytes).1.toDataPath = c.toDataPath ∧
      (handleConnectedCommand c bytes).1.handle = c.handle ∧
      (handleConnectedCommand c bytes).2.1.filter aclCall = [] := by
  unfold handleConnectedCommand
  dsimp only
  split_ifs <;> exact ⟨rfl,rfl,rfl⟩

theorem skipLoopPath {c after : ActiveConnection} {now clock count notify}
    (ok : c.skipExpiredEvents now clock = .ok (after,count,notify)) :
    after.toDataPath = c.toDataPath ∧ after.handle = c.handle := by
  unfold ActiveConnection.skipExpiredEvents at ok
  refine skipKeeps (P := fun x => x.toDataPath = c.toDataPath ∧ x.handle = c.handle) ?_ ⟨rfl,rfl⟩ ok
  intro x t x' told kept _ skips
  obtain ⟨path,handle⟩ := skipPath skips
  exact ⟨path.trans kept.1,handle.trans kept.2⟩

theorem finishQuiet (c : ActiveConnection) (calls exchange reason) :
    (finish c calls exchange reason).2.calls.filter aclCall = calls.filter aclCall := by
  simp [finish,emitDisconnection,aclCall]

theorem hostData (c : ActiveConnection) (packet) :
    DataStep c (.host packet) (hostStep c packet).1.connection.toDataPath
      ((hostStep c packet).2.exchange.map ExchangeRequest.transmit)
      ((hostStep c packet).2.calls.filter aclCall) ∧
    (hostStep c packet).1.connection.handle = c.handle := by
  unfold hostStep
  have served := hostServes c packet
  generalize processConnectedHostPacket c packet = done at served ⊢
  cases served with
  | ignored _ unqueued =>
    have refused : ∀ other, Input.host packet = .host other → other.kind = .aclData →
        ∃ status, c.queueAcl c.handle other.bytes = .error status := by
      intro other same acl
      cases same
      exact unqueued acl
    exact ⟨.kept _ refused,rfl⟩
  | queued kind queues => exact ⟨.queued kind queues,rfl⟩
  | command kind =>
    have other : ∀ other, Input.host packet = .host other → other.kind = .aclData →
        ∃ status, c.queueAcl c.handle other.bytes = .error status := by
      intro other same acl
      cases same
      rw [kind] at acl
      cases acl
    dsimp only
    obtain ⟨path,handle,quiet⟩ := commandPath c packet.bytes
    split
    · rw [finishQuiet,quiet]
      simp only [finish,path]
      exact ⟨.kept _ other,handle⟩
    · simp only [stay,path,quiet]
      exact ⟨.kept _ other,handle⟩

theorem skipData (c : ActiveConnection) (now clock) :
    DataStep c (.skip now clock) (skipStep c now clock).1.connection.toDataPath
      ((skipStep c now clock).2.exchange.map ExchangeRequest.transmit)
      ((skipStep c now clock).2.calls.filter aclCall) ∧
    (skipStep c now clock).1.connection.handle = c.handle := by
  cases skips : c.skipExpiredEvents now clock with
  | error reason =>
    rw [skipRefused skips]
    exact ⟨.kept _ (by simp),rfl⟩
  | ok result =>
    obtain ⟨after,count,notify⟩ := result
    obtain ⟨path,handle⟩ := skipLoopPath skips
    rw [skipDone skips]
    simp only [stay,notifyQuiet,path]
    exact ⟨.kept _ (by simp),handle⟩

theorem deadlinesData (c : ActiveConnection) (now) :
    DataStep c (.deadlines now) (deadlinesStep c now).1.connection.toDataPath
      ((deadlinesStep c now).2.exchange.map ExchangeRequest.transmit)
      ((deadlinesStep c now).2.calls.filter aclCall) ∧
    (deadlinesStep c now).1.connection.handle = c.handle := by
  unfold deadlinesStep
  dsimp only
  split
  · exact ⟨.kept _ (by simp),rfl⟩
  · split <;> exact ⟨.kept _ (by simp),rfl⟩

theorem eventStepData (c : ActiveConnection) (clock radio) :
    DataStep c (.event clock radio) (eventStep c clock radio).1.connection.toDataPath
      ((eventStep c clock radio).2.exchange.map ExchangeRequest.transmit)
      ((eventStep c clock radio).2.calls.filter aclCall) ∧
    (eventStep c clock radio).1.connection.handle = c.handle := by
  obtain ⟨runs,handle⟩ := eventData c clock radio
  unfold eventStep
  dsimp only
  cases (connectionEvent c clock radio).reason with
  | none => exact ⟨.ran runs,handle⟩
  | some reason =>
    simp only [finishQuiet]
    exact ⟨.ran runs,handle⟩

/- The step lemma of the data path. -/
theorem stepData (link : Link) (running : link.down = false) (input : Input) :
    DataStep link.connection input (step link input).1.connection.toDataPath
      ((step link input).2.exchange.map ExchangeRequest.transmit)
      ((step link input).2.calls.filter aclCall) ∧
    (step link input).1.connection.handle = link.connection.handle := by
  cases input with
  | host packet =>
    rw [stepHost running]
    exact hostData link.connection packet
  | deadlines now =>
    rw [stepDeadlines running]
    exact deadlinesData link.connection now
  | skip now clock =>
    rw [stepSkip running]
    exact skipData link.connection now clock
  | event clock radio =>
    rw [stepEvent running]
    exact eventStepData link.connection clock radio

end Ch58xHal.DataPlane
