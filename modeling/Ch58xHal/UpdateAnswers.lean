import Ch58xHal.OwnershipRun

/-! Every accepted connection update of the Host is answered once. The sections of a run say where
the request of the Host comes and goes, what the Host is told there, and whether the update it
asked for was put in force. -/
namespace Ch58xHal.UpdateAnswers
open ControlPdu Llcp LlcpSteps Connection ConnectionEvent ConnectionRun ControlHandlers DataPlane InstantOwners
open OwnershipSteps OwnershipRun StepMarks Machines

/- The connection before and after a section. -/
def span (marks : List Mark) : Option (ActiveConnection × ActiveConnection) :=
  marks.head?.bind fun first => marks.getLast?.map fun last => (first.before,last.after)

/- The connection update with which the Host's request is granted, put in force here. -/
def Grants (marks : List Mark) (r : LocalConnectionParamRequest) : Prop :=
  ∃ m ∈ marks, m.act = .instants ∧ ∃ u, m.before.pendingConnectionUpdate = some u ∧
    u.instant = m.before.eventCounter ∧ r.accepts u = true ∧
    m.after.pendingConnectionUpdate = none ∧ (owned m.after).parameters = parametersOf u

/- While a request is outstanding nothing is told; where it ends, one result is. -/
def AnsweredOnce (marks : List Mark) (before after : ActiveConnection) : Prop :=
  ∀ r, before.localConnectionParamRequest = some r →
    after.localConnectionParamRequest = some r ∧ results (told marks) = [] ∨
    after.localConnectionParamRequest = none ∧
      ∃ status, results (told marks) = [status] ∧ (status = 0 ↔ Grants marks r)

/- No request comes but with the command that is accepted. -/
def AskedOnce (marks : List Mark) (before after : ActiveConnection) : Prop :=
  (told marks).countP accepted = 0 ∧
    (before.localConnectionParamRequest = none → after.localConnectionParamRequest = none) ∨
  (told marks).countP accepted = 1 ∧ before.localConnectionParamRequest = none ∧
    ∃ m packet, marks = [m] ∧ m.act = .host packet ∧
      after.localConnectionParamRequest = some (rangeOf packet.bytes)

structure Answers (marks : List Mark) (before after : ActiveConnection) : Prop where
  asked : AskedOnce marks before after
  answered : AnsweredOnce marks before after

/- The Host's request ends in this section. -/
def finishes (marks : List Mark) : Bool :=
  (span marks).any fun ends =>
    ends.1.localConnectionParamRequest.isSome && ends.2.localConnectionParamRequest.isNone

def outstanding (c : ActiveConnection) : Nat := if c.localConnectionParamRequest.isSome then 1 else 0

/-! Rejections with error code zero. -/

/- Whether the packet is a new Control PDU that rejects the Host's request with success. -/
def rejectsWithSuccess (c : ActiveConnection) (header : UInt8) (payload : List UInt8) : Prop :=
  (header >>> 3) &&& 1 = c.expectedSn ∧ header &&& 0x03 = llidControl ∧ payload = [0x11,0x0f,0x00] ∧
    c.localConnectionParamRequest.isSome = true

/- Whether this event takes a rejection with error code zero for the answer to the request. -/
def FalseSuccess (c : ActiveConnection) (radio : Option ExchangeResult) : Prop :=
  ∃ received header payload, radio = some received ∧ receivedPdu received = some (header,payload) ∧
    rejectsWithSuccess c header payload ∧ (owned c).updateDue = false

def falseSuccess (link : Link) : Input → Prop
  | .event _ radio => FalseSuccess link.connection radio
  | _ => False

/-! One mark. -/

/- What becomes of the request where no instant is applied: it stays, and nothing is told, or it
ends with an error. -/
def Refuses (before after : Option LocalConnectionParamRequest) (statuses : List UInt8) : Prop :=
  after = before ∧ (before.isSome = true → statuses = []) ∨
  after = none ∧ before.isSome = true ∧ ∃ status, statuses = [status] ∧ status ≠ 0

section Handlers
variable {c : ActiveConnection}

theorem unmoved {calls : List HostCall} {after : Option LocalConnectionParamRequest}
    (same : after = c.localConnectionParamRequest) (quiet : results calls = []) :
    Refuses c.localConnectionParamRequest after (results calls) := Or.inl ⟨same,fun _ => quiet⟩

theorem droppedRefuses {error : UInt8} (asked : c.localConnectionParamRequest.isSome = true) (failed : error ≠ 0) :
    Refuses c.localConnectionParamRequest (dropLocalRequest c c.toControlPlane error).control.localConnectionParamRequest
      (results (dropLocalRequest c c.toControlPlane error).calls) := by
  refine Or.inr ⟨?_,asked,error,rfl,failed⟩
  exact congrArg Ownership.request (failView c.toEventTiming {c.toControlPlane with localConnectionParamRequest := none}
    .localSide error)

theorem clearedRefuses (error : UInt8) (failed : error ≠ 0) :
    Refuses c.localConnectionParamRequest (cleared c error).control.localConnectionParamRequest
      (results (cleared c error).calls) := by
  unfold cleared
  split
  · rename_i asked
    exact droppedRefuses asked failed
  · exact unmoved rfl rfl

/- A request of the Host and a Connection Parameters procedure of the Central exclude each other. -/
theorem activeUnrequested (known : Consistent (owned c)) (active : c.remoteConnectionParametersActive = true) :
    c.localConnectionParamRequest = none := by
  have active : parametersActive (owned c).procedures.remoteSide = true := active
  have requested := known.requested
  cases asked : c.localConnectionParamRequest with
  | none => rfl
  | some r =>
    have own : parametersActive (owned c).procedures.localSide = true := by
      rw [← requested]
      exact Option.isSome_iff_exists.mpr ⟨r,asked⟩
    refine absurd ⟨?_,?_⟩ known.exclusive
    · by_contra quiet
      rw [parametersBear (Bool.eq_false_iff.mpr quiet)] at own
      cases own
    · by_contra quiet
      rw [parametersBear (Bool.eq_false_iff.mpr quiet)] at active
      cases active

/- A new Control PDU ends an outstanding request with an error, unless it is the rejection that
says success. -/
theorem controlRefuses (known : Consistent (owned c)) (payload)
    (code : c.localConnectionParamRequest.isSome = true → payload ≠ [0x11,0x0f,0x00]) :
    Refuses c.localConnectionParamRequest (handleLlControl c payload).control.localConnectionParamRequest
      (results (handleLlControl c payload).calls) := by
  have path := controlHandles c payload
  generalize handleLlControl c payload = handled at path ⊢
  cases path with
  | ignored => exact unmoved rfl rfl
  | ended => exact unmoved rfl rfl
  | refused => exact unmoved (congrArg Ownership.request (queueControlView c.toEventTiming c.toControlPlane _)) rfl
  | dropped asked zero => exact droppedRefuses asked fun success => code asked (zero success)
  | rejected active =>
    refine Or.inl ⟨congrArg Ownership.request (failView c.toEventTiming c.toControlPlane .remoteSide _),?_⟩
    simp [activeUnrequested known active]
  | responded plain responds =>
    obtain ⟨procedures,view⟩ := respondView c.toEventTiming responds
    exact unmoved (congrArg Ownership.request view) rfl
  | @requested response after responds =>
    obtain ⟨procedures,view⟩ := respondView c.toEventTiming responds
    have same : after.localConnectionParamRequest =
        (cleared c requestCollision).control.localConnectionParamRequest := congrArg Ownership.request view
    rw [same]
    exact clearedRefuses _ (by decide)
  | updateAnswered => exact unmoved rfl rfl
  | updateIndicated parsed free unrequested started =>
    obtain ⟨_,_,_,_,_,_,_,rfl⟩ := instantStarted started
    exact unmoved rfl rfl
  | updateCollided => exact unmoved rfl rfl
  | mapStored parsed free started =>
    obtain ⟨_,_,_,_,_,_,_,rfl⟩ := instantStarted started
    exact clearedRefuses (c := c) mapCollision (by decide)
  | mapCollided => exact clearedRefuses (c := c) mapCollision (by decide)

end Handlers

section Marks
variable {c after : ActiveConnection}

/- Where the update that was asked for is applied, the request ends with success. -/
theorem settledRequest (known : Consistent (owned c)) {now notify}
    (settles : c.settleInstants now = .ok (after,notify)) {r : LocalConnectionParamRequest}
    (asked : c.localConnectionParamRequest = some r) :
    after.localConnectionParamRequest = some r ∧ notify = false ∨
    after.localConnectionParamRequest = none ∧ notify = true ∧ ∃ u, c.pendingConnectionUpdate = some u ∧
      u.instant = c.eventCounter ∧ r.accepts u = true ∧ after.pendingConnectionUpdate = none ∧
      (owned after).parameters = parametersOf u := by
  obtain ⟨same,notified,owed⟩ := settleOwned settles
  have request : after.localConnectionParamRequest = (owned c).settle.request := congrArg Ownership.request same
  have update : after.pendingConnectionUpdate = (owned c).settle.update := congrArg Ownership.update same
  cases due : (owned c).updateDue with
  | true =>
    obtain ⟨u,pending,instant⟩ := updateDueNow due
    have pending : c.pendingConnectionUpdate = some u := pending
    obtain ⟨accepts,_⟩ := known.answered r u asked pending
    refine Or.inr ⟨?_,owed due (by simp [asked]),u,pending,instant,accepts,?_,?_⟩
    · simp [request,Ownership.settle,due]
    · simp [update,Ownership.settle,due]
    · rw [same]
      simp only [Ownership.settle,due,if_true]
      show (c.pendingConnectionUpdate.map parametersOf).getD _ = _
      rw [pending]
      rfl
  | false =>
    refine Or.inl ⟨?_,?_⟩
    · rw [request]
      simp only [Ownership.settle,due]
      exact asked
    · cases notify with
      | false => rfl
      | true => exact absurd (notified rfl) (by simp [due])

theorem settledFree {now notify} (settles : c.settleInstants now = .ok (after,notify))
    (free : c.localConnectionParamRequest = none) : after.localConnectionParamRequest = none := by
  have request : after.localConnectionParamRequest = (owned c).settle.request :=
    congrArg Ownership.request (settleOwned settles).1
  rw [request]
  unfold Ownership.settle
  dsimp only
  rw [show (owned c).request = none from free,ite_self]

theorem refusesAnswered {m : Mark} (quiet : m.act ≠ .instants)
    (refuses : Refuses m.before.localConnectionParamRequest m.after.localConnectionParamRequest (results m.calls)) :
    (m.before.localConnectionParamRequest = none → m.after.localConnectionParamRequest = none) ∧
      AnsweredOnce [m] m.before m.after := by
  have alone : told [m] = m.calls := List.append_nil _
  rcases refuses with ⟨same,silent⟩ | ⟨gone,_,status,one,failed⟩
  · refine ⟨fun free => same.trans free,fun r asked => Or.inl ⟨same.trans asked,?_⟩⟩
    rw [alone]
    exact silent (by simp [asked])
  · refine ⟨fun _ => gone,fun r asked => Or.inr ⟨gone,status,by rw [alone,one],?_⟩⟩
    refine ⟨fun success => absurd success failed,?_⟩
    rintro ⟨m',member,acts,_⟩
    rw [List.mem_singleton.mp member] at acts
    exact absurd acts quiet

/- The step lemma of the marks of an event. -/
theorem genuineAnswers {m : Mark} (genuine : Genuine True m) (known : Consistent (owned m.before))
    (code : ∀ payload reason, m.act = .received payload reason →
      m.before.localConnectionParamRequest.isSome = true → payload ≠ [0x11,0x0f,0x00]) :
    (m.before.localConnectionParamRequest = none → m.after.localConnectionParamRequest = none) ∧
      AnsweredOnce [m] m.before m.after := by
  cases genuine with
  | @instants c after now notify calls settles tells =>
    refine ⟨settledFree settles,fun r asked => ?_⟩
    have calls : results (told [⟨c,.instants,calls,after⟩]) = if notify then [0] else [] := by
      rw [tells trivial,← resultsNotify after notify]
      exact congrArg results (List.append_nil _)
    rcases settledRequest known settles asked with ⟨kept,quiet⟩ | ⟨gone,loud,u,granted⟩
    · exact Or.inl ⟨kept,by rw [calls,quiet]; rfl⟩
    · refine Or.inr ⟨gone,0,by rw [calls,loud]; rfl,fun _ => ?_,fun _ => rfl⟩
      exact ⟨_,List.mem_singleton_self _,rfl,u,granted⟩
  | @received c header payload fresh control =>
    refine refusesAnswered (fun wrong => (nomatch wrong)) ?_
    dsimp only
    rw [acceptControl fresh control]
    exact controlRefuses (c := {c with expectedSn := c.expectedSn ^^^ 1}) known payload (code payload _ rfl)
  | @following c after updateClear mapClear moved =>
    exact refusesAnswered (fun wrong => (nomatch wrong)) (unmoved (congrArg Ownership.request moved) rfl)
  | @other c after calls calm quiet =>
    obtain ⟨_,procedures,same⟩ := calm
    exact refusesAnswered (fun wrong => (nomatch wrong))
      (unmoved (congrArg Ownership.request same) (quiet trivial))

end Marks

/-! The rejection that says success. -/

theorem leaveReceives (c : ActiveConnection) (left : Option UInt8) {payload reason} :
    (leaveMark c left).act ≠ .received payload reason := by
  cases left <;> exact fun wrong => (nomatch wrong)

/- An event that reads no packet handles no Control PDU. -/
theorem unreadReceives {first second m : Mark} {c : ActiveConnection} {left form given}
    (member : m ∈ [first,second,leaveMark c left]) (instants : first.act = .instants) (other : second.act = .other) :
    m.act ≠ .received form given := by
  simp only [List.mem_cons,List.not_mem_nil,or_false] at member
  rcases member with rfl | rfl | rfl
  · exact fun wrong => by cases instants.symm.trans wrong
  · exact fun wrong => by cases other.symm.trans wrong
  · exact leaveReceives _ _

/- The request was outstanding, with no update due, when the event began. -/
theorem settledAsked {c settled acked : ActiveConnection} {now notify}
    (settles : c.settleInstants now = .ok (settled,notify)) (calm : Calm (owned settled) (owned acked))
    (asked : acked.localConnectionParamRequest.isSome = true) :
    c.localConnectionParamRequest.isSome = true ∧ (owned c).updateDue = false := by
  obtain ⟨_,procedures,same⟩ := calm
  have before : acked.localConnectionParamRequest = (owned c).settle.request := by
    rw [← (settleOwned settles).1]
    exact congrArg Ownership.request same
  rw [before] at asked
  cases due : (owned c).updateDue with
  | true => simp [Ownership.settle,due] at asked
  | false =>
    simp only [Ownership.settle,due] at asked
    exact ⟨asked,rfl⟩

/- The only Control PDU of an event is that of the packet it has read. -/
theorem closeReceives {c settled after : ActiveConnection} {clock received header payload outstanding terminate calls reason}
    (closes : Closes c clock received header payload outstanding terminate after calls reason) {m : Mark} {form given}
    (member : m ∈ closeMarks clock settled c received header payload outstanding terminate)
    (acts : m.act = .received form given) :
    ∃ released, acknowledgeTransmit c header outstanding clock.acknowledged = some (m.before,released) ∧
      (header >>> 3) &&& 1 = m.before.expectedSn ∧ header &&& 0x03 = llidControl ∧ form = payload := by
  have receipt : ∀ {acked : ActiveConnection} {released}, acknowledgeTransmit c header outstanding clock.acknowledged =
        some (acked,released) → m = receiptMark acked header payload →
      ∃ released, acknowledgeTransmit c header outstanding clock.acknowledged = some (m.before,released) ∧
        (header >>> 3) &&& 1 = m.before.expectedSn ∧ header &&& 0x03 = llidControl ∧ form = payload := by
    rintro acked released acks rfl
    unfold receiptMark at acts
    dsimp only at acts
    split at acts
    · rename_i fresh
      cases acts
      exact ⟨released,acks,fresh.1,fresh.2,rfl⟩
    · cases acts
  cases closes with
  | unacknowledged refused =>
    simp only [closeMarks,refused,List.mem_cons,List.not_mem_nil,or_false] at member
    rcases member with rfl | rfl
    · cases acts
    · exact absurd acts (leaveReceives _ _)
  | unsettled acks refused =>
    simp only [closeMarks,acks,refused,List.mem_cons,List.not_mem_nil,or_false] at member
    rcases member with rfl | same | rfl
    · cases acts
    · exact receipt acks same
    · exact absurd acts (leaveReceives _ _)
  | closed acks settles =>
    simp only [closeMarks,acks,settles,List.mem_cons,List.not_mem_nil,or_false] at member
    rcases member with rfl | same | rfl | rfl | rfl
    · cases acts
    · exact receipt acks same
    · cases acts
    · cases acts
    · exact absurd acts (leaveReceives _ _)

theorem eventReceives {c : ActiveConnection} {clock radio} {m : Mark} {form given}
    (member : m ∈ eventMarks c clock radio) (acts : m.act = .received form given)
    (asked : m.before.localConnectionParamRequest.isSome = true) (success : form = [0x11,0x0f,0x00]) :
    FalseSuccess c radio := by
  have path := eventRuns c clock radio
  generalize connectionEvent c clock radio = outcome at path
  cases path with
  | unsettled refused =>
    simp only [eventMarks,refused,List.mem_cons,List.not_mem_nil,or_false] at member
    rw [member] at acts
    exact absurd acts (leaveReceives _ _)
  | unstaged settles refused =>
    simp only [eventMarks,settles,refused] at member
    exact absurd acts (unreadReceives member rfl rfl)
  | silent settles stages =>
    simp only [eventMarks,settles,stages] at member
    exact absurd acts (unreadReceives member rfl rfl)
  | uncompleted settles stages refused =>
    simp only [eventMarks,settles,stages,refused] at member
    exact absurd acts (unreadReceives member rfl rfl)
  | unreadable settles stages notes rejected =>
    simp only [eventMarks,settles,stages,notes,rejected] at member
    exact absurd acts (unreadReceives member rfl rfl)
  | @heard settled notify staged received noted header payload after told reason settles stages notes read closes =>
    simp only [eventMarks,settles,stages,notes,read,List.mem_cons] at member
    rcases member with rfl | member
    · cases acts
    obtain ⟨released,acks,fresh,control,rfl⟩ := closeReceives closes member acts
    have noting := calmTrans (openedCalm stages) (noteCalm notes)
    obtain ⟨outstanding,undue⟩ := settledAsked settles (calmTrans noting (acknowledgeCalm acks).1) asked
    have sequence : noted.expectedSn = c.expectedSn := notedSequence settles stages notes
    have same : m.before.expectedSn = c.expectedSn := (acknowledgedSequence acks).trans sequence
    exact ⟨received,header,form,rfl,read,⟨fresh.trans same,control,success,outstanding⟩,undue⟩

/-! The loop over skipped events: the request ends in one of its turns, and the Host is told once,
behind the last of them. -/

section Skips
variable {now : Nat} {clock : Nat → Nat} {turns : Nat} {count total : UInt16} {notify all : Bool}
  {c after : ActiveConnection}

theorem skipFreed (free : c.localConnectionParamRequest = none) (path : Turns now clock after total all turns count notify c) :
    after.localConnectionParamRequest = none ∧ (notify = true → all = true) := by
  induction path with
  | reached => exact ⟨free,id⟩
  | turn expired skips rest ih =>
    obtain ⟨settled,settles,rfl⟩ := skipShape skips
    have still : settled.localConnectionParamRequest = none := settledFree settles free
    obtain ⟨gone,kept⟩ := ih still
    exact ⟨gone,fun told => kept (by simp [told])⟩

theorem skipAnswers (known : Consistent (owned c)) {r : LocalConnectionParamRequest}
    (asked : c.localConnectionParamRequest = some r) (quiet : notify = false)
    (path : Turns now clock after total all turns count notify c) :
    after.localConnectionParamRequest = some r ∧ all = false ∨
    after.localConnectionParamRequest = none ∧ all = true ∧ Grants (skipMarks now clock turns count notify c) r := by
  induction path with
  | reached => exact Or.inl ⟨asked,quiet⟩
  | @turn turns count notify c next more expired skips rest ih =>
    have walk := skipWalk skips
    obtain ⟨settled,settles,rfl⟩ := skipShape skips
    rw [skipMarksTurn expired settles]
    rcases settledRequest known settles asked with ⟨kept,silent⟩ | ⟨gone,loud,u,granted⟩
    · rcases ih (walkKept walk known) kept (by simp [quiet,silent]) with still | ⟨free,told,m,member,found⟩
      · exact Or.inl still
      · exact Or.inr ⟨free,told,m,List.mem_cons_of_mem _ (List.mem_cons_of_mem _ member),found⟩
    · have gone : (passedOver settled).localConnectionParamRequest = none := gone
      obtain ⟨free,kept⟩ := skipFreed gone rest
      exact Or.inr ⟨free,kept (by simp [loud]),_,List.mem_cons_self,rfl,u,granted⟩

end Skips

/-! Only the Host's commands are answered with a status. -/

theorem unansweredAppend {calls more : List HostCall} (first : Unanswered calls) (second : Unanswered more) :
    Unanswered (calls ++ more) := List.forall_mem_append.mpr ⟨first,second⟩

theorem notifyUnanswered (c : ActiveConnection) (notify) : Unanswered (notifyHost c notify) := by
  intro call member
  unfold notifyHost at member
  split at member
  · cases List.mem_singleton.mp member
    rfl
  · cases member

theorem completionUnanswered (handle d header outstanding) :
    Unanswered (completion handle d header outstanding) := by
  intro call member
  unfold completion at member
  split at member
  · cases List.mem_singleton.mp member
    rfl
  · cases member

theorem acceptUnanswered (c : ActiveConnection) (header payload) :
    Unanswered (acceptReceive c header payload).2.1 := by
  intro call member
  unfold acceptReceive at member
  split at member
  · dsimp only at member
    split at member
    · obtain ⟨status,rfl⟩ := controlCalls _ payload call member
      rfl
    · split at member
      · cases List.mem_singleton.mp member
        rfl
      · cases member
  · cases member

theorem closeUnanswered {c after : ActiveConnection}
    {clock received header payload outstanding terminate told reason}
    (closes : Closes c clock received header payload outstanding terminate after told reason) :
    Unanswered told := by
  cases closes with
  | unacknowledged => exact unansweredNone
  | unsettled acknowledged refused =>
    rw [(acknowledgePath acknowledged).2.2]
    exact unansweredAppend (completionUnanswered _ _ _ _) (acceptUnanswered _ _ _)
  | closed acknowledged settles =>
    rw [(acknowledgePath acknowledged).2.2]
    exact unansweredAppend (unansweredAppend (completionUnanswered _ _ _ _) (acceptUnanswered _ _ _))
      (notifyUnanswered _ _)

theorem eventUnanswered (c clock radio) : Unanswered (connectionEvent c clock radio).calls := by
  have path := eventRuns c clock radio
  generalize connectionEvent c clock radio = outcome at path ⊢
  cases path with
  | unsettled => exact unansweredNone
  | unstaged => exact notifyUnanswered _ _
  | silent => exact notifyUnanswered _ _
  | uncompleted => exact notifyUnanswered _ _
  | unreadable => exact notifyUnanswered _ _
  | heard settles stages notes read closes =>
    exact unansweredAppend (notifyUnanswered _ _) (closeUnanswered closes)

/-! Steps. -/

theorem leadsLast {first last : ActiveConnection} {marks : List Mark} (leads : Leads first marks last) :
    ∀ m ∈ marks.getLast?, m.after = last := by
  induction marks generalizing first with
  | nil => exact fun _ wrong => (nomatch wrong)
  | cons m marks ih =>
    intro m' final
    cases marks with
    | nil =>
      cases final
      exact leads.2
    | cons next marks => exact ih leads.2 m' final

theorem leadsSpan {first last : ActiveConnection} {marks : List Mark} (leads : Leads first marks last) :
    marks = [] ∧ first = last ∨ span marks = some (first,last) := by
  cases marks with
  | nil => exact Or.inl ⟨rfl,leads⟩
  | cons m marks =>
    have found := List.getLast?_eq_some_getLast (List.cons_ne_nil m marks)
    have after := leadsLast leads _ found
    refine Or.inr ?_
    unfold span
    rw [found,List.head?_cons,← leads.1,← after]
    rfl

theorem quietAsked {marks : List Mark} {before after : ActiveConnection} (quiet : Unanswered (told marks))
    (free : before.localConnectionParamRequest = none → after.localConnectionParamRequest = none) :
    AskedOnce marks before after := by
  refine Or.inl ⟨?_,free⟩
  rw [List.countP_eq_zero]
  exact fun call member => by simp [quiet call member]

theorem hostAnswers {c : ActiveConnection} {packet : Packet} {m : Mark} (acts : m.act = .host packet)
    (done : Commanded c packet.bytes m.calls m.after) : Answers [m] c m.after := by
  have alone : told [m] = m.calls := List.append_nil _
  have silent : results (told [m]) = [] := by rw [alone,done.silent]
  have asks := done.asks
  generalize same : m.calls = calls at asks
  generalize ends : m.after = after at asks ⊢
  cases asks with
  | other quiet kept =>
    refine ⟨quietAsked (by rwa [alone,same]) fun free => kept.trans free,?_⟩
    exact fun r asked => Or.inl ⟨kept.trans asked,silent⟩
  | asked free asks =>
    refine ⟨Or.inr ⟨?_,free,m,packet,rfl,acts,asks⟩,fun r asked => ?_⟩
    · rw [alone,same]
      rfl
    · rw [free] at asked
      cases asked

theorem eventAnswers {c : ActiveConnection} {clock radio} (known : Consistent (owned c)) (sincere : ¬FalseSuccess c radio)
    (goes : (connectionEvent c clock radio).reason = none) :
    ∀ m ∈ eventMarks c clock radio, Answers [m] m.before m.after := by
  intro m member
  have all := eventGenuine c clock radio
  obtain ⟨leads,calls⟩ := eventLeads c clock radio
  have kept := leadsKept leads (fun m member => genuineWalk (all m member)) known
  obtain ⟨free,answered⟩ := genuineAnswers (all m member) (kept m member)
    fun payload reason acts asked form => sincere (eventReceives member acts asked form)
  refine ⟨quietAsked ?_ free,answered⟩
  intro call here
  refine eventUnanswered c clock radio call ?_
  have whole : (eventStep c clock radio).2.calls = (connectionEvent c clock radio).calls := by
    unfold eventStep
    simp only [goes]
    rfl
  rw [← whole,← calls]
  exact List.mem_flatMap.mpr ⟨m,member,by simpa [told] using here⟩

theorem skipSectionAnswers {c after : ActiveConnection} {now clock count notify} (known : Consistent (owned c))
    (skips : c.skipExpiredEvents now clock = .ok (after,count,notify)) :
    Answers (skipMarks now clock 65535 0 false c) c after := by
  have path := skipTurns skips
  obtain ⟨_,calls⟩ := skipLeads skips
  refine ⟨quietAsked ?_ fun free => (skipFreed free path).1,fun r asked => ?_⟩
  · rw [calls]
    exact notifyUnanswered after notify
  · rw [calls,resultsNotify]
    rcases skipAnswers known asked rfl path with ⟨kept,quiet⟩ | ⟨gone,loud,grants⟩
    · exact Or.inl ⟨kept,by rw [quiet]; rfl⟩
    · exact Or.inr ⟨gone,0,by rw [loud]; rfl,fun _ => grants,fun _ => rfl⟩

/- The step lemma: every section of a step that leaves the connection up answers. -/
theorem stepAnswers {link : Link} {input : Input} (known : Consistent (owned link.connection))
    (lives : (step link input).1.down = false) (sincere : ¬falseSuccess link input) :
    ∀ marks ∈ sections link input, ∀ before after, span marks = some (before,after) → Answers marks before after := by
  obtain ⟨running,path⟩ := stepContinues lives
  have leads := (stepLeads lives).1
  unfold marks sections at leads
  unfold sections
  rw [if_neg (by simp [running])] at leads ⊢
  cases input with
  | host packet =>
    refine List.forall_mem_singleton.mpr fun before after ends => ?_
    cases ends
    rw [stepHost running] at lives ⊢
    unfold hostStep at lives ⊢
    dsimp only at lives ⊢
    split at lives
    · cases lives
    · rename_i goes
      rw [if_neg goes]
      exact hostAnswers rfl (hostDone link.connection packet)
  | deadlines now =>
    refine List.forall_mem_singleton.mpr fun before after ends => ?_
    cases ends
    generalize (step link (.deadlines now)).1.connection = after at path ⊢
    generalize (step link (.deadlines now)).2 = report at path ⊢
    cases path
    exact ⟨quietAsked unansweredNone id,fun r asked => Or.inl ⟨asked,rfl⟩⟩
  | skip now clock =>
    refine List.forall_mem_singleton.mpr fun before after ends => ?_
    rw [List.flatten_singleton] at leads
    generalize (step link (.skip now clock)).1.connection = last at path leads
    generalize (step link (.skip now clock)).2 = report at path
    cases path with
    | skip skips =>
      rcases leadsSpan leads with ⟨empty,_⟩ | same
      · rw [empty] at ends
        cases ends
      · rw [same] at ends
        cases ends
        exact skipSectionAnswers known skips
  | event clock radio =>
    intro marks member before after ends
    obtain ⟨m,inside,rfl⟩ := List.mem_map.mp member
    cases ends
    generalize (step link (.event clock radio)).1.connection = last at path
    generalize (step link (.event clock radio)).2 = report at path
    cases path with
    | event goes => exact eventAnswers known sincere goes m inside

/-! Runs. -/

/- The run lemma: the sections of a run are those of its steps. -/
theorem runAnswers {request endUs now c} (created : ActiveConnection.new request endUs now = some c) {trace link}
    (run : Guarded runner (fun link input => ¬falseSuccess link input) ⟨c,false⟩ trace link)
    (running : link.down = false) :
    ∀ marks ∈ runSections ⟨c,false⟩ (trace.map Prod.fst), ∀ before after,
      span marks = some (before,after) → Answers marks before after := by
  induction run with
  | start => exact fun _ wrong => (nomatch wrong)
  | @step past link earlier input sincere ih =>
    have up := stepRunning running
    have history := guardedHistory earlier
    show ∀ marks ∈ runSections ⟨c,false⟩ ((past ++ [(input,(step link input).2)]).map Prod.fst), _
    rw [historySections history]
    exact List.forall_mem_append.mpr ⟨ih up,stepAnswers (runConsistent created history up) running sincere⟩

theorem sectionsCount {first last : ActiveConnection} {sections' : List (List Mark)}
    (leads : Leads first sections'.flatten last)
    (asked : ∀ marks ∈ sections', ∀ before after, span marks = some (before,after) → AskedOnce marks before after) :
    (told sections'.flatten).countP accepted + outstanding first = sections'.countP finishes + outstanding last := by
  induction sections' generalizing first with
  | nil =>
    cases leads
    rfl
  | cons marks sections' ih =>
    obtain ⟨own,others⟩ := List.forall_mem_cons.mp asked
    rw [List.flatten_cons] at leads
    obtain ⟨middle,leads,rest⟩ := leadsSplit leads
    have later := ih rest others
    have here : (told marks).countP accepted + outstanding first =
        (if finishes marks then 1 else 0) + outstanding middle := by
      rcases leadsSpan leads with ⟨rfl,rfl⟩ | ends
      · rfl
      · rcases own first middle ends with ⟨none,free⟩ | ⟨one,free,m,packet,_,_,asks⟩
        · rw [none]
          cases before : first.localConnectionParamRequest with
          | none => simp [finishes,ends,outstanding,before,free before]
          | some r => cases after : middle.localConnectionParamRequest <;> simp [finishes,ends,outstanding,before,after]
        · simp [one,finishes,ends,outstanding,free,asks]
    rw [List.flatten_cons,toldAppend,List.countP_append,List.countP_cons]
    omega

theorem updateAnsweredOnce {request endUs now c} (created : ActiveConnection.new request endUs now = some c)
    {trace link} (run : Guarded runner (fun link input => ¬falseSuccess link input) ⟨c,false⟩ trace link)
    (running : link.down = false) :
    Leads c (runSections ⟨c,false⟩ (trace.map Prod.fst)).flatten link.connection ∧
    told (runSections ⟨c,false⟩ (trace.map Prod.fst)).flatten = (trace.flatMap fun entry => entry.2.calls) ∧
    (∀ marks ∈ runSections ⟨c,false⟩ (trace.map Prod.fst), ∀ before after,
      span marks = some (before,after) → Answers marks before after) ∧
    (trace.flatMap fun entry => entry.2.calls).countP accepted =
      (runSections ⟨c,false⟩ (trace.map Prod.fst)).countP finishes + outstanding link.connection := by
  obtain ⟨leads,calls⟩ := runLeads (guardedHistory run) running
  have answers := runAnswers created run running
  refine ⟨leads,calls,answers,?_⟩
  have unrequested : outstanding c = 0 := by
    obtain ⟨parameters,map,fresh⟩ := createdOwned created
    have free : c.localConnectionParamRequest = none := congrArg Ownership.request fresh
    simp [outstanding,free]
  have count := sectionsCount leads fun marks member before after ends => (answers marks member before after ends).asked
  rw [unrequested,calls] at count
  exact count

-- 30 to 50 ms, no latency, 720 ms supervision.
def updateCommand : Input :=
  .host ⟨.cmd,[0x13,0x20,14,1,0,24,0,40,0,0,0,72,0,0,0,0,0]⟩

def asking : Link := (step ⟨sampleConnection,false⟩ updateCommand).1

theorem unknownResponseSincere : ¬falseSuccess asking (hears 0x03 [0x07,0x0f]) := by
  rintro ⟨received,header,payload,same,read,⟨_,_,form,_⟩,_⟩
  cases same
  have heard : receivedPdu ⟨[0x03,2,0x07,0x0f],-40,true,3000,true⟩ = some (0x03,[0x07,0x0f]) := by decide
  rw [form] at read
  have wrong := heard.symm.trans read
  exact absurd wrong (by simp)

/- The Central does not know the request: one acceptance, and one section that ends the request
with the one result 0x1a. -/
theorem unknownRequestAnswered :
    results (step asking (hears 0x03 [0x07,0x0f])).2.calls = [0x1a] ∧
    (runSections ⟨sampleConnection,false⟩ [updateCommand,hears 0x03 [0x07,0x0f]]).countP finishes = 1 ∧
    ∀ marks ∈ runSections ⟨sampleConnection,false⟩ [updateCommand,hears 0x03 [0x07,0x0f]], ∀ before after,
      span marks = some (before,after) → Answers marks before after := by
  have run : Guarded runner (fun link input => ¬falseSuccess link input) ⟨sampleConnection,false⟩
      [(updateCommand,(step ⟨sampleConnection,false⟩ updateCommand).2),
        (hears 0x03 [0x07,0x0f],(step asking (hears 0x03 [0x07,0x0f])).2)]
      (step asking (hears 0x03 [0x07,0x0f])).1 :=
    (Guarded.start.step updateCommand id).step (hears 0x03 [0x07,0x0f]) unknownResponseSincere
  obtain ⟨_,_,answers,count⟩ := updateAnsweredOnce sampleCreated run (by decide +kernel)
  refine ⟨by decide +kernel,?_,answers⟩
  have ended : outstanding (step asking (hears 0x03 [0x07,0x0f])).1.connection = 0 := by decide +kernel
  rw [ended,Nat.add_zero] at count
  refine count.symm.trans ?_
  decide +kernel

theorem rejectionTakenForSuccess :
    asking.connection.localConnectionParamRequest = some ⟨24,40,0,72⟩ ∧
    asking.connection.pendingConnectionUpdate = none ∧
    results (step asking (hears 0x03 [0x11,0x0f,0x00])).2.calls = [0] ∧
    (step asking (hears 0x03 [0x11,0x0f,0x00])).1.down = false ∧
    (step asking (hears 0x03 [0x11,0x0f,0x00])).1.connection.localConnectionParamRequest = none ∧
    (step asking (hears 0x03 [0x11,0x0f,0x00])).1.connection.request = sampleRequest := by
  decide +kernel

end Ch58xHal.UpdateAnswers
