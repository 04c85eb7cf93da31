import Ch58xHal.ControlSlots
import Ch58xHal.Termination
import Ch58xHal.UpdateAnswers

/-! The bookkeeping of one event and of whole runs. Every state of a run keeps the Control PDUs
and their procedures in order, unless an event fails a procedure whose PDU is still in a slot
or a step reuses a token in use; in order, the three bookkeeping calls cannot fail. -/
namespace Ch58xHal.ControlBookkeeping
open ControlPdu Llcp LlcpSteps Connection ConnectionEvent ConnectionRun ControlHandlers ControlSlots
open DataPlane DataHeader InstantOwners OwnershipSteps OwnershipRun Termination UpdateAnswers Machines

/-! One event. -/

def progress (c : ActiveConnection) : Progress :=
  if c.transmitted = .control then if carried c then .out else .chosen else .waiting

structure Orderly (c : ActiveConnection) : Prop where
  tidy : Tidy c.toControlPlane (progress c)
  framed : c.txFrame ≠ [] → c.transmitted ≠ .none

section Event
variable {c : ActiveConnection}

theorem progressEarly (idle : carried c = false) : progress c ≠ .out := by
  unfold progress
  rw [idle]
  split <;> decide

theorem progressOut : progress c = .out ↔ c.transmitted = .control ∧ carried c = true := by
  unfold progress
  split_ifs with control out
  · simp [control,out]
  · simp [control,out]
  · simp [control]

theorem progressControl (waits : progress c ≠ .waiting) : c.transmitted = .control := by
  unfold progress at waits
  split at waits
  · assumption
  · exact absurd rfl waits

theorem settledOrderly {after : ActiveConnection} {now notify} (orderly : Orderly c)
    (ok : c.settleInstants now = .ok (after,notify)) :
    Orderly after ∧ Descends c.toControlPlane after.toControlPlane ∧ after.toDataPath = c.toDataPath ∧
      after.queuedControl = c.queuedControl := by
  obtain ⟨tidy,descends⟩ := settledTidy orderly.tidy ok
  obtain ⟨channels,request,window,deadline,map,update,asked,rfl⟩ := settleShape ok
  exact ⟨⟨tidy,orderly.framed⟩,descends,rfl,rfl⟩

theorem promotedNone (single : c.priorityControl = none) : c.promotePriorityControlIfIdle = c := by
  simp [ActiveConnection.promotePriorityControlIfIdle,single]

theorem selectedKind (c : ActiveConnection) :
    (selectTransmitted c).transmitted ≠ .none ∧
      ((selectTransmitted c).transmitted = .control → c.transmitted = .control ∨ c.pendingControl.isSome = true) := by
  unfold selectTransmitted
  split
  · dsimp only
    split_ifs with control acl
    · exact ⟨by decide,fun _ => Or.inr control⟩
    · exact ⟨by decide,fun wrong => (nomatch wrong)⟩
    · exact ⟨by decide,fun wrong => (nomatch wrong)⟩
  · rename_i chosen
    exact ⟨chosen,Or.inl⟩

theorem refreshFilled (c : ActiveConnection) {frame : List UInt8} (filled : frame ≠ []) : refreshFrame c frame ≠ [] := by
  cases frame with
  | nil => exact absurd rfl filled
  | cons header rest => exact List.cons_ne_nil _ _

/- What an event hands to the radio. -/
structure Staged (c staged : ActiveConnection) : Prop where
  orderly : Orderly staged
  control : staged.toControlPlane = c.toControlPlane
  filled : staged.txFrame ≠ []
  outstanding : (!staged.txFrameFresh) = carried c
  kind : carried c = true → staged.transmitted = c.transmitted
  sequence : staged.transmitSn = c.transmitSn ∧ staged.expectedSn = c.expectedSn

/- With no PDU on air the bookkeeping of a new frame succeeds and changes nothing. -/
theorem builtTidy {x : Progress} (tidy : Tidy c.toControlPlane x) (early : x ≠ .out) :
    buildTransmitFrame c = some {c with
      txFrame := frameOf (selectedPdu c) c.transmitSn c.expectedSn
      txFrameFresh := true} := by
  have planned : c.planPendingControlProcedure = some c.toControlPlane := plannedTidy tidy early
  unfold buildTransmitFrame
  rw [planned]
  dsimp only
  rw [ite_self]

theorem stageOrderly (orderly : Orderly c) : ∃ staged, stageTransmit c = some staged ∧ Staged c staged := by
  obtain ⟨kind,loaded⟩ := selectedKind c
  obtain ⟨path,_,control,_⟩ := selectPath c
  obtain ⟨frame,_,sequence⟩ := selectFrame c.toDataPath c.pendingControl
  rw [← path] at frame sequence
  have expected : (selectTransmitted c).expectedSn = c.expectedSn := by
    unfold selectTransmitted
    split <;> rfl
  unfold stageTransmit
  rw [promotedNone orderly.tidy.single]
  dsimp only
  by_cases empty : c.txFrame = []
  · have idle : carried c = false := by simp [carried,empty]
    have early := progressEarly idle
    have tidy : Tidy (selectTransmitted c).toControlPlane (progress c) := by
      rw [control]
      exact orderly.tidy
    have fresh : ∀ x : ActiveConnection, x.txFrameFresh = true → carried x = false := by
      intro x new
      simp [carried,new]
    rw [if_pos (frame.trans empty),builtTidy tidy early]
    refine ⟨_,rfl,⟨rechosenTidy tidy early (progressEarly (fresh _ rfl)) ?_,fun _ => kind⟩,control,
      refreshFilled _ (List.cons_ne_nil _ _),?_,?_,sequence,expected⟩
    · intro waits
      have slot : (selectTransmitted c).pendingControl = c.pendingControl :=
        congrArg ControlPlane.pendingControl control
      have chosen := progressControl waits
      rw [slot]
      rcases loaded chosen with before | present
      · exact orderly.tidy.present (by simp [progress,before,idle])
      · exact present
    · simp [carried,empty]
    · intro wrong
      simp [carried,empty] at wrong
  · have chosen : selectTransmitted c = c := if_neg (orderly.framed empty)
    have filled := refreshFilled c empty
    rw [chosen,if_neg empty]
    refine ⟨_,rfl,⟨?_,fun _ => orderly.framed empty⟩,rfl,filled,?_,fun _ => rfl,rfl,rfl⟩
    · have same : progress {c with txFrame := refreshFrame c c.txFrame} = progress c := by
        simp only [progress,carried,bne_iff_ne.mpr filled,bne_iff_ne.mpr empty]
      rw [same]
      exact orderly.tidy
    · simp [carried,empty]

/- What the transmission report leaves of the connection. -/
structure Noted (c noted : ActiveConnection) : Prop where
  orderly : Orderly noted
  descends : Descends c.toControlPlane noted.toControlPlane
  queued : noted.queuedControl = c.queuedControl
  frame : noted.txFrame = c.txFrame
  kind : noted.transmitted = c.transmitted
  outstanding : c.txFrameFresh = false → noted.txFrameFresh = false
  sequence : noted.transmitSn = c.transmitSn ∧ noted.expectedSn = c.expectedSn

theorem noteOrderly (orderly : Orderly c) (filled : c.txFrame ≠ []) (transmitted) :
    ∃ noted, noteTransmission c transmitted = some noted ∧ Noted c noted := by
  unfold noteTransmission
  by_cases went : c.txFrameFresh = true ∧ transmitted = true
  · rw [if_pos went]
    dsimp only
    have idle : carried c = false := by simp [carried,went.1]
    by_cases control : c.transmitted = .control
    · have chosen : progress c = .chosen := by simp [progress,control,idle]
      obtain ⟨after,done,tidied,descends,pending,queued⟩ := completedTidy (chosen ▸ orderly.tidy)
      rw [if_pos control,done]
      refine ⟨_,rfl,⟨?_,orderly.framed⟩,descends,queued,rfl,rfl,fun _ => rfl,rfl,rfl⟩
      have out : progress {c with toControlPlane := after,txFrameFresh := false} = .out :=
        progressOut.mpr ⟨control,by simp [carried,filled]⟩
      rw [out]
      exact tidied
    · rw [if_neg control]
      have other : ∀ x : ActiveConnection, x.transmitted = c.transmitted → progress x = .waiting := by
        intro x same
        exact if_neg (same ▸ control)
      refine ⟨_,rfl,⟨?_,orderly.framed⟩,descendsSelf _,rfl,rfl,rfl,fun _ => rfl,rfl,rfl⟩
      have tidy := orderly.tidy
      rw [other c rfl] at tidy
      rw [other {c with txFrameFresh := false} rfl]
      exact tidy
  · rw [if_neg went]
    exact ⟨c,rfl,orderly,descendsSelf _,rfl,rfl,rfl,id,rfl,rfl⟩

/- The packet acknowledges the PDU that went out, so it leaves its slot. -/
def Acks (c : ActiveConnection) (header : UInt8) : Prop :=
  progress c = .out ∧ acknowledgesTransmitOwner header c.transmitSn true false = true

theorem acknowledgeOrderly (orderly : Orderly c) {outstanding : Bool}
    (carries : outstanding = true → carried c = true) (header now) :
    ∃ after calls, acknowledgeTransmit c header outstanding now = some (after,calls) ∧ Orderly after ∧
      Descends c.toControlPlane after.toControlPlane ∧ after.expectedSn = c.expectedSn ∧
      (outstanding = true → Acks c header →
        ∀ pdu, Holds after.toControlPlane pdu → c.queuedControl = some pdu) := by
  unfold acknowledgeTransmit
  by_cases acks : acknowledgesTransmitOwner header c.transmitSn outstanding false = true
  · rw [if_pos acks]
    have out : outstanding = true := by
      cases outstanding with
      | true => rfl
      | false => simp [acknowledgesTransmitOwner] at acks
    dsimp only
    by_cases control : c.transmitted = .control
    · have onAir : progress c = .out := progressOut.mpr ⟨control,carries out⟩
      obtain ⟨after,done,tidied,descends,single,queued⟩ := acknowledgedTidy (onAir ▸ orderly.tidy) now
      rw [if_pos control,done]
      have release : (releaseOwner {c with toControlPlane := after}).1 = {c with toControlPlane := released after} := by
        unfold releaseOwner
        simp only [control]
        split
        · rename_i found
          rw [single] at found
          cases found
        · rfl
      dsimp only
      rw [release]
      refine ⟨_,_,rfl,⟨tidied,fun wrong => absurd rfl wrong⟩,descendsTrans descends (releasedDescends after),rfl,?_⟩
      intro _ _ pdu holds
      rcases holds with first | second
      · exact queued.symm.trans first
      · cases second
    · rw [if_neg control]
      have other : progress c = .waiting := if_neg control
      have tidy : Tidy c.toControlPlane .waiting := other ▸ orderly.tidy
      have release : (releaseOwner c).1.toControlPlane = c.toControlPlane ∧
          (releaseOwner c).1.expectedSn = c.expectedSn := by
        unfold releaseOwner
        split
        · rename_i wrong
          exact absurd wrong control
        all_goals exact ⟨rfl,rfl⟩
      dsimp only
      refine ⟨_,_,rfl,⟨?_,fun wrong => absurd rfl wrong⟩,?_,release.2,?_⟩
      · show Tidy (releaseOwner c).1.toControlPlane .waiting
        rw [release.1]
        exact tidy
      · show Descends c.toControlPlane (releaseOwner c).1.toControlPlane
        rw [release.1]
        exact descendsSelf _
      · rintro _ ⟨wrong,_⟩
        rw [other] at wrong
        cases wrong
  · rw [if_neg acks]
    refine ⟨c,[],rfl,orderly,descendsSelf _,rfl,?_⟩
    rintro out ⟨_,acked⟩
    rw [out] at acks
    exact absurd acked acks

/- The PDUs that are still in a slot once this packet has acknowledged what it acknowledges. -/
def Remains (c : ActiveConnection) (header : UInt8) (pdu : PendingData) : Prop :=
  Holds c.toControlPlane pdu ∧ (Acks c header → c.queuedControl = some pdu)

/- This event fails a procedure whose Control PDU is still in a slot. -/
def Strands (c : ActiveConnection) (radio : Option ExchangeResult) : Prop :=
  ∃ received header payload pdu, radio = some received ∧ receivedPdu received = some (header,payload) ∧
    (header >>> 3) &&& 1 = c.expectedSn ∧ header &&& 0x03 = llidControl ∧ Remains c header pdu ∧
    ((∃ own, c.procedures.localSide = some own ∧ Belongs own pdu) ∧ Abandons (owned c).settle payload ∨
     (∃ other, c.procedures.remoteSide = some other ∧ Belongs other pdu) ∧
       c.remoteConnectionParametersActive = true ∧ RejectsAnswer payload)

/- The state in which a received packet is handed on. -/
structure Reached (c : ActiveConnection) (header : UInt8) (acked : ActiveConnection) : Prop where
  orderly : Orderly acked
  descends : Descends c.toControlPlane acked.toControlPlane
  sequence : acked.expectedSn = c.expectedSn
  slots : ∀ pdu, Holds acked.toControlPlane pdu → Remains c header pdu
  settled : ∃ procedures, owned acked = {(owned c).settle with procedures := procedures}

/- The three bookkeeping calls of an event succeed. -/
theorem eventReached {settled staged noted : ActiveConnection} {notify received} (clock : EventClock)
    (header : UInt8) (orderly : Orderly c) (settles : c.settleInstants clock.entry = .ok (settled,notify))
    (stages : stageTransmit (opened settled) = some staged)
    (notes : noteTransmission staged received.transmitted = some noted) :
    ∃ acked calls, acknowledgeTransmit (heard noted clock received) header (!staged.txFrameFresh)
      clock.acknowledged = some (acked,calls) ∧ Reached c header acked := by
  obtain ⟨settledOrder,descends,path,queued⟩ := settledOrderly orderly settles
  have opening : Orderly (opened settled) := ⟨settledOrder.tidy,settledOrder.framed⟩
  obtain ⟨staged',stages',staging⟩ := stageOrderly opening
  rw [stages] at stages'
  cases stages'
  obtain ⟨noted',notes',noting⟩ := noteOrderly staging.orderly staging.filled received.transmitted
  rw [notes] at notes'
  cases notes'
  have same : carried (opened settled) = carried c := by
    have frame : (opened settled).txFrame = c.txFrame := congrArg DataPath.txFrame path
    have fresh : (opened settled).txFrameFresh = c.txFrameFresh := congrArg DataPath.txFrameFresh path
    simp only [carried,frame,fresh]
  -- a frame out in an earlier event is still out; one sent in this event is not outstanding
  have carries : (!staged.txFrameFresh) = true → carried (heard noted clock received) = true := by
    intro out
    have old : staged.txFrameFresh = false := by simpa using out
    have fresh : (heard noted clock received).txFrameFresh = false := noting.outstanding old
    have frame : (heard noted clock received).txFrame ≠ [] := by
      rw [show (heard noted clock received).txFrame = staged.txFrame from noting.frame]
      exact staging.filled
    simp [carried,fresh,frame]
  have order : Orderly (heard noted clock received) := ⟨noting.orderly.tidy,noting.orderly.framed⟩
  obtain ⟨acked,calls,acks,ackOrder,ackDescends,sequence,slots⟩ :=
    acknowledgeOrderly order carries header clock.acknowledged
  have down : Descends c.toControlPlane noted.toControlPlane := by
    have staying : Descends (opened settled).toControlPlane staged.toControlPlane := by
      rw [staging.control]
      exact descendsSelf _
    exact descendsTrans descends (descendsTrans staying noting.descends)
  have whole : Descends c.toControlPlane acked.toControlPlane := descendsTrans down ackDescends
  refine ⟨acked,calls,acks,ackOrder,whole,?_,?_,?_⟩
  · have first : noted.expectedSn = staged.expectedSn := noting.sequence.2
    have second : staged.expectedSn = settled.expectedSn := staging.sequence.2
    exact sequence.trans (first.trans (second.trans (congrArg DataPath.expectedSn path)))
  · intro pdu holds
    refine ⟨whole.slots pdu holds,?_⟩
    rintro ⟨onAir,acked'⟩
    obtain ⟨control,out⟩ := progressOut.mp onAir
    rw [← same] at out
    have outstanding : (!staged.txFrameFresh) = true := staging.outstanding.trans out
    have kind : (heard noted clock received).transmitted = .control := by
      have first : noted.transmitted = staged.transmitted := noting.kind
      have second : staged.transmitted = settled.transmitted := staging.kind out
      exact first.trans (second.trans ((congrArg DataPath.transmitted path).trans control))
    have sn : (heard noted clock received).transmitSn = c.transmitSn := by
      have first : noted.transmitSn = staged.transmitSn := noting.sequence.1
      have second : staged.transmitSn = settled.transmitSn := staging.sequence.1
      exact first.trans (second.trans (congrArg DataPath.transmitSn path))
    have held := slots outstanding ⟨progressOut.mpr ⟨kind,carries outstanding⟩,by rw [sn]; exact acked'⟩ pdu holds
    have third : noted.queuedControl = staged.queuedControl := noting.queued
    have fourth : staged.queuedControl = settled.queuedControl := congrArg ControlPlane.queuedControl staging.control
    exact (third.trans (fourth.trans queued)).symm.trans held
  · obtain ⟨_,first,calm⟩ := stageCalm stages
    obtain ⟨_,second,calm'⟩ := noteCalm notes
    obtain ⟨⟨_,third,calm''⟩,_⟩ := acknowledgeCalm acks
    have entry : owned (opened settled) = (owned c).settle := (settleOwned settles).1
    have last : owned acked = {owned noted with procedures := third} := calm''
    exact ⟨third,by rw [last,calm',calm,entry]⟩

theorem eventUnstranded {acked : ActiveConnection} {radio received header payload} (orderly : Orderly c)
    (reached : Reached c header acked) (clear : ¬Strands c radio) (heard : radio = some received)
    (read : receivedPdu received = some (header,payload)) (fresh : (header >>> 3) &&& 1 = c.expectedSn)
    (control : header &&& 0x03 = llidControl) :
    (Abandons (owned acked) payload → Spared acked.toControlPlane .localSide) ∧
    (RejectsAnswer payload → acked.remoteConnectionParametersActive = true →
      Spared acked.toControlPlane .remoteSide) := by
  constructor
  · intro why x pdu held holds mine
    obtain ⟨procedures,settled⟩ := reached.settled
    rw [settled] at why
    obtain ⟨own,held',token,_⟩ := reached.descends.contexts .localSide x held
    have belongs : Belongs own pdu := by
      rw [Belongs,← token]
      exact mine
    exact clear ⟨received,header,payload,pdu,heard,read,fresh,control,reached.slots pdu holds,
      Or.inl ⟨⟨own,held',belongs⟩,why⟩⟩
  · intro why active x pdu held holds mine
    obtain ⟨other,held',token,kind⟩ := reached.descends.contexts .remoteSide x held
    have belongs : Belongs other pdu := by
      rw [Belongs,← token]
      exact mine
    have parameters : other.kind = .connectionParameters := kind.symm.trans (parametersKind active held)
    have alive : other.active = true := by
      rcases heldPhase orderly.tidy (reached.descends.slots pdu holds) held' belongs with (ready | ready) | out
      · simp [ProcedureContext.active,ProcedureContext.Finished,ready]
      · simp [ProcedureContext.active,ProcedureContext.Finished,ready]
      · simp [ProcedureContext.active,ProcedureContext.Finished,out]
    have remote : c.procedures.remoteSide = some other := held'
    refine clear ⟨received,header,payload,pdu,heard,read,fresh,control,reached.slots pdu holds,
      Or.inr ⟨⟨other,held',belongs⟩,?_,why⟩⟩
    simp [ControlPlane.remoteConnectionParametersActive,remote,parameters,alive]

theorem acceptOrderly (header : UInt8) (payload : List UInt8) (orderly : Orderly c) (unheld : Unheld c.toControlPlane)
    (spared : (header >>> 3) &&& 1 = c.expectedSn → header &&& 0x03 = llidControl →
      (Abandons (owned c) payload → Spared c.toControlPlane .localSide) ∧
      (RejectsAnswer payload → c.remoteConnectionParametersActive = true →
        Spared c.toControlPlane .remoteSide)) :
    Orderly (acceptReceive c header payload).1 := by
  unfold acceptReceive
  by_cases fresh : (header >>> 3) &&& 1 = c.expectedSn
  · rw [if_pos fresh]
    dsimp only
    by_cases control : header &&& 0x03 = llidControl
    · rw [if_pos control]
      obtain ⟨own,other⟩ := spared fresh control
      exact ⟨handledTidy (c := {c with expectedSn := c.expectedSn ^^^ 1}) orderly.tidy unheld own other,
        orderly.framed⟩
    · rw [if_neg control]
      split <;> exact ⟨orderly.tidy,orderly.framed⟩
  · rw [if_neg fresh]
    exact orderly

theorem eventOrderly {clock radio} (orderly : Orderly c) (unheld : Unheld c.toControlPlane)
    (clear : ¬Strands c radio) (lives : (connectionEvent c clock radio).reason = none) :
    Orderly (connectionEvent c clock radio).connection := by
  have path := eventRuns c clock radio
  generalize connectionEvent c clock radio = outcome at path lives ⊢
  have staging : ∀ {settled notify staged}, c.settleInstants clock.entry = .ok (settled,notify) →
      stageTransmit (opened settled) = some staged → Staged (opened settled) staged := by
    intro settled notify staged settles stages
    have settledOrder := (settledOrderly orderly settles).1
    have opening : Orderly (opened settled) := ⟨settledOrder.tidy,settledOrder.framed⟩
    obtain ⟨staged',stages',staging⟩ := stageOrderly opening
    rw [stages] at stages'
    cases stages'
    exact staging
  cases path with
  | unsettled => cases lives
  | unstaged => cases lives
  | silent settles stages => exact (staging settles stages).orderly
  | uncompleted => cases lives
  | @unreadable settled notify staged received noted settles stages notes rejected =>
    obtain ⟨noted',notes',noting⟩ := noteOrderly (staging settles stages).orderly (staging settles stages).filled
      received.transmitted
    rw [notes] at notes'
    cases notes'
    exact noting.orderly
  | @heard settled notify staged received noted header payload after told reason settles stages notes read closes =>
    obtain ⟨acked,calls,acks,reached⟩ := eventReached clock header orderly settles stages notes
    have lives : reason = none := lives
    subst lives
    generalize gone : (none : Option UInt8) = reason at closes
    cases closes with
    | unacknowledged => cases gone
    | unsettled => cases gone
    | @closed acked' released settled' notify' acks' settles' =>
      rw [acks] at acks'
      cases acks'
      have accepted := acceptOrderly header payload reached.orderly
        (unheldKept reached.descends unheld) (fun fresh control =>
          eventUnstranded orderly reached clear rfl read (reached.sequence ▸ fresh) control)
      have last := (settledOrderly accepted settles').1
      exact ⟨last.tidy,last.framed⟩

end Event

/-! Whole runs. -/

section Run
variable {c : ActiveConnection}

theorem commandOrderly (orderly : Orderly c) (unheld : Unheld c.toControlPlane) (bytes) :
    Orderly (handleConnectedCommand c bytes).1 := by
  have queued : ∀ kind request expected timeout,
      Tidy (c.queueLocalProcedure kind request expected timeout).1 (progress c) :=
    fun kind request expected timeout => requestedTidy orderly.tidy unheld (localStarts c.toControlPlane _ _ _ _)
  unfold handleConnectedCommand
  dsimp only
  split_ifs
  all_goals first
    | exact orderly
    | exact ⟨queued _ _ _ _,orderly.framed⟩
    | have tidy := queued .connectionParameters ((⟨word (bytes.drop 3) 2,word (bytes.drop 3) 4,
        word (bytes.drop 3) 6,word (bytes.drop 3) 8,0,c.eventCounter,Vector.replicate 6 0xffff⟩ :
          ConnectionParamPdu).write ConnectionParamPdu.requestOpcode) (some 0x00) (some procedureResponseTimeoutUs)
      exact ⟨⟨tidy.single,tidy.first,tidy.second,tidy.apart,tidy.sides,tidy.present⟩,orderly.framed⟩

theorem hostOrderly (orderly : Orderly c) (unheld : Unheld c.toControlPlane) (packet) :
    Orderly (processConnectedHostPacket c packet).1 := by
  have served := hostServes c packet
  generalize processConnectedHostPacket c packet = done at served ⊢
  cases served with
  | ignored => exact orderly
  | queued _ queues =>
    obtain ⟨pending,queued,token,rfl⟩ := queuedShape queues
    exact ⟨orderly.tidy,orderly.framed⟩
  | command => exact commandOrderly orderly unheld packet.bytes

theorem skippedOrderly {after : ActiveConnection} {now clock count notify} (orderly : Orderly c)
    (ok : c.skipExpiredEvents now clock = .ok (after,count,notify)) : Orderly after := by
  unfold ActiveConnection.skipExpiredEvents at ok
  refine skipKeeps (P := Orderly) ?_ orderly ok
  intro x t x' told orderly _ skips
  obtain ⟨settled,settles,rfl⟩ := skipShape skips
  have order := (settledOrderly orderly settles).1
  exact ⟨order.tidy,order.framed⟩

/- No step of the run fails a procedure with a PDU in a slot or reuses a token in use. -/
def Careful (link : Link) : Input → Prop
  | .host _ => Unheld link.connection.toControlPlane
  | .event _ radio => Unheld link.connection.toControlPlane ∧ ¬Strands link.connection radio
  | .deadlines _ => True
  | .skip _ _ => True

theorem stepOrderly {link : Link} {input : Input} (orderly : Orderly link.connection)
    (careful : Careful link input) (lives : (step link input).1.down = false) :
    Orderly (step link input).1.connection := by
  have path := (stepContinues lives).2
  generalize (step link input).1.connection = after at path ⊢
  generalize (step link input).2 = report at path
  cases path with
  | host => exact hostOrderly orderly careful _
  | deadlines => exact orderly
  | skip skips => exact skippedOrderly orderly skips
  | event goes =>
    have order := eventOrderly orderly careful.1 careful.2 goes
    exact ⟨order.tidy,order.framed⟩

theorem createdOrderly {request endUs now} (created : ActiveConnection.new request endUs now = some c) :
    Orderly c := by
  unfold ActiveConnection.new ActiveConnection.newFor at created
  split at created
  · cases created
  · cases created
    refine ⟨⟨rfl,?_,?_,?_,?_,fun wrong => absurd rfl wrong⟩,fun wrong => absurd rfl wrong⟩
    all_goals exact fun _ _ => by intros; contradiction

/- In the next event, whatever comes: the bookkeeping calls succeed, and 0x1f is a reason only if
the Central gives it. -/
structure Bookkept (c : ActiveConnection) : Prop where
  planned : ∀ now settled notify, c.settleInstants now = .ok (settled,notify) →
    (stageTransmit (opened settled)).isSome = true
  completed : ∀ now settled notify staged transmitted, c.settleInstants now = .ok (settled,notify) →
    stageTransmit (opened settled) = some staged → (noteTransmission staged transmitted).isSome = true
  acknowledged : ∀ clock settled notify staged received noted header,
    c.settleInstants clock.entry = .ok (settled,notify) → stageTransmit (opened settled) = some staged →
    noteTransmission staged received.transmitted = some noted →
    (acknowledgeTransmit (heard noted clock received) header (!staged.txFrameFresh) clock.acknowledged).isSome = true
  survives : ∀ clock radio, (connectionEvent c clock radio).reason = some 0x1f →
    ∃ received header, radio = some received ∧ receivedPdu received = some (header,[0x02,0x1f])

theorem openedStaged {settled : ActiveConnection} {now notify} (orderly : Orderly c)
    (settles : c.settleInstants now = .ok (settled,notify)) :
    ∃ staged, stageTransmit (opened settled) = some staged ∧ Staged (opened settled) staged := by
  have order := (settledOrderly orderly settles).1
  exact stageOrderly (c := opened settled) ⟨order.tidy,order.framed⟩

theorem orderlyBookkept (orderly : Orderly c) : Bookkept c := by
  have completes : ∀ {now settled notify staged} (transmitted), c.settleInstants now = .ok (settled,notify) →
      stageTransmit (opened settled) = some staged → ∃ noted, noteTransmission staged transmitted = some noted := by
    intro now settled notify staged transmitted settles stages
    obtain ⟨staged',stages',staging⟩ := openedStaged orderly settles
    rw [stages] at stages'
    cases stages'
    obtain ⟨noted,notes,_⟩ := noteOrderly staging.orderly staging.filled transmitted
    exact ⟨noted,notes⟩
  refine ⟨?_,?_,?_,?_⟩
  · intro now settled notify settles
    obtain ⟨staged,stages,_⟩ := openedStaged orderly settles
    rw [stages]
    rfl
  · intro now settled notify staged transmitted settles stages
    obtain ⟨noted,notes⟩ := completes transmitted settles stages
    rw [notes]
    rfl
  · intro clock settled notify staged received noted header settles stages notes
    obtain ⟨acked,calls,acks,_⟩ := eventReached clock header orderly settles stages notes
    rw [acks]
    rfl
  · intro clock radio lost
    have path := eventRuns c clock radio
    generalize connectionEvent c clock radio = outcome at path lost
    cases path with
    | unsettled refused =>
      rw [settleRefused refused] at lost
      cases lost
    | unstaged settles refused =>
      obtain ⟨staged,stages,_⟩ := openedStaged orderly settles
      rw [refused] at stages
      cases stages
    | silent => cases lost
    | uncompleted settles stages refused =>
      obtain ⟨noted,notes⟩ := completes _ settles stages
      rw [refused] at notes
      cases notes
    | unreadable => cases lost
    | @heard settled notify staged received noted header payload after told reason settles stages notes read closes =>
      obtain ⟨acked,calls,acks,_⟩ := eventReached clock header orderly settles stages notes
      have lost : reason = some 0x1f := lost
      subst lost
      generalize gone : some (0x1f : UInt8) = reason at closes
      cases closes with
      | unacknowledged refused =>
        rw [acks] at refused
        cases refused
      | unsettled acks' refused =>
        rw [settleRefused refused] at gone
        cases gone
      | @closed acked' released settled' notify' acks' settles' =>
        split at gone
        · cases gone
        · have form := (acceptedReason gone.symm).2.resolve_left (by decide)
          subst form
          exact ⟨received,header,rfl,read⟩

theorem bookkeepingKept {request endUs now} (created : ActiveConnection.new request endUs now = some c)
    {trace link} (run : Guarded runner Careful ⟨c,false⟩ trace link) (running : link.down = false) :
    Bookkept link.connection := by
  suffices order : link.down = false → Orderly link.connection by exact orderlyBookkept (order running)
  clear running
  induction run with
  | start => exact fun _ => createdOrderly created
  | step before input careful ih =>
    intro lives
    exact stepOrderly (ih (stepRunning lives)) careful lives

theorem createdUnheld {request endUs now} (created : ActiveConnection.new request endUs now = some c) :
    Unheld c.toControlPlane := by
  unfold ActiveConnection.new ActiveConnection.newFor at created
  split at created
  · cases created
  · cases created
    intro token _
    refine ⟨?_,?_⟩
    · rintro pdu (pending | queued)
      · cases pending
      · cases queued
    · intro side x held
      cases side <;> cases held

end Run

theorem askingBookkept : asking.down = false ∧ Bookkept asking.connection :=
  ⟨by decide +kernel,
    bookkeepingKept sampleCreated (.step .start updateCommand (createdUnheld sampleCreated)) (by decide +kernel)⟩

-- All 37 channels from event 6 on.
def sampleMap : List UInt8 := [0x01,0xff,0xff,0xff,0xff,0x1f,6,0]

/- The LL_CHANNEL_MAP_IND comes in the event in which the LL_CONNECTION_PARAM_REQ goes out. -/
def collided : Link := (step asking (hears 0x03 sampleMap)).1

/- The Central sends its indication again, which the answer on air did not acknowledge yet, and
acknowledges the LL_CONNECTION_PARAM_REQ with it; that ends the connection. -/
theorem collisionEndsConnection :
    collided.down = false ∧ (step collided (hears 0x07 sampleMap)).2.reason = some 0x1f ∧
      ¬Bookkept collided.connection := by
  refine ⟨by decide +kernel,by decide +kernel,fun books => ?_⟩
  have lost : (connectionEvent collided.connection ⟨2000,2000,2000,2000⟩
      (some ⟨0x07 :: 8 :: sampleMap,-40,true,3000,true⟩)).reason = some 0x1f := by decide +kernel
  obtain ⟨received,header,same,read⟩ := books.survives _ _ lost
  cases same
  have heard : receivedPdu ⟨0x07 :: 8 :: sampleMap,-40,true,3000,true⟩ = some (0x07,sampleMap) := by decide
  rw [heard] at read
  exact absurd read (by simp [sampleMap])

end Ch58xHal.ControlBookkeeping
