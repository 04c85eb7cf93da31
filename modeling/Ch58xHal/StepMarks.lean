import Ch58xHal.ConnectionRun

/-! What a step goes through. Its marks are the Host's packet, the calls of `apply_instants`, the
Control PDU handed on, the move to the following event and what lies between, each with the
connection before and after it and what it calls; every mark starts where the one before ended. -/
namespace Ch58xHal.StepMarks
open ControlPdu Llcp Connection ConnectionEvent ConnectionRun Machines

inductive Act where
  | host (packet : Packet)
  | instants
  | received (payload : List UInt8) (reason : Option UInt8)
  | following
  | other
  deriving DecidableEq, Repr

structure Mark where
  before : ActiveConnection
  act : Act
  calls : List HostCall
  after : ActiveConnection
  deriving DecidableEq, Repr

/- How an event goes out: to the following one, or with the reason that ends the connection. -/
def leaveMark (c : ActiveConnection) : Option UInt8 → Mark
  | none => ⟨c,.following,[],c.scheduleFollowingEvent⟩
  | some reason => ⟨c,.other,[emitDisconnection c reason],c⟩

/- A packet under the sequence number expected next is new, and a Control PDU goes to its handler. -/
def receiptMark (c : ActiveConnection) (header : UInt8) (payload : List UInt8) : Mark :=
  let accepted := acceptReceive c header payload
  let act : Act :=
    if (header >>> 3) &&& 1 = c.expectedSn ∧ header &&& 0x03 = llidControl then .received payload accepted.2.2
    else .other
  ⟨c,act,accepted.2.1,accepted.1⟩

section Events
variable (c : ActiveConnection) (clock : EventClock)

/- From `settled` on, once `heard` has read a packet. -/
def closeMarks (settled heard : ActiveConnection) (received : ExchangeResult) (header : UInt8)
    (payload : List UInt8) (outstanding terminate : Bool) : List Mark :=
  match acknowledgeTransmit heard header outstanding clock.acknowledged with
  | none => [⟨settled,.other,[],heard⟩,leaveMark heard (some 0x1f)]
  | some (acked,released) =>
    let accepted := acceptReceive acked header payload
    ⟨settled,.other,released,acked⟩ :: receiptMark acked header payload ::
      match accepted.1.settleInstants clock.closing with
      | .error reason => [leaveMark accepted.1 (some reason)]
      | .ok (closed,notify) =>
        let anchor := received.timestampUs - (1 + 4 + 2 + payload.length + 3) * 8
        let anchored := {closed with toEventTiming := closed.synchronize anchor}
        [⟨accepted.1,.instants,notifyHost closed notify,closed⟩,⟨closed,.other,[],anchored⟩,
          leaveMark anchored (if terminate then some 0x16 else accepted.2.2)]

def eventMarks (radio : Option ExchangeResult) : List Mark :=
  match c.settleInstants clock.entry with
  | .error reason => [leaveMark c (some reason)]
  | .ok (settled,notify) =>
    ⟨c,.instants,notifyHost settled notify,settled⟩ ::
      match stageTransmit (opened settled) with
      | none => [⟨settled,.other,[],opened settled⟩,leaveMark (opened settled) (some 0x1f)]
      | some staged =>
        match radio with
        | none => [⟨settled,.other,[],staged⟩,leaveMark staged none]
        | some received =>
          match noteTransmission staged received.transmitted with
          | none => [⟨settled,.other,[],staged⟩,leaveMark staged (some 0x1f)]
          | some noted =>
            match receivedPdu received with
            | none => [⟨settled,.other,[],noted⟩,leaveMark noted none]
            | some (header,payload) =>
              closeMarks clock settled (heard noted clock received) received header payload
                (!staged.txFrameFresh) (sentTerminate noted received.transmitted)

end Events

/- How a turn of `skip_expired_events` goes on to the following event. -/
def passedOver (settled : ActiveConnection) : ActiveConnection :=
  {settled with toEventTiming := settled.nextChannel.1}.scheduleFollowingEvent

/- Two marks for each event skipped, up to the `apply_instants` that fails or the end of the loop,
where the Host is told once for all of them. -/
def skipMarks (now : Nat) (clock : Nat → Nat) : Nat → UInt16 → Bool → ActiveConnection → List Mark
  | turns,count,notify,c =>
    if c.receiveClose < now then
      match c.settleInstants (clock count.toNat) with
      | .error _ => []
      | .ok (settled,more) =>
        ⟨c,.instants,[],settled⟩ :: ⟨settled,.following,[],passedOver settled⟩ ::
          match turns with
          | 0 => []
          | turns+1 => skipMarks now clock turns (count+1) (notify || more) (passedOver settled)
    else [⟨c,.other,notifyHost c notify,c⟩]

/- The marks of one call, in the sections in which it answers the Host: each mark of an event is
one of its own, while the loop over skipped events is one as a whole. -/
def sections (link : Link) (input : Input) : List (List Mark) :=
  if link.down then []
  else match input with
    | .skip now clock => [skipMarks now clock 65535 0 false link.connection]
    | .event clock radio => (eventMarks link.connection clock radio).map fun m => [m]
    | .host packet => [[⟨link.connection,.host packet,(step link input).2.calls,(step link input).1.connection⟩]]
    | .deadlines _ => [[⟨link.connection,.other,(step link input).2.calls,(step link input).1.connection⟩]]

def marks (link : Link) (input : Input) : List Mark := (sections link input).flatten

def runSections (link : Link) : List Input → List (List Mark)
  | [] => []
  | input :: rest => sections link input ++ runSections (step link input).1 rest

def told (marks : List Mark) : List HostCall := marks.flatMap Mark.calls

/-! Chains. -/

/- Each mark starts where the one before ended. -/
def Leads : ActiveConnection → List Mark → ActiveConnection → Prop
  | c,[],last => c = last
  | c,m :: rest,last => m.before = c ∧ Leads m.after rest last

theorem leadsAppend {first middle last : ActiveConnection} {before after : List Mark}
    (start : Leads first before middle) (rest : Leads middle after last) : Leads first (before ++ after) last := by
  induction before generalizing first with
  | nil =>
    cases start
    exact rest
  | cons m before ih => exact ⟨start.1,ih start.2⟩

theorem leadsSplit {first last : ActiveConnection} {before after : List Mark}
    (whole : Leads first (before ++ after) last) : ∃ middle, Leads first before middle ∧ Leads middle after last := by
  induction before generalizing first with
  | nil => exact ⟨first,rfl,whole⟩
  | cons m before ih =>
    obtain ⟨middle,start,rest⟩ := ih whole.2
    exact ⟨middle,⟨whole.1,start⟩,rest⟩

theorem toldAppend (before after : List Mark) : told (before ++ after) = told before ++ told after :=
  List.flatMap_append

/- Of an event: all but its last mark make up the event itself. -/
def Covers (c : ActiveConnection) (all : List Mark) (last : ActiveConnection) (calls : List HostCall)
    (reason : Option UInt8) : Prop :=
  ∃ inner, all = inner ++ [leaveMark last reason] ∧ Leads c inner last ∧ told inner = calls

theorem closeCovers {c settled noted after : ActiveConnection} {clock received header payload outstanding terminate calls reason}
    (closes : Closes (heard noted clock received) clock received header payload outstanding terminate after calls reason)
    {first : Mark} (starts : first.before = c) (ends : first.after = settled) :
    Covers c (first :: closeMarks clock settled (heard noted clock received) received header payload outstanding terminate)
      after (first.calls ++ calls) reason := by
  cases closes with
  | unacknowledged refused =>
    refine ⟨[first,⟨settled,.other,[],heard noted clock received⟩],?_,⟨starts,ends.symm,rfl⟩,?_⟩
    · simp [closeMarks,refused]
    · simp [told]
  | @unsettled acked released reason acks refused =>
    refine ⟨[first,⟨settled,.other,released,acked⟩,receiptMark acked header payload],?_,
      ⟨starts,ends.symm,rfl,rfl⟩,?_⟩
    · simp [closeMarks,acks,refused]
    · simp [told,receiptMark]
  | @closed acked released closed notify acks settles =>
    refine ⟨[first,⟨settled,.other,released,acked⟩,receiptMark acked header payload,
      ⟨(acceptReceive acked header payload).1,.instants,notifyHost closed notify,closed⟩,
      ⟨closed,.other,[],_⟩],?_,⟨starts,ends.symm,rfl,rfl,rfl,rfl⟩,?_⟩
    · simp [closeMarks,acks,settles]
    · simp [told,receiptMark]

theorem eventCovers (c clock radio) :
    Covers c (eventMarks c clock radio) (connectionEvent c clock radio).connection
      (connectionEvent c clock radio).calls (connectionEvent c clock radio).reason := by
  have path := eventRuns c clock radio
  generalize connectionEvent c clock radio = outcome at path ⊢
  cases path with
  | unsettled refused => exact ⟨[],by simp [eventMarks,refused],rfl,rfl⟩
  | @unstaged _ settled notify settles refused =>
    refine ⟨[⟨c,.instants,notifyHost settled notify,settled⟩,⟨settled,.other,[],opened settled⟩],?_,⟨rfl,rfl,rfl⟩,?_⟩
    · simp [eventMarks,settles,refused]
    · simp [told]
  | @silent settled notify staged settles stages =>
    refine ⟨[⟨c,.instants,notifyHost settled notify,settled⟩,⟨settled,.other,[],staged⟩],?_,⟨rfl,rfl,rfl⟩,?_⟩
    · simp [eventMarks,settles,stages]
    · simp [told]
  | @uncompleted settled notify staged received settles stages refused =>
    refine ⟨[⟨c,.instants,notifyHost settled notify,settled⟩,⟨settled,.other,[],staged⟩],?_,⟨rfl,rfl,rfl⟩,?_⟩
    · simp [eventMarks,settles,stages,refused]
    · simp [told]
  | @unreadable settled notify staged received noted settles stages notes rejected =>
    refine ⟨[⟨c,.instants,notifyHost settled notify,settled⟩,⟨settled,.other,[],noted⟩],?_,⟨rfl,rfl,rfl⟩,?_⟩
    · simp [eventMarks,settles,stages,notes,rejected]
    · simp [told]
  | @heard settled notify staged received noted header payload after told reason settles stages notes read closes =>
    unfold eventMarks
    simp only [settles,stages,notes,read]
    exact closeCovers closes rfl rfl

theorem eventLeads (c clock radio) :
    Leads c (eventMarks c clock radio) (eventStep c clock radio).1.connection ∧
      told (eventMarks c clock radio) = (eventStep c clock radio).2.calls := by
  obtain ⟨inner,form,leads,calls⟩ := eventCovers c clock radio
  unfold eventStep
  dsimp only
  rw [form,toldAppend,calls]
  cases (connectionEvent c clock radio).reason with
  | none => exact ⟨leadsAppend leads ⟨rfl,rfl⟩,List.append_nil _⟩
  | some reason => exact ⟨leadsAppend leads ⟨rfl,rfl⟩,rfl⟩

section Skips
variable {now : Nat} {clock : Nat → Nat}

theorem skipMarksReached {turns count notify} {c : ActiveConnection} (reached : ¬c.receiveClose < now) :
    skipMarks now clock turns count notify c = [⟨c,.other,notifyHost c notify,c⟩] := by
  rw [skipMarks,if_neg reached]

theorem skipMarksFailed {turns count notify reason} {c : ActiveConnection} (expired : c.receiveClose < now)
    (fails : c.settleInstants (clock count.toNat) = .error reason) : skipMarks now clock turns count notify c = [] := by
  rw [skipMarks,if_pos expired,fails]

theorem skipMarksLast {count notify more} {c settled : ActiveConnection} (expired : c.receiveClose < now)
    (settles : c.settleInstants (clock count.toNat) = .ok (settled,more)) :
    skipMarks now clock 0 count notify c = [⟨c,.instants,[],settled⟩,⟨settled,.following,[],passedOver settled⟩] := by
  rw [skipMarks,if_pos expired,settles]

theorem skipMarksTurn {turns count notify more} {c settled : ActiveConnection} (expired : c.receiveClose < now)
    (settles : c.settleInstants (clock count.toNat) = .ok (settled,more)) :
    skipMarks now clock (turns + 1) count notify c = ⟨c,.instants,[],settled⟩ ::
      ⟨settled,.following,[],passedOver settled⟩ ::
        skipMarks now clock turns (count + 1) (notify || more) (passedOver settled) := by
  rw [skipMarks,if_pos expired,settles]

theorem skipLeads {turns count notify total all} {c after : ActiveConnection}
    (ok : ActiveConnection.skipLoop now clock turns count notify c = .ok (after,total,all)) :
    Leads c (skipMarks now clock turns count notify c) after ∧
      told (skipMarks now clock turns count notify c) = notifyHost after all := by
  induction turns generalizing count notify c with
  | zero =>
    unfold ActiveConnection.skipLoop at ok
    split at ok
    · split at ok <;> cases ok
    · rename_i reached
      cases ok
      rw [skipMarksReached reached]
      exact ⟨⟨rfl,rfl⟩,List.append_nil _⟩
  | succ turns ih =>
    unfold ActiveConnection.skipLoop at ok
    split at ok
    · rename_i expired
      cases skips : c.skipEvent (clock count.toNat) with
      | error reason => simp [skips] at ok
      | ok pair =>
        obtain ⟨next,more⟩ := pair
        obtain ⟨settled,settles,rfl⟩ := skipShape skips
        simp only [skips] at ok
        obtain ⟨leads,calls⟩ := ih ok
        rw [skipMarksTurn expired settles]
        exact ⟨⟨rfl,rfl,leads⟩,calls⟩
    · rename_i reached
      cases ok
      rw [skipMarksReached reached]
      exact ⟨⟨rfl,rfl⟩,List.append_nil _⟩

end Skips

theorem eventFlat (c clock radio) : ((eventMarks c clock radio).map fun m => [m]).flatten = eventMarks c clock radio := by
  simp [← List.flatMap_def]

/- The marks of a step that leaves the connection up lead from its state before to its state
after, and make all its calls. -/
theorem stepLeads {link : Link} {input : Input} (lives : (step link input).1.down = false) :
    Leads link.connection (marks link input) (step link input).1.connection ∧
      told (marks link input) = (step link input).2.calls := by
  have running := stepRunning lives
  unfold marks sections
  rw [if_neg (by simp [running])]
  cases input with
  | host packet => exact ⟨⟨rfl,rfl⟩,List.append_nil _⟩
  | deadlines now => exact ⟨⟨rfl,rfl⟩,List.append_nil _⟩
  | skip now clock =>
    rw [stepSkip running] at lives ⊢
    cases skips : link.connection.skipExpiredEvents now clock with
    | error reason =>
      rw [skipRefused skips] at lives
      cases lives
    | ok result =>
      obtain ⟨after,count,notify⟩ := result
      rw [skipDone skips,List.flatten_singleton]
      exact skipLeads skips
  | event clock radio =>
    rw [stepEvent running]
    dsimp only
    rw [eventFlat]
    exact eventLeads link.connection clock radio

/-! Runs. -/

theorem runSectionsSnoc (link : Link) (inputs : List Input) (input : Input) :
    runSections link (inputs ++ [input]) = runSections link inputs ++ sections (run runner link inputs).2 input := by
  induction inputs generalizing link with
  | nil => exact List.append_nil _
  | cons first inputs ih =>
    show sections link first ++ runSections (step link first).1 (inputs ++ [input]) = _
    rw [ih,← List.append_assoc]
    rfl

/- The sections of a history end with those of its last step. -/
theorem historySections {first : Link} {past link} (before : History runner first past link) (input : Input) :
    runSections first ((past ++ [(input,(step link input).2)]).map Prod.fst) =
      runSections first (past.map Prod.fst) ++ sections link input := by
  rw [List.map_append,List.map_cons,List.map_nil,runSectionsSnoc,historyRuns before]

theorem runLeads {first link : Link} {trace} (run : History runner first trace link) (running : link.down = false) :
    Leads first.connection (runSections first (trace.map Prod.fst)).flatten link.connection ∧
      told (runSections first (trace.map Prod.fst)).flatten = trace.flatMap fun entry => entry.2.calls := by
  induction run with
  | start => exact ⟨rfl,rfl⟩
  | @step past link before input ih =>
    have earlier := stepRunning running
    obtain ⟨leads,calls⟩ := ih earlier
    obtain ⟨leads',calls'⟩ := stepLeads running
    show Leads _ (runSections first ((past ++ [(input,(step link input).2)]).map Prod.fst)).flatten _ ∧
      told (runSections first ((past ++ [(input,(step link input).2)]).map Prod.fst)).flatten = _
    rw [historySections before,List.flatten_append,toldAppend,List.flatMap_append,calls]
    exact ⟨leadsAppend leads leads',by rw [← marks,calls']; simp [runner]⟩

end Ch58xHal.StepMarks
