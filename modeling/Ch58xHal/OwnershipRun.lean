import Ch58xHal.OwnershipSteps
import Ch58xHal.StepMarks

/-! Host commands, whole steps and whole runs of a connection on the ownership machine: every
mark of a step is a path of shifts, so every state of a run is a consistent one. -/
namespace Ch58xHal.OwnershipRun
open ControlPdu Llcp LlcpSteps Connection ConnectionEvent ConnectionRun ControlHandlers DataPlane InstantOwners
open OwnershipSteps StepMarks Machines

/-! Host commands. -/

theorem terminateWalk (t : EventTiming) {p : ControlPlane} {request timeout result}
    (starts : Starts p .termination request none timeout result) :
    Walks (view t p) (view t result.1) := by
  cases starts with
  | silent empty => exact .refl
  | busy active => exact .refl
  | started form idle put queued =>
    rw [queueTokenView,put]
    exact .single (.terminating (o := view t p) idle rfl rfl (Or.inl rfl))
  | failed form idle => exact .single (.terminating (o := view t p) idle rfl rfl (Or.inr rfl))

/- The status with which the Host learns that its connection update was accepted. -/
def accepted (call : HostCall) : Bool := call == .commandStatus 0x2013 hciSuccess

def Unanswered (calls : List HostCall) : Prop := ∀ call ∈ calls, accepted call = false

theorem unansweredNone : Unanswered [] := fun _ wrong => (nomatch wrong)

theorem unansweredOne {call : HostCall} (other : accepted call = false) : Unanswered [call] := by
  intro x member
  rw [List.mem_singleton.mp member,other]

/- The connection parameters a command 0x2013 asks for. -/
def rangeOf (bytes : List UInt8) : LocalConnectionParamRequest :=
  ⟨word (bytes.drop 3) 2,word (bytes.drop 3) 4,word (bytes.drop 3) 6,word (bytes.drop 3) 8⟩

/- What a command does to the Host's own request: nothing, or it is the accepted request. -/
inductive Asks (c : ActiveConnection) (bytes : List UInt8) : List HostCall → ActiveConnection → Prop where
  | other {calls after} (quiet : Unanswered calls)
      (same : after.localConnectionParamRequest = c.localConnectionParamRequest) : Asks c bytes calls after
  | asked {after} (free : c.localConnectionParamRequest = none)
      (asks : after.localConnectionParamRequest = some (rangeOf bytes)) :
      Asks c bytes [.commandStatus 0x2013 hciSuccess] after

structure Commanded (c : ActiveConnection) (bytes : List UInt8) (calls : List HostCall)
    (after : ActiveConnection) : Prop where
  walk : Walks (owned c) (owned after)
  silent : results calls = []
  asks : Asks c bytes calls after
  kept : ∃ procedures request, owned after = {owned c with procedures := procedures,request := request}

section Commands
variable (c : ActiveConnection)

theorem commandQuiet {bytes} {calls : List HostCall} (silent : results calls = []) (quiet : Unanswered calls) :
    Commanded c bytes calls c := ⟨.refl,silent,.other quiet rfl,_,_,rfl⟩

/- The Host's connection update, once its handle, range and the busy checks have passed. -/
theorem requestWalk {request : List UInt8} {timeout result} {r : LocalConnectionParamRequest}
    (starts : Starts c.toControlPlane .connectionParameters request (some 0x00) timeout result)
    (free : c.localConnectionParamRequest = none) (remote : c.remoteConnectionParametersActive = false)
    (update : c.pendingConnectionUpdate = none) (map : c.pendingChannelMap = none) :
    if result.2 then
      Walks (owned c) (view c.toEventTiming {result.1 with localConnectionParamRequest := some r})
    else Walks (owned c) (view c.toEventTiming result.1) := by
  cases starts with
  | silent empty => exact .refl
  | busy active => exact .refl
  | @started after first rest form idle put queued =>
    rw [if_pos queued]
    have same := queueTokenView c.toEventTiming
      {c.allocateControlToken.1 with procedures := after} request c.allocateControlToken.2
    generalize ControlPlane.queueControlWithToken _ request _ = kept at same
    have target : view c.toEventTiming {kept.1 with localConnectionParamRequest := some r} =
        {owned c with
          procedures := c.procedures.put .localSide
            (requesting .connectionParameters c.allocateControlToken.2 first (some 0x00) timeout)
          request := some r} := by
      show {view c.toEventTiming kept.1 with request := some r} = _
      rw [same,put]
      rfl
    rw [target]
    exact .single (.asked (o := owned c) idle rfl rfl rfl rfl free remote update map)
  | failed form idle =>
    exact .single (.unasked (o := owned c) idle rfl rfl rfl rfl)

theorem updateCommanded {bytes : List UInt8} {starts : ControlPlane × Bool}
    (free : c.localConnectionParamRequest = none)
    (plain : ∃ procedures, view c.toEventTiming starts.1 = {owned c with procedures := procedures})
    (walk : if starts.2 then
        Walks (owned c) (view c.toEventTiming {starts.1 with localConnectionParamRequest := some (rangeOf bytes)})
      else Walks (owned c) (view c.toEventTiming starts.1)) :
    let done : ActiveConnection × List HostCall × Bool :=
      if starts.2 then
        ({c with toControlPlane := {starts.1 with localConnectionParamRequest := some (rangeOf bytes)}},
          [.commandStatus 0x2013 hciSuccess],false)
      else ({c with toControlPlane := starts.1},[.commandStatus 0x2013 hciControllerBusy],false)
    Commanded c bytes done.2.1 done.1 := by
  obtain ⟨procedures,same⟩ := plain
  dsimp only
  split
  · rename_i queued
    rw [if_pos queued] at walk
    refine ⟨walk,rfl,.asked free rfl,procedures,some (rangeOf bytes),?_⟩
    show {view c.toEventTiming starts.1 with request := some (rangeOf bytes)} = _
    rw [same]
  · rename_i full
    rw [if_neg full] at walk
    exact ⟨walk,rfl,.other (unansweredOne rfl) (congrArg Ownership.request same),procedures,_,same⟩

theorem commandDone (bytes) :
    Commanded c bytes (handleConnectedCommand c bytes).2.1 (handleConnectedCommand c bytes).1 := by
  unfold handleConnectedCommand
  by_cases short : bytes.length < 3 ∨ bytes.length ≠ 3 + (octet bytes 2).toNat
  · rw [if_pos short]
    exact commandQuiet c rfl unansweredNone
  rw [if_neg short]
  dsimp only
  generalize word bytes 0 = opcode
  by_cases reset : opcode = 0x0c03 ∧ bytes.drop 3 = []
  · rw [if_pos reset]
    exact commandQuiet c rfl (unansweredOne rfl)
  rw [if_neg reset]
  by_cases disconnect : opcode = 0x0406 ∧ (bytes.drop 3).length = 3
  · rw [if_pos disconnect]
    obtain ⟨rfl,_⟩ := disconnect
    split
    · exact commandQuiet c rfl (unansweredOne rfl)
    · have starts := localStarts c.toControlPlane .termination [0x02,octet (bytes.drop 3) 2] none none
      obtain ⟨procedures,same⟩ := startView c.toEventTiming starts
      exact ⟨terminateWalk c.toEventTiming starts,rfl,
        .other (unansweredOne rfl) (congrArg Ownership.request same),procedures,_,same⟩
  rw [if_neg disconnect]
  by_cases rssi : opcode = 0x1405 ∧ (bytes.drop 3).length = 2
  · rw [if_pos rssi]
    split <;> exact commandQuiet c rfl (unansweredOne rfl)
  rw [if_neg rssi]
  by_cases update : opcode = 0x2013 ∧ (bytes.drop 3).length = 14
  · rw [if_pos update]
    obtain ⟨rfl,_⟩ := update
    split
    · exact commandQuiet c rfl (unansweredOne rfl)
    · split
      · exact commandQuiet c rfl (unansweredOne rfl)
      · rename_i busy
        simp only [not_or,Bool.not_eq_true,Option.isSome_eq_false_iff,Option.isNone_iff_eq_none] at busy
        obtain ⟨free,remote,pending,map⟩ := busy
        have starts := localStarts c.toControlPlane .connectionParameters
          ((⟨word (bytes.drop 3) 2,word (bytes.drop 3) 4,word (bytes.drop 3) 6,word (bytes.drop 3) 8,0,
            c.eventCounter,Vector.replicate 6 0xffff⟩ : ConnectionParamPdu).write
            ConnectionParamPdu.requestOpcode) (some 0x00) (some procedureResponseTimeoutUs)
        exact updateCommanded c free (startView c.toEventTiming starts)
          (requestWalk c starts free remote pending map)
  rw [if_neg update]
  exact commandQuiet c rfl (unansweredOne rfl)

/- The same of every packet of the Host. -/
theorem hostDone (packet : Packet) :
    Commanded c packet.bytes (processConnectedHostPacket c packet).2.1 (processConnectedHostPacket c packet).1 := by
  have served := hostServes c packet
  generalize processConnectedHostPacket c packet = done at served ⊢
  cases served with
  | ignored => exact commandQuiet c rfl unansweredNone
  | queued => exact ⟨.refl,rfl,.other unansweredNone rfl,_,_,rfl⟩
  | command => exact commandDone c packet.bytes

end Commands

/-! Marks. -/

/- What a mark of an event, or of the loop over skipped ones, does; only an event answers the
Host at once. -/
inductive Genuine (loud : Prop) : Mark → Prop where
  | instants {c after now notify calls} (settles : c.settleInstants now = .ok (after,notify))
      (tells : loud → calls = notifyHost after notify) : Genuine loud ⟨c,.instants,calls,after⟩
  | received {c : ActiveConnection} {header : UInt8} {payload} (fresh : (header >>> 3) &&& 1 = c.expectedSn)
      (control : header &&& 0x03 = llidControl) :
      Genuine loud ⟨c,.received payload (acceptReceive c header payload).2.2,
        (acceptReceive c header payload).2.1,(acceptReceive c header payload).1⟩
  | following {c after} (updateClear : (owned c).updateDue = false) (mapClear : (owned c).mapDue = false)
      (moved : owned after = {owned c with counter := (owned c).counter + 1}) :
      Genuine loud ⟨c,.following,[],after⟩
  | other {c after calls} (calm : Calm (owned c) (owned after)) (quiet : loud → results calls = []) :
      Genuine loud ⟨c,.other,calls,after⟩

theorem genuineWalk {loud m} (genuine : Genuine loud m) : Walks (owned m.before) (owned m.after) := by
  cases genuine with
  | instants settles => exact settleWalk settles
  | received => exact acceptWalk _ _ _
  | @following c after updateClear mapClear moved =>
    show Walks (owned c) (owned after)
    rw [moved]
    exact .single (.scheduled updateClear mapClear)
  | other calm => exact calm.1

theorem receiptGenuine (loud : Prop) (c : ActiveConnection) (header payload) : Genuine loud (receiptMark c header payload) := by
  unfold receiptMark
  dsimp only
  split
  · rename_i fresh
    exact .received fresh.1 fresh.2
  · rename_i other
    have still : owned (acceptReceive c header payload).1 = owned c ∧
        results (acceptReceive c header payload).2.1 = [] := by
      unfold acceptReceive
      split
      · rename_i fresh
        dsimp only
        split
        · rename_i control
          exact absurd ⟨fresh,control⟩ other
        · split <;> exact ⟨rfl,rfl⟩
      · exact ⟨rfl,rfl⟩
    exact .other (still.1 ▸ calmHere _) fun _ => still.2

theorem leaveGenuine (loud : Prop) {c : ActiveConnection} {reason : Option UInt8}
    (clear : reason = none → (owned c).updateDue = false ∧ (owned c).mapDue = false) :
    Genuine loud (leaveMark c reason) := by
  cases reason with
  | none => exact .following (clear rfl).1 (clear rfl).2 rfl
  | some reason => exact .other (calmHere _) fun _ => rfl

theorem leaveFailed (loud : Prop) (c : ActiveConnection) (reason : UInt8) :
    Genuine loud (leaveMark c (some reason)) := .other (calmHere _) fun _ => rfl

/- The instants are cleared once they have been applied, and calm stages leave them so. -/
def Clear (c : ActiveConnection) : Prop := (owned c).updateDue = false ∧ (owned c).mapDue = false

theorem settledClears {c after : ActiveConnection} {now notify} (ok : c.settleInstants now = .ok (after,notify)) :
    Clear after := by
  have clear := settledClear (owned c)
  rwa [← (settleOwned ok).1] at clear

theorem calmClear {c after : ActiveConnection} (calm : Calm (owned c) (owned after)) (clear : Clear c) :
    Clear after := by
  obtain ⟨_,procedures,same⟩ := calm
  unfold Clear
  rw [same]
  exact clear

theorem openedCalm {settled staged : ActiveConnection} (stages : stageTransmit (opened settled) = some staged) :
    Calm (owned settled) (owned staged) := by
  have calm : Calm (owned (opened settled)) (owned staged) := stageCalm stages
  exact calm

theorem closeGenuine {c settled after : ActiveConnection} {clock received header payload outstanding terminate calls reason}
    (calm : Calm (owned settled) (owned c))
    (closes : Closes c clock received header payload outstanding terminate after calls reason) :
    ∀ m ∈ closeMarks clock settled c received header payload outstanding terminate, Genuine True m := by
  cases closes with
  | unacknowledged refused =>
    simp only [closeMarks,refused,List.forall_mem_cons,List.not_mem_nil,false_implies,implies_true,and_true]
    exact ⟨.other calm fun _ => rfl,leaveFailed True _ _⟩
  | @unsettled acked released reason acks refused =>
    obtain ⟨more,quiet⟩ := acknowledgeCalm acks
    simp only [closeMarks,acks,refused,List.forall_mem_cons,List.not_mem_nil,false_implies,implies_true,and_true]
    exact ⟨.other (calmTrans calm more) fun _ => quiet,receiptGenuine True _ _ _,
      leaveFailed True _ _⟩
  | @closed acked released closed notify acks settles =>
    obtain ⟨more,quiet⟩ := acknowledgeCalm acks
    have clear : Clear closed := settledClears settles
    simp only [closeMarks,acks,settles,List.forall_mem_cons,List.not_mem_nil,false_implies,implies_true,and_true]
    exact ⟨.other (calmTrans calm more) fun _ => quiet,receiptGenuine True _ _ _,.instants settles fun _ => rfl,
      .other (calmHere _) fun _ => rfl,leaveGenuine True fun _ => clear⟩

theorem eventGenuine (c clock radio) : ∀ m ∈ eventMarks c clock radio, Genuine True m := by
  have path := eventRuns c clock radio
  generalize connectionEvent c clock radio = outcome at path
  cases path with
  | unsettled refused =>
    simp only [eventMarks,refused,List.forall_mem_cons,List.not_mem_nil,false_implies,implies_true,and_true]
    exact leaveFailed True _ _
  | unstaged settles refused =>
    simp only [eventMarks,settles,refused,List.forall_mem_cons,List.not_mem_nil,false_implies,implies_true,and_true]
    exact ⟨.instants settles fun _ => rfl,.other (calmHere _) fun _ => rfl,
      leaveFailed True _ _⟩
  | silent settles stages =>
    have staging := openedCalm stages
    simp only [eventMarks,settles,stages,List.forall_mem_cons,List.not_mem_nil,false_implies,implies_true,and_true]
    exact ⟨.instants settles fun _ => rfl,.other staging fun _ => rfl,
      leaveGenuine True fun _ => calmClear staging (settledClears settles)⟩
  | uncompleted settles stages refused =>
    simp only [eventMarks,settles,stages,refused,List.forall_mem_cons,List.not_mem_nil,false_implies,implies_true,
      and_true]
    exact ⟨.instants settles fun _ => rfl,.other (openedCalm stages) fun _ => rfl,
      leaveFailed True _ _⟩
  | unreadable settles stages notes rejected =>
    have noting := calmTrans (openedCalm stages) (noteCalm notes)
    simp only [eventMarks,settles,stages,notes,rejected,List.forall_mem_cons,List.not_mem_nil,false_implies,
      implies_true,and_true]
    exact ⟨.instants settles fun _ => rfl,.other noting fun _ => rfl,
      leaveGenuine True fun _ => calmClear noting (settledClears settles)⟩
  | heard settles stages notes read closes =>
    have noting := calmTrans (openedCalm stages) (noteCalm notes)
    simp only [eventMarks,settles,stages,notes,read,List.forall_mem_cons]
    exact ⟨.instants settles fun _ => rfl,closeGenuine noting closes⟩

/- One turn of the loop, whatever follows it. -/
theorem turnGenuine {c settled : ActiveConnection} {t more} {rest : List Mark}
    (settles : c.settleInstants t = .ok (settled,more)) (leads : ∃ last, Leads (passedOver settled) rest last)
    (all : ∀ m ∈ rest, Genuine False m) :
    (∃ last, Leads c (⟨c,.instants,[],settled⟩ :: ⟨settled,.following,[],passedOver settled⟩ :: rest) last) ∧
      ∀ m ∈ ⟨c,.instants,[],settled⟩ :: ⟨settled,.following,[],passedOver settled⟩ :: rest, Genuine False m := by
  obtain ⟨last,leads⟩ := leads
  have clear := settledClears settles
  exact ⟨⟨last,rfl,rfl,leads⟩,List.forall_mem_cons.mpr ⟨.instants settles fun wrong => wrong.elim,
    List.forall_mem_cons.mpr ⟨.following clear.1 clear.2 rfl,all⟩⟩⟩

/- The loop ends at an event that is not over yet, or whose instants cannot be applied. -/
theorem stopGenuine {now : Nat} {clock : Nat → Nat} (turns) {count} (notify) {c : ActiveConnection}
    (stops : c.receiveClose < now → ∃ reason, c.settleInstants (clock count.toNat) = .error reason) :
    (∃ last, Leads c (skipMarks now clock turns count notify c) last) ∧
      ∀ m ∈ skipMarks now clock turns count notify c, Genuine False m := by
  by_cases expired : c.receiveClose < now
  · obtain ⟨reason,fails⟩ := stops expired
    rw [skipMarksFailed expired fails]
    exact ⟨⟨c,rfl⟩,fun _ wrong => by cases wrong⟩
  · rw [skipMarksReached expired]
    exact ⟨⟨c,rfl,rfl⟩,List.forall_mem_singleton.mpr (.other (calmHere _) fun wrong => wrong.elim)⟩

theorem skipGenuine (now : Nat) (clock : Nat → Nat) (turns count notify) (c : ActiveConnection) :
    (∃ last, Leads c (skipMarks now clock turns count notify c) last) ∧
      ∀ m ∈ skipMarks now clock turns count notify c, Genuine False m := by
  induction turns generalizing count notify c with
  | zero =>
    cases settles : c.settleInstants (clock count.toNat) with
    | error reason => exact stopGenuine 0 notify fun _ => ⟨reason,settles⟩
    | ok pair =>
      by_cases expired : c.receiveClose < now
      · rw [skipMarksLast expired settles]
        exact turnGenuine settles ⟨_,rfl⟩ fun _ wrong => by cases wrong
      · exact stopGenuine 0 notify fun reached => absurd reached expired
  | succ turns ih =>
    cases settles : c.settleInstants (clock count.toNat) with
    | error reason => exact stopGenuine (turns + 1) notify fun _ => ⟨reason,settles⟩
    | ok pair =>
      by_cases expired : c.receiveClose < now
      · obtain ⟨leads,all⟩ := ih (count + 1) (notify || pair.2) (passedOver pair.1)
        rw [skipMarksTurn expired settles]
        exact turnGenuine settles leads all
      · exact stopGenuine (turns + 1) notify fun reached => absurd reached expired

theorem leadsWalk {c last : ActiveConnection} {all : List Mark} (leads : Leads c all last)
    (walks : ∀ m ∈ all, Walks (owned m.before) (owned m.after)) : Walks (owned c) (owned last) := by
  induction all generalizing c with
  | nil =>
    cases leads
    exact .refl
  | cons m all ih =>
    obtain ⟨walk,walks⟩ := List.forall_mem_cons.mp walks
    obtain ⟨rfl,leads⟩ := leads
    exact walk.trans (ih leads walks)

/- Along a chain every mark starts in a consistent state. -/
theorem leadsKept {c last : ActiveConnection} {all : List Mark} (leads : Leads c all last)
    (walks : ∀ m ∈ all, Walks (owned m.before) (owned m.after)) (known : Consistent (owned c)) :
    ∀ m ∈ all, Consistent (owned m.before) := by
  induction all generalizing c with
  | nil => exact fun _ wrong => (nomatch wrong)
  | cons m all ih =>
    obtain ⟨walk,walks⟩ := List.forall_mem_cons.mp walks
    obtain ⟨rfl,leads⟩ := leads
    exact List.forall_mem_cons.mpr ⟨known,ih leads walks (walkKept walk known)⟩

theorem genuineLess {loud : Prop} {m} (genuine : Genuine loud m) : Genuine False m := by
  cases genuine with
  | instants settles => exact .instants settles fun wrong => wrong.elim
  | received fresh control => exact .received fresh control
  | following updateClear mapClear moved => exact .following updateClear mapClear moved
  | other calm => exact .other calm fun wrong => wrong.elim

/- The one mark of a packet of the Host, or of the deadlines. -/
def Plain (m : Mark) : Prop :=
  (m.act = .other ∨ ∃ packet, m.act = .host packet) ∧
    ∃ procedures request, owned m.after = {owned m.before with procedures := procedures,request := request}

theorem hostPlain (c : ActiveConnection) (packet) :
    ∃ procedures request, owned (hostStep c packet).1.connection =
      {owned c with procedures := procedures,request := request} := by
  have kept := (hostDone c packet).kept
  unfold hostStep
  dsimp only
  split <;> exact kept

theorem deadlinesPlain (c : ActiveConnection) (now) :
    ∃ procedures request, owned (deadlinesStep c now).1.connection =
      {owned c with procedures := procedures,request := request} := by
  unfold deadlinesStep
  dsimp only
  split
  · exact ⟨_,_,rfl⟩
  · split <;> exact ⟨_,_,rfl⟩

/- The step lemma: every mark of a call starts in a consistent state. -/
theorem marksKept {link : Link} (input : Input) (known : Consistent (owned link.connection)) :
    ∀ m ∈ marks link input, Consistent (owned m.before) ∧ (Genuine False m ∨ Plain m) := by
  unfold marks sections
  split
  · exact fun _ wrong => (nomatch wrong)
  rename_i running
  have running : link.down = false := by simpa using running
  cases input with
  | host packet =>
    refine List.forall_mem_singleton.mpr ⟨known,Or.inr ⟨Or.inr ⟨packet,rfl⟩,?_⟩⟩
    rw [stepHost running]
    exact hostPlain link.connection packet
  | deadlines now =>
    refine List.forall_mem_singleton.mpr ⟨known,Or.inr ⟨Or.inl rfl,?_⟩⟩
    rw [stepDeadlines running]
    exact deadlinesPlain link.connection now
  | skip now clock =>
    rw [List.flatten_singleton]
    obtain ⟨⟨last,leads⟩,all⟩ := skipGenuine now clock 65535 0 false link.connection
    have kept := leadsKept leads (fun m member => genuineWalk (all m member)) known
    exact fun m member => ⟨kept m member,Or.inl (all m member)⟩
  | event clock radio =>
    dsimp only
    rw [eventFlat]
    have all := eventGenuine link.connection clock radio
    have kept := leadsKept (eventLeads link.connection clock radio).1
      (fun m member => genuineWalk (all m member)) known
    exact fun m member => ⟨kept m member,Or.inl (genuineLess (all m member))⟩

/- A step that leaves the connection up is a path of shifts. -/
theorem stepWalk {link : Link} {input : Input} (lives : (step link input).1.down = false) :
    Walks (owned link.connection) (owned (step link input).1.connection) := by
  have path := (stepContinues lives).2
  generalize (step link input).1.connection = after at path ⊢
  generalize (step link input).2 = report at path
  cases path with
  | @host packet => exact (hostDone link.connection packet).walk
  | deadlines => exact .refl
  | @skip now clock _ count notify skips =>
    have all := (skipGenuine now clock 65535 0 false link.connection).2
    exact leadsWalk (skipLeads skips).1 fun m member => genuineWalk (all m member)
  | @event clock radio goes =>
    have all := eventGenuine link.connection clock radio
    have chain := (eventLeads link.connection clock radio).1
    unfold eventStep at chain
    simp only [goes] at chain
    exact leadsWalk chain fun m member => genuineWalk (all m member)

/-! Runs. -/

theorem createdOwned {request endUs now c} (created : ActiveConnection.new request endUs now = some c) :
    ∃ parameters map, owned c = ⟨ProcedureManager.new,none,none,none,0,parameters,map⟩ := by
  unfold ActiveConnection.new ActiveConnection.newFor at created
  split at created
  · cases created
  · cases created
    exact ⟨_,_,rfl⟩

theorem freshConsistent (parameters : Parameters) (map : ChannelMap) :
    Consistent ⟨ProcedureManager.new,none,none,none,0,parameters,map⟩ := by
  have none : ∀ side c, ProcedureManager.new.context side ≠ some c := by
    intro side c
    cases side <;> exact fun wrong => (nomatch wrong)
  refine ⟨?_,?_,?_,rfl,?_,?_,?_,?_⟩
  · exact fun side c held => absurd held (none side c)
  · exact fun c held => absurd held (none .localSide c)
  · exact fun both => absurd both.1 Bool.false_ne_true
  · exact fun side c held => absurd held (none side c)
  · exact fun r u asked => (nomatch asked)
  · exact fun u pending => (nomatch pending)
  · exact fun m pending => (nomatch pending)

theorem createdConsistent {request endUs now c} (created : ActiveConnection.new request endUs now = some c) :
    Consistent (owned c) := by
  obtain ⟨parameters,map,fresh⟩ := createdOwned created
  rw [fresh]
  exact freshConsistent parameters map

theorem runConsistent {request endUs now c} (created : ActiveConnection.new request endUs now = some c)
    {trace link} (run : History runner ⟨c,false⟩ trace link) :
    link.down = false → Consistent (owned link.connection) := by
  refine stateInvariant (I := fun link => link.down = false → Consistent (owned link.connection)) ?_ ?_ run
  · exact fun _ => createdConsistent created
  · exact fun link input known lives => walkKept (stepWalk lives) (known (stepRunning lives))

theorem instantOwnershipConsistent {request endUs now c}
    (created : ActiveConnection.new request endUs now = some c) {trace link}
    (run : History runner ⟨c,false⟩ trace link) (running : link.down = false) :
    (∀ own other, link.connection.procedures.localSide = some own →
      link.connection.procedures.remoteSide = some other →
      ¬(own.active = true ∧ own.kind.instantProcedure.isSome = true ∧
        other.active = true ∧ other.kind.instantProcedure.isSome = true)) ∧
    (link.connection.localConnectionParamRequest.isSome = true ↔
      ∃ own, link.connection.procedures.localSide = some own ∧ own.active = true ∧
        own.kind = .connectionParameters) ∧
    ∀ side context, link.connection.procedures.context side = some context →
      context.phase = .awaitingInstant →
      if context.kind = .channelMapUpdate then
        ∃ map, link.connection.pendingChannelMap = some map ∧ context.instant = some map.instant
      else ∃ update, link.connection.pendingConnectionUpdate = some update ∧
        context.instant = some update.instant := by
  have known := runConsistent created run running
  refine ⟨?_,?_,fun side context held waiting => known.instants side context held waiting⟩
  · rintro own other mine theirs ⟨active,bears,active',bears'⟩
    apply known.exclusive
    have mine : (owned link.connection).procedures.localSide = some own := mine
    have theirs : (owned link.connection).procedures.remoteSide = some other := theirs
    rw [mine,theirs]
    simp [bearing,active,bears,active',bears']
  · have requested : link.connection.localConnectionParamRequest.isSome =
        parametersActive link.connection.procedures.localSide := known.requested
    rw [requested]
    cases link.connection.procedures.localSide with
    | none => simp [parametersActive]
    | some own => simp [parametersActive,and_comm]

/- A new Control PDU from the Central in an event in which the own frame went out. -/
def hears (header : UInt8) (body : List UInt8) : Input :=
  .event ⟨2000,2000,2000,2000⟩ (some ⟨header :: body.length.toUInt8 :: body,-40,true,3000,true⟩)

-- 60 ms from event 6 on.
def sampleUpdate : List UInt8 := [0x00,1,0,0,48,0,0,0,72,0,6,0]

theorem indicatedUpdateOwned :
    (run runner ⟨sampleConnection,false⟩ [hears 0x03 sampleUpdate]).2.down = false ∧
    (run runner ⟨sampleConnection,false⟩ [hears 0x03 sampleUpdate]).2.connection.procedures.remoteSide.any
      (fun context => context.phase == .awaitingInstant) = true ∧
    ¬(∃ own, (run runner ⟨sampleConnection,false⟩ [hears 0x03 sampleUpdate]).2.connection.procedures.localSide =
      some own ∧ own.active = true ∧ own.kind = .connectionParameters) := by
  have running : (run runner ⟨sampleConnection,false⟩ [hears 0x03 sampleUpdate]).2.down = false := by
    decide +kernel
  have owned := instantOwnershipConsistent sampleCreated (runHistory runner _ [hears 0x03 sampleUpdate]) running
  refine ⟨running,by decide +kernel,?_⟩
  rw [← owned.2.1]
  decide +kernel

end Ch58xHal.OwnershipRun
