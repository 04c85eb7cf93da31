import Ch58xHal.ConnectionEvent
import Ch58xHal.Machines

/-! A whole connection. The machine makes the calls of `run_connection` one at a time and
in any order; `turn` puts them in the order of the source's loop, and every turn is a
history of the machine. A connection that has ended answers nothing more. -/
namespace Ch58xHal.ConnectionRun
open ControlPdu Llcp Connection ConnectionEvent Machines

structure Link where
  connection : ActiveConnection
  down : Bool
  deriving DecidableEq, Repr

inductive Input where
  | host (packet : Packet)
  | deadlines (now : Nat)
  | skip (now : Nat) (clock : Nat → Nat)
  | event (clock : EventClock) (radio : Option ExchangeResult)

structure Report where
  calls : List HostCall
  exchange : Option ExchangeRequest
  reason : Option UInt8
  skipped : UInt16
  deriving DecidableEq, Repr

def stay (c : ActiveConnection) (calls : List HostCall) (exchange : Option ExchangeRequest)
    (skipped : UInt16) : Link × Report := (⟨c,false⟩,⟨calls,exchange,none,skipped⟩)

def finish (c : ActiveConnection) (calls : List HostCall) (exchange : Option ExchangeRequest)
    (reason : UInt8) : Link × Report :=
  (⟨c,true⟩,⟨calls ++ [emitDisconnection c reason],exchange,some reason,0⟩)

section Calls
variable (c : ActiveConnection)

def hostStep (packet : Packet) : Link × Report :=
  let done := processConnectedHostPacket c packet
  if done.2.2 then finish done.1 done.2.1 none 0x16 else stay done.1 done.2.1 none 0

def deadlinesStep (now : Nat) : Link × Report :=
  let checked := c.procedures.checkTimeouts now 0x22
  let c := {c with procedures := checked.1}
  if checked.2 then finish c [] none 0x22
  else if c.supervisionDeadline ≤ now then finish c [] none 0x08
  else stay c [] none 0

def afterSkip : Except UInt8 (ActiveConnection × UInt16 × Bool) → Link × Report
  | .error _ => finish c [] none 0x08
  | .ok (c,count,notify) => stay c (notifyHost c notify) none count

def skipStep (now : Nat) (clock : Nat → Nat) : Link × Report :=
  afterSkip c (c.skipExpiredEvents now clock)

def eventStep (clock : EventClock) (radio : Option ExchangeResult) : Link × Report :=
  let outcome := connectionEvent c clock radio
  match outcome.reason with
  | some reason => finish outcome.connection outcome.calls outcome.exchange reason
  | none => stay outcome.connection.scheduleFollowingEvent outcome.calls outcome.exchange 0

end Calls

def step (link : Link) (input : Input) : Link × Report :=
  if link.down then (link,⟨[],none,none,0⟩)
  else match input with
    | .host packet => hostStep link.connection packet
    | .deadlines now => deadlinesStep link.connection now
    | .skip now clock => skipStep link.connection now clock
    | .event clock radio => eventStep link.connection clock radio

def runner : Machine Link Input Report := ⟨step⟩

theorem stepOver {link : Link} (stopped : link.down = true) (input : Input) :
    step link input = (link,⟨[],none,none,0⟩) := by
  simp only [step,stopped,if_true]

section Running
variable {link : Link} (running : link.down = false)
include running

theorem stepHost (packet) : step link (.host packet) = hostStep link.connection packet := by
  simp only [step,running,Bool.false_eq_true,if_false]

theorem stepDeadlines (now) : step link (.deadlines now) = deadlinesStep link.connection now := by
  simp only [step,running,Bool.false_eq_true,if_false]

theorem stepSkip (now clock) : step link (.skip now clock) = skipStep link.connection now clock := by
  simp only [step,running,Bool.false_eq_true,if_false]

theorem stepEvent (clock radio) : step link (.event clock radio) = eventStep link.connection clock radio := by
  simp only [step,running,Bool.false_eq_true,if_false]

end Running

/-! The loop of `run_connection`. -/

inductive Wake where
  | packet (packet : Packet)
  | timer (now : Nat) (skipClock : Nat → Nat) (clock : EventClock) (radio : Option ExchangeResult)

structure Turn where
  waiting : List Packet
  now : Nat
  skipClock : Nat → Nat
  wake : Wake

abbrev Trace := List (Input × Report)

def skippedLast (trace : Trace) : Bool :=
  trace.getLast?.any fun entry => entry.2.skipped != 0

def andThen (first : Trace × Link) (inputs : List Input) : Trace × Link :=
  let second := run runner first.2 inputs
  (first.1 ++ second.1,second.2)

def paused (done : Trace × Link) : Bool := done.2.down || skippedLast done.1

def wakeUp (first : Trace × Link) : Wake → Trace × Link
  | .packet packet => andThen first [.host packet]
  | .timer now skipClock clock radio =>
    let second := andThen first [.skip now skipClock]
    if paused second then second else andThen second [.event clock radio]

/- Nothing stands for the panic of `scheduler_open` on an anchor too close to zero. -/
def turn (link : Link) (t : Turn) : Option (Trace × Link) :=
  let first := run runner link (t.waiting.map .host ++ [.deadlines t.now,.skip t.now t.skipClock])
  if paused first then some first
  else if first.2.connection.receiveOpen.isNone then none
  else some (wakeUp first t.wake)

def runConnection (link : Link) : List Turn → Option (Trace × Link)
  | [] => some ([],link)
  | t :: rest =>
    match turn link t with
    | none => none
    | some (trace,after) => (runConnection after rest).map fun later => (trace ++ later.1,later.2)

theorem wakeHistory {link first} (wake) (before : History runner link first.1 first.2) :
    History runner link (wakeUp first wake).1 (wakeUp first wake).2 := by
  cases wake with
  | packet packet => exact historyTrans before (runHistory runner first.2 _)
  | timer now skipClock clock radio =>
    have skipped := historyTrans before (runHistory runner first.2 [.skip now skipClock])
    unfold wakeUp
    dsimp only
    split
    · exact skipped
    · exact historyTrans skipped (runHistory runner _ _)

theorem turnHistory {link t result} (ok : turn link t = some result) :
    History runner link result.1 result.2 := by
  have opening := runHistory runner link (t.waiting.map .host ++ [.deadlines t.now,.skip t.now t.skipClock])
  unfold turn at ok
  dsimp only at ok
  generalize run runner link _ = first at opening ok
  by_cases pause : paused first
  · rw [if_pos pause] at ok
    rw [← Option.some.inj ok]
    exact opening
  · rw [if_neg pause] at ok
    by_cases panic : first.2.connection.receiveOpen.isNone
    · rw [if_pos panic] at ok
      cases ok
    · rw [if_neg panic] at ok
      rw [← Option.some.inj ok]
      exact wakeHistory t.wake opening

/- Whatever holds of every history holds of every run of the loop. -/
theorem runConnectionHistory {link turns trace after} (ok : runConnection link turns = some (trace,after)) :
    History runner link trace after := by
  induction turns generalizing link trace after with
  | nil =>
    cases ok
    exact .start
  | cons t rest ih =>
    unfold runConnection at ok
    split at ok
    · cases ok
    · rename_i first middle done
      obtain ⟨later,found,same⟩ := Option.map_eq_some_iff.mp ok
      cases same
      exact historyTrans (turnHistory done) (ih found)

/-! The paths through an event, so that no proof unfolds it again. -/

inductive Closes (c : ActiveConnection) (clock : EventClock) (received : ExchangeResult)
    (header : UInt8) (payload : List UInt8) (outstanding terminate : Bool) :
    ActiveConnection → List HostCall → Option UInt8 → Prop where
  | unacknowledged (refused : acknowledgeTransmit c header outstanding clock.acknowledged = none) :
      Closes c clock received header payload outstanding terminate c [] (some 0x1f)
  | unsettled {after released reason}
      (acknowledged : acknowledgeTransmit c header outstanding clock.acknowledged = some (after,released))
      (refused : (acceptReceive after header payload).1.settleInstants clock.closing = .error reason) :
      Closes c clock received header payload outstanding terminate
        (acceptReceive after header payload).1
        (released ++ (acceptReceive after header payload).2.1) (some reason)
  | closed {after released settled notify}
      (acknowledged : acknowledgeTransmit c header outstanding clock.acknowledged = some (after,released))
      (settles : (acceptReceive after header payload).1.settleInstants clock.closing = .ok (settled,notify)) :
      Closes c clock received header payload outstanding terminate
        {settled with toEventTiming :=
          settled.synchronize (received.timestampUs - (1 + 4 + 2 + payload.length + 3) * 8)}
        (released ++ (acceptReceive after header payload).2.1 ++ notifyHost settled notify)
        (if terminate then some 0x16 else (acceptReceive after header payload).2.2)

/- The bookkeeping a received packet starts with. -/
def heard (c : ActiveConnection) (clock : EventClock) (received : ExchangeResult) : ActiveConnection :=
  {c with
    lastRssi := received.rssiDbm
    supervisionDeadline := clock.received + c.request.supervisionTimeout.toNat * 10000}

theorem closeCloses (c clock received header payload outstanding terminate) :
    Closes (heard c clock received) clock received header payload outstanding terminate
      (closeEvent c clock received header payload outstanding terminate).1
      (closeEvent c clock received header payload outstanding terminate).2.1
      (closeEvent c clock received header payload outstanding terminate).2.2 := by
  unfold closeEvent
  dsimp only
  cases acknowledged : acknowledgeTransmit (heard c clock received) header outstanding clock.acknowledged with
  | none =>
    unfold heard at acknowledged
    rw [acknowledged]
    exact .unacknowledged acknowledged
  | some pair =>
    obtain ⟨after,released⟩ := pair
    cases settles : (acceptReceive after header payload).1.settleInstants clock.closing with
    | error reason =>
      have path : Closes _ _ received _ _ _ terminate _ _ _ := .unsettled acknowledged settles
      unfold heard at acknowledged
      simp only [acknowledged,settles]
      exact path
    | ok pair =>
      obtain ⟨settled,notify⟩ := pair
      have path : Closes _ _ received _ _ _ terminate _ _ _ := .closed acknowledged settles
      unfold heard at acknowledged
      simp only [acknowledged,settles]
      exact path

/- The connection once the event has hopped and taken its receive window. -/
def opened (c : ActiveConnection) : ActiveConnection :=
  {c with toEventTiming := c.nextChannel.1.takeReceiveTimeout.1}

def requested (c staged : ActiveConnection) : ExchangeRequest :=
  ⟨c.nextChannel.2,{c with toEventTiming := c.nextChannel.1}.receiveClose,
    c.nextChannel.1.takeReceiveTimeout.2,staged.txFrame⟩

inductive Runs (c : ActiveConnection) (clock : EventClock) : Option ExchangeResult → EventOutcome → Prop where
  | unsettled {radio reason} (refused : c.settleInstants clock.entry = .error reason) :
      Runs c clock radio ⟨c,[],none,some reason⟩
  | unstaged {radio settled notify} (settles : c.settleInstants clock.entry = .ok (settled,notify))
      (refused : stageTransmit (opened settled) = none) :
      Runs c clock radio ⟨opened settled,notifyHost settled notify,none,some 0x1f⟩
  | silent {settled notify staged} (settles : c.settleInstants clock.entry = .ok (settled,notify))
      (stages : stageTransmit (opened settled) = some staged) :
      Runs c clock none ⟨staged,notifyHost settled notify,some (requested settled staged),none⟩
  | uncompleted {settled notify staged received}
      (settles : c.settleInstants clock.entry = .ok (settled,notify))
      (stages : stageTransmit (opened settled) = some staged)
      (refused : noteTransmission staged received.transmitted = none) :
      Runs c clock (some received)
        ⟨staged,notifyHost settled notify,some (requested settled staged),some 0x1f⟩
  | unreadable {settled notify staged received noted}
      (settles : c.settleInstants clock.entry = .ok (settled,notify))
      (stages : stageTransmit (opened settled) = some staged)
      (notes : noteTransmission staged received.transmitted = some noted)
      (rejected : receivedPdu received = none) :
      Runs c clock (some received)
        ⟨noted,notifyHost settled notify,some (requested settled staged),none⟩
  | heard {settled notify staged received noted header payload after told reason}
      (settles : c.settleInstants clock.entry = .ok (settled,notify))
      (stages : stageTransmit (opened settled) = some staged)
      (notes : noteTransmission staged received.transmitted = some noted)
      (read : receivedPdu received = some (header,payload))
      (closes : Closes (heard noted clock received) clock received header payload
        (!staged.txFrameFresh) (sentTerminate noted received.transmitted) after told reason) :
      Runs c clock (some received)
        ⟨after,notifyHost settled notify ++ told,some (requested settled staged),reason⟩

theorem eventRuns (c clock radio) : Runs c clock radio (connectionEvent c clock radio) := by
  unfold connectionEvent
  cases settles : c.settleInstants clock.entry with
  | error reason => exact .unsettled settles
  | ok pair =>
    obtain ⟨settled,notify⟩ := pair
    cases stages : stageTransmit (opened settled) with
    | none =>
      have path : Runs c clock radio _ := .unstaged settles stages
      unfold opened at stages
      simp only [stages]
      exact path
    | some staged =>
      cases radio with
      | none =>
        have path := Runs.silent settles stages
        unfold opened at stages
        simp only [stages]
        exact path
      | some received =>
        cases notes : noteTransmission staged received.transmitted with
        | none =>
          have path := Runs.uncompleted settles stages notes
          unfold opened at stages
          simp only [stages,notes]
          exact path
        | some noted =>
          cases read : receivedPdu received with
          | none =>
            have path := Runs.unreadable settles stages notes read
            unfold opened at stages
            simp only [stages,notes,read]
            exact path
          | some pair =>
            obtain ⟨header,payload⟩ := pair
            have path := Runs.heard settles stages notes read (closeCloses noted clock received header
              payload (!staged.txFrameFresh) (sentTerminate noted received.transmitted))
            unfold opened at stages
            simp only [stages,notes,read]
            exact path

theorem skipRefused {c : ActiveConnection} {now clock reason}
    (skips : c.skipExpiredEvents now clock = .error reason) :
    skipStep c now clock = finish c [] none 0x08 := by
  rw [skipStep,skips,afterSkip]

theorem skipDone {c after : ActiveConnection} {now clock count notify}
    (skips : c.skipExpiredEvents now clock = .ok (after,count,notify)) :
    skipStep c now clock = stay after (notifyHost after notify) none count := by
  rw [skipStep,skips,afterSkip]

/- The turns of `skip_expired_events`, until the next event is not over yet. -/
inductive Turns (now : Nat) (clock : Nat → Nat) (after : ActiveConnection) (total : UInt16) (told : Bool) :
    Nat → UInt16 → Bool → ActiveConnection → Prop where
  | reached {turns} : Turns now clock after total told turns total told after
  | turn {turns count notify c next more} (expired : c.receiveClose < now)
      (skips : c.skipEvent (clock count.toNat) = .ok (next,more))
      (rest : Turns now clock after total told turns (count+1) (notify || more) next) :
      Turns now clock after total told (turns+1) count notify c

theorem skipTurns {now clock turns count notify c after total told}
    (ok : ActiveConnection.skipLoop now clock turns count notify c = .ok (after,total,told)) :
    Turns now clock after total told turns count notify c := by
  induction turns generalizing count notify c with
  | zero =>
    unfold ActiveConnection.skipLoop at ok
    split at ok
    · cases skips : c.skipEvent (clock count.toNat) with
      | error reason => simp [skips] at ok
      | ok pair => simp [skips] at ok
    · cases ok
      exact .reached
  | succ turns ih =>
    unfold ActiveConnection.skipLoop at ok
    split at ok
    · rename_i expired
      cases skips : c.skipEvent (clock count.toNat) with
      | error reason => simp [skips] at ok
      | ok pair =>
        obtain ⟨next,more⟩ := pair
        simp only [skips] at ok
        exact .turn expired skips (ih ok)
    · cases ok
      exact .reached

/- Loop rule of `skip_expired_events`: what every turn keeps, the whole loop keeps. -/
theorem skipKeeps {P : ActiveConnection → Prop} {now clock}
    (turn : ∀ c t c' notify, P c → c.receiveClose < now → c.skipEvent t = .ok (c',notify) → P c')
    {turns count notify c after total told} (first : P c)
    (ok : ActiveConnection.skipLoop now clock turns count notify c = .ok (after,total,told)) : P after := by
  have path := skipTurns ok
  clear ok
  induction path with
  | reached => exact first
  | turn expired skips rest ih => exact ih (turn _ _ _ _ first expired skips)

/- Instants write the timing parameters, the pending indications, the Host's request and
the procedures; nothing else of a connection can change. -/
theorem settleShape {c : ActiveConnection} {now after notify}
    (ok : c.settleInstants now = .ok (after,notify)) :
    ∃ channels request window deadline map update asked,
      after = {c with
        channels := channels
        request := request
        receiveWindowSizeUs := window
        supervisionDeadline := deadline
        pendingChannelMap := map
        pendingConnectionUpdate := update
        localConnectionParamRequest := asked
        procedures := c.procedures.onConnectionEvent c.eventCounter 0x28} := by
  unfold ActiveConnection.settleInstants ActiveConnection.applyInstants at ok
  cases mapped : c.applyChannelMap with
  | error reason => simp [mapped] at ok
  | ok middle =>
    have first : ∃ channels request map, middle =
        {c with channels := channels,request := request,pendingChannelMap := map} := by
      unfold ActiveConnection.applyChannelMap at mapped
      split at mapped
      · cases mapped
        exact ⟨_,_,_,rfl⟩
      · split at mapped
        · split at mapped
          · cases mapped
          · cases mapped
            exact ⟨_,_,_,rfl⟩
        · cases mapped
          exact ⟨_,_,_,rfl⟩
    have second : ∃ request window deadline update, (middle.applyConnectionUpdate now).1 =
        {middle with
          request := request
          receiveWindowSizeUs := window
          supervisionDeadline := deadline
          pendingConnectionUpdate := update} := by
      unfold ActiveConnection.applyConnectionUpdate
      split
      · exact ⟨_,_,_,_,rfl⟩
      · split <;> exact ⟨_,_,_,_,rfl⟩
    obtain ⟨channels,_,map,shape⟩ := first
    obtain ⟨request,window,deadline,update,applied⟩ := second
    rw [mapped] at ok
    obtain ⟨same,_⟩ := Prod.mk.inj (Except.ok.inj ok)
    rw [← same,applied,shape]
    split <;> exact ⟨channels,request,window,deadline,map,update,_,rfl⟩

theorem skipShape {c : ActiveConnection} {now after notify} (ok : c.skipEvent now = .ok (after,notify)) :
    ∃ settled, c.settleInstants now = .ok (settled,notify) ∧
      after = {settled with toEventTiming := settled.nextChannel.1}.scheduleFollowingEvent := by
  unfold ActiveConnection.skipEvent at ok
  cases settles : c.settleInstants now with
  | error reason => simp [settles] at ok
  | ok pair =>
    obtain ⟨settled,told⟩ := pair
    rw [settles] at ok
    cases ok
    exact ⟨settled,rfl,rfl⟩

theorem deadlinesClear {s : ProcedureManager} {now error} (clear : (s.checkTimeouts now error).2 = false) :
    (s.checkTimeouts now error).1 = s := by
  obtain ⟨own,other⟩ := Bool.or_eq_false_iff.mp clear
  have kept : ∀ side : Option ProcedureContext, side.any (fun c => decide (c.Due now)) = false →
      side.map (ProcedureContext.checkTimeout now error) = side := by
    intro side undue
    cases side with
    | none => rfl
    | some c =>
      have waits : ¬c.Due now := by simpa using undue
      simp [ProcedureContext.checkTimeout,waits]
  unfold ProcedureManager.checkTimeouts
  rw [kept _ own,kept _ other]

theorem stepRunning {link : Link} {input : Input} (lives : (step link input).1.down = false) :
    link.down = false := by
  cases stopped : link.down with
  | false => rfl
  | true =>
    rw [stepOver stopped,stopped] at lives
    cases lives

/- What a packet of the Host does: nothing, an append to the ACL queue, or a command. -/
inductive Serves (c : ActiveConnection) (packet : Packet) : ActiveConnection × List HostCall × Bool → Prop where
  | ignored (kind : packet.kind ≠ .cmd)
      (unqueued : packet.kind = .aclData → ∃ status, c.queueAcl c.handle packet.bytes = .error status) :
      Serves c packet (c,[],false)
  | queued {path} (kind : packet.kind = .aclData) (queues : c.queueAcl c.handle packet.bytes = .ok path) :
      Serves c packet ({c with toDataPath := path},[],false)
  | command (kind : packet.kind = .cmd) : Serves c packet (handleConnectedCommand c packet.bytes)

theorem hostServes (c : ActiveConnection) (packet) : Serves c packet (processConnectedHostPacket c packet) := by
  unfold processConnectedHostPacket
  cases kind : packet.kind with
  | aclData =>
    cases queues : c.queueAcl c.handle packet.bytes with
    | error status => exact .ignored (by simp [kind]) fun _ => ⟨status,queues⟩
    | ok path => exact .queued kind queues
  | cmd => exact .command kind
  | syncData => exact .ignored (by simp [kind]) (by simp [kind])
  | event => exact .ignored (by simp [kind]) (by simp [kind])
  | isoData => exact .ignored (by simp [kind]) (by simp [kind])

/- What a step does to a connection that stays up. -/
inductive Continues (c : ActiveConnection) : Input → ActiveConnection → Report → Prop where
  | host {packet} (goes : (processConnectedHostPacket c packet).2.2 = false) :
      Continues c (.host packet) (processConnectedHostPacket c packet).1
        ⟨(processConnectedHostPacket c packet).2.1,none,none,0⟩
  | deadlines (now) : Continues c (.deadlines now) c ⟨[],none,none,0⟩
  | skip {now clock after count notify} (skips : c.skipExpiredEvents now clock = .ok (after,count,notify)) :
      Continues c (.skip now clock) after ⟨notifyHost after notify,none,none,count⟩
  | event {clock radio} (goes : (connectionEvent c clock radio).reason = none) :
      Continues c (.event clock radio) (connectionEvent c clock radio).connection.scheduleFollowingEvent
        ⟨(connectionEvent c clock radio).calls,(connectionEvent c clock radio).exchange,none,0⟩

theorem stepContinues {link : Link} {input : Input} (lives : (step link input).1.down = false) :
    link.down = false ∧
      Continues link.connection input (step link input).1.connection (step link input).2 := by
  have running := stepRunning lives
  refine ⟨running,?_⟩
  cases input with
  | host packet =>
    rw [stepHost running] at lives ⊢
    unfold hostStep at lives ⊢
    dsimp only at lives ⊢
    split at lives
    · cases lives
    · rename_i goes
      rw [if_neg goes]
      exact .host (by simpa using goes)
  | deadlines now =>
    rw [stepDeadlines running] at lives ⊢
    unfold deadlinesStep at lives ⊢
    dsimp only at lives ⊢
    split_ifs at lives ⊢ with failed late
    · cases lives
    · cases lives
    · rw [deadlinesClear (by simpa using failed)]
      exact .deadlines now
  | skip now clock =>
    rw [stepSkip running] at lives ⊢
    cases skips : link.connection.skipExpiredEvents now clock with
    | error reason =>
      rw [skipRefused skips] at lives
      cases lives
    | ok result =>
      obtain ⟨after,count,notify⟩ := result
      rw [skipDone skips]
      exact .skip skips
  | event clock radio =>
    rw [stepEvent running] at lives ⊢
    unfold eventStep at lives ⊢
    dsimp only at lives ⊢
    cases goes : (connectionEvent link.connection clock radio).reason with
    | some reason =>
      rw [goes] at lives
      cases lives
    | none => exact .event goes

-- A 30 ms connection on all 37 data channels, for the concrete runs.
def sampleRequest : ConnectInd :=
  ⟨Vector.replicate 6 0xc0,true,0x8e89bed5,0x555555,1,0,24,0,72,allDataChannels,5,0⟩

def sampleConnection : ActiveConnection :=
  (ActiveConnection.new sampleRequest 1000 1000).get (by decide)

theorem sampleCreated : ActiveConnection.new sampleRequest 1000 1000 = some sampleConnection :=
  (Option.some_get _).symm

end Ch58xHal.ConnectionRun
