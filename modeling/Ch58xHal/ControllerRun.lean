import Ch58xHal.DataPlane
import Ch58xHal.HostCommands

/-! The whole controller: idle, advertising or connected, driven by Host packets, by what
the radio hears while advertising and by the events of the connection. -/
namespace Ch58xHal.ControllerRun
open ControlPdu Connection ConnectionEvent ConnectionRun Advertising ConnectIndCodec DataPlane HostCommands Machines

structure AdvertisingResult where
  payload : List UInt8
  crcOk : Bool
  timestampUs : Nat
  deriving DecidableEq, Repr

def requestHeard (a : Advertiser) (received : AdvertisingResult) : Option ConnectInd :=
  if isScanRequest received.payload a.address then none
  else if received.payload.head?.any (fun header => header &&& 0x0f == 0x05) ∧ received.crcOk then
    (parseConnectIndDetailed received.payload a.address).toOption
  else none

/- The three advertising channels in order, up to the first accepted request. -/
def advertise (a : Advertiser) (heard : Fin 3 → Option AdvertisingResult) : Option (ConnectInd × Nat) :=
  [(0 : Fin 3),1,2].findSome? fun slot =>
    if a.channels.get slot = false ∨ a.enabled = false then none
    else match heard slot with
      | none => none
      | some received => (requestHeard a received).map fun request => (request,received.timestampUs)

structure System (ρ : Type) where
  runner : Runner ρ
  link : Option Link

inductive Stimulus where
  | idle (packet : Packet)
  | advertising (heard : Fin 3 → Option AdvertisingResult) (now : Nat)
  | linked (input : Input)

section Controller
variable {ρ : Type} (fillBytes : ρ → ρ × Vector UInt8 8)

def emitConnectionComplete (c : ActiveConnection) : HostCall :=
  .event 0x3e ([0x01,hciSuccess] ++ toLeBytes c.handle ++
    [0x01,if c.request.initiatorAddressRandom then 1 else 0] ++ c.request.initiatorAddress.toList ++
    toLeBytes c.request.interval ++ toLeBytes c.request.latency ++
    toLeBytes c.request.supervisionTimeout ++ [c.request.sleepClockAccuracy])

def established (r : Runner ρ) (c : ActiveConnection) : Runner ρ :=
  {r with
    advertiser := {r.advertiser with enabled := false}
    accessAddress := c.request.accessAddress
    crcInit := c.request.crcInit
    linkConnected := true}

def released (r : Runner ρ) : Runner ρ :=
  {r with
    accessAddress := advAccessAddress
    crcInit := advCrcInit
    linkConnected := false}

/- A panic of `perform` would leave the runner where it was; `performTotal` excludes it. -/
def performed (r : Runner ρ) (calls : List HostCall) : Runner ρ × List HostCall :=
  (perform fillBytes r calls).getD (r,[])

def idleStep (s : System ρ) (packet : Packet) : System ρ × List HostCall :=
  match packet.kind with
  | .cmd =>
    let sent := performed fillBytes s.runner [.handleCommand packet.bytes]
    ({s with runner := sent.1},sent.2)
  | _ => (s,[])

def advertisingStep (s : System ρ) (heard : Fin 3 → Option AdvertisingResult) (now : Nat) :
    System ρ × List HostCall :=
  match advertise s.runner.advertiser heard with
  | none => (s,[])
  | some (request,timestampUs) =>
    match ActiveConnection.new request timestampUs now with
    | none => (s,[])
    | some c => (⟨established s.runner c,some ⟨c,false⟩⟩,[emitConnectionComplete c])

def linkedStep (s : System ρ) (link : Link) (input : Input) : System ρ × List HostCall :=
  let done := ConnectionRun.step link input
  let sent := performed fillBytes s.runner done.2.calls
  if done.1.down then (⟨released sent.1,none⟩,sent.2) else (⟨sent.1,some done.1⟩,sent.2)

/- A stimulus that does not fit the mode is not taken. -/
def act (s : System ρ) : Stimulus → System ρ × List HostCall
  | .idle packet => if s.link.isNone then idleStep fillBytes s packet else (s,[])
  | .advertising heard now =>
    if s.link.isNone ∧ s.runner.advertiser.enabled then advertisingStep s heard now else (s,[])
  | .linked input =>
    match s.link with
    | none => (s,[])
    | some link => linkedStep fillBytes s link input

def controller : Machine (System ρ) Stimulus (List HostCall) := ⟨act fillBytes⟩

def start (random : ρ) : System ρ := ⟨.new random,none⟩

end Controller

/-! Which calls of a connection reach the command handlers. -/

/- An event or ACL traffic: neither a command nor the answer to one. -/
def plain : HostCall → Bool
  | .completedAcl _ _ => true
  | .sendAcl _ _ => true
  | .event _ _ => true
  | .commandStatus _ _ => false
  | .commandComplete _ _ _ => false
  | .handleCommand _ => false

theorem plainResults {c : ActiveConnection} {calls} (results : OnlyResults c calls) : calls.all plain := by
  rw [List.all_eq_true]
  intro call member
  obtain ⟨status,rfl⟩ := results call member
  rfl

theorem plainNotify (c : ActiveConnection) (notify) : (notifyHost c notify).all plain := by
  unfold notifyHost
  split <;> rfl

theorem plainReleased {c after : ActiveConnection} {header outstanding now calls}
    (ok : acknowledgeTransmit c header outstanding now = some (after,calls)) : calls.all plain := by
  rw [(acknowledgePath ok).2.2]
  unfold completion
  split <;> rfl

theorem plainAccepted (c : ActiveConnection) (header payload) :
    (acceptReceive c header payload).2.1.all plain := by
  unfold acceptReceive
  split
  · dsimp only
    split
    · exact plainResults (controlCalls _ payload)
    · split <;> rfl
  · rfl

theorem plainClosed {c after : ActiveConnection} {clock received header payload outstanding terminate
    told reason} (closes : Closes c clock received header payload outstanding terminate after told reason) :
    told.all plain := by
  cases closes with
  | unacknowledged refused => rfl
  | unsettled acknowledged refused =>
    rw [List.all_append,plainReleased acknowledged,plainAccepted]
    rfl
  | closed acknowledged settles =>
    rw [List.all_append,List.all_append,plainReleased acknowledged,plainAccepted,plainNotify]
    rfl

theorem plainEvent (c : ActiveConnection) (clock radio) : (connectionEvent c clock radio).calls.all plain := by
  have runs := eventRuns c clock radio
  generalize connectionEvent c clock radio = outcome at runs
  cases runs with
  | unsettled refused => rfl
  | unstaged settles refused => exact plainNotify _ _
  | silent settles stages => exact plainNotify _ _
  | uncompleted settles stages refused => exact plainNotify _ _
  | unreadable settles stages notes rejected => exact plainNotify _ _
  | heard settles stages notes read closes =>
    dsimp only
    rw [List.all_append,plainNotify,plainClosed closes]
    rfl

theorem plainFinish (c : ActiveConnection) {calls} (quiet : calls.all plain = true) (exchange reason) :
    (finish c calls exchange reason).2.calls.all plain := by
  unfold finish
  dsimp only
  rw [List.all_append,quiet]
  rfl

theorem plainEventStep (c : ActiveConnection) (clock radio) :
    (eventStep c clock radio).2.calls.all plain := by
  have quiet := plainEvent c clock radio
  unfold eventStep
  dsimp only
  split
  · exact plainFinish _ quiet _ _
  · exact quiet

theorem plainDeadlines (c : ActiveConnection) (now) : (deadlinesStep c now).2.calls.all plain := by
  unfold deadlinesStep
  dsimp only
  split
  · exact plainFinish _ rfl _ _
  · split
    · exact plainFinish _ rfl _ _
    · rfl

theorem plainSkip (c : ActiveConnection) (now clock) : (skipStep c now clock).2.calls.all plain := by
  cases skips : c.skipExpiredEvents now clock with
  | error reason =>
    rw [skipRefused skips]
    exact plainFinish _ rfl _ _
  | ok result =>
    obtain ⟨after,count,notify⟩ := result
    rw [skipDone skips]
    exact plainNotify _ _

section Touches
variable {ρ : Type} (fillBytes : ρ → ρ × Vector UInt8 8)

theorem performPlain (r : Runner ρ) {calls : List HostCall} (quiet : calls.all plain = true) :
    perform fillBytes r calls = some (r,calls) := by
  induction calls with
  | nil => rfl
  | cons call rest ih =>
    rw [List.all_cons,Bool.and_eq_true] at quiet
    have tail := ih quiet.2
    cases call <;> first | exact absurd quiet.1 Bool.false_ne_true | simp [perform,tail]

theorem commandTotal (r : Runner ρ) (bytes : List UInt8) :
    ∃ result, handleCommand fillBytes r bytes = some result := by
  by_cases formed : WellFormed bytes
  · obtain ⟨after,call,handled,_⟩ := commandHandled fillBytes r formed
    exact ⟨_,handled⟩
  · exact ⟨_,commandIgnored fillBytes r formed⟩

theorem performTotal (r : Runner ρ) (calls : List HostCall) :
    ∃ result, perform fillBytes r calls = some result := by
  induction calls generalizing r with
  | nil => exact ⟨_,rfl⟩
  | cons call rest ih =>
    cases call with
    | handleCommand bytes =>
      obtain ⟨handled,first⟩ := commandTotal fillBytes r bytes
      obtain ⟨later,second⟩ := ih handled.1
      simp [perform,first,second]
    | _ =>
      obtain ⟨later,second⟩ := ih r
      simp [perform,second]

/- What one step does to the runner: nothing, or the effect of one command. -/
inductive Touch (r : Runner ρ) : Runner ρ → List HostCall → Prop where
  | kept (calls) : Touch r r calls
  | command {opcode after call rest} (effect : Effect r opcode after call)
      (quiet : rest.all plain = true) : Touch r after (call :: rest)

theorem plainTouch (r : Runner ρ) {calls : List HostCall} (quiet : calls.all plain = true) :
    Touch r (performed fillBytes r calls).1 (performed fillBytes r calls).2 := by
  rw [performed,performPlain fillBytes r quiet]
  exact .kept calls

/- A delegated command, with what the step still says after it. -/
theorem commandTouch (r : Runner ρ) (bytes : List UInt8) {rest : List HostCall}
    (quiet : rest.all plain = true) :
    Touch r (performed fillBytes r (.handleCommand bytes :: rest)).1
      (performed fillBytes r (.handleCommand bytes :: rest)).2 := by
  by_cases formed : WellFormed bytes
  · obtain ⟨after,call,handled,effect⟩ := commandHandled fillBytes r formed
    have done : performed fillBytes r (.handleCommand bytes :: rest) = (after,call :: rest) := by
      simp [performed,perform,handled,performPlain fillBytes after quiet]
    rw [done]
    exact .command effect quiet
  · have done : performed fillBytes r (.handleCommand bytes :: rest) = (r,rest) := by
      simp [performed,perform,commandIgnored fillBytes r formed,performPlain fillBytes r quiet]
    rw [done]
    exact .kept rest

/- A command the connection answers itself. -/
theorem answerTouch (r : Runner ρ) {opcode call status} (answer : Answer opcode call status) :
    Touch r (performed fillBytes r [call]).1 (performed fillBytes r [call]).2 := by
  rw [performed,performAnswer fillBytes r answer]
  exact .kept [call]

theorem malformedConnected (c : ActiveConnection) {bytes : List UInt8} (malformed : ¬WellFormed bytes) :
    handleConnectedCommand c bytes = (c,[],false) := by
  have shape : bytes.length < 3 ∨ bytes.length ≠ 3 + (octet bytes 2).toNat := by
    by_contra shape
    obtain ⟨long,length⟩ := not_or.mp shape
    exact malformed ⟨Nat.le_of_not_lt long,not_not.mp length⟩
  unfold handleConnectedCommand
  rw [if_pos shape]

theorem hostTouch (r : Runner ρ) (c : ActiveConnection) (packet : Packet) :
    Touch r (performed fillBytes r (hostStep c packet).2.calls).1
      (performed fillBytes r (hostStep c packet).2.calls).2 := by
  unfold hostStep
  have served := hostServes c packet
  generalize processConnectedHostPacket c packet = done at served ⊢
  cases served with
  | ignored => exact plainTouch fillBytes r rfl
  | queued => exact plainTouch fillBytes r rfl
  | command =>
    dsimp only
    by_cases formed : WellFormed packet.bytes
    · rcases connectedAnswer c formed with ⟨stop,delegated⟩ | ⟨call,status,direct,answer⟩
      · rw [delegated]
        cases stop with
        | true => exact commandTouch fillBytes r packet.bytes rfl
        | false => exact commandTouch fillBytes r packet.bytes rfl
      · rw [direct]
        exact answerTouch fillBytes r answer
    · rw [malformedConnected c formed]
      exact plainTouch fillBytes r rfl

theorem linkTouch (r : Runner ρ) (link : Link) (input : Input) :
    Touch r (performed fillBytes r (ConnectionRun.step link input).2.calls).1
      (performed fillBytes r (ConnectionRun.step link input).2.calls).2 := by
  cases running : link.down with
  | true =>
    rw [stepOver running]
    exact plainTouch fillBytes r rfl
  | false =>
    cases input with
    | host packet =>
      rw [stepHost running]
      exact hostTouch fillBytes r link.connection packet
    | deadlines now =>
      rw [stepDeadlines running]
      exact plainTouch fillBytes r (plainDeadlines _ now)
    | skip now clock =>
      rw [stepSkip running]
      exact plainTouch fillBytes r (plainSkip _ now clock)
    | event clock radio =>
      rw [stepEvent running]
      exact plainTouch fillBytes r (plainEventStep _ clock radio)

end Touches

/-! The configuration of the advertiser. -/

def AddressValid (address : DeviceAddress) : Prop := DeviceAddress.randomStatic address.bytes = .ok address

section Configuration
variable {ρ : Type} {r after : Runner ρ}

/- What a command leaves valid in the runner alone. -/
def RunnerValid (r : Runner ρ) : Prop :=
  AddressValid r.advertiser.address ∧ ParametersValid r.advertiser.intervalUs r.advertiser.channels ∧
    (r.linkConnected = true → r.advertiser.enabled = false)

theorem changeValid (change : Change r after) (valid : RunnerValid r) :
    RunnerValid after ∧ after.linkConnected = r.linkConnected := by
  obtain ⟨address,parameters,exclusive⟩ := valid
  cases change with
  | reset => exact ⟨⟨address,parameters,fun _ => rfl⟩,rfl⟩
  | eventMask mask => exact ⟨⟨address,parameters,exclusive⟩,rfl⟩
  | leEventMask mask => exact ⟨⟨address,parameters,exclusive⟩,rfl⟩
  | address idle valid => exact ⟨⟨valid,parameters,exclusive⟩,rfl⟩
  | parameters idle valid => exact ⟨⟨address,valid,exclusive⟩,rfl⟩
  | data data => exact ⟨⟨address,parameters,exclusive⟩,rfl⟩
  | scanResponse data => exact ⟨⟨address,parameters,exclusive⟩,rfl⟩
  | enable flag free =>
    refine ⟨⟨address,parameters,fun connected => ?_⟩,rfl⟩
    cases flag with
    | false => rfl
    | true => exact absurd connected (by simp [free rfl])
  | random next => exact ⟨⟨address,parameters,exclusive⟩,rfl⟩

theorem effectValid {opcode call} (effect : Effect r opcode after call) (valid : RunnerValid r) :
    RunnerValid after ∧ after.linkConnected = r.linkConnected := by
  cases effect with
  | wrote change short => exact changeValid change valid
  | answered short => exact ⟨valid,rfl⟩
  | refused failed => exact ⟨valid,rfl⟩
  | deferred failed => exact ⟨valid,rfl⟩

theorem touchValid {calls} (touch : Touch r after calls) (valid : RunnerValid r) :
    RunnerValid after ∧ after.linkConnected = r.linkConnected := by
  cases touch with
  | kept calls => exact ⟨valid,rfl⟩
  | command effect quiet => exact effectValid effect valid

/- Address, interval and channels. -/
def SameConfiguration (a b : Advertiser) : Prop :=
  b.address = a.address ∧ b.intervalUs = a.intervalUs ∧ b.channels = a.channels

theorem touchLocked {calls} (touch : Touch r after calls) (enabled : r.advertiser.enabled = true) :
    SameConfiguration r.advertiser after.advertiser := by
  cases touch with
  | kept calls => exact ⟨rfl,rfl,rfl⟩
  | command effect quiet =>
    cases effect with
    | wrote change short =>
      cases change with
      | address idle valid => exact absurd enabled (by simp [idle])
      | parameters idle valid => exact absurd enabled (by simp [idle])
      | _ => exact ⟨rfl,rfl,rfl⟩
    | _ => exact ⟨rfl,rfl,rfl⟩

/- A failure status in what was sent. -/
def Refused (calls : List HostCall) : Prop :=
  ∃ call ∈ calls, ∃ opcode status, Answer opcode call status ∧ status ≠ hciSuccess

theorem touchRefused {calls} (touch : Touch r after calls) (refused : Refused calls) : after = r := by
  cases touch with
  | kept calls => rfl
  | @command opcode _ call rest effect quiet =>
    obtain ⟨found,member,opcode',status,answer,failed⟩ := refused
    rcases List.mem_cons.mp member with same | later
    · subst same
      cases effect with
      | wrote change short =>
        cases answer
        exact absurd rfl failed
      | answered short => rfl
      | refused failed => rfl
      | deferred failed => rfl
    · have silent := List.all_eq_true.mp quiet found later
      cases answer with
      | complete short => cases silent
      | status => cases silent

/-! Every reachable state of the controller. -/

structure Configured (s : System ρ) : Prop where
  valid : RunnerValid s.runner
  connected : s.runner.linkConnected = s.link.isSome

variable (fillBytes : ρ → ρ × Vector UInt8 8)

/- One stimulus: the runner is touched by at most one command, then perhaps connected or
released. -/
inductive Acts (s : System ρ) : System ρ → List HostCall → Prop where
  | command {after calls} (touch : Touch s.runner after calls) : Acts s {s with runner := after} calls
  | connects (c : ActiveConnection) (free : s.link = none) (advertising : s.runner.advertiser.enabled = true) :
      Acts s ⟨established s.runner c,some ⟨c,false⟩⟩ [emitConnectionComplete c]
  | continues {after calls} (busy : s.link.isSome = true) (touch : Touch s.runner after calls) (link : Link) :
      Acts s ⟨after,some link⟩ calls
  | ends {after calls} (touch : Touch s.runner after calls) : Acts s ⟨released after,none⟩ calls

theorem acts (s : System ρ) (stimulus : Stimulus) :
    Acts s (act fillBytes s stimulus).1 (act fillBytes s stimulus).2 := by
  have still : Acts s s [] := .command (.kept [])
  cases stimulus with
  | idle packet =>
    unfold act
    dsimp only
    split
    · unfold idleStep
      split
      · exact .command (commandTouch fillBytes s.runner packet.bytes rfl)
      · exact still
    · exact still
  | advertising heard now =>
    unfold act
    dsimp only
    split
    · rename_i open'
      unfold advertisingStep
      split
      · exact still
      · split
        · exact still
        · exact .connects _ (Option.isNone_iff_eq_none.mp open'.1) open'.2
    · exact still
  | linked input =>
    unfold act
    dsimp only
    split
    · exact still
    · rename_i link present
      have touch := linkTouch fillBytes s.runner link input
      unfold linkedStep
      dsimp only
      split
      · exact .ends touch
      · exact .continues (by simp [present]) touch _

theorem actsConfigured {s after : System ρ} {calls} (acts : Acts s after calls) (known : Configured s) :
    Configured after := by
  obtain ⟨valid,connected⟩ := known
  cases acts with
  | command touch =>
    obtain ⟨next,same⟩ := touchValid touch valid
    exact ⟨next,same.trans connected⟩
  | connects c free advertising => exact ⟨⟨valid.1,valid.2.1,fun _ => rfl⟩,rfl⟩
  | continues busy touch link =>
    obtain ⟨next,same⟩ := touchValid touch valid
    exact ⟨next,(same.trans connected).trans busy⟩
  | ends touch =>
    obtain ⟨next,_⟩ := touchValid touch valid
    exact ⟨⟨next.1,next.2.1,fun wrong => absurd wrong Bool.false_ne_true⟩,rfl⟩

theorem startConfigured (random : ρ) : Configured (start random) := by
  refine ⟨⟨?_,⟨?_,?_,0,rfl⟩,fun wrong => absurd wrong Bool.false_ne_true⟩,rfl⟩
  · show AddressValid ⟨#v[0x82,0x58,0x2a,0x01,0x00,0xc0],.random⟩
    unfold AddressValid
    decide
  · show 20000 ≤ 200000
    decide
  · show 200000 ≤ 10240000
    decide

/- Over any state, what one stimulus may do to the advertiser and the masks. -/
theorem actsLocked {s after : System ρ} {calls} (acts : Acts s after calls)
    (enabled : s.runner.advertiser.enabled = true) :
    SameConfiguration s.runner.advertiser after.runner.advertiser := by
  cases acts with
  | command touch => exact touchLocked touch enabled
  | connects c free advertising => exact ⟨rfl,rfl,rfl⟩
  | continues busy touch link => exact touchLocked touch enabled
  | ends touch =>
    have same := touchLocked touch enabled
    exact same

theorem actsRefused {s after : System ρ} {calls} (acts : Acts s after calls) (refused : Refused calls) :
    after.runner.advertiser = s.runner.advertiser ∧ after.runner.eventMask = s.runner.eventMask ∧
      after.runner.leEventMask = s.runner.leEventMask := by
  cases acts with
  | command touch =>
    rw [touchRefused touch refused]
    exact ⟨rfl,rfl,rfl⟩
  | connects c free advertising =>
    obtain ⟨call,member,opcode,status,answer,_⟩ := refused
    rw [List.mem_singleton.mp member] at answer
    cases answer
  | continues busy touch link =>
    rw [touchRefused touch refused]
    exact ⟨rfl,rfl,rfl⟩
  | ends touch =>
    rw [touchRefused touch refused]
    exact ⟨rfl,rfl,rfl⟩

theorem configurationStaysValid {random : ρ} {past : List (Stimulus × List HostCall)} {s : System ρ}
    (history : History (controller fillBytes) (start random) past s) :
    AddressValid s.runner.advertiser.address ∧
    (20000 ≤ s.runner.advertiser.intervalUs ∧ s.runner.advertiser.intervalUs ≤ 10240000) ∧
    (∃ slot : Fin 3, s.runner.advertiser.channels.get slot = true) ∧
    (s.runner.advertiser.data.asBytes.length ≤ 31 ∧ s.runner.advertiser.scanResponse.asBytes.length ≤ 31) ∧
    (s.link.isSome = true → s.runner.advertiser.enabled = false) ∧
    ∀ stimulus, let done := act fillBytes s stimulus
      (s.runner.advertiser.enabled = true →
        SameConfiguration s.runner.advertiser done.1.runner.advertiser) ∧
      (Refused done.2 → done.1.runner.advertiser = s.runner.advertiser ∧
        done.1.runner.eventMask = s.runner.eventMask ∧ done.1.runner.leEventMask = s.runner.leEventMask) := by
  have configured : Configured s := stateInvariant (startConfigured random)
    (fun s stimulus known => actsConfigured (acts fillBytes s stimulus) known) history
  obtain ⟨⟨address,⟨low,high,channel⟩,exclusive⟩,connected⟩ := configured
  refine ⟨address,⟨low,high⟩,channel,⟨s.runner.advertiser.data.fits,s.runner.advertiser.scanResponse.fits⟩,
    fun busy => exclusive (connected.trans busy),?_⟩
  intro stimulus done
  exact ⟨actsLocked (acts fillBytes s stimulus),actsRefused (acts fillBytes s stimulus)⟩

end Configuration

-- LE Set Random Address, then LE Set Advertising Enable.
theorem enabledConfiguration :
    AddressValid (run (controller (fun draws : Nat => (draws+1,Vector.replicate 8 0))) (start 0)
      [.idle ⟨.cmd,[0x05,0x20,6,1,2,3,4,5,0xc6]⟩,.idle ⟨.cmd,[0x0a,0x20,1,1]⟩]).2.runner.advertiser.address :=
  (configurationStaysValid _ (runHistory _ (start 0) _)).1

end Ch58xHal.ControllerRun
