import Ch58xHal.ControllerRun
import Ch58xHal.Lockstep

/-! What the Host hears over a whole run of the controller: one connection after another, each
opened and closed once, all that is said about it in between, and the radio set for it as long
as it lasts. -/
namespace Ch58xHal.HostSession
open ControlPdu Connection ConnectionEvent ConnectionRun DataPlane Advertising ConnectIndCodec HostCommands ControllerRun
open Machines Lockstep

/- A Host that keeps the handle of the connection it has been told of. What it cannot make sense
of has no next state. -/
def hears (session : Option UInt16) (code : UInt8) (params : List UInt8) : Option (Option UInt16) :=
  if code = 0x3e ∧ params.head? = some 0x01 then
    if session = none ∧ octet params 1 = hciSuccess ∧ params.length = 19 then some (some (word params 2)) else none
  else if code = 0x3e ∧ params.head? = some 0x03 then
    if session = some (word params 2) ∧ params.length = 10 then some session else none
  else if code = 0x05 then
    if session = some (word params 1) ∧ params.length = 4 then some none else none
  else none

def listens (session : Option UInt16) : HostCall → Option (Option UInt16)
  | .event code params => hears session code params
  | .completedAcl handle count => if session = some handle ∧ count = 1 then some session else none
  | .sendAcl handleAndFlags payload =>
    if session = some (handleAndFlags &&& 0x0fff) ∧ (handleAndFlags >>> 12 = 1 ∨ handleAndFlags >>> 12 = 2) ∧
        payload ≠ [] ∧ payload.length ≤ maxDataPduPayload then some session else none
  | .commandStatus _ _ => some session
  | .commandComplete _ _ returnData => if returnData.length ≤ 8 then some session else none
  | .handleCommand _ => none

def follows (session : Option UInt16) (calls : List HostCall) : Option (Option UInt16) := calls.foldlM listens session

theorem followsAppend (session : Option UInt16) (first second : List HostCall) :
    follows session (first ++ second) = (follows session first).bind fun after => follows after second :=
  List.foldlM_append

/-! What is said while a connection lasts. -/

def Within (calls : List HostCall) : Prop := ∀ call ∈ calls, listens (some connectionHandle) call = some (some connectionHandle)

theorem withinFollows {calls : List HostCall} (within : Within calls) :
    follows (some connectionHandle) calls = some (some connectionHandle) := by
  induction calls with
  | nil => rfl
  | cons call rest ih =>
    have first := within call List.mem_cons_self
    unfold follows
    rw [List.foldlM_cons,first]
    exact ih fun other member => within other (List.mem_cons_of_mem _ member)

theorem withinNil : Within [] := fun _ absent => (nomatch absent)

theorem withinAppend {first second : List HostCall} (before : Within first) (after : Within second) :
    Within (first ++ second) := fun call member => (List.mem_append.mp member).elim (before call) (after call)

section Calls
variable {c : ActiveConnection}

theorem ownHandle {bytes : List UInt8} {i : Nat} (low : octet bytes i = 1) (high : octet bytes (i+1) = 0) :
    some connectionHandle = some (word bytes i) := by
  unfold word
  rw [low,high]
  decide

theorem resultListens (same : c.handle = connectionHandle) (status : UInt8) :
    listens (some connectionHandle) (emitConnectionUpdateResult c status) = some (some connectionHandle) := by
  have own : some connectionHandle = some (word ([0x03,status] ++ toLeBytes connectionHandle ++
      toLeBytes c.request.interval ++ toLeBytes c.request.latency ++ toLeBytes c.request.supervisionTimeout) 2) := ownHandle rfl rfl
  have other : (some 0x03 : Option UInt8) ≠ some 0x01 := by decide
  unfold emitConnectionUpdateResult
  rw [same]
  show hears _ _ _ = _
  unfold hears
  rw [if_neg fun both => other both.2,if_pos ⟨rfl,rfl⟩,if_pos ⟨own,rfl⟩]

theorem disconnectionListens (same : c.handle = connectionHandle) (reason : UInt8) :
    listens (some connectionHandle) (emitDisconnection c reason) = some none := by
  have own : some connectionHandle = some (word ([hciSuccess] ++ toLeBytes connectionHandle ++ [reason]) 1) := ownHandle rfl rfl
  have other : (0x05 : UInt8) ≠ 0x3e := by decide
  unfold emitDisconnection
  rw [same]
  show hears _ _ _ = _
  unfold hears
  rw [if_neg fun both => other both.1,if_neg fun both => other both.1,if_pos rfl,if_pos ⟨own,rfl⟩]

theorem withinResults {d : ActiveConnection} {calls : List HostCall} (same : d.handle = connectionHandle)
    (results : OnlyResults d calls) : Within calls := by
  intro call member
  obtain ⟨status,rfl⟩ := results call member
  exact resultListens same status

theorem withinNotify (same : c.handle = connectionHandle) (notify : Bool) : Within (notifyHost c notify) := by
  unfold notifyHost
  split
  · intro call member
    rw [List.mem_singleton.mp member]
    exact resultListens same hciSuccess
  · exact withinNil

theorem withinReleased {after : ActiveConnection} {header outstanding now calls} (same : c.handle = connectionHandle)
    (acknowledged : acknowledgeTransmit c header outstanding now = some (after,calls)) : Within calls := by
  rw [(acknowledgePath acknowledged).2.2,same]
  unfold completion
  split
  · intro call member
    rw [List.mem_singleton.mp member]
    rfl
  · exact withinNil

theorem withinAccepted (same : c.handle = connectionHandle) (header : UInt8) {payload : List UInt8}
    (short : payload.length ≤ maxDataPduPayload) : Within (acceptReceive c header payload).2.1 := by
  unfold acceptReceive
  split
  · dsimp only
    split
    · have flipped : ({c with expectedSn := c.expectedSn ^^^ 1} : ActiveConnection).handle = connectionHandle := same
      exact withinResults flipped (controlCalls _ payload)
    · split
      · rename_i data
        intro call member
        rw [List.mem_singleton.mp member,same]
        have flags : ∀ flags : UInt16, (flags = hciPbContinuing ∨ flags = hciPbFirstFlushable) →
            (connectionHandle ||| flags) &&& 0x0fff = connectionHandle ∧
              ((connectionHandle ||| flags) >>> 12 = 1 ∨ (connectionHandle ||| flags) >>> 12 = 2) := by
          rintro flags (rfl | rfl) <;> decide
        obtain ⟨own,boundary⟩ := flags (if header &&& 0x03 = llidContinuation then hciPbContinuing else hciPbFirstFlushable)
          (by split <;> simp)
        unfold listens
        exact if_pos ⟨congrArg some own.symm,boundary,data.1,short⟩
      · exact withinNil
  · exact withinNil

end Calls

/-! What nothing changes of a connection. -/

structure Identity where
  handle : UInt16
  accessAddress : UInt32
  crcInit : UInt32
  deriving DecidableEq, Repr

def identity (c : ActiveConnection) : Identity := ⟨c.handle,c.request.accessAddress,c.request.crcInit⟩

section Kept
variable {c after : ActiveConnection}

theorem alikeIdentity (timing : after.toEventTiming = c.toEventTiming) (same : after.handle = c.handle) :
    identity after = identity c := by
  unfold identity
  rw [timing,same]

theorem settledIdentity {now notify} (ok : c.settleInstants now = .ok (after,notify)) : identity after = identity c := by
  unfold ActiveConnection.settleInstants ActiveConnection.applyInstants at ok
  cases mapped : c.applyChannelMap with
  | error reason => simp [mapped] at ok
  | ok middle =>
    have first : identity middle = identity c := by
      unfold ActiveConnection.applyChannelMap at mapped
      split at mapped
      · cases mapped
        rfl
      · split at mapped
        · split at mapped
          · cases mapped
          · cases mapped
            rfl
        · cases mapped
          rfl
    have second : identity (middle.applyConnectionUpdate now).1 = identity middle := by
      unfold ActiveConnection.applyConnectionUpdate
      split
      · rfl
      · split <;> rfl
    rw [mapped] at ok
    obtain ⟨same,_⟩ := Prod.mk.inj (Except.ok.inj ok)
    rw [← same]
    split <;> exact second.trans first

theorem skippedIdentity {now notify} (ok : c.skipEvent now = .ok (after,notify)) : identity after = identity c := by
  obtain ⟨settled,settles,rfl⟩ := skipShape ok
  have kept := settledIdentity settles
  exact kept

theorem stagedIdentity (ok : stageTransmit c = some after) : identity after = identity c :=
  alikeIdentity (stagePath ok).2.1 (stagePath ok).2.2

theorem notedIdentity {transmitted} (ok : noteTransmission c transmitted = some after) : identity after = identity c :=
  alikeIdentity (notePace ok).2 (notePath ok).2

theorem acknowledgedIdentity {header outstanding now calls}
    (ok : acknowledgeTransmit c header outstanding now = some (after,calls)) : identity after = identity c := by
  unfold acknowledgeTransmit at ok
  split at ok
  · dsimp only at ok
    split at ok
    · cases ok
    · cases ok
      show identity (releaseOwner _).1 = _
      unfold releaseOwner
      split
      · split <;> rfl
      all_goals rfl
  · cases ok
    rfl

theorem acceptedIdentity (c : ActiveConnection) (header payload) :
    identity (acceptReceive c header payload).1 = identity c := by
  unfold acceptReceive
  split
  · dsimp only
    split
    · rfl
    · split <;> rfl
  · rfl

theorem hostIdentity (c : ActiveConnection) (packet) : identity (processConnectedHostPacket c packet).1 = identity c := by
  have timing := (hostPace c packet).2
  have served := hostServes c packet
  generalize processConnectedHostPacket c packet = done at served timing ⊢
  cases served with
  | ignored => rfl
  | queued _ queues =>
    obtain ⟨pending,queued,token,rfl⟩ := queuedShape queues
    rfl
  | command => exact alikeIdentity timing (commandPath c packet.bytes).2.1

end Kept

/-! One event. -/

section Event
variable {c : ActiveConnection}

theorem receivedShort {received : ExchangeResult} {header payload} (read : receivedPdu received = some (header,payload)) :
    payload.length ≤ maxDataPduPayload := by
  unfold receivedPdu at read
  split at read
  · cases read
  · split at read
    · split at read
      · cases read
      · rename_i length _ _ small
        split at read
        · cases read
        · cases read
          rw [List.length_take]
          have fits := Nat.le_of_not_lt (not_or.mp small).1
          omega
    · cases read

theorem closedWithin {clock received header payload outstanding terminate after told reason}
    (short : payload.length ≤ maxDataPduPayload) (same : c.handle = connectionHandle)
    (closes : Closes c clock received header payload outstanding terminate after told reason) :
    Within told ∧ identity after = identity c := by
  cases closes with
  | unacknowledged => exact ⟨withinNil,rfl⟩
  | unsettled acknowledged =>
    have kept := acknowledgedIdentity acknowledged
    have own := (congrArg Identity.handle kept).trans same
    exact ⟨withinAppend (withinReleased same acknowledged) (withinAccepted own header short),
      (acceptedIdentity _ header payload).trans kept⟩
  | @closed acked released settled notify acknowledged settles =>
    have kept := acknowledgedIdentity acknowledged
    have own := (congrArg Identity.handle kept).trans same
    have all : identity settled = identity c :=
      (settledIdentity settles).trans ((acceptedIdentity _ header payload).trans kept)
    refine ⟨withinAppend (withinAppend (withinReleased same acknowledged) (withinAccepted own header short)) ?_,all⟩
    exact withinNotify ((congrArg Identity.handle all).trans same) notify

theorem eventWithin (same : c.handle = connectionHandle) (clock radio) :
    Within (connectionEvent c clock radio).calls ∧ identity (connectionEvent c clock radio).connection = identity c := by
  have path := eventRuns c clock radio
  generalize connectionEvent c clock radio = outcome at path ⊢
  have told : ∀ {settled : ActiveConnection} {notify}, c.settleInstants clock.entry = .ok (settled,notify) →
      Within (notifyHost settled notify) ∧ identity (opened settled) = identity c := fun settles =>
    have kept := settledIdentity settles
    ⟨withinNotify ((congrArg Identity.handle kept).trans same) _,kept⟩
  cases path with
  | unsettled => exact ⟨withinNil,rfl⟩
  | unstaged settles => exact told settles
  | silent settles stages =>
    exact ⟨(told settles).1,(stagedIdentity stages).trans (told settles).2⟩
  | uncompleted settles stages =>
    exact ⟨(told settles).1,(stagedIdentity stages).trans (told settles).2⟩
  | unreadable settles stages notes =>
    exact ⟨(told settles).1,(notedIdentity notes).trans ((stagedIdentity stages).trans (told settles).2)⟩
  | @heard settled notify staged received noted header payload after told' reason settles stages notes read closes =>
    have kept : identity (heard noted clock received) = identity c :=
      (notedIdentity notes).trans ((stagedIdentity stages).trans (told settles).2)
    obtain ⟨within,closed⟩ := closedWithin (receivedShort read) ((congrArg Identity.handle kept).trans same) closes
    exact ⟨withinAppend (told settles).1 within,closed.trans kept⟩

end Event

/-! One step of a connection, with the commands it hands on. -/

section Link
variable {ρ : Type} (fillBytes : ρ → ρ × Vector UInt8 8)

/- Where the radio listens. -/
def tuned (r : Runner ρ) : UInt32 × UInt32 := (r.accessAddress,r.crcInit)

/- The command that tunes it for advertising again. -/
def Resets (bytes : List UInt8) : Prop := word bytes 0 = 0x0c03 ∧ bytes.drop 3 = []
instance (bytes) : Decidable (Resets bytes) := by unfold Resets; infer_instance

/- Nothing is left for the command handler. -/
def Direct (calls : List HostCall) : Prop := ∀ call ∈ calls, ∀ bytes, call ≠ .handleCommand bytes

theorem withinDirect {calls : List HostCall} (within : Within calls) : Direct calls := by
  rintro call member bytes rfl
  cases within _ member

theorem performDirect (r : Runner ρ) {calls : List HostCall} (direct : Direct calls) :
    perform fillBytes r calls = some (r,calls) := by
  induction calls with
  | nil => rfl
  | cons call rest ih =>
    have later := ih fun other member => direct other (List.mem_cons_of_mem _ member)
    cases call with
    | handleCommand bytes => exact absurd rfl (direct _ List.mem_cons_self bytes)
    | _ => simp [perform,later]

theorem performedDirect (r : Runner ρ) {calls : List HostCall} (direct : Direct calls) :
    performed fillBytes r calls = (r,calls) := by
  rw [performed,performDirect fillBytes r direct]
  rfl

theorem answerListens {opcode call status} (answer : Answer opcode call status) (session : Option UInt16) :
    listens session call = some session := by
  cases answer with
  | complete short => exact if_pos short
  | status => rfl

/- A command handed on is answered, if it is one, and what is said after it stays. -/
theorem commandPerformed (r : Runner ρ) (bytes : List UInt8) {rest : List HostCall} (direct : Direct rest) :
    (∃ after call, performed fillBytes r (.handleCommand bytes :: rest) = (after,call :: rest) ∧
      handleCommand fillBytes r bytes = some (after,[call]) ∧ Effect r (word bytes 0) after call) ∨
    performed fillBytes r (.handleCommand bytes :: rest) = (r,rest) := by
  have later := fun after : Runner ρ => performDirect fillBytes after direct
  by_cases formed : WellFormed bytes
  · obtain ⟨after,call,handled,effect⟩ := commandHandled fillBytes r formed
    exact .inl ⟨after,call,by simp [performed,perform,handled,later],handled,effect⟩
  · exact .inr (by simp [performed,perform,commandIgnored fillBytes r formed,later])

theorem commandFollows (r : Runner ρ) (bytes : List UInt8) {rest : List HostCall} (direct : Direct rest)
    (session : Option UInt16) :
    follows session (performed fillBytes r (.handleCommand bytes :: rest)).2 = follows session rest := by
  rcases commandPerformed fillBytes r bytes direct with ⟨after,call,done,_,effect⟩ | done
  · obtain ⟨status,answer⟩ := effectAnswer effect
    rw [done]
    show follows session ([call] ++ rest) = _
    rw [followsAppend]
    unfold follows
    rw [List.foldlM_cons,answerListens answer]
    rfl
  · rw [done]

/- Whatever comes of a command, the radio stays where it is. -/
def Tuning (r : Runner ρ) (done : Option (Runner ρ × HostCall)) : Prop :=
  ∀ result, done = some result → tuned result.1 = tuned r

section Tuning
variable {r : Runner ρ}

theorem someTuning {result : Runner ρ × HostCall} (same : tuned result.1 = tuned r) : Tuning r (some result) := by
  intro found equal
  cases equal
  exact same

theorem bindTuning {α : Type} {first : Option α} {rest : α → Option (Runner ρ × HostCall)}
    (each : ∀ a, Tuning r (rest a)) : Tuning r (first >>= rest) := by
  intro found equal
  obtain ⟨a,_,reached⟩ := Option.bind_eq_some_iff.mp equal
  exact each a found reached

theorem iteTuning {condition : Prop} [Decidable condition] {yes no : Option (Runner ρ × HostCall)}
    (taken : Tuning r yes) (left : Tuning r no) : Tuning r (if condition then yes else no) := by
  split
  · exact taken
  · exact left

/- Only a reset moves it. -/
theorem dispatchTuning {opcode params} (other : ¬(opcode = 0x0c03 ∧ params = [])) :
    Tuning r (dispatch fillBytes r opcode params) := by
  have stays : ∀ {advertiser : Advertiser} {call : HostCall}, Tuning r (some ({r with advertiser := advertiser},call)) :=
    someTuning rfl
  have same : ∀ {call : HostCall}, Tuning r (some (r,call)) := someTuning rfl
  unfold dispatch
  rw [if_neg other]
  refine iteTuning (bindTuning fun mask => someTuning ?_) ?_
  · split <;> rfl
  refine iteTuning same (iteTuning same (iteTuning same (iteTuning same (iteTuning stays ?_))))
  refine iteTuning (bindTuning fun _ => stays) (iteTuning (bindTuning fun _ => stays) ?_)
  refine iteTuning (bindTuning fun _ => stays) (iteTuning (bindTuning fun _ => stays) ?_)
  refine iteTuning same (iteTuning same (iteTuning (someTuning rfl) ?_))
  exact iteTuning same (iteTuning same (iteTuning same same))

end Tuning

theorem resetTuned (r : Runner ρ) {bytes : List UInt8} (formed : WellFormed bytes) (reset : Resets bytes) {result}
    (handled : handleCommand fillBytes r bytes = some result) : tuned result.1 = (advAccessAddress,advCrcInit) := by
  obtain ⟨opcode,empty⟩ := reset
  rw [commandDispatched fillBytes r formed,dispatch,if_pos ⟨opcode,empty⟩] at handled
  cases handled
  rfl

theorem handledTuned (r : Runner ρ) {bytes : List UInt8} (other : ¬Resets bytes)
    {result} (handled : handleCommand fillBytes r bytes = some result) : tuned result.1 = tuned r := by
  by_cases formed : WellFormed bytes
  · rw [commandDispatched fillBytes r formed] at handled
    obtain ⟨done,dispatches,same⟩ := Option.bind_eq_some_iff.mp handled
    cases same
    exact dispatchTuning fillBytes other done dispatches
  · rw [commandIgnored fillBytes r formed] at handled
    cases handled
    rfl

theorem commandTuned (r : Runner ρ) {bytes : List UInt8} (other : ¬Resets bytes)
    {rest : List HostCall} (direct : Direct rest) :
    tuned (performed fillBytes r (.handleCommand bytes :: rest)).1 = tuned r := by
  rcases commandPerformed fillBytes r bytes direct with ⟨after,call,done,handled,_⟩ | done
  · rw [done]
    exact (handledTuned fillBytes r other handled : tuned after = tuned r)
  · rw [done]

/- What a step of a connection makes of the Host's bookkeeping and of the radio. -/
structure Kept (r : Runner ρ) (c : ActiveConnection) (done : Link × Report) : Prop where
  follows : follows (some connectionHandle) (performed fillBytes r done.2.calls).2 =
    some (if done.1.down then none else some connectionHandle)
  identity : identity done.1.connection = identity c
  tuned : done.1.down = false → tuned (performed fillBytes r done.2.calls).1 = tuned r
  spared : done.1.down = false → ∀ bytes, .handleCommand bytes ∈ done.2.calls → ¬Resets bytes

section Steps
variable (r : Runner ρ) {c d : ActiveConnection} {calls : List HostCall}

theorem stayKept (within : Within calls) (kept : identity d = identity c) (exchange skipped) :
    Kept fillBytes r c (stay d calls exchange skipped) := by
  have done : performed fillBytes r (stay d calls exchange skipped).2.calls = (r,calls) :=
    performedDirect fillBytes r (withinDirect within)
  exact ⟨by rw [done]; exact withinFollows within,kept,fun _ => by rw [done],
    fun _ bytes member => absurd rfl (withinDirect within _ member bytes)⟩

/- What is said last of a connection. -/
theorem closesFollows (own : d.handle = connectionHandle) (within : Within calls) (reason : UInt8) :
    follows (some connectionHandle) (calls ++ [emitDisconnection d reason]) = some none := by
  rw [followsAppend,withinFollows within]
  show follows _ _ = _
  unfold follows
  rw [List.foldlM_cons,disconnectionListens own]
  rfl

theorem disconnectionDirect (d : ActiveConnection) (reason : UInt8) : Direct [emitDisconnection d reason] := by
  intro call member bytes same
  rw [List.mem_singleton.mp member] at same
  cases same

theorem finishKept (within : Within calls) (kept : identity d = identity c) (same : c.handle = connectionHandle)
    (exchange reason) : Kept fillBytes r c (finish d calls exchange reason) := by
  have own : d.handle = connectionHandle := (congrArg Identity.handle kept).trans same
  have direct : Direct (calls ++ [emitDisconnection d reason]) := fun call member =>
    (List.mem_append.mp member).elim (withinDirect within call) (disconnectionDirect d reason call)
  have done : performed fillBytes r (finish d calls exchange reason).2.calls = (r,calls ++ [emitDisconnection d reason]) :=
    performedDirect fillBytes r direct
  exact ⟨by rw [done]; exact closesFollows own within reason,kept,fun lives => (nomatch lives),
    fun lives => (nomatch lives)⟩

end Steps

section Inputs
variable (r : Runner ρ) {c : ActiveConnection} (same : c.handle = connectionHandle)
include same

theorem deadlinesKept (now : Nat) : Kept fillBytes r c (deadlinesStep c now) := by
  have checked : identity {c with procedures := (c.procedures.checkTimeouts now 0x22).1} = identity c := rfl
  unfold deadlinesStep
  dsimp only
  split
  · exact finishKept fillBytes r withinNil checked same _ _
  · split
    · exact finishKept fillBytes r withinNil checked same _ _
    · exact stayKept fillBytes r withinNil checked _ _

theorem skipKept (now : Nat) (clock : Nat → Nat) : Kept fillBytes r c (skipStep c now clock) := by
  cases skips : c.skipExpiredEvents now clock with
  | error reason =>
    rw [skipRefused skips]
    exact finishKept fillBytes r withinNil rfl same _ _
  | ok result =>
    obtain ⟨after,count,notify⟩ := result
    have kept : identity after = identity c :=
      skipKeeps (P := fun d => identity d = identity c) (fun _ _ _ _ before _ turn => (skippedIdentity turn).trans before)
        rfl skips
    rw [skipDone skips]
    exact stayKept fillBytes r (withinNotify ((congrArg Identity.handle kept).trans same) notify) kept _ _

theorem eventKept (clock : EventClock) (radio : Option ExchangeResult) : Kept fillBytes r c (eventStep c clock radio) := by
  obtain ⟨within,kept⟩ := eventWithin same clock radio
  have scheduled : identity (connectionEvent c clock radio).connection.scheduleFollowingEvent = identity c := kept
  unfold eventStep
  dsimp only
  split
  · exact finishKept fillBytes r within kept same _ _
  · exact stayKept fillBytes r within scheduled _ _

/- A reset is handed on with the end of the connection, any other command without. -/
theorem handedKept {bytes : List UInt8} {stop : Bool}
    (handed : handleConnectedCommand c bytes = (c,[.handleCommand bytes],stop)) :
    Kept fillBytes r c (if stop then finish c [.handleCommand bytes] none 0x16 else stay c [.handleCommand bytes] none 0) := by
  cases stop with
  | true =>
    refine ⟨?_,rfl,fun lives => (nomatch lives),fun lives => (nomatch lives)⟩
    show follows (some connectionHandle) (performed fillBytes r (.handleCommand bytes :: [emitDisconnection c 0x16])).2 = some none
    rw [commandFollows fillBytes r bytes (disconnectionDirect c 0x16)]
    exact closesFollows same withinNil 0x16
  | false =>
    have other : ¬Resets bytes := by
      rintro ⟨opcode,empty⟩
      unfold handleConnectedCommand at handed
      split at handed
      · cases handed
      · dsimp only at handed
        rw [if_pos ⟨opcode,empty⟩] at handed
        cases handed
    refine ⟨?_,rfl,fun _ => commandTuned fillBytes r other (withinDirect withinNil),fun _ given member => ?_⟩
    · exact commandFollows fillBytes r bytes (withinDirect withinNil) _
    · cases List.mem_singleton.mp member
      exact other

theorem hostKept (packet : Packet) : Kept fillBytes r c (hostStep c packet) := by
  have kept := hostIdentity c packet
  have served := hostServes c packet
  unfold hostStep
  generalize processConnectedHostPacket c packet = done at served kept ⊢
  cases served with
  | ignored => exact stayKept fillBytes r withinNil rfl _ _
  | queued => exact stayKept fillBytes r withinNil kept _ _
  | command =>
    dsimp only at kept ⊢
    by_cases formed : WellFormed packet.bytes
    · rcases connectedAnswer c formed with ⟨stop,handed⟩ | ⟨call,status,direct,answer⟩
      · rw [handed]
        exact handedKept fillBytes r same handed
      · rw [direct]
        refine stayKept fillBytes r ?_ kept _ _
        intro other member
        rw [List.mem_singleton.mp member]
        exact answerListens answer _
    · rw [malformedConnected c formed]
      exact stayKept fillBytes r withinNil rfl _ _

theorem linkKept {link : Link} (running : link.down = false) (own : link.connection = c) (input : Input) :
    Kept fillBytes r c (ConnectionRun.step link input) := by
  subst own
  cases input with
  | host packet =>
    rw [stepHost running]
    exact hostKept fillBytes r same packet
  | deadlines now =>
    rw [stepDeadlines running]
    exact deadlinesKept fillBytes r same now
  | skip now clock =>
    rw [stepSkip running]
    exact skipKept fillBytes r same now clock
  | event clock radio =>
    rw [stepEvent running]
    exact eventKept fillBytes r same clock radio

end Inputs

end Link

/-! The whole controller. -/

section Controller
variable {ρ : Type} (fillBytes : ρ → ρ × Vector UInt8 8)

def session (s : System ρ) : Option UInt16 := s.link.map fun link => link.connection.handle

/- The radio is set for advertising, or for the connection there is. -/
structure Attuned (s : System ρ) : Prop where
  free : s.link = none → tuned s.runner = (advAccessAddress,advCrcInit)
  held : ∀ link, s.link = some link → link.down = false ∧ link.connection.handle = connectionHandle ∧
    tuned s.runner = (link.connection.request.accessAddress,link.connection.request.crcInit)

/- What a link goes back to: an intact request to this advertiser, heard on one of its channels. -/
structure Requested (s : System ρ) (stimulus : Stimulus) (link : Link) : Prop where
  enabled : s.runner.advertiser.enabled = true
  heard : ∃ heard now slot received, stimulus = .advertising heard now ∧ heard slot = some received ∧
    s.runner.advertiser.channels.get slot = true ∧ received.crcOk = true ∧
    parseConnectIndDetailed received.payload s.runner.advertiser.address = .ok link.connection.request

theorem createdFrom {request timestampUs now c} (created : ActiveConnection.new request timestampUs now = some c) :
    c.handle = connectionHandle ∧ c.request = request := by
  unfold ActiveConnection.new ActiveConnection.newFor at created
  split at created
  · cases created
  · cases created
    exact ⟨rfl,rfl⟩

theorem completeListens {c : ActiveConnection} (own : c.handle = connectionHandle) :
    listens none (emitConnectionComplete c) = some (some connectionHandle) := by
  unfold emitConnectionComplete
  rw [own]
  show hears _ _ _ = _
  unfold hears
  rw [if_pos ⟨rfl,rfl⟩,if_pos ⟨rfl,rfl,by simp [toLeBytes]⟩]
  exact congrArg some (ownHandle rfl rfl).symm

theorem requestIntact {a : Advertiser} {received : AdvertisingResult} {request : ConnectInd}
    (found : requestHeard a received = some request) :
    received.crcOk = true ∧ parseConnectIndDetailed received.payload a.address = .ok request := by
  unfold requestHeard at found
  split at found
  · cases found
  · split at found
    · rename_i intact
      refine ⟨intact.2,?_⟩
      cases parsed : parseConnectIndDetailed received.payload a.address with
      | error e =>
        rw [parsed] at found
        cases found
      | ok other =>
        rw [parsed] at found
        cases found
        rfl
    · cases found

theorem advertiseHears {a : Advertiser} {heard request timestampUs}
    (found : advertise a heard = some (request,timestampUs)) :
    ∃ slot received, heard slot = some received ∧ a.channels.get slot = true ∧ received.crcOk = true ∧
      parseConnectIndDetailed received.payload a.address = .ok request := by
  obtain ⟨slot,_,here⟩ := List.exists_of_findSome?_eq_some found
  split at here
  · cases here
  · rename_i listening
    split at here
    · cases here
    · rename_i received shown
      obtain ⟨request',accepted,same⟩ := Option.map_eq_some_iff.mp here
      obtain ⟨rfl,_⟩ := Prod.mk.inj same
      obtain ⟨intact,parsed⟩ := requestIntact accepted
      exact ⟨slot,received,shown,by simpa using (not_or.mp listening).1,intact,parsed⟩

theorem effectTuned {r after : Runner ρ} {opcode call} (effect : Effect r opcode after call) :
    tuned after = tuned r ∨ tuned after = (advAccessAddress,advCrcInit) := by
  cases effect with
  | wrote change => cases change with
    | reset => exact .inr rfl
    | _ => exact .inl rfl
  | _ => exact .inl rfl

theorem idleAttuned {s : System ρ} (attuned : Attuned s) (packet : Packet) (free : s.link = none) :
    Attuned (idleStep fillBytes s packet).1 ∧
      follows (session s) (idleStep fillBytes s packet).2 = some (session (idleStep fillBytes s packet).1) := by
  unfold idleStep
  split
  · have radio := attuned.free free
    have heard := commandFollows fillBytes s.runner packet.bytes (withinDirect withinNil) (session s)
    refine ⟨⟨fun _ => ?_,fun link held => ?_⟩,heard⟩
    · rcases commandPerformed fillBytes s.runner packet.bytes (withinDirect withinNil) with ⟨_,_,done,_,effect⟩ | done
      · rw [done]
        exact (effectTuned effect).elim (fun same => same.trans radio) id
      · rw [done]
        exact radio
    · rw [show s.link = some link from held] at free
      cases free
  · exact ⟨attuned,rfl⟩

theorem advertisingAttuned {s : System ρ} (attuned : Attuned s) (heard : Fin 3 → Option AdvertisingResult) (now : Nat)
    (free : s.link = none) : Attuned (advertisingStep s heard now).1 ∧
      follows (session s) (advertisingStep s heard now).2 = some (session (advertisingStep s heard now).1) := by
  unfold advertisingStep
  split
  · exact ⟨attuned,rfl⟩
  · split
    · exact ⟨attuned,rfl⟩
    · rename_i c created
      obtain ⟨own,from_⟩ := createdFrom created
      refine ⟨⟨fun absent => (nomatch absent),fun link held => ?_⟩,?_⟩
      · cases held
        exact ⟨rfl,own,rfl⟩
      · have none_ : session s = none := by rw [session,free]; rfl
        rw [none_]
        show follows none [emitConnectionComplete c] = some (some c.handle)
        unfold follows
        rw [List.foldlM_cons,completeListens own,own]
        rfl

theorem linkedAttuned {s : System ρ} (attuned : Attuned s) {link : Link} (held : s.link = some link) (input : Input) :
    Attuned (linkedStep fillBytes s link input).1 ∧
      follows (session s) (linkedStep fillBytes s link input).2 = some (session (linkedStep fillBytes s link input).1) := by
  obtain ⟨running,own,radio⟩ := attuned.held link held
  have kept := linkKept fillBytes s.runner own running rfl input
  have now : session s = some connectionHandle := by rw [session,held,← own]; rfl
  have said := kept.follows
  unfold linkedStep
  dsimp only
  rw [now]
  cases lives : (ConnectionRun.step link input).1.down with
  | true =>
    rw [lives] at said
    exact ⟨⟨fun _ => rfl,fun _ absent => (nomatch absent)⟩,said⟩
  | false =>
    rw [lives] at said
    have same : (ConnectionRun.step link input).1.connection.handle = connectionHandle :=
      (congrArg Identity.handle kept.identity).trans own
    refine ⟨⟨fun absent => (nomatch absent),fun after is => ?_⟩,?_⟩
    · cases is
      refine ⟨lives,same,(kept.tuned lives).trans (radio.trans ?_)⟩
      rw [← show _ = link.connection.request.accessAddress from congrArg Identity.accessAddress kept.identity,
        ← show _ = link.connection.request.crcInit from congrArg Identity.crcInit kept.identity]
      rfl
    · refine said.trans ?_
      show _ = some (some (ConnectionRun.step link input).1.connection.handle)
      rw [same]
      rfl

theorem actAttuned {s : System ρ} (attuned : Attuned s) (stimulus : Stimulus) :
    Attuned (act fillBytes s stimulus).1 ∧
      follows (session s) (act fillBytes s stimulus).2 = some (session (act fillBytes s stimulus).1) := by
  cases stimulus with
  | idle packet =>
    unfold act
    dsimp only
    split
    · rename_i free
      exact idleAttuned fillBytes attuned packet (Option.isNone_iff_eq_none.mp free)
    · exact ⟨attuned,rfl⟩
  | advertising heard now =>
    unfold act
    dsimp only
    split
    · rename_i free
      exact advertisingAttuned attuned heard now (Option.isNone_iff_eq_none.mp free.1)
    · exact ⟨attuned,rfl⟩
  | linked input =>
    unfold act
    dsimp only
    split
    · exact ⟨attuned,rfl⟩
    · rename_i link held
      exact linkedAttuned fillBytes attuned held input

theorem actRequested {s : System ρ} {stimulus : Stimulus} {link : Link} (free : s.link = none)
    (linked : (act fillBytes s stimulus).1.link = some link) : Requested s stimulus link := by
  cases stimulus with
  | idle packet =>
    unfold act idleStep at linked
    dsimp only at linked
    split at linked
    · split at linked <;> exact absurd (free.symm.trans linked) (by simp)
    · exact absurd (free.symm.trans linked) (by simp)
  | advertising heard now =>
    unfold act at linked
    dsimp only at linked
    split at linked
    · rename_i open_
      unfold advertisingStep at linked
      split at linked
      · exact absurd (free.symm.trans linked) (by simp)
      · rename_i request timestampUs found
        split at linked
        · exact absurd (free.symm.trans linked) (by simp)
        · rename_i c created
          cases linked
          obtain ⟨slot,received,shown,listening,intact,parsed⟩ := advertiseHears found
          refine ⟨open_.2,heard,now,slot,received,rfl,shown,listening,intact,?_⟩
          rw [(createdFrom created).2]
          exact parsed
    · exact absurd (free.symm.trans linked) (by simp)
  | linked input =>
    unfold act at linked
    dsimp only at linked
    rw [free] at linked
    exact absurd (free.symm.trans linked) (by simp)

theorem startAttuned (random : ρ) : Attuned (start random) := by
  refine ⟨fun _ => rfl,fun link held => ?_⟩
  cases held

theorem hostHearsSessions (random : ρ) (stimuli : List Stimulus) :
    let done := run (controller fillBytes) (start random) stimuli
    follows none (done.1.flatMap fun entry => entry.2) = some (session done.2) ∧ Attuned done.2 ∧
    done.2.runner.linkConnected = done.2.link.isSome ∧
    ∀ stimulus link, done.2.link = none → (act fillBytes done.2 stimulus).1.link = some link →
      Requested done.2 stimulus link := by
  intro done
  have history := runHistory (controller fillBytes) (start random) stimuli
  have configured : Configured done.2 := stateInvariant (startConfigured random)
    (fun s stimulus known => actsConfigured (acts fillBytes s stimulus) known) history
  have heard : follows none (done.1.flatMap fun entry => entry.2) = some (session done.2) ∧ Attuned done.2 := by
    refine historyInvariant (I := fun past s => follows none (past.flatMap fun entry => entry.2) = some (session s) ∧
      Attuned s) ⟨rfl,startAttuned random⟩ ?_ history
    rintro past s stimulus ⟨before,attuned⟩
    obtain ⟨next,said⟩ := actAttuned fillBytes attuned stimulus
    refine ⟨?_,next⟩
    rw [List.flatMap_append,followsAppend,before,List.flatMap_singleton]
    exact said
  exact ⟨heard.1,heard.2,configured.connected,fun _ _ free linked => actRequested fillBytes free linked⟩

end Controller

end Ch58xHal.HostSession
