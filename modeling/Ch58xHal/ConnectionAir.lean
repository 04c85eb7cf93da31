import Ch58xHal.BackendArq
import Ch58xHal.RadioExchange
import Ch58xHal.RadioSingles

/-! A connection on its radio. Every event hands its frame to the exchange on the device and goes on
with what comes back, so what the Host is told of its data rests on register accesses; and every
event comes back, on a device whose clock goes on. -/
namespace Ch58xHal.ConnectionAir
open ControlPdu Connection ConnectionEvent ConnectionRun DataHeader DataPlane ControlLabels
open RadioChip RadioSafety OrderedEvidence SlotQueue
open ArqPeers (Loaded Ready stageReady loadedAlike loadedHonest honestKind payloads aclData wire stageAgain)
open BackendArq (runsQueue loadedCarrying heardCompletes acknowledgedExpects headLabel queuedUndisturbed
  acceptedStores boundaryLabel stageKeeps)
open AclQueue (Fragment fragment held regained regainedAcl)
open RadioExchange (packetOf Reported exchangeReported exchangeRests exchangeAfterwards exchangeComesToRest)
open RadioSingles (shutElapse)
open Machines (Machine History)
open Routines (result)

def maxDataPduWireLen : Nat := 2 + maxDataPduPayload

structure Station where
  link : Link
  chip : Chip
  -- in an exchange that has not come back
  stuck : Bool

inductive Stimulus where
  | host (packet : Packet)
  | deadlines (now : Nat)
  | skip (now : Nat) (clock : Nat → Nat)
  | event (clock : EventClock) (turns : Nat)
  -- the device goes on while nothing is called
  | idle

/- `completed` is what leaves the queue of the connection. -/
structure Observed where
  report : Report
  completed : List Fragment
  received : Option RadioOperations.ExchangeResult
  before : Chip
  after : Chip

def heardOf (r : RadioOperations.ExchangeResult) : ExchangeResult :=
  ⟨r.received.payload,r.received.rssiDbm,r.received.crcOk,r.received.timestampUs,r.transmitted⟩

section Machine
variable (layout : RadioOperations.Layout)

def takeExchange (request : ExchangeRequest) (turns : Nat) : Operation (Option RadioOperations.ExchangeResult) :=
  RadioOperations.exchange layout turns request.channel request.deadline request.timeout request.transmit
    maxDataPduWireLen

def call (s : Station) (input : Input) (received : Option RadioOperations.ExchangeResult) (after : Chip) :
    Station × Observed :=
  let done := step s.link input
  (⟨done.1,after,false⟩,
    ⟨done.2,(held s.link.connection.toDataPath).take (regained done.2.calls),received,s.chip,after⟩)

def still (s : Station) (after : Chip) (stuck : Bool) : Station × Observed :=
  (⟨s.link,after,stuck⟩,⟨⟨[],none,none,0⟩,[],none,s.chip,after⟩)

/- What the radio has to say to an event, nothing while the exchange has not come back. What the event
asks of it does not depend on the answer; `stepAsks` says so. -/
def answer (link : Link) (clock : EventClock) (turns : Nat) (chip : Chip) :
    Option (Option RadioOperations.ExchangeResult) × Chip :=
  match (step link (.event clock none)).2.exchange with
  | none => (some none,chip)
  | some request =>
    match result (takeExchange layout request turns) chip with
    | (.error _,after) => (some none,after)
    | (.ok none,after) => (none,after)
    | (.ok (some r),after) => (some (some r),after)

def meet (s : Station) (clock : EventClock) (turns : Nat) : Station × Observed :=
  match answer layout s.link clock turns s.chip with
  | (none,after) => still s after true
  | (some received,after) => call s (.event clock (received.map heardOf)) received after

def proceed (s : Station) (stimulus : Stimulus) : Station × Observed :=
  if s.stuck then still s s.chip true
  else match stimulus with
    | .host packet => call s (.host packet) none s.chip
    | .deadlines now => call s (.deadlines now) none s.chip
    | .skip now clock => call s (.skip now clock) none s.chip
    | .event clock turns => meet layout s clock turns
    | .idle => still s (elapse s.chip) false

def station : Machine Station Stimulus Observed := ⟨proceed layout⟩

end Machine

/-! What an event asks for. -/

def asked (c : ActiveConnection) (entry : Nat) : Option ExchangeRequest :=
  match c.settleInstants entry with
  | .error _ => none
  | .ok (settled,_) => (stageTransmit (opened settled)).map (requested settled)

theorem eventAsks (c : ActiveConnection) (clock radio) :
    (connectionEvent c clock radio).exchange = asked c clock.entry := by
  have path := eventRuns c clock radio
  unfold asked
  generalize connectionEvent c clock radio = outcome at path ⊢
  cases path with
  | unsettled refused => rw [refused]
  | unstaged settles refused =>
    rw [settles]
    dsimp only
    rw [refused]
    rfl
  | silent settles stages | uncompleted settles stages | unreadable settles stages | heard settles stages =>
    rw [settles]
    dsimp only
    rw [stages]
    rfl

theorem stepAsks (link : Link) (clock radio) :
    (step link (.event clock radio)).2.exchange = (step link (.event clock none)).2.exchange := by
  cases running : link.down with
  | true => rw [stepOver running,stepOver running]
  | false =>
    have asks : ∀ radio, (eventStep link.connection clock radio).2.exchange = asked link.connection clock.entry := by
      intro radio
      rw [← eventAsks link.connection clock radio]
      unfold eventStep
      dsimp only
      split <;> rfl
    rw [stepEvent running,stepEvent running,asks,asks]

/- What an answer of the radio is worth. -/
structure Answered (layout : RadioOperations.Layout) (link : Link) (clock : EventClock) (before : Chip)
    (outcome : Option (Option RadioOperations.ExchangeResult)) (after : Chip) : Prop where
  afterwards : Afterwards before after
  rests : outcome ≠ none → after = before ∨ ShutDown after
  reported : ∀ r, outcome = some (some r) → ∃ request more since,
    (step link (.event clock none)).2.exchange = some request ∧
      Reported layout request.transmit maxDataPduWireLen before after r more since

theorem answered (layout : RadioOperations.Layout) (link : Link) (clock : EventClock) (turns : Nat) (chip : Chip) :
    Answered layout link clock chip (answer layout link clock turns chip).1 (answer layout link clock turns chip).2 := by
  unfold answer
  split
  · exact ⟨afterwardsSame chip,fun _ => .inl rfl,fun _ absent => (nomatch absent)⟩
  · rename_i request asks
    have afterwards := exchangeAfterwards layout turns request.channel request.deadline request.timeout
      request.transmit maxDataPduWireLen chip
    have rests := exchangeRests layout turns request.channel request.deadline request.timeout request.transmit
      maxDataPduWireLen chip
    have reported := @exchangeReported layout turns request.channel request.deadline request.timeout
      request.transmit maxDataPduWireLen chip
    change Afterwards chip (result (takeExchange layout request turns) chip).2 at afterwards
    change (result (takeExchange layout request turns) chip).1 ≠ .ok none →
      (result (takeExchange layout request turns) chip).2 = chip ∨
        ShutDown (result (takeExchange layout request turns) chip).2 at rests
    change ∀ {r}, (result (takeExchange layout request turns) chip).1 = .ok (some r) → ∃ more since,
      Reported layout request.transmit maxDataPduWireLen chip (result (takeExchange layout request turns) chip).2 r
        more since at reported
    split
    all_goals
      rename_i after ran
      rw [ran] at afterwards rests reported
    · exact ⟨afterwards,fun _ => rests nofun,fun _ absent => (nomatch absent)⟩
    · exact ⟨afterwards,fun wrong => absurd rfl wrong,fun _ absent => (nomatch absent)⟩
    · refine ⟨afterwards,fun _ => rests nofun,fun r same => ?_⟩
      cases same
      obtain ⟨more,since,shown⟩ := reported rfl
      exact ⟨request,more,since,asks,shown⟩

/- On a device whose clock goes on there is an answer. -/
theorem answerEnds {chip : Chip} (layout : RadioOperations.Layout) (link : Link) (clock : EventClock)
    (runs : RunsOn chip) : ∃ enough received after, ∀ turns, enough ≤ turns →
      answer layout link clock turns chip = (some received,after) := by
  unfold answer
  split
  · exact ⟨0,none,chip,fun _ _ => rfl⟩
  · rename_i request _
    obtain ⟨enough,outcome,after,settled,_⟩ := exchangeComesToRest layout request.channel request.deadline
      request.timeout request.transmit maxDataPduWireLen chip runs
    cases outcome with
    | error e =>
      refine ⟨enough,none,after,fun turns late => ?_⟩
      rw [show result (takeExchange layout request turns) chip = (.error e,after) from settled turns late]
    | ok r =>
      refine ⟨enough,some r,after,fun turns late => ?_⟩
      rw [show result (takeExchange layout request turns) chip = (.ok (some r),after) from settled turns late]

/-! Evidence. -/

section Evidence
variable (layout : RadioOperations.Layout)

/- The frame of this fragment with this sequence number was released on evidence, and the device
said it was sent. -/
structure Aired (o : Observed) (pdu : Fragment) (number : UInt8) : Prop where
  frame : ∃ header, o.report.exchange.map ExchangeRequest.transmit = some (wire header pdu.bytes) ∧
    header &&& 0x03 = pdu.llid ∧ sn header = number ∧
    o.after.txBuffer = encodeTransmitBuffer (wire header pdu.bytes)
  shown : ∃ more since, o.after.log = o.before.log ++ more ∧ InOrder
    [Wrote lleTxBuffer layout.tx,Launched 1 since,Saw lleStatus lleStatusRxToTx,
      Octet 1 (·.toNat ≤ connectionRxMaxWirePayloadLen),Unbroken o.before.moments since,Wrote lleMode lleModeTx,
      Saw lleStatus lleStatusRxComplete] more

/- The packet of this event was read octet by octet, with no CRC error since the launch. -/
structure Intact (o : Observed) (r : RadioOperations.ExchangeResult) : Prop where
  received : o.received = some r
  good : r.received.crcOk = true
  shown : ∃ more since, o.after.log = o.before.log ++ more ∧
    InOrder (Launched 1 since :: Unbroken o.before.moments since :: packetOf r.received.payload) more

abbrev Past := List (Stimulus × Observed)

/- It went out in an earlier event, and nothing has been completed from there on. -/
def Sent (past : Past) (pdu : Fragment) (number : UInt8) : Prop :=
  ∃ earlier entry later, past = earlier ++ entry :: later ∧ Aired layout entry.2 pdu number ∧
    ∀ other ∈ entry :: later, other.2.completed = []

/- The packet of this event expects another number than that of the frame the fragment went out in. -/
def Acknowledged (past : Past) (o : Observed) (pdu : Fragment) : Prop :=
  ∃ number r header payload, Sent layout past pdu number ∧ Intact o r ∧
    receivedPdu (heardOf r) = some (header,payload) ∧ nesn header ≠ number

/- What the Host is told of a fragment, or given of a packet. -/
structure Earned (past : Past) (o : Observed) : Prop where
  completed : o.completed = [] ∨ ∃ pdu, o.completed = [pdu] ∧ Acknowledged layout past o pdu
  given : ∀ handle payload, .sendAcl handle payload ∈ o.report.calls →
    ∃ r header, Intact o r ∧ receivedPdu (heardOf r) = some (header,payload)

def Accounted (past : Past) : Prop :=
  ∀ earlier entry later, past = earlier ++ entry :: later → Earned layout earlier entry.2

/- The radio answers an event with what the device has shown for the frame it was handed. -/
def Backed (o : Observed) (radio : Option ExchangeResult) : Prop :=
  ∀ received, radio = some received → ∃ r request more since, received = heardOf r ∧ o.received = some r ∧
    o.report.exchange = some request ∧
    Reported layout request.transmit maxDataPduWireLen o.before o.after r more since

/- A cached frame that is no longer fresh has been sent. -/
def Known (past : Past) (d : DataPath) (current : Option ArqPeers.Aired) : Prop :=
  d.txFrameFresh = false → ∀ unit, current = some unit → unit.kind = .acl → Sent layout past unit.pdu d.transmitSn

structure Flying (past : Past) (d : DataPath) : Prop where
  packed : (buffer d).Packed
  labels : ∀ pdu ∈ held d, pdu.llid = llidContinuation ∨ pdu.llid = llidStart
  transmitBit : IsBit d.transmitSn
  expectedBit : IsBit d.expectedSn
  frame : ∃ current, Loaded d current ∧ Known layout past d current

variable {layout} {past : Past} {entry : Stimulus × Observed} {pdu : Fragment}
  {number : UInt8}

theorem sentLater (sent : Sent layout past pdu number) (quiet : entry.2.completed = []) :
    Sent layout (past ++ [entry]) pdu number := by
  obtain ⟨earlier,aired,later,rfl,shown,calm⟩ := sent
  refine ⟨earlier,aired,later ++ [entry],by simp,shown,fun other member => ?_⟩
  rcases List.mem_append.mp (List.cons_append ▸ member : other ∈ (aired :: later) ++ [entry]) with old | new
  · exact calm other old
  · rw [List.mem_singleton.mp new]
    exact quiet

theorem sentNow (aired : Aired layout entry.2 pdu number) (quiet : entry.2.completed = []) :
    Sent layout (past ++ [entry]) pdu number := by
  refine ⟨past,entry,[],rfl,aired,fun other member => ?_⟩
  rw [List.mem_singleton.mp member]
  exact quiet

theorem knownLater {d : DataPath} {current} (known : Known layout past d current) (quiet : entry.2.completed = []) :
    Known layout (past ++ [entry]) d current :=
  fun old unit same acl => sentLater (known old unit same acl) quiet

/- One more entry needs only its own account. -/
theorem accountedNext (accounted : Accounted layout past) (earned : Earned layout past entry.2) :
    Accounted layout (past ++ [entry]) := by
  intro earlier other later split
  obtain rfl | ⟨front,last,rfl⟩ := List.eq_nil_or_concat later
  · obtain ⟨same,last⟩ := List.append_inj' split rfl
    cases same
    cases last
    exact earned
  · have joined : past ++ [entry] = (earlier ++ other :: front) ++ [last] := by
      rw [split]
      simp
    exact accounted earlier other front (List.append_inj' joined rfl).1

end Evidence

section Backing
variable {layout : RadioOperations.Layout} {o : Observed} {radio : Option ExchangeResult} {received : ExchangeResult}

theorem airedNow (backed : Backed layout o (some received)) {d : DataPath} {unit} (ready : Ready d unit)
    (frame : o.report.exchange.map ExchangeRequest.transmit = some d.txFrame) (sent : received.transmitted = true) :
    Aired layout o unit.pdu d.transmitSn := by
  obtain ⟨r,request,more,since,rfl,_,asked,reported⟩ := backed received rfl
  obtain ⟨header,built,label,_,number⟩ := ready.frame
  have transmit : request.transmit = wire header unit.pdu.bytes := by
    rw [asked] at frame
    exact (Option.some.inj frame).trans built
  refine ⟨⟨header,?_,label,number,?_⟩,more,since,reported.log,reported.sent sent⟩
  · rw [asked,← transmit]
    rfl
  · rw [← transmit]
    exact reported.bank

theorem intactNow (backed : Backed layout o (some received)) (good : received.crcOk = true) :
    ∃ r, received = heardOf r ∧ Intact o r := by
  obtain ⟨r,request,more,since,rfl,told,_,reported⟩ := backed received rfl
  exact ⟨r,rfl,told,good,more,since,reported.log,reported.heard good⟩

theorem readGood {header payload} (read : receivedPdu received = some (header,payload)) : received.crcOk = true := by
  unfold receivedPdu at read
  split at read
  · cases read
  · rename_i good
    exact Bool.eq_true_of_not_eq_false good

end Backing

/-! One event on the data path. -/

theorem acknowledgeBit {d : DataPath} (bit : IsBit d.transmitSn) (header outstanding) :
    IsBit (acknowledge d header outstanding).transmitSn := by
  unfold acknowledge
  split
  · exact flipIsBit bit
  · exact bit

theorem runsBits {c : ActiveConnection} {radio path frame calls} (runs : DataRuns c radio path frame calls)
    (transmitBit : IsBit c.transmitSn) (expectedBit : IsBit c.expectedSn) :
    IsBit path.transmitSn ∧ IsBit path.expectedSn := by
  have staged : ∀ control, IsBit (stage c.toDataPath control).transmitSn ∧
      IsBit (stage c.toDataPath control).expectedSn := by
    intro control
    obtain ⟨transmitSn,expectedSn⟩ := stageKeeps c.toDataPath control
    exact ⟨transmitSn.symm ▸ transmitBit,expectedSn.symm ▸ expectedBit⟩
  cases runs with
  | refused => exact ⟨transmitBit,expectedBit⟩
  | @silent _ control => exact staged control
  | @noted _ control => exact staged control
  | @heard received control header payload _ _ after acknowledged outstanding stages _ acks =>
    obtain ⟨transmitSn,expectedSn⟩ := staged control
    rw [← stages] at transmitSn expectedSn
    have released := acknowledgeBit (d := note after received.transmitted) transmitSn header outstanding
    have expects : acknowledged.expectedSn = after.expectedSn :=
      acks ▸ acknowledgedExpects (note after received.transmitted) header outstanding
    rw [← acks] at released
    unfold accept
    split
    · exact ⟨released,flipIsBit (expects.symm ▸ expectedSn)⟩
    · exact ⟨released,expects.symm ▸ expectedSn⟩

section Event
variable {layout : RadioOperations.Layout} {past : Past} {entry : Stimulus × Observed}

/- The staged frame: a fresh one was built now, and an old one is the one that was known. -/
theorem stagedFlies {d : DataPath} {control} (flying : Flying layout past d)
    (controls : ∀ pdu, control = some pdu → pdu.llid = llidControl) :
    ∃ unit, Ready (stage d control) unit ∧ Known layout past (stage d control) (some unit) := by
  obtain ⟨current,loaded,known⟩ := flying.frame
  obtain ⟨unit,ready,same,_⟩ := stageReady loaded flying.transmitBit flying.expectedBit controls
    (headLabel flying.labels)
  refine ⟨unit,ready,fun old other chosen acl => ?_⟩
  cases chosen
  cases loaded with
  | idle frame kind =>
    rw [ArqPeers.stageIdle frame kind] at old
    cases old
  | loaded frame kind _ honest =>
    have owned : d.transmitted ≠ .none := kind ▸ honestKind honest
    rw [stageAgain frame owned] at old
    rcases same with absent | same
    · cases absent
    · rw [(stageKeeps d control).1]
      exact known old unit same acl

/- The device has answered: the frame is known to be sent from before, or it went out now. -/
theorem notedKnown {d : DataPath} {unit transmitted} (known : Known layout past d (some unit))
    (aired : transmitted = true → Aired layout entry.2 unit.pdu d.transmitSn) (quiet : entry.2.completed = []) :
    Known layout (past ++ [entry]) (note d transmitted) (some unit) := by
  intro old other same acl
  cases same
  cases fresh : d.txFrameFresh with
  | false => exact sentLater (known fresh unit rfl acl) quiet
  | true =>
    have sent : transmitted = true := by simpa [note,fresh] using old
    exact sentNow (aired sent) quiet

theorem acceptLoaded {d : DataPath} {current} (loaded : Loaded d current) (header : UInt8) :
    Loaded (accept d header) current := by
  unfold accept
  split
  · exact loadedAlike loaded rfl rfl fun _ => id
  · exact loaded

theorem acceptKnown {d : DataPath} {current} (known : Known layout past d current) (header : UInt8) :
    Known layout past (accept d header) current := by
  unfold accept
  split <;> exact known

/- An event that reads a packet completes only a frame that was sent before it. -/
theorem heardFlies {d : DataPath} {unit r transmitted header} (loaded : Loaded (note d transmitted) (some unit))
    (known : Known layout past d (some unit)) (aired : transmitted = true → Aired layout entry.2 unit.pdu d.transmitSn)
    (intact : Intact entry.2 r) {payload} (read : receivedPdu (heardOf r) = some (header,payload))
    (completes : entry.2.completed =
      if acknowledgesTransmitOwner header d.transmitSn (!d.txFrameFresh) false then payloads [unit] else []) :
    (entry.2.completed = [] ∨ ∃ pdu, entry.2.completed = [pdu] ∧ Acknowledged layout past entry.2 pdu) ∧
    ∃ current, Loaded (accept (acknowledge (note d transmitted) header (!d.txFrameFresh)) header) current ∧
      Known layout (past ++ [entry]) (accept (acknowledge (note d transmitted) header (!d.txFrameFresh)) header)
        current := by
  unfold acknowledge
  rw [show (note d transmitted).transmitSn = d.transmitSn from rfl]
  by_cases acks : acknowledgesTransmitOwner header d.transmitSn (!d.txFrameFresh) false = true
  · rw [if_pos acks] at completes ⊢
    obtain ⟨old,moved⟩ : d.txFrameFresh = false ∧ nesn header ≠ d.transmitSn := by
      unfold acknowledgesTransmitOwner at acks
      simp only [Bool.or_false,Bool.and_eq_true,Bool.not_eq_true',bne_iff_ne] at acks
      exact acks
    refine ⟨?_,none,acceptLoaded (.idle rfl rfl) header,fun _ _ absent => (nomatch absent)⟩
    by_cases acl : unit.kind = .acl
    · have one : payloads [unit] = [unit.pdu] := by simp [payloads,ArqPeers.aclData,acl]
      exact .inr ⟨unit.pdu,completes.trans one,_,r,header,payload,known old unit rfl acl,intact,read,moved⟩
    · have none : payloads [unit] = [] := by simp [payloads,ArqPeers.aclData,acl]
      exact .inl (completes.trans none)
  · rw [if_neg acks] at completes ⊢
    exact ⟨.inl completes,some unit,acceptLoaded loaded header,acceptKnown (notedKnown known aired completes) header⟩

theorem flyingLater {d : DataPath} (flying : Flying layout past d) (quiet : entry.2.completed = []) :
    Flying layout (past ++ [entry]) d := by
  obtain ⟨current,loaded,known⟩ := flying.frame
  exact {flying with frame := ⟨current,loaded,knownLater known quiet⟩}

theorem quietEarned {o : Observed} (quiet : o.completed = []) (silent : o.report.calls.filter aclCall = []) :
    Earned layout past o := by
  refine ⟨.inl quiet,fun handle payload member => ?_⟩
  have among : HostCall.sendAcl handle payload ∈ o.report.calls.filter aclCall := List.mem_filter.mpr ⟨member,rfl⟩
  rw [silent] at among
  cases among

theorem forwardedGiven {handle : UInt16} {d : DataPath} {outstanding : Bool} {handle' given header payload acknowledged}
    (member : HostCall.sendAcl handle' given ∈
      completion handle d header outstanding ++ forwarding handle acknowledged header payload) : given = payload := by
  unfold completion forwarding forwarded at member
  rcases List.mem_append.mp member with wrong | member
  · split at wrong
    · cases List.mem_singleton.mp wrong
    · cases wrong
  · split at member
    · split at member
      · cases List.mem_singleton.mp member
        rfl
      · cases member
    · cases member

theorem offeredControls {c : ActiveConnection} {control} (labelled : Labelled c.toControlPlane)
    (offered : Offers c control) : ∀ pdu, control = some pdu → pdu.llid = llidControl := by
  intro pdu found
  rcases offered with pending | priority
  · exact labelled pdu (.inl (pending.symm.trans found))
  · exact labelled pdu (.inr (.inl (priority.symm.trans found)))

theorem runsFlying {c : ActiveConnection} {radio path frame calls} (flying : Flying layout past c.toDataPath)
    (labelled : Labelled c.toControlPlane) (runs : DataRuns c radio path frame calls)
    (backed : Backed layout entry.2 radio) (asks : entry.2.report.exchange.map ExchangeRequest.transmit = frame)
    (told : entry.2.report.calls.filter aclCall = calls)
    (completes : entry.2.completed = (held c.toDataPath).take (regained calls)) :
    Earned layout past entry.2 ∧ Flying layout (past ++ [entry]) path := by
  obtain ⟨transmitBit,expectedBit⟩ := runsBits runs flying.transmitBit flying.expectedBit
  obtain ⟨_,carried,_⟩ := flying.frame
  obtain ⟨packed,queue⟩ := runsQueue runs flying.packed (loadedCarrying carried)
  have labels : ∀ pdu ∈ held path, pdu.llid = llidContinuation ∨ pdu.llid = llidStart := by
    intro pdu member
    refine flying.labels pdu ?_
    rw [queue]
    exact List.mem_append_right _ member
  suffices both : Earned layout past entry.2 ∧ ∃ current, Loaded path current ∧
      Known layout (past ++ [entry]) path current from ⟨both.1,packed,labels,transmitBit,expectedBit,both.2⟩
  cases runs with
  | refused => exact ⟨quietEarned completes told,(flyingLater flying completes).frame⟩
  | @silent _ control offered =>
    obtain ⟨unit,ready,known⟩ := stagedFlies flying (offeredControls labelled offered)
    exact ⟨quietEarned completes told,some unit,ready.loaded,knownLater known completes⟩
  | @noted received control offered =>
    obtain ⟨unit,ready,known⟩ := stagedFlies flying (offeredControls labelled offered)
    exact ⟨quietEarned completes told,some unit,loadedAlike ready.loaded rfl rfl fun _ => id,
      notedKnown known (airedNow backed ready asks) completes⟩
  | @heard received control header payload offered read staged acknowledged outstanding stages earlier acks =>
    subst stages earlier acks
    obtain ⟨unit,ready,known⟩ := stagedFlies flying (offeredControls labelled offered)
    obtain ⟨r,same,intact⟩ := intactNow backed (readGood read)
    have noted : Loaded (note (stage c.toDataPath control) received.transmitted) (some unit) :=
      loadedAlike ready.loaded rfl rfl fun _ => id
    obtain ⟨completed,frame⟩ := heardFlies noted known (airedNow backed ready asks) intact (same ▸ read)
      (completes.trans (heardCompletes noted _ _ _ _))
    refine ⟨⟨completed,fun handle' given member => ⟨r,header,intact,?_⟩⟩,frame⟩
    have among : HostCall.sendAcl handle' given ∈ entry.2.report.calls.filter aclCall :=
      List.mem_filter.mpr ⟨member,rfl⟩
    rw [told] at among
    rw [← same,forwardedGiven among]
    exact read

theorem dataFlies (entry : Stimulus × Observed) {c : ActiveConnection} {input path frame calls}
    (flying : Flying layout past c.toDataPath) (labelled : Labelled c.toControlPlane)
    (data : DataStep c input path frame calls)
    (backed : ∀ clock radio, input = .event clock radio → Backed layout entry.2 radio)
    (asks : entry.2.report.exchange.map ExchangeRequest.transmit = frame)
    (told : entry.2.report.calls.filter aclCall = calls)
    (completes : entry.2.completed = (held c.toDataPath).take (regained calls)) :
    Earned layout past entry.2 ∧ Flying layout (past ++ [entry]) path := by
  cases data with
  | kept => exact ⟨quietEarned completes told,flyingLater flying completes⟩
  | @queued packet path kind ok =>
    refine ⟨quietEarned completes told,?_⟩
    obtain ⟨packed,grown⟩ := acceptedStores kind flying.packed ok
    have calm := queuedUndisturbed ok
    obtain ⟨current,loaded,known⟩ := flying.frame
    refine ⟨packed,?_,calm.sequence.symm ▸ flying.transmitBit,calm.expected.symm ▸ flying.expectedBit,current,
      loadedAlike loaded calm.frame calm.kind calm.head,?_⟩
    · intro pdu member
      rw [grown] at member
      rcases List.mem_append.mp member with old | new
      · exact flying.labels pdu old
      · rw [List.mem_singleton.mp new]
        exact boundaryLabel packet
    · obtain ⟨_,_,_,shape⟩ := queuedShape ok
      intro fresh
      rw [shape] at fresh ⊢
      exact knownLater known completes fresh
  | @ran clock radio _ _ _ runs => exact runsFlying flying labelled runs (backed clock radio rfl) asks told completes

end Event

/-! Whole runs. -/

section Run
variable {layout : RadioOperations.Layout} {past : Past} {s : Station}

theorem stillFlies {o : Observed} (stimulus : Stimulus) (flying : Flying layout past s.link.connection.toDataPath)
    (quiet : o.completed = []) (silent : o.report.calls.filter aclCall = []) :
    Earned layout past o ∧ Flying layout (past ++ [(stimulus,o)]) s.link.connection.toDataPath :=
  ⟨quietEarned quiet silent,flyingLater flying quiet⟩

theorem callFlies (stimulus : Stimulus) (input : Input) (received : Option RadioOperations.ExchangeResult)
    (after : Chip) (flying : Flying layout past s.link.connection.toDataPath)
    (labelled : Labelled s.link.connection.toControlPlane)
    (backed : ∀ clock radio, input = .event clock radio → Backed layout (call s input received after).2 radio) :
    Earned layout past (call s input received after).2 ∧
      Flying layout (past ++ [(stimulus,(call s input received after).2)])
        (call s input received after).1.link.connection.toDataPath := by
  cases down : s.link.down with
  | true =>
    have ended : call s input received after =
        (⟨s.link,after,false⟩,⟨⟨[],none,none,0⟩,[],received,s.chip,after⟩) := by
      unfold call
      rw [stepOver down]
      rfl
    rw [ended]
    exact stillFlies stimulus flying rfl rfl
  | false =>
    obtain ⟨data,_⟩ := stepData s.link down input
    refine dataFlies (stimulus,(call s input received after).2) flying labelled data backed rfl rfl ?_
    rw [← regainedAcl]
    rfl

theorem meetFlies (stimulus : Stimulus) (clock : EventClock) (turns : Nat)
    (flying : Flying layout past s.link.connection.toDataPath)
    (labelled : Labelled s.link.connection.toControlPlane) :
    Earned layout past (meet layout s clock turns).2 ∧
      Flying layout (past ++ [(stimulus,(meet layout s clock turns).2)])
        (meet layout s clock turns).1.link.connection.toDataPath := by
  have worth := answered layout s.link clock turns s.chip
  unfold meet
  generalize answer layout s.link clock turns s.chip = answer at worth
  obtain ⟨outcome,after⟩ := answer
  cases outcome with
  | none => exact stillFlies stimulus flying rfl rfl
  | some received =>
    refine callFlies stimulus _ received after flying labelled fun clock' radio same told heard => ?_
    cases same
    obtain ⟨r,rfl,rfl⟩ := Option.map_eq_some_iff.mp heard
    obtain ⟨request,more,since,asks,reported⟩ := worth.reported r rfl
    exact ⟨r,request,more,since,rfl,rfl,(stepAsks s.link clock _).trans asks,reported⟩

theorem proceedFlies (stimulus : Stimulus) (flying : Flying layout past s.link.connection.toDataPath)
    (labelled : Labelled s.link.connection.toControlPlane) :
    Earned layout past (proceed layout s stimulus).2 ∧
      Flying layout (past ++ [(stimulus,(proceed layout s stimulus).2)])
        (proceed layout s stimulus).1.link.connection.toDataPath := by
  unfold proceed
  split
  · exact stillFlies stimulus flying rfl rfl
  · cases stimulus with
    | host packet => exact callFlies _ _ _ _ flying labelled fun _ _ other => (nomatch other)
    | deadlines now => exact callFlies _ _ _ _ flying labelled fun _ _ other => (nomatch other)
    | skip now clock => exact callFlies _ _ _ _ flying labelled fun _ _ other => (nomatch other)
    | event clock turns => exact meetFlies _ clock turns flying labelled
    | idle => exact stillFlies _ flying rfl rfl

theorem callLabelled (input : Input) (received : Option RadioOperations.ExchangeResult) (after : Chip)
    (labelled : Labelled s.link.connection.toControlPlane) :
    Labelled (call s input received after).1.link.connection.toControlPlane :=
  stepLabelled labelled input

theorem proceedLabelled (stimulus : Stimulus) (labelled : Labelled s.link.connection.toControlPlane) :
    Labelled (proceed layout s stimulus).1.link.connection.toControlPlane := by
  unfold proceed
  split
  · exact labelled
  · cases stimulus with
    | host packet => exact callLabelled _ _ _ labelled
    | deadlines now => exact callLabelled _ _ _ labelled
    | skip now clock => exact callLabelled _ _ _ labelled
    | event clock turns =>
      dsimp only
      unfold meet
      split
      · exact labelled
      · exact callLabelled _ _ _ labelled
    | idle => exact labelled

theorem startFlies {handle request endUs now c}
    (created : ActiveConnection.newFor handle request endUs now = some c) : Flying layout [] c.toDataPath := by
  unfold ActiveConnection.newFor at created
  split at created
  · cases created
  · cases created
    obtain ⟨packed,empty⟩ := emptyPacked PendingData aclQueueCapacity
    have none : held ⟨0,0,1,none,Slots.empty PendingData aclQueueCapacity,.none,[],false⟩ = [] :=
      congrArg (List.map fragment) empty
    refine ⟨packed,?_,.inl rfl,.inl rfl,Option.none,.idle rfl rfl,fun _ _ absent => (nomatch absent)⟩
    intro pdu member
    rw [show held _ = [] from none] at member
    cases member

/- Whatever the device does, the Host is told that a fragment is completed only after a frame of this
fragment was released by a received packet and seen to complete, and a packet read with no CRC
error expects another number than that frame's; and it is given only what such a packet carried. -/
theorem dataRestsOnRegisters {request endUs now c} (created : ActiveConnection.new request endUs now = some c)
    (layout : RadioOperations.Layout) (chip : Chip) {past : Past} {s : Station}
    (run : History (station layout) ⟨⟨c,false⟩,chip,false⟩ past s) : Accounted layout past := by
  refine (Machines.historyInvariant
    (I := fun past s => Accounted layout past ∧ Flying layout past s.link.connection.toDataPath ∧
      Labelled s.link.connection.toControlPlane)
    ⟨fun _ _ _ absent => ?_,startFlies created,createdLabelled created⟩ ?_ run).1
  · cases List.append_eq_nil_iff.mp absent.symm |>.2
  · intro past s stimulus ⟨accounted,flying,labelled⟩
    obtain ⟨earned,flies⟩ := proceedFlies stimulus flying labelled
    exact ⟨accountedNext accounted earned,flies,proceedLabelled stimulus labelled⟩

/- A packet of the Host, and two events with a device that has heard the same octet each time: the
first one sends the packet, the second one finds it acknowledged. -/
def hearing : Chip :=
  steady (lleStatusRxToTx ||| lleStatusRxComplete ||| lleStatusTxComplete) (encodeTransmitBuffer [0x06,1,9])

def twoMeetings : List Stimulus :=
  [.host ⟨.aclData,[0x01,0x20,0x01,0x00,7]⟩,.event ⟨2000,2000,2000,2000⟩ 20,.idle,
   .event ⟨32000,32000,32000,32000⟩ 20]

theorem twoMeetingsRest :
    (Machines.run (station ⟨0,0,0⟩) ⟨⟨sampleConnection,false⟩,hearing,false⟩ twoMeetings).1.flatMap
      (fun entry => entry.2.completed) = [⟨2,[7]⟩] ∧
    Accounted ⟨0,0,0⟩ (Machines.run (station ⟨0,0,0⟩) ⟨⟨sampleConnection,false⟩,hearing,false⟩ twoMeetings).1 :=
  ⟨by decide +kernel,
    dataRestsOnRegisters sampleCreated ⟨0,0,0⟩ hearing (Machines.runHistory (station ⟨0,0,0⟩) _ twoMeetings)⟩

end Run

/-! Every event comes back. -/

structure AtRest (s : Station) : Prop where
  runs : RunsOn s.chip
  shut : s.stuck = false → ShutDown s.chip

section Rest
variable {layout : RadioOperations.Layout} {s : Station}

theorem idleRests (rest : AtRest s) (free : s.stuck = false) : AtRest (still s (elapse s.chip) false).1 :=
  ⟨runsOnLater rest.runs (waitedElapse (k := 0) ⟨rfl,rfl,rfl⟩),fun _ => shutElapse (rest.shut free)⟩

theorem meetRests (rest : AtRest s) (free : s.stuck = false) (clock : EventClock) (turns : Nat) :
    AtRest (meet layout s clock turns).1 := by
  have worth := answered layout s.link clock turns s.chip
  have runs := runsOnAfterwards rest.runs worth.afterwards
  unfold meet
  generalize answer layout s.link clock turns s.chip = answer at worth runs
  obtain ⟨outcome,after⟩ := answer
  cases outcome with
  | none => exact ⟨runs,fun wrong => (nomatch wrong)⟩
  | some received =>
    refine ⟨runs,fun _ => ?_⟩
    rcases worth.rests nofun with same | shut
    · exact (show after = s.chip from same) ▸ rest.shut free
    · exact shut

theorem proceedRests (rest : AtRest s) (stimulus : Stimulus) : AtRest (proceed layout s stimulus).1 := by
  unfold proceed
  split
  · exact ⟨rest.runs,fun wrong => (nomatch wrong)⟩
  · rename_i going
    have free : s.stuck = false := Bool.eq_false_of_not_eq_true going
    cases stimulus with
    | host packet => exact ⟨rest.runs,fun _ => rest.shut free⟩
    | deadlines now => exact ⟨rest.runs,fun _ => rest.shut free⟩
    | skip now clock => exact ⟨rest.runs,fun _ => rest.shut free⟩
    | event clock turns => exact meetRests rest free clock turns
    | idle => exact idleRests rest free

theorem meetReturns (runs : RunsOn s.chip) (clock : EventClock) :
    ∃ enough after seen, ∀ turns, enough ≤ turns →
      meet layout s clock turns = (after,seen) ∧ after.stuck = false := by
  obtain ⟨enough,received,after,ends⟩ := answerEnds layout s.link clock runs
  refine ⟨enough,(call s (.event clock (received.map heardOf)) received after).1,
    (call s (.event clock (received.map heardOf)) received after).2,fun turns late => ?_⟩
  unfold meet
  rw [ends turns late]
  exact ⟨rfl,rfl⟩

/- Between two calls nothing on the radio is left running, and on a device whose clock goes on the
next event comes back with the radio shut down again. -/
theorem eventsComeBack (layout : RadioOperations.Layout) (first : Station) (runs : RunsOn first.chip)
    (shut : first.stuck = false → ShutDown first.chip) {past : Past} {s : Station}
    (run : History (station layout) first past s) (free : s.stuck = false) :
    ShutDown s.chip ∧ ∀ clock, ∃ enough after seen, ∀ turns, enough ≤ turns →
      proceed layout s (.event clock turns) = (after,seen) ∧ after.stuck = false ∧ ShutDown after.chip := by
  have rest : AtRest s := Machines.stateInvariant (I := AtRest) ⟨runs,shut⟩
    (fun _ stimulus rest => proceedRests rest stimulus) run
  refine ⟨rest.shut free,fun clock => ?_⟩
  obtain ⟨enough,after,seen,returns⟩ := @meetReturns layout s rest.runs clock
  refine ⟨enough,after,seen,fun turns late => ?_⟩
  obtain ⟨same,back⟩ := returns turns late
  have here : proceed layout s (.event clock turns) = (after,seen) := by
    unfold proceed
    rw [if_neg (by rw [free]; exact Bool.false_ne_true)]
    exact same
  have rests : AtRest (proceed layout s (.event clock turns)).1 := proceedRests rest _
  rw [here] at rests
  exact ⟨here,back,rests.shut back⟩

/- The same device after a shutdown. -/
def resting : Chip :=
  {hearing with words := fun address =>
    if address = lleMode then lleModeIdle else if address = bbConfig then bbModeIdle else 0}

theorem restingRunsOn : RunsOn resting :=
  runsOnLater (k := 0) (steadyRunsOn _ _ : RunsOn hearing) ⟨rfl,rfl,rfl⟩

theorem twoMeetingsComeBack :
    ShutDown (Machines.run (station ⟨0,0,0⟩) ⟨⟨sampleConnection,false⟩,resting,false⟩ twoMeetings).2.chip ∧
    ∀ clock, ∃ enough after seen, ∀ turns, enough ≤ turns →
      proceed ⟨0,0,0⟩ (Machines.run (station ⟨0,0,0⟩) ⟨⟨sampleConnection,false⟩,resting,false⟩ twoMeetings).2
        (.event clock turns) = (after,seen) ∧ after.stuck = false ∧ ShutDown after.chip :=
  eventsComeBack ⟨0,0,0⟩ ⟨⟨sampleConnection,false⟩,resting,false⟩ restingRunsOn
    (fun _ => ⟨rfl,rfl,by decide,by decide⟩) (Machines.runHistory (station ⟨0,0,0⟩) _ twoMeetings)
    (by decide +kernel)

end Rest

end Ch58xHal.ConnectionAir
