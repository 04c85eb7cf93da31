import Ch58xHal.Agenda
import Ch58xHal.OwnershipRun

/-! Lockstep with the Central. The timetable is what both ends can work out from the CONNECT_IND,
the packets heard and the indications in them: which event comes next, on which channel, when,
and with how long a transmit window. The connection keeps its own counters; every run of it
agrees with the timetable of its trace. -/
namespace Ch58xHal.Lockstep
open ControlPdu ChannelSelection Llcp Connection ConnectionEvent ConnectionRun ControlHandlers
open DataPlane InstantOwners OwnershipSteps OwnershipRun Machines Agenda

/- `heardEvent` and `heardAnchor` are the last event with a packet and its anchor, at first
those of the CONNECT_IND; `executed` is the event after the last one the radio was used in. -/
structure Timetable where
  opening : ConnectInd
  heardEvent : Nat
  heardAnchor : Nat
  executed : Nat
  event : Nat
  sn : UInt8
  updates : List (Nat × ConnectionUpdateInd)
  maps : List (Nat × ChannelMapInd)
  deriving DecidableEq, Repr

def offsetUs (u : ConnectionUpdateInd) : Nat := u.windowOffset.toNat * 1250

namespace Timetable

def start (request : ConnectInd) (connectIndEndUs : Nat) : Timetable :=
  ⟨request,0,connectIndEndUs + (request.windowOffset.toNat + 1) * 1250,0,0,0,[],[]⟩

variable (t : Timetable)

def firstTerms : ConnectionUpdateInd :=
  ⟨t.opening.windowSize,t.opening.windowOffset,t.opening.interval,t.opening.latency,
    t.opening.supervisionTimeout,0⟩

def firstMap : ChannelMapInd := ⟨t.opening.channelMap,0⟩

def terms (n : Nat) : Nat × ConnectionUpdateInd := latest t.firstTerms t.updates n

def intervalUs (n : Nat) : Nat := (t.terms n).2.interval.toNat * 1250

/- The last anchor heard, the intervals since, and the offset of an update on the way. -/
def anchor : Nat :=
  t.heardAnchor + ∑ i ∈ Finset.Ico t.heardEvent t.event, t.intervalUs i +
    accrued offsetUs t.updates t.heardEvent t.event

def map : ChannelMap := (latest t.firstMap t.maps t.event).2.map

def unmapped : Nat := (t.event + 1) * t.opening.hopIncrement.toNat % 37

def channel : UInt8 := remap t.map (usedChannels t.map) (UInt8.ofNat t.unmapped)

/- The transmit window of the terms in force, until the radio has been used once under them. -/
def windowUs : Nat :=
  if t.executed ≤ (t.terms t.event).1 then (t.terms t.event).2.windowSize.toNat * 1250 else 0

def announceUpdate (payload : List UInt8) : List (Nat × ConnectionUpdateInd) :=
  match ConnectionUpdateInd.parse payload (UInt16.ofNat t.event) with
  | .ok u => (dateOf t.event u.instant,u) :: t.updates
  | .error _ => t.updates

def announceMap (payload : List UInt8) : List (Nat × ChannelMapInd) :=
  match ChannelMapInd.parse payload (UInt16.ofNat t.event) with
  | .ok m => (dateOf t.event m.instant,m) :: t.maps
  | .error _ => t.maps

/- A packet with a sequence number not yet seen; a Control PDU may announce a change. -/
def accept (header : UInt8) (payload : List UInt8) : Timetable :=
  if (header >>> 3) &&& 1 = t.sn then
    if header &&& 0x03 = llidControl then
      {t with sn := t.sn ^^^ 1,updates := t.announceUpdate payload,maps := t.announceMap payload}
    else {t with sn := t.sn ^^^ 1}
  else t

def hear (radio : Option ExchangeResult) : Timetable :=
  match radio with
  | none => t
  | some received =>
    match receivedPdu received with
    | none => t
    | some (header,payload) =>
      {t with
        heardEvent := t.event
        heardAnchor := received.timestampUs - (1 + 4 + 2 + payload.length + 3) * 8}.accept header payload

def tick (events : Nat) : Timetable := {t with event := t.event + events}

/- The radio is used for the event at hand. -/
def engage : Timetable := {t with executed := t.event + 1}

def follow : Input × Report → Timetable
  | (.host _,_) => t
  | (.deadlines _,_) => t
  | (.skip _ _,report) => t.tick report.skipped.toNat
  | (.event _ radio,_) => (t.engage.hear radio).tick 1

end Timetable

def timetable (request : ConnectInd) (connectIndEndUs : Nat) (trace : Trace) : Timetable :=
  trace.foldl Timetable.follow (.start request connectIndEndUs)

/-! What the connection keeps of it. -/

structure Pace where
  counter : UInt16
  channels : ChannelSelection1
  interval : UInt16
  sn : UInt8
  update : Option ConnectionUpdateInd
  map : Option ChannelMapInd
  deriving DecidableEq, Repr

def pace (c : ActiveConnection) : Pace :=
  ⟨c.eventCounter,c.channels,c.request.interval,c.expectedSn,c.pendingConnectionUpdate,
    c.pendingChannelMap⟩

/- `hops` is how often the channel selection has moved, `terms` the update in force. -/
structure InStep (t : Timetable) (hops : Nat) (terms : Nat × ConnectionUpdateInd) (p : Pace) : Prop where
  counter : p.counter = UInt16.ofNat t.event
  hop : p.channels.hop = t.opening.hopIncrement
  phase : p.channels.lastUnmapped.toNat = hops * t.opening.hopIncrement.toNat % 37
  sequence : p.sn = t.sn
  update : Awaits ConnectionUpdateInd.instant t.firstTerms t.event t.updates p.update terms
  interval : p.interval = terms.2.interval
  map : ∃ entry, Awaits ChannelMapInd.instant t.firstMap t.event t.maps p.map entry ∧
    p.channels.map = entry.2.map

/- Nothing waits for the event at hand. -/
def Quiet (t : Timetable) (p : Pace) : Prop :=
  due ConnectionUpdateInd.instant t.event p.update = false ∧ due ChannelMapInd.instant t.event p.map = false

def window (t : Timetable) (terms : Nat × ConnectionUpdateInd) : Nat :=
  if t.executed ≤ terms.1 then terms.2.windowSize.toNat * 1250 else 0

/-! Instants. -/

theorem mappedTiming {c after : ActiveConnection} (ok : c.applyChannelMap = .ok after) :
    after.channels.hop = c.channels.hop ∧ after.channels.lastUnmapped = c.channels.lastUnmapped ∧
      after.request.sleepClockAccuracy = c.request.sleepClockAccuracy ∧
      after.receiveWindowSizeUs = c.receiveWindowSizeUs := by
  unfold ActiveConnection.applyChannelMap at ok
  split at ok
  · cases ok
    exact ⟨rfl,rfl,rfl,rfl⟩
  · split at ok
    · split at ok
      · cases ok
      · rename_i channels installed
        obtain ⟨_,hop,phase⟩ := updatedMap installed
        cases ok
        exact ⟨hop,phase,rfl,rfl⟩
    · cases ok
      exact ⟨rfl,rfl,rfl,rfl⟩

theorem updatedTiming (c : ActiveConnection) (now) :
    (c.applyConnectionUpdate now).1.channels = c.channels ∧
      (c.applyConnectionUpdate now).1.request.sleepClockAccuracy = c.request.sleepClockAccuracy ∧
      (c.applyConnectionUpdate now).1.receiveWindowSizeUs =
        if (owned c).updateDue then (owned c).settle.parameters.windowSize.toNat * 1250
        else c.receiveWindowSizeUs := by
  unfold ActiveConnection.applyConnectionUpdate
  cases pending : c.pendingConnectionUpdate with
  | none => simp [owned,view,Ownership.updateDue,pending]
  | some update =>
    by_cases now : update.instant = c.eventCounter
    · simp [owned,view,Ownership.updateDue,Ownership.settle,parametersOf,pending,now,
        ActiveConnection.installUpdate]
    · simp [owned,view,Ownership.updateDue,pending,now]

theorem settleTiming {c after : ActiveConnection} {now notify} (ok : c.settleInstants now = .ok (after,notify)) :
    after.channels.hop = c.channels.hop ∧ after.channels.lastUnmapped = c.channels.lastUnmapped ∧
      after.request.sleepClockAccuracy = c.request.sleepClockAccuracy ∧
      after.receiveWindowSizeUs =
        if (owned c).updateDue then (owned c).settle.parameters.windowSize.toNat * 1250
        else c.receiveWindowSizeUs := by
  unfold ActiveConnection.settleInstants ActiveConnection.applyInstants at ok
  cases mapped : c.applyChannelMap with
  | error reason => simp [mapped] at ok
  | ok middle =>
    obtain ⟨hop,phase,clock,kept⟩ := mappedTiming mapped
    obtain ⟨channels,clock',taken⟩ := updatedTiming middle now
    have first := appliedMap mapped
    have due : (owned middle).updateDue = (owned c).updateDue := by rw [first]; rfl
    have force : (owned middle).settle.parameters = (owned c).settle.parameters := by rw [first]; rfl
    rw [due,force,kept] at taken
    rw [mapped] at ok
    obtain ⟨same,_⟩ := Prod.mk.inj (Except.ok.inj ok)
    rw [← same]
    split <;> exact ⟨(congrArg ChannelSelection1.hop channels).trans hop,
      (congrArg ChannelSelection1.lastUnmapped channels).trans phase,clock'.trans clock,taken⟩

theorem settledAnchor {c after : ActiveConnection} {now notify} (ok : c.settleInstants now = .ok (after,notify)) :
    after.nextAnchor = c.nextAnchor := by
  obtain ⟨channels,request,window,deadline,map,update,asked,rfl⟩ := settleShape ok
  rfl

section Instants
variable {t : Timetable} {hops : Nat} {terms : Nat × ConnectionUpdateInd} {c after : ActiveConnection}

theorem dueUpdate (step : InStep t hops terms (pace c)) :
    due ConnectionUpdateInd.instant t.event c.pendingConnectionUpdate = (owned c).updateDue := by
  rw [due,← step.counter]
  rfl

theorem dueMap (step : InStep t hops terms (pace c)) :
    due ChannelMapInd.instant t.event c.pendingChannelMap = (owned c).mapDue := by
  rw [due,← step.counter]
  rfl

/- What is due is the indication the Central announced for this event. -/
theorem dueTerms (step : InStep t hops terms (pace c)) (isDue : (owned c).updateDue = true) :
    ∃ u, c.pendingConnectionUpdate = some u ∧ t.terms t.event = (t.event,u) := by
  obtain ⟨u,found,now⟩ := updateDueNow isDue
  have found : c.pendingConnectionUpdate = some u := found
  have waits : Awaits _ _ _ _ c.pendingConnectionUpdate terms := step.update
  rw [found] at waits
  exact ⟨u,found,(awaitsDue waits (now.trans step.counter)).1⟩

theorem settledTerms (step : InStep t hops terms (pace c)) :
    (owned c).settle.parameters =
      if (owned c).updateDue then parametersOf (t.terms t.event).2 else (owned c).parameters := by
  cases isDue : (owned c).updateDue with
  | false => simp [Ownership.settle,isDue]
  | true =>
    obtain ⟨u,found,here⟩ := dueTerms step isDue
    have pending : (owned c).update = some u := found
    simp [Ownership.settle,isDue,pending,here]

theorem settleInStep {now notify} (step : InStep t hops terms (pace c))
    (ok : c.settleInstants now = .ok (after,notify)) :
    InStep t hops (t.terms t.event) (pace after) ∧ Quiet t (pace after) := by
  obtain ⟨same,_,_⟩ := settleOwned ok
  obtain ⟨hop,phase,_,_⟩ := settleTiming ok
  obtain ⟨channels,request,window,deadline,map',update',asked,shape⟩ := settleShape ok
  have counter : after.eventCounter = c.eventCounter := by rw [shape]
  have sequence : after.expectedSn = c.expectedSn := by rw [shape]
  have update : after.pendingConnectionUpdate =
      if due ConnectionUpdateInd.instant t.event c.pendingConnectionUpdate then none
      else c.pendingConnectionUpdate := by
    rw [dueUpdate step]
    exact congrArg Ownership.update same
  have map : after.pendingChannelMap =
      if due ChannelMapInd.instant t.event c.pendingChannelMap then none else c.pendingChannelMap := by
    rw [dueMap step]
    exact congrArg Ownership.map same
  have interval : after.request.interval = (owned c).settle.parameters.interval :=
    congrArg (fun o => o.parameters.interval) same
  refine ⟨⟨counter.trans step.counter,hop.trans step.hop,?_,sequence.trans step.sequence,?_,?_,?_⟩,?_,?_⟩
  · show after.channels.lastUnmapped.toNat = _
    rw [phase]
    exact step.phase
  · show Awaits _ _ _ _ after.pendingConnectionUpdate _
    rw [update]
    exact awaitsSettle step.update
  · show after.request.interval = _
    rw [interval,settledTerms step]
    cases isDue : (owned c).updateDue with
    | true => rfl
    | false =>
      have here := awaitsQuiet step.update ((dueUpdate step).trans isDue)
      have kept : c.request.interval = terms.2.interval := step.interval
      rw [here] at kept
      exact kept
  · obtain ⟨entry,waits,inForce⟩ := step.map
    refine ⟨latest t.firstMap t.maps t.event,?_,?_⟩
    · show Awaits _ _ _ _ after.pendingChannelMap _
      rw [map]
      exact awaitsSettle waits
    · have installed : after.channels.map = (owned c).settle.channelMap :=
        congrArg Ownership.channelMap same
      show after.channels.map = _
      rw [installed]
      cases isDue : (owned c).mapDue with
      | true =>
        cases pending : c.pendingChannelMap with
        | none => simp [Ownership.mapDue,owned,view,pending] at isDue
        | some m =>
          have now : m.instant = c.eventCounter := by
            simpa [Ownership.mapDue,owned,view,pending] using isDue
          have waits : Awaits _ _ _ _ c.pendingChannelMap entry := waits
          rw [pending] at waits
          rw [(awaitsDue waits (now.trans step.counter)).1]
          have found : (owned c).map = some m := pending
          simp [Ownership.settle,isDue,found]
      | false =>
        have here := awaitsQuiet waits ((dueMap step).trans isDue)
        rw [← here]
        simp only [Ownership.settle,isDue]
        exact inForce
  · show due _ _ after.pendingConnectionUpdate = false
    rw [update]
    exact takenClear _ _
  · show due _ _ after.pendingChannelMap = false
    rw [map]
    exact takenClear _ _

theorem settleWindow {now notify} (step : InStep t hops terms (pace c)) (engaged : t.executed ≤ t.event)
    (held : c.receiveWindowSizeUs = window t terms) (ok : c.settleInstants now = .ok (after,notify)) :
    after.receiveWindowSizeUs = window t (t.terms t.event) := by
  obtain ⟨_,_,_,taken⟩ := settleTiming ok
  rw [taken,settledTerms step]
  cases isDue : (owned c).updateDue with
  | false =>
    have here := awaitsQuiet step.update ((dueUpdate step).trans isDue)
    rw [if_neg Bool.false_ne_true,held,here]
    rfl
  | true =>
    obtain ⟨u,found,here⟩ := dueTerms step isDue
    rw [if_pos rfl,if_pos rfl,here,window,if_pos engaged]
    rfl

end Instants

/-! The next event. -/

theorem anchorTick (t : Timetable) {pending terms}
    (waits : Awaits ConnectionUpdateInd.instant t.firstTerms t.event t.updates pending terms)
    (quiet : due ConnectionUpdateInd.instant t.event pending = false) (heard : t.heardEvent ≤ t.event) :
    (t.tick 1).anchor = t.anchor + t.intervalUs t.event +
      added ConnectionUpdateInd.instant offsetUs (UInt16.ofNat (t.event + 1)) pending := by
  have sum := Finset.sum_Ico_succ_top heard t.intervalUs
  have offset := accruedNext offsetUs waits quiet heard
  show t.heardAnchor + ∑ i ∈ Finset.Ico t.heardEvent (t.event + 1), t.intervalUs i +
    accrued offsetUs t.updates t.heardEvent (t.event + 1) = _
  rw [sum,offset,Timetable.anchor]
  omega

section Next
variable {t : Timetable} {hops : Nat} {terms : Nat × ConnectionUpdateInd} {c : ActiveConnection}

theorem hopInStep (step : InStep t hops terms (pace c)) :
    InStep t (hops + 1) terms (pace {c with toEventTiming := c.nextChannel.1}) := by
  refine ⟨step.counter,step.hop,?_,step.sequence,step.update,step.interval,step.map⟩
  have moved := nextUnmapped c.channels.phase c.channels.hopRange.2
  have hop : c.channels.hop = t.opening.hopIncrement := step.hop
  have phase : c.channels.lastUnmapped.toNat = hops * t.opening.hopIncrement.toNat % 37 := step.phase
  show ((c.channels.lastUnmapped + c.channels.hop) % 37).toNat = _
  rw [moved,phase,hop,Nat.mod_add_mod,Nat.add_mul,Nat.one_mul]

theorem scheduledAnchor (c : ActiveConnection) :
    c.scheduleFollowingEvent.nextAnchor = c.nextAnchor + c.interval +
      added ConnectionUpdateInd.instant offsetUs (c.eventCounter + 1) c.pendingConnectionUpdate := by
  unfold ActiveConnection.scheduleFollowingEvent
  cases c.pendingConnectionUpdate <;> rfl

theorem raisedCounter (step : InStep t hops terms (pace c)) :
    c.eventCounter + 1 = UInt16.ofNat (t.event + 1) := by
  rw [UInt16.ofNat_add,← show c.eventCounter = _ from step.counter]
  rfl

theorem tickInStep (step : InStep t hops terms (pace c)) (quiet : Quiet t (pace c)) :
    InStep (t.tick 1) hops terms (pace c.scheduleFollowingEvent) := by
  obtain ⟨entry,waits,inForce⟩ := step.map
  exact ⟨raisedCounter step,step.hop,step.phase,step.sequence,awaitsNext step.update quiet.1,step.interval,
    ⟨entry,awaitsNext waits quiet.2,inForce⟩⟩

theorem tickAnchor (step : InStep t hops terms (pace c)) (quiet : Quiet t (pace c))
    (heard : t.heardEvent ≤ t.event) (anchor : c.nextAnchor = t.anchor) :
    c.scheduleFollowingEvent.nextAnchor = (t.tick 1).anchor := by
  rw [anchorTick t step.update quiet.1 heard]
  have interval : c.interval = t.intervalUs t.event := by
    have here := awaitsQuiet step.update quiet.1
    have kept : c.request.interval = terms.2.interval := step.interval
    rw [here] at kept
    rw [EventTiming.interval,kept]
    rfl
  rw [scheduledAnchor,raisedCounter step,interval,anchor]
  rfl

end Next

/-! Skipped events. -/

/- A connection between two events. -/
structure Locked (t : Timetable) (c : ActiveConnection) : Prop where
  heard : t.heardEvent ≤ t.event
  anchor : c.nextAnchor = t.anchor
  executed : t.executed ≤ t.event
  inStep : ∃ terms, InStep t t.event terms (pace c) ∧ c.receiveWindowSizeUs = window t terms

theorem skipLocked {t : Timetable} {c after : ActiveConnection} {now notify} (locked : Locked t c)
    (skips : c.skipEvent now = .ok (after,notify)) : Locked (t.tick 1) after := by
  obtain ⟨terms,step,held⟩ := locked.inStep
  obtain ⟨settled,settles,rfl⟩ := skipShape skips
  obtain ⟨settling,quiet⟩ := settleInStep step settles
  have taken := settleWindow step locked.executed held settles
  have anchor : settled.nextAnchor = t.anchor := (settledAnchor settles).trans locked.anchor
  have hopped := hopInStep settling
  exact ⟨Nat.le_succ_of_le locked.heard,tickAnchor hopped quiet locked.heard anchor,
    Nat.le_succ_of_le locked.executed,t.terms t.event,tickInStep hopped quiet,taken⟩

/- The count of the loop is the number of its turns: it fails before it would wrap. -/
theorem skipLoopLocked {now clock turns count notify} {t : Timetable} {c after : ActiveConnection} {total told}
    (locked : Locked t c) (room : count.toNat + turns ≤ 65535)
    (ok : ActiveConnection.skipLoop now clock turns count notify c = .ok (after,total,told)) :
    ∃ events, total.toNat = count.toNat + events ∧ Locked (t.tick events) after := by
  have path := skipTurns ok
  clear ok
  induction path generalizing t with
  | reached => exact ⟨0,rfl,locked⟩
  | @turn turns count notify c next more expired skips rest ih =>
    have raised : (count + 1).toNat = count.toNat + 1 := by
      rw [UInt16.toNat_add]
      exact Nat.mod_eq_of_lt (by show count.toNat + 1 < 2^16; omega)
    obtain ⟨events,counted,later⟩ := ih (skipLocked locked skips) (by omega)
    refine ⟨events + 1,by omega,?_⟩
    have same : (t.tick 1).tick events = t.tick (events + 1) := by
      simp only [Timetable.tick,Nat.add_assoc,Nat.add_comm 1]
    rwa [same] at later

/-! Received indications. -/

section Received
variable {c : ActiveConnection} {payload : List UInt8}

theorem updateOpcode {counter u} (parsed : ConnectionUpdateInd.parse payload counter = .ok u) :
    ∃ rest, payload = 0x00 :: rest := by
  unfold ConnectionUpdateInd.parse at parsed
  split at parsed
  · cases parsed
  · rename_i form
    cases payload with
    | nil => simp [ConnectionUpdateInd.pduLen] at form
    | cons opcode rest =>
      have zero : opcode = 0x00 := by
        simpa [octet,ConnectionUpdateInd.opcode] using (not_or.mp form).2
      exact ⟨rest,by rw [zero]⟩

theorem mapOpcode {counter m} (parsed : ChannelMapInd.parse payload counter = .ok m) :
    ∃ rest, payload = 0x01 :: rest := by
  unfold ChannelMapInd.parse at parsed
  split at parsed
  · cases parsed
  · rename_i form
    cases payload with
    | nil => simp [ChannelMapInd.pduLen] at form
    | cons opcode rest =>
      have one : opcode = 0x01 := by
        simpa [octet,ChannelMapInd.opcode] using (not_or.mp form).2
      exact ⟨rest,by rw [one]⟩

/- What a handler can do to the two indications. -/
inductive Indicates (c : ActiveConnection) (payload : List UInt8) (p : ControlPlane) : Prop where
  | update {u} (parsed : ConnectionUpdateInd.parse payload c.eventCounter = .ok u)
      (stored : p.pendingConnectionUpdate = some u) (map : p.pendingChannelMap = c.pendingChannelMap)
      (free : c.pendingConnectionUpdate = none)
  | map {m} (parsed : ChannelMapInd.parse payload c.eventCounter = .ok m)
      (stored : p.pendingChannelMap = some m)
      (update : p.pendingConnectionUpdate = c.pendingConnectionUpdate) (free : c.pendingChannelMap = none)
  | none (update : p.pendingConnectionUpdate = c.pendingConnectionUpdate)
      (map : p.pendingChannelMap = c.pendingChannelMap)

theorem viewedNone {p : ControlPlane} (same : view c.toEventTiming p = owned c) : Indicates c payload p :=
  .none (congrArg Ownership.update same) (congrArg Ownership.map same)

theorem clearedIndications (c : ActiveConnection) (error) :
    (cleared c error).control.pendingConnectionUpdate = c.pendingConnectionUpdate ∧
      (cleared c error).control.pendingChannelMap = c.pendingChannelMap := by
  obtain ⟨procedures,same⟩ := clearedView c error
  exact ⟨congrArg Ownership.update same,congrArg Ownership.map same⟩

theorem handledIndicates {handled : Handled} (path : Handles c payload handled) :
    Indicates c payload handled.control := by
  cases path with
  | ignored => exact .none rfl rfl
  | ended => exact .none rfl rfl
  | refused answer => exact viewedNone (queueControlView c.toEventTiming c.toControlPlane answer)
  | @dropped error asked code =>
    have dropping : cleared c error = dropLocalRequest c c.toControlPlane error := if_pos asked
    obtain ⟨update,map⟩ := clearedIndications c error
    rw [dropping] at update map
    exact .none update map
  | @rejected error active =>
    have same := failView c.toEventTiming c.toControlPlane .remoteSide error
    exact .none (congrArg Ownership.update same) (congrArg Ownership.map same)
  | responded plain responds =>
    obtain ⟨procedures,same⟩ := respondView c.toEventTiming responds
    exact .none (congrArg Ownership.update same) (congrArg Ownership.map same)
  | requested responds =>
    obtain ⟨procedures,same⟩ := respondView c.toEventTiming responds
    obtain ⟨update,map⟩ := clearedIndications c requestCollision
    exact .none ((congrArg Ownership.update same).trans update) ((congrArg Ownership.map same).trans map)
  | updateAnswered parsed free owner answer => exact .update parsed rfl rfl free
  | updateIndicated parsed free unrequested started =>
    obtain ⟨_,_,_,_,_,_,_,rfl⟩ := instantStarted started
    exact .update parsed rfl rfl free
  | updateCollided => exact .none rfl rfl
  | mapStored parsed free started =>
    obtain ⟨_,_,_,_,_,_,_,rfl⟩ := instantStarted started
    exact .map parsed rfl (clearedIndications c mapCollision).1 free
  | mapCollided =>
    obtain ⟨update,map⟩ := clearedIndications c mapCollision
    exact .none update map

/- An indication the connection survives was stored. -/
theorem updateStored {u} (parsed : ConnectionUpdateInd.parse payload c.eventCounter = .ok u)
    (lives : (handleLlControl c payload).reason = none) :
    (handleLlControl c payload).control.pendingConnectionUpdate = some u ∧ c.pendingConnectionUpdate = none := by
  obtain ⟨rest,form⟩ := updateOpcode parsed
  have handler : handleLlControl c payload = handleConnectionUpdateInd c payload := by rw [form]; rfl
  rw [handler] at lives ⊢
  unfold handleConnectionUpdateInd at lives ⊢
  rw [parsed] at lives ⊢
  dsimp only at lives ⊢
  by_cases free : c.pendingConnectionUpdate.isNone = true
  · rw [if_pos free] at lives ⊢
    by_cases mismatch : c.localConnectionParamRequest.any (fun request => !request.accepts u) = true
    · rw [if_pos mismatch] at lives
      cases lives
    rw [if_neg mismatch] at lives ⊢
    refine ⟨?_,Option.isNone_iff_eq_none.mp free⟩
    split at lives
    · cases lives
    · rfl
  · rw [if_neg free] at lives
    cases lives

theorem mapStored {m} (parsed : ChannelMapInd.parse payload c.eventCounter = .ok m)
    (lives : (handleLlControl c payload).reason = none) :
    (handleLlControl c payload).control.pendingChannelMap = some m ∧ c.pendingChannelMap = none := by
  obtain ⟨rest,form⟩ := mapOpcode parsed
  have handler : handleLlControl c payload = handleChannelMapInd c payload := by rw [form]; rfl
  rw [handler] at lives ⊢
  unfold handleChannelMapInd at lives ⊢
  rw [parsed] at lives ⊢
  dsimp only at lives ⊢
  by_cases free : c.pendingChannelMap.isNone = true
  · rw [if_pos free] at lives ⊢
    refine ⟨?_,Option.isNone_iff_eq_none.mp free⟩
    split at lives
    · cases lives
    · rfl
  · rw [if_neg free] at lives
    cases lives

end Received

section Accepted
variable {t : Timetable} {hops : Nat} {terms : Nat × ConnectionUpdateInd} {c : ActiveConnection}
  {payload : List UInt8}

theorem announcedUpdate (step : InStep t hops terms (pace c))
    (lives : (handleLlControl c payload).reason = none) :
    Awaits ConnectionUpdateInd.instant t.firstTerms t.event (t.announceUpdate payload)
      (handleLlControl c payload).control.pendingConnectionUpdate terms := by
  have counter : UInt16.ofNat t.event = c.eventCounter := step.counter.symm
  have waits : Awaits _ _ _ _ c.pendingConnectionUpdate terms := step.update
  unfold Timetable.announceUpdate
  rw [counter]
  cases parsed : ConnectionUpdateInd.parse payload c.eventCounter with
  | ok u =>
    obtain ⟨stored,free⟩ := updateStored parsed lives
    rw [stored]
    rw [free] at waits
    exact awaitsAnnounce waits u
  | error e =>
    cases handledIndicates (controlHandles c payload) with
    | update parsed' => simp [parsed] at parsed'
    | map _ _ update _ => rwa [update]
    | none update _ => rwa [update]

theorem announcedMap {entry} (counter : c.eventCounter = UInt16.ofNat t.event)
    (waits : Awaits ChannelMapInd.instant t.firstMap t.event t.maps c.pendingChannelMap entry)
    (lives : (handleLlControl c payload).reason = none) :
    Awaits ChannelMapInd.instant t.firstMap t.event (t.announceMap payload)
      (handleLlControl c payload).control.pendingChannelMap entry := by
  unfold Timetable.announceMap
  rw [← counter]
  cases parsed : ChannelMapInd.parse payload c.eventCounter with
  | ok m =>
    obtain ⟨stored,free⟩ := mapStored parsed lives
    rw [stored]
    rw [free] at waits
    exact awaitsAnnounce waits m
  | error e =>
    cases handledIndicates (controlHandles c payload) with
    | update _ _ map _ => rwa [map]
    | map parsed' => simp [parsed] at parsed'
    | none _ map => rwa [map]

theorem acceptInStep {header} (step : InStep t hops terms (pace c))
    (lives : (acceptReceive c header payload).2.2 = none) :
    InStep (t.accept header payload) hops terms (pace (acceptReceive c header payload).1) := by
  have sequence : c.expectedSn = t.sn := step.sequence
  unfold acceptReceive at lives ⊢
  unfold Timetable.accept
  rw [← sequence]
  by_cases fresh : (header >>> 3) &&& 1 = c.expectedSn
  · rw [if_pos fresh] at lives ⊢
    rw [if_pos fresh]
    dsimp only at lives ⊢
    by_cases control : header &&& 0x03 = llidControl
    · rw [if_pos control] at lives ⊢
      rw [if_pos control]
      obtain ⟨entry,waits,inForce⟩ := step.map
      exact ⟨step.counter,step.hop,step.phase,rfl,
        announcedUpdate (c := {c with expectedSn := c.expectedSn ^^^ 1})
          (t := {t with sn := c.expectedSn ^^^ 1})
          ⟨step.counter,step.hop,step.phase,rfl,step.update,step.interval,step.map⟩ lives,
        step.interval,entry,
        announcedMap (c := {c with expectedSn := c.expectedSn ^^^ 1}) step.counter waits lives,inForce⟩
    · rw [if_neg control]
      rw [if_neg control]
      split <;> exact ⟨step.counter,step.hop,step.phase,rfl,step.update,step.interval,step.map⟩
  · rw [if_neg fresh]
    rw [if_neg fresh]
    exact ⟨step.counter,step.hop,step.phase,step.sequence,step.update,step.interval,step.map⟩

end Accepted

/-! One event. -/

theorem alikePace {c after : ActiveConnection} (timing : after.toEventTiming = c.toEventTiming)
    (sequence : after.expectedSn = c.expectedSn) (calm : Calm (owned c) (owned after)) :
    pace after = pace c := by
  obtain ⟨_,procedures,same⟩ := calm
  have update : after.pendingConnectionUpdate = c.pendingConnectionUpdate := congrArg Ownership.update same
  have map : after.pendingChannelMap = c.pendingChannelMap := congrArg Ownership.map same
  simp only [pace,timing,sequence,update,map]

theorem stagePace {c staged : ActiveConnection} (ok : stageTransmit c = some staged) :
    pace staged = pace c ∧ staged.toEventTiming = c.toEventTiming := by
  obtain ⟨path,timing,_⟩ := stagePath ok
  have sequence := (congrArg DataPath.expectedSn path).trans (stageSequence c.toDataPath _)
  exact ⟨alikePace timing sequence (stageCalm ok),timing⟩

theorem notePace {c noted : ActiveConnection} {transmitted} (ok : noteTransmission c transmitted = some noted) :
    pace noted = pace c ∧ noted.toEventTiming = c.toEventTiming := by
  have timing : noted.toEventTiming = c.toEventTiming := by
    unfold noteTransmission at ok
    split at ok
    · dsimp only at ok
      split at ok
      · cases ok
      · cases ok
        rfl
    · cases ok
      rfl
  have sequence : noted.toDataPath.expectedSn = (note c.toDataPath transmitted).expectedSn :=
    congrArg DataPath.expectedSn (notePath ok).1
  exact ⟨alikePace timing sequence (noteCalm ok),timing⟩

theorem acknowledgePace {c after : ActiveConnection} {header outstanding now calls}
    (ok : acknowledgeTransmit c header outstanding now = some (after,calls)) : pace after = pace c := by
  have sequence : after.expectedSn = c.expectedSn := by
    have kept := congrArg DataPath.expectedSn (acknowledgePath ok).1
    unfold acknowledge at kept
    split at kept <;> exact kept
  have timing : after.toEventTiming = c.toEventTiming := by
    unfold acknowledgeTransmit at ok
    split at ok
    · dsimp only at ok
      split at ok
      · cases ok
      · cases ok
        show (releaseOwner _).1.toEventTiming = _
        unfold releaseOwner
        split
        · split <;> rfl
        all_goals rfl
    · cases ok
      rfl
  exact alikePace timing sequence (acknowledgeCalm ok).1

section Event
variable {t : Timetable} {c : ActiveConnection}

/- The connection between the choice of the channel and the end of the event. -/
structure Engaged (t : Timetable) (c : ActiveConnection) : Prop where
  inStep : ∃ terms, InStep t (t.event + 1) terms (pace c)
  quiet : Quiet t (pace c)
  heard : t.heardEvent ≤ t.event
  anchor : c.nextAnchor = t.anchor
  closed : c.receiveWindowSizeUs = 0

theorem openedEngaged {settled staged : ActiveConnection} {now notify} (locked : Locked t c)
    (settles : c.settleInstants now = .ok (settled,notify))
    (stages : stageTransmit (opened settled) = some staged) : Engaged t.engage staged := by
  obtain ⟨terms,step,_⟩ := locked.inStep
  obtain ⟨settling,quiet⟩ := settleInStep step settles
  have hopped := hopInStep settling
  obtain ⟨same,timing⟩ := stagePace stages
  have anchor : staged.nextAnchor = t.anchor :=
    (congrArg EventTiming.nextAnchor timing).trans ((settledAnchor settles).trans locked.anchor)
  refine ⟨⟨t.terms t.event,?_⟩,?_,locked.heard,anchor,congrArg EventTiming.receiveWindowSizeUs timing⟩
  · rw [same]
    exact ⟨hopped.counter,hopped.hop,hopped.phase,hopped.sequence,hopped.update,hopped.interval,hopped.map⟩
  · rw [same]
    exact quiet

theorem closedEngaged {after : ActiveConnection} {clock received header payload outstanding terminate told}
    (engaged : Engaged t c)
    (closes : Closes (heard c clock received) clock received header payload outstanding terminate after told
      none) :
    Engaged ({t with
      heardEvent := t.event
      heardAnchor := received.timestampUs - (1 + 4 + 2 + payload.length + 3) * 8}.accept header payload)
      after := by
  generalize lives : (none : Option UInt8) = reason at closes
  cases closes with
  | unacknowledged => cases lives
  | unsettled => cases lives
  | @closed acked released settled notify acks settles =>
    cases terminate with
    | true => cases lives
    | false =>
      obtain ⟨terms,step⟩ := engaged.inStep
      have same : pace acked = pace (heard c clock received) := acknowledgePace acks
      have step : InStep t (t.event + 1) terms (pace (heard c clock received)) := step
      rw [← same] at step
      generalize moved : ({t with
        heardEvent := t.event
        heardAnchor := received.timestampUs - (1 + 4 + 2 + payload.length + 3) * 8} : Timetable) = t'
      have step' : InStep t' (t.event + 1) terms (pace acked) := by
        rw [← moved]
        exact ⟨step.counter,step.hop,step.phase,step.sequence,step.update,step.interval,step.map⟩
      have accepted := acceptInStep step' lives.symm
      obtain ⟨settling,quiet⟩ := settleInStep accepted settles
      have event : (t'.accept header payload).event = t.event ∧ (t'.accept header payload).heardEvent = t.event ∧
          (t'.accept header payload).heardAnchor =
            received.timestampUs - (1 + 4 + 2 + payload.length + 3) * 8 := by
        rw [← moved]
        unfold Timetable.accept
        split
        · split <;> exact ⟨rfl,rfl,rfl⟩
        · exact ⟨rfl,rfl,rfl⟩
      rw [← event.1] at settling
      refine ⟨⟨_,settling⟩,quiet,?_,?_,rfl⟩
      · rw [event.1,event.2.1]
      · rw [Timetable.anchor,event.1,event.2.1,event.2.2,Finset.Ico_self,Finset.sum_empty,accruedHere]
        rfl

theorem tickLocked (engaged : Engaged t c) (executed : t.executed = t.event + 1) :
    Locked (t.tick 1) c.scheduleFollowingEvent := by
  obtain ⟨terms,step⟩ := engaged.inStep
  have ticked := tickInStep step engaged.quiet
  refine ⟨Nat.le_succ_of_le engaged.heard,tickAnchor step engaged.quiet engaged.heard engaged.anchor,?_,terms,
    ticked,?_⟩
  · show t.executed ≤ t.event + 1
    omega
  · have here := awaitsQuiet step.update engaged.quiet.1
    have before : terms.1 ≤ t.event := by
      rw [here]
      exact latestDate _ _ _
    have spent : ¬(t.tick 1).executed ≤ terms.1 := by
      show ¬t.executed ≤ terms.1
      omega
    rw [window,if_neg spent]
    exact engaged.closed

theorem hearKept (t : Timetable) (radio) : (t.hear radio).event = t.event ∧ (t.hear radio).executed = t.executed := by
  unfold Timetable.hear Timetable.accept
  split
  · exact ⟨rfl,rfl⟩
  · split
    · exact ⟨rfl,rfl⟩
    · split
      · split <;> exact ⟨rfl,rfl⟩
      · exact ⟨rfl,rfl⟩

theorem eventLocked {clock radio} (locked : Locked t c) (lives : (connectionEvent c clock radio).reason = none) :
    Locked ((t.engage.hear radio).tick 1) (connectionEvent c clock radio).connection.scheduleFollowingEvent := by
  have path := eventRuns c clock radio
  generalize connectionEvent c clock radio = outcome at path lives ⊢
  obtain ⟨event,executed⟩ := hearKept t.engage radio
  refine tickLocked ?_ (by rw [event,executed]; rfl)
  cases path with
  | unsettled => cases lives
  | unstaged => cases lives
  | silent settles stages => exact openedEngaged locked settles stages
  | uncompleted => cases lives
  | unreadable settles stages notes rejected =>
    have engaged := openedEngaged locked settles stages
    obtain ⟨same,timing⟩ := notePace notes
    rw [Timetable.hear]
    simp only [rejected]
    exact ⟨same ▸ engaged.inStep,same ▸ engaged.quiet,engaged.heard,
      (congrArg EventTiming.nextAnchor timing).trans engaged.anchor,
      (congrArg EventTiming.receiveWindowSizeUs timing).trans engaged.closed⟩
  | @heard settled notify staged received noted header payload after told reason settles stages notes read closes =>
    have engaged := openedEngaged locked settles stages
    obtain ⟨same,timing⟩ := notePace notes
    have noted : Engaged t.engage noted := ⟨same ▸ engaged.inStep,same ▸ engaged.quiet,engaged.heard,
      (congrArg EventTiming.nextAnchor timing).trans engaged.anchor,
      (congrArg EventTiming.receiveWindowSizeUs timing).trans engaged.closed⟩
    have lives : reason = none := lives
    subst lives
    rw [Timetable.hear]
    simp only [read]
    exact closedEngaged noted closes

end Event

/-! Whole runs. -/

theorem commandPace (c : ActiveConnection) (bytes) :
    pace (handleConnectedCommand c bytes).1 = pace c ∧
      (handleConnectedCommand c bytes).1.toEventTiming = c.toEventTiming := by
  have queued : ∀ kind request expected timeout,
      (c.queueLocalProcedure kind request expected timeout).1.pendingConnectionUpdate =
        c.pendingConnectionUpdate ∧
      (c.queueLocalProcedure kind request expected timeout).1.pendingChannelMap = c.pendingChannelMap := by
    intro kind request expected timeout
    obtain ⟨procedures,same⟩ := startView c.toEventTiming
      (localStarts c.toControlPlane kind request expected timeout)
    exact ⟨congrArg Ownership.update same,congrArg Ownership.map same⟩
  unfold handleConnectedCommand
  dsimp only
  split_ifs
  all_goals first
    | exact ⟨rfl,rfl⟩
    | refine ⟨?_,rfl⟩
      simp only [pace,ControlPlane.queueLocalProcedureRequest,queued]

theorem hostPace (c : ActiveConnection) (packet) :
    pace (processConnectedHostPacket c packet).1 = pace c ∧
      (processConnectedHostPacket c packet).1.toEventTiming = c.toEventTiming := by
  have served := hostServes c packet
  generalize processConnectedHostPacket c packet = done at served ⊢
  cases served with
  | ignored => exact ⟨rfl,rfl⟩
  | queued _ queues =>
    obtain ⟨pending,queued,token,rfl⟩ := queuedShape queues
    exact ⟨rfl,rfl⟩
  | command => exact commandPace c packet.bytes

theorem samePaceLocked {t : Timetable} {c after : ActiveConnection} (locked : Locked t c)
    (same : pace after = pace c) (timing : after.toEventTiming = c.toEventTiming) : Locked t after := by
  obtain ⟨terms,step,held⟩ := locked.inStep
  exact ⟨locked.heard,(congrArg EventTiming.nextAnchor timing).trans locked.anchor,locked.executed,terms,
    same ▸ step,(congrArg EventTiming.receiveWindowSizeUs timing).trans held⟩

theorem stepLocked {t : Timetable} {link : Link} {input : Input} (locked : Locked t link.connection)
    (lives : (step link input).1.down = false) :
    Locked (t.follow (input,(step link input).2)) (step link input).1.connection := by
  have path := (stepContinues lives).2
  generalize (step link input).1.connection = after at path ⊢
  generalize (step link input).2 = report at path ⊢
  cases path with
  | @host packet =>
    obtain ⟨same,timing⟩ := hostPace link.connection packet
    exact samePaceLocked locked same timing
  | deadlines => exact locked
  | @skip now clock _ count notify skips =>
    obtain ⟨events,counted,later⟩ := skipLoopLocked locked (Nat.le_of_eq rfl) skips
    have same : count.toNat = events := counted.trans (Nat.zero_add events)
    show Locked (t.tick count.toNat) after
    rwa [same]
  | event goes => exact eventLocked locked goes

theorem createdLocked {handle request endUs now c}
    (created : ActiveConnection.newFor handle request endUs now = some c) :
    Locked (.start request endUs) c := by
  unfold ActiveConnection.newFor at created
  split at created
  · cases created
  · rename_i channels made
    unfold ChannelSelection1.new at made
    split at made
    · cases made
      cases created
      have past : ∀ {α : Type}, Past ([] : List (Nat × α)) 0 := fun _ wrong => absurd wrong List.not_mem_nil
      refine ⟨Nat.le_refl 0,rfl,Nat.le_refl 0,_,⟨rfl,rfl,?_,rfl,.settled past,rfl,_,.settled past,rfl⟩,rfl⟩
      show 0 = 0 * _ % 37
      rw [Nat.zero_mul,Nat.zero_mod]
    · cases made

theorem runLocked {handle request endUs now c}
    (created : ActiveConnection.newFor handle request endUs now = some c) {trace link}
    (run : History runner ⟨c,false⟩ trace link) :
    link.down = false → Locked (timetable request endUs trace) link.connection := by
  refine historyInvariant
    (I := fun trace link => link.down = false → Locked (timetable request endUs trace) link.connection) ?_ ?_ run
  · exact fun _ => createdLocked created
  · intro past link input kept lives
    rw [timetable,List.foldl_append]
    exact stepLocked (kept (stepRunning lives)) lives

theorem settledChannel {t : Timetable} {c settled : ActiveConnection} {now notify} (locked : Locked t c)
    (settles : c.settleInstants now = .ok (settled,notify)) : settled.nextChannel.2.index = t.channel := by
  obtain ⟨terms,step,_⟩ := locked.inStep
  obtain ⟨settling,quiet⟩ := settleInStep step settles
  obtain ⟨entry,waits,inForce⟩ := settling.map
  have map : settled.channels.map = t.map := by
    rw [awaitsQuiet waits quiet.2] at inForce
    exact inForce
  have phase : (settled.channels.advance).lastUnmapped = UInt8.ofNat t.unmapped := by
    have hopped : settled.channels.advance.lastUnmapped.toNat = t.unmapped := (hopInStep settling).phase
    rw [← hopped,UInt8.ofNat_toNat]
  show remap settled.channels.map settled.channels.used settled.channels.advance.lastUnmapped = _
  rw [settled.channels.usedExact,map,phase]
  rfl

theorem exchanged {c : ActiveConnection} {clock radio exchange}
    (found : (connectionEvent c clock radio).exchange = some exchange) :
    ∃ settled notify staged, c.settleInstants clock.entry = .ok (settled,notify) ∧
      exchange = requested settled staged := by
  have path := eventRuns c clock radio
  generalize connectionEvent c clock radio = outcome at path found
  cases path with
  | unsettled => cases found
  | unstaged => cases found
  | silent settles => exact ⟨_,_,_,settles,(Option.some.inj found).symm⟩
  | uncompleted settles => exact ⟨_,_,_,settles,(Option.some.inj found).symm⟩
  | unreadable settles => exact ⟨_,_,_,settles,(Option.some.inj found).symm⟩
  | heard settles => exact ⟨_,_,_,settles,(Option.some.inj found).symm⟩

theorem stepExchange {link : Link} (running : link.down = false) (clock radio) :
    (step link (.event clock radio)).2.exchange = (connectionEvent link.connection clock radio).exchange := by
  rw [stepEvent running]
  unfold eventStep
  dsimp only
  cases (connectionEvent link.connection clock radio).reason <;> rfl

/- Nothing the receiver would call a packet. -/
def unheard : Option ExchangeResult → Bool
  | none => true
  | some received => (receivedPdu received).isNone

theorem missedShape {c : ActiveConnection} {clock radio} (missed : unheard radio = true)
    (lives : (connectionEvent c clock radio).reason = none) :
    ∃ settled notify, c.settleInstants clock.entry = .ok (settled,notify) ∧
      pace (connectionEvent c clock radio).connection = pace (opened settled) ∧
      (connectionEvent c clock radio).connection.toEventTiming = (opened settled).toEventTiming := by
  have path := eventRuns c clock radio
  generalize connectionEvent c clock radio = outcome at path lives ⊢
  cases path with
  | unsettled => cases lives
  | unstaged => cases lives
  | silent settles stages => exact ⟨_,_,settles,stagePace stages⟩
  | uncompleted => cases lives
  | unreadable settles stages notes rejected =>
    obtain ⟨same,timing⟩ := stagePace stages
    obtain ⟨same',timing'⟩ := notePace notes
    exact ⟨_,_,settles,same'.trans same,timing'.trans timing⟩
  | heard settles stages notes read closes => simp [unheard,read] at missed

theorem scheduledAlike {c d : ActiveConnection} (same : pace c = pace d)
    (timing : c.toEventTiming = d.toEventTiming) :
    pace c.scheduleFollowingEvent = pace d.scheduleFollowingEvent ∧
      c.scheduleFollowingEvent.toEventTiming = d.scheduleFollowingEvent.toEventTiming := by
  have update : c.pendingConnectionUpdate = d.pendingConnectionUpdate := congrArg Pace.update same
  have map : c.pendingChannelMap = d.pendingChannelMap := congrArg Pace.map same
  have sequence : c.expectedSn = d.expectedSn := congrArg Pace.sn same
  unfold ActiveConnection.scheduleFollowingEvent
  rw [update]
  simp only [pace,timing,sequence,map,update,true_and]

/- A missed event moves the counter, the channel selection, the anchor and the indications as
the skip loop does; it only uses up the transmit window besides. -/
theorem missedAlike {c skipped : ActiveConnection} {clock radio notify} (missed : unheard radio = true)
    (lives : (connectionEvent c clock radio).reason = none)
    (skips : c.skipEvent clock.entry = .ok (skipped,notify)) :
    pace (connectionEvent c clock radio).connection.scheduleFollowingEvent = pace skipped ∧
      (connectionEvent c clock radio).connection.scheduleFollowingEvent.toEventTiming =
        {skipped.toEventTiming with receiveWindowSizeUs := 0} := by
  obtain ⟨settled,told,settles,same,timing⟩ := missedShape missed lives
  obtain ⟨settled',settles',rfl⟩ := skipShape skips
  rw [settles] at settles'
  cases settles'
  obtain ⟨same,timing⟩ := scheduledAlike same timing
  rw [same,timing]
  exact ⟨rfl,rfl⟩

theorem lockstepKept {handle request endUs now c}
    (created : ActiveConnection.newFor handle request endUs now = some c) {trace link}
    (run : History runner ⟨c,false⟩ trace link) (running : link.down = false) :
    link.connection.eventCounter.toNat = (timetable request endUs trace).event % 65536 ∧
    link.connection.nextAnchor = (timetable request endUs trace).anchor ∧
    (∀ clock radio exchange, (step link (.event clock radio)).2.exchange = some exchange →
      exchange.channel.index = (timetable request endUs trace).channel) ∧
    (∀ clock radio skipped notify, unheard radio = true → (step link (.event clock radio)).1.down = false →
      link.connection.skipEvent clock.entry = .ok (skipped,notify) →
      pace (step link (.event clock radio)).1.connection = pace skipped ∧
        (step link (.event clock radio)).1.connection.toEventTiming =
          {skipped.toEventTiming with receiveWindowSizeUs := 0}) := by
  have locked := runLocked created run running
  obtain ⟨terms,inStep,_⟩ := locked.inStep
  refine ⟨?_,locked.anchor,?_,?_⟩
  · rw [show link.connection.eventCounter = _ from inStep.counter,UInt16.toNat_ofNat']
  · intro clock radio exchange found
    rw [stepExchange running] at found
    obtain ⟨settled,notify,staged,settles,rfl⟩ := exchanged found
    exact settledChannel locked settles
  · intro clock radio skipped notify missed lives skips
    rw [stepEvent running] at lives ⊢
    unfold eventStep at lives ⊢
    dsimp only at lives ⊢
    cases reason : (connectionEvent link.connection clock radio).reason with
    | some r =>
      rw [reason] at lives
      cases lives
    | none => exact missedAlike missed reason skips

/- An update for event 6 heard in event 0, then events 1 to 7 skipped at once: of the eight
intervals up to the next anchor, two are new ones. -/
def skippedRun : List Input := [hears 0x03 sampleUpdate,.skip 300000 fun _ => 300000]

theorem lockstepSkipped :
    (timetable sampleRequest 1000 (run runner ⟨sampleConnection,false⟩ skippedRun).1).event = 8 ∧
    (run runner ⟨sampleConnection,false⟩ skippedRun).2.connection.nextAnchor = 2824 + 6*30000 + 2*60000 :=
  ⟨by decide +kernel,
    (lockstepKept sampleCreated (runHistory runner _ skippedRun) (by decide +kernel)).2.1.trans (by decide +kernel)⟩

end Ch58xHal.Lockstep
