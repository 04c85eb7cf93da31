import Ch58xHal.OwnershipRun

/-! Every stored instant comes once. A pending indication stays ahead of the event counter until
the counter reaches it; there `apply_instants` puts it in force and its procedure completes, and
the counter does not move on before. All of it is about the states a run goes through, mark by mark. -/
namespace Ch58xHal.PunctualInstants
open ControlPdu ChannelSelection Llcp LlcpSteps Connection ConnectionEvent ConnectionRun ControlHandlers
open DataPlane InstantOwners OwnershipSteps OwnershipRun StepMarks Machines

/- One of the two indications with an instant: where it waits, what it puts in force, and the PDU
that brings it. -/
structure Indication (α β : Type) where
  pending : ActiveConnection → Option α
  inForce : ActiveConnection → β
  instant : α → UInt16
  force : α → β
  parsed : List UInt8 → UInt16 → Option α

def connectionUpdate : Indication ConnectionUpdateInd Parameters where
  pending c := c.pendingConnectionUpdate
  inForce c := (owned c).parameters
  instant := ConnectionUpdateInd.instant
  force := parametersOf
  parsed payload counter := (ConnectionUpdateInd.parse payload counter).toOption

def channelMapUpdate : Indication ChannelMapInd ChannelMap where
  pending c := c.pendingChannelMap
  inForce c := c.channels.map
  instant := ChannelMapInd.instant
  force := ChannelMapInd.map
  parsed payload counter := (ChannelMapInd.parse payload counter).toOption

section Law
variable {α β : Type} (x : Indication α β)

/- What is stored where a PDU parses to `accepted` and its handler ends the connection, or not. -/
def Stores (accepted : Option α) (reason : Option UInt8) (before after : Option α) : Prop :=
  match accepted,reason with
  | some u,none => before = none ∧ after = some u
  | _,_ => after = before

def Still (m : Mark) : Prop := x.pending m.after = x.pending m.before ∧ x.inForce m.after = x.inForce m.before

/- What one mark of a run does to an indication: it is put in force by the `apply_instants` of its
own event, stored from the PDU that the parser accepts, and otherwise left alone; and the counter
never leaves an instant behind. -/
def Governs (m : Mark) : Prop :=
  (∀ u, x.pending m.before = some u → classifyInstant m.before.eventCounter (x.instant u) ≠ .passed) ∧
  match m.act with
  | .instants =>
    (∀ u, x.pending m.before = some u → x.instant u = m.before.eventCounter →
      x.pending m.after = none ∧ x.inForce m.after = x.force u) ∧
    ((∀ u, x.pending m.before = some u → x.instant u ≠ m.before.eventCounter) → Still x m)
  | .received payload reason =>
    x.inForce m.after = x.inForce m.before ∧
      Stores (x.parsed payload m.before.eventCounter) reason (x.pending m.before) (x.pending m.after)
  | .following => Still x m ∧ ∀ u, x.pending m.before = some u → x.instant u ≠ m.before.eventCounter
  | .host _ => Still x m
  | .other => Still x m

/- An indication stored on the way waits, unchanged, until it is put in force at its instant, and
is gone from there on; or it waits to the end. -/
def Once (marks : List Mark) : Prop :=
  ∀ past m rest u, marks = past ++ m :: rest → x.pending m.before = none → x.pending m.after = some u →
    (∀ m' ∈ rest, x.pending m'.before = some u ∧ Still x m') ∨
    ∃ wait here later, rest = wait ++ here :: later ∧ (∀ m' ∈ wait, x.pending m'.before = some u ∧ Still x m') ∧
      here.act = .instants ∧ here.before.eventCounter = x.instant u ∧ x.pending here.before = some u ∧
      x.pending here.after = none ∧ x.inForce here.after = x.force u

end Law

/- A procedure that waits for an instant waits for a pending indication, and an event completes it
at that instant and touches no other. -/
structure Punctual (m : Mark) : Prop where
  update : Governs connectionUpdate m
  map : Governs channelMapUpdate m
  counter : m.after.eventCounter = if m.act = .following then m.before.eventCounter + 1 else m.before.eventCounter
  waits : ∀ side c, m.before.procedures.context side = some c → c.phase = .awaitingInstant → Pending (owned m.before) c
  completes : m.act = .instants → ∀ side c, m.before.procedures.context side = some c →
    m.after.procedures.context side = some
      (if c.phase = .awaitingInstant ∧ c.instant = some m.before.eventCounter then
        {c with phase := .complete,responseDeadlineUs := 0} else c)

/-! One mark. -/

section Marks
variable {α β : Type} {x : Indication α β} {m : Mark}

theorem governsInstants (acts : m.act = .instants)
    (ahead : ∀ u, x.pending m.before = some u → classifyInstant m.before.eventCounter (x.instant u) ≠ .passed)
    (taken : x.pending m.after =
      if (x.pending m.before).any (fun u => x.instant u == m.before.eventCounter) then none else x.pending m.before)
    (put : x.inForce m.after =
      if (x.pending m.before).any (fun u => x.instant u == m.before.eventCounter) then
        ((x.pending m.before).map x.force).getD (x.inForce m.before) else x.inForce m.before) : Governs x m := by
  refine ⟨ahead,?_⟩
  rw [acts]
  constructor
  · intro u found now
    simp [found,now] at taken put
    exact ⟨taken,put⟩
  · intro other
    have undue : (x.pending m.before).any (fun u => x.instant u == m.before.eventCounter) = false := by
      cases found : x.pending m.before with
      | none => rfl
      | some u => simpa using other u found
    rw [undue] at taken put
    exact ⟨taken,put⟩

theorem governsStill (acts : m.act = .other ∨ ∃ packet, m.act = .host packet)
    (ahead : ∀ u, x.pending m.before = some u → classifyInstant m.before.eventCounter (x.instant u) ≠ .passed)
    (still : Still x m) : Governs x m := by
  refine ⟨ahead,?_⟩
  rcases acts with acts | ⟨packet,acts⟩
  · rw [acts]
    exact still
  · rw [acts]
    exact still

/- What an indication under way can come to at one mark. -/
theorem governsNext (law : Governs x m) {u : α} (waiting : x.pending m.before = some u) :
    Still x m ∨ m.act = .instants ∧ m.before.eventCounter = x.instant u ∧ x.pending m.after = none ∧
      x.inForce m.after = x.force u := by
  obtain ⟨_,law⟩ := law
  cases acts : m.act with
  | instants =>
    rw [acts] at law
    by_cases now : x.instant u = m.before.eventCounter
    · obtain ⟨gone,put⟩ := law.1 u waiting now
      exact Or.inr ⟨rfl,now.symm,gone,put⟩
    · refine Or.inl (law.2 fun v found => ?_)
      rw [waiting] at found
      cases found
      exact now
  | received payload reason =>
    rw [acts] at law
    obtain ⟨force,stored⟩ := law
    unfold Stores at stored
    split at stored
    · rw [waiting] at stored
      cases stored.1
    · exact Or.inl ⟨stored,force⟩
  | following =>
    rw [acts] at law
    exact Or.inl law.1
  | host packet =>
    rw [acts] at law
    exact Or.inl law
  | other =>
    rw [acts] at law
    exact Or.inl law

theorem chainOnce {c last : ActiveConnection} {rest : List Mark} (leads : Leads c rest last)
    (law : ∀ m ∈ rest, Governs x m) {u : α} (waiting : x.pending c = some u) :
    (∀ m' ∈ rest, x.pending m'.before = some u ∧ Still x m') ∨
    ∃ wait here later, rest = wait ++ here :: later ∧ (∀ m' ∈ wait, x.pending m'.before = some u ∧ Still x m') ∧
      here.act = .instants ∧ here.before.eventCounter = x.instant u ∧ x.pending here.before = some u ∧
      x.pending here.after = none ∧ x.inForce here.after = x.force u := by
  induction rest generalizing c with
  | nil => exact Or.inl fun _ wrong => (nomatch wrong)
  | cons m rest ih =>
    obtain ⟨rfl,leads⟩ := leads
    obtain ⟨own,others⟩ := List.forall_mem_cons.mp law
    rcases governsNext own waiting with still | ⟨acts,now,gone,put⟩
    · rcases ih leads others (still.1.trans waiting) with all | ⟨wait,here,later,rfl,all,found⟩
      · exact Or.inl (List.forall_mem_cons.mpr ⟨⟨waiting,still⟩,all⟩)
      · exact Or.inr ⟨m :: wait,here,later,rfl,List.forall_mem_cons.mpr ⟨⟨waiting,still⟩,all⟩,found⟩
    · exact Or.inr ⟨[],m,rest,rfl,fun _ wrong => (nomatch wrong),acts,now,waiting,gone,put⟩

theorem governedOnce {c last : ActiveConnection} {marks : List Mark} (leads : Leads c marks last)
    (law : ∀ m ∈ marks, Governs x m) : Once x marks := by
  rintro past m rest u rfl _ stored
  obtain ⟨middle,_,_,leads⟩ := leadsSplit leads
  exact chainOnce leads (fun m' member => law m' (List.mem_append_right _ (List.mem_cons_of_mem _ member))) stored

end Marks

/-! What the handlers of Control PDUs store. -/

section Handlers
variable {c : ActiveConnection} {payload : List UInt8}

theorem parsedOpcode {counter u} (parsed : ConnectionUpdateInd.parse payload counter = .ok u) :
    ∃ rest, payload = 0x00 :: rest := by
  simp only [ConnectionUpdateInd.parse] at parsed
  split at parsed
  · cases parsed
  · rename_i form
    rw [not_or,not_not,not_not] at form
    cases payload with
    | nil => exact absurd form.1 (by decide)
    | cons first rest => exact ⟨rest,by rw [show first = 0x00 from form.2]⟩

theorem mapOpcode {counter u} (parsed : ChannelMapInd.parse payload counter = .ok u) :
    ∃ rest, payload = 0x01 :: rest := by
  simp only [ChannelMapInd.parse] at parsed
  split at parsed
  · cases parsed
  · rename_i form
    rw [not_or,not_not,not_not] at form
    cases payload with
    | nil => exact absurd form.1 (by decide)
    | cons first rest => exact ⟨rest,by rw [show first = 0x01 from form.2]⟩

theorem updateStored {u} (parsed : ConnectionUpdateInd.parse payload c.eventCounter = .ok u)
    (goes : (handleLlControl c payload).reason = none) :
    c.pendingConnectionUpdate = none ∧ (handleLlControl c payload).control.pendingConnectionUpdate = some u := by
  obtain ⟨rest,rfl⟩ := parsedOpcode parsed
  have sent : handleLlControl c (0x00 :: rest) = handleConnectionUpdateInd c (0x00 :: rest) := rfl
  rw [sent] at goes ⊢
  unfold handleConnectionUpdateInd at goes ⊢
  simp only [parsed] at goes ⊢
  by_cases free : c.pendingConnectionUpdate.isNone = true
  · rw [if_pos free] at goes ⊢
    by_cases mismatch : c.localConnectionParamRequest.any (fun request => !request.accepts u) = true
    · rw [if_pos mismatch] at goes
      cases goes
    · rw [if_neg mismatch] at goes ⊢
      refine ⟨Option.isNone_iff_eq_none.mp free,?_⟩
      split at goes
      · cases goes
      · rfl
  · rw [if_neg free] at goes
    cases goes

theorem mapStored {u} (parsed : ChannelMapInd.parse payload c.eventCounter = .ok u)
    (goes : (handleLlControl c payload).reason = none) :
    c.pendingChannelMap = none ∧ (handleLlControl c payload).control.pendingChannelMap = some u := by
  obtain ⟨rest,rfl⟩ := mapOpcode parsed
  have sent : handleLlControl c (0x01 :: rest) = handleChannelMapInd c (0x01 :: rest) := rfl
  rw [sent] at goes ⊢
  unfold handleChannelMapInd at goes ⊢
  simp only [parsed] at goes ⊢
  by_cases free : c.pendingChannelMap.isNone = true
  · rw [if_pos free] at goes ⊢
    refine ⟨Option.isNone_iff_eq_none.mp free,?_⟩
    split at goes
    · cases goes
    · rfl
  · rw [if_neg free] at goes
    cases goes

/- Only an accepted update stores one, and only an accepted map; neither ends the connection. -/
theorem controlStores (c : ActiveConnection) (payload : List UInt8) :
    ((handleLlControl c payload).control.pendingConnectionUpdate = c.pendingConnectionUpdate ∨
      (handleLlControl c payload).reason = none ∧ ∃ u, ConnectionUpdateInd.parse payload c.eventCounter = .ok u) ∧
    ((handleLlControl c payload).control.pendingChannelMap = c.pendingChannelMap ∨
      (handleLlControl c payload).reason = none ∧ ∃ u, ChannelMapInd.parse payload c.eventCounter = .ok u) := by
  have path := controlHandles c payload
  generalize handleLlControl c payload = handled at path ⊢
  have clear : ∀ error, (cleared c error).control.pendingConnectionUpdate = c.pendingConnectionUpdate ∧
      (cleared c error).control.pendingChannelMap = c.pendingChannelMap := by
    intro error
    obtain ⟨procedures,same⟩ := clearedView c error
    exact ⟨congrArg Ownership.update same,congrArg Ownership.map same⟩
  cases path with
  | ignored => exact ⟨.inl rfl,.inl rfl⟩
  | ended => exact ⟨.inl rfl,.inl rfl⟩
  | refused =>
    have view := queueControlView c.toEventTiming c.toControlPlane
    exact ⟨.inl (congrArg Ownership.update (view _)),.inl (congrArg Ownership.map (view _))⟩
  | @dropped error asked =>
    have dropping : cleared c error = dropLocalRequest c c.toControlPlane error := if_pos asked
    exact dropping ▸ ⟨.inl (clear error).1,.inl (clear error).2⟩
  | rejected =>
    have view := failView c.toEventTiming c.toControlPlane .remoteSide
    exact ⟨.inl (congrArg Ownership.update (view _)),.inl (congrArg Ownership.map (view _))⟩
  | responded plain responds =>
    obtain ⟨procedures,view⟩ := respondView c.toEventTiming responds
    exact ⟨.inl (congrArg Ownership.update view),.inl (congrArg Ownership.map view)⟩
  | requested responds =>
    obtain ⟨procedures,view⟩ := respondView c.toEventTiming responds
    exact ⟨.inl ((congrArg Ownership.update view).trans (clear _).1),
      .inl ((congrArg Ownership.map view).trans (clear _).2)⟩
  | updateAnswered parsed => exact ⟨.inr ⟨rfl,_,parsed⟩,.inl rfl⟩
  | updateIndicated parsed free unrequested started =>
    obtain ⟨_,_,_,_,_,_,_,rfl⟩ := instantStarted started
    exact ⟨.inr ⟨rfl,_,parsed⟩,.inl rfl⟩
  | updateCollided => exact ⟨.inl rfl,.inl rfl⟩
  | mapStored parsed free started =>
    obtain ⟨_,_,_,_,_,_,_,rfl⟩ := instantStarted started
    exact ⟨.inl (clear _).1,.inr ⟨rfl,_,parsed⟩⟩
  | mapCollided => exact ⟨.inl (clear _).1,.inl (clear _).2⟩

/- A PDU that is not accepted, or ends the connection, stores nothing. -/
theorem updateUnstored (refused : (ConnectionUpdateInd.parse payload c.eventCounter).toOption = none ∨
      (handleLlControl c payload).reason ≠ none) :
    (handleLlControl c payload).control.pendingConnectionUpdate = c.pendingConnectionUpdate := by
  refine (controlStores c payload).1.resolve_right fun ⟨goes,u,parsed⟩ => ?_
  exact refused.elim (fun absent => by simp [parsed,Except.toOption] at absent) fun ended => ended goes

theorem mapUnstored (refused : (ChannelMapInd.parse payload c.eventCounter).toOption = none ∨
      (handleLlControl c payload).reason ≠ none) :
    (handleLlControl c payload).control.pendingChannelMap = c.pendingChannelMap := by
  refine (controlStores c payload).2.resolve_right fun ⟨goes,u,parsed⟩ => ?_
  exact refused.elim (fun absent => by simp [parsed,Except.toOption] at absent) fun ended => ended goes

end Handlers

/-! Every mark is punctual. -/

section Marks
variable {m : Mark}

theorem updateAheadOf (known : Consistent (owned m.before)) :
    ∀ u, connectionUpdate.pending m.before = some u →
      classifyInstant m.before.eventCounter (connectionUpdate.instant u) ≠ .passed := known.updateAhead

theorem mapAheadOf (known : Consistent (owned m.before)) :
    ∀ u, channelMapUpdate.pending m.before = some u →
      classifyInstant m.before.eventCounter (channelMapUpdate.instant u) ≠ .passed := known.mapAhead

theorem stillPunctual (known : Consistent (owned m.before)) (acts : m.act = .other ∨ ∃ packet, m.act = .host packet)
    (same : ∃ procedures request, owned m.after = {owned m.before with procedures := procedures,request := request}) :
    Punctual m := by
  obtain ⟨procedures,request,same⟩ := same
  have update : Still connectionUpdate m := ⟨congrArg Ownership.update same,by
    show (owned m.after).parameters = (owned m.before).parameters
    rw [same]⟩
  have map : Still channelMapUpdate m := ⟨congrArg Ownership.map same,congrArg Ownership.channelMap same⟩
  have moves : m.act ≠ .following ∧ m.act ≠ .instants := by
    rcases acts with acts | ⟨packet,acts⟩ <;> rw [acts] <;> exact ⟨fun wrong => (nomatch wrong),fun wrong => (nomatch wrong)⟩
  refine ⟨governsStill acts (updateAheadOf known) update,governsStill acts (mapAheadOf known) map,?_,known.instants,
    fun wrong => absurd wrong moves.2⟩
  rw [if_neg moves.1]
  exact congrArg Ownership.counter same

theorem settledPunctual {c after : ActiveConnection} {now notify calls} (known : Consistent (owned c))
    (settles : c.settleInstants now = .ok (after,notify)) : Punctual ⟨c,.instants,calls,after⟩ := by
  have same := (settleOwned settles).1
  refine ⟨governsInstants rfl (updateAheadOf known) (congrArg Ownership.update same) (congrArg Ownership.parameters same),
    governsInstants rfl (mapAheadOf known) (congrArg Ownership.map same) (congrArg Ownership.channelMap same),
    congrArg Ownership.counter same,known.instants,fun _ side x held => ?_⟩
  have held : (owned c).procedures.context side = some x := held
  have moved : after.procedures.context side = some (x.onConnectionEvent c.eventCounter 0x28) := by
    show (owned after).procedures.context side = _
    rw [same]
    cases side with
    | localSide =>
      have own : (owned c).procedures.localSide = some x := held
      show (owned c).procedures.localSide.map _ = _
      rw [own]
      rfl
    | remoteSide =>
      have own : (owned c).procedures.remoteSide = some x := held
      show (owned c).procedures.remoteSide.map _ = _
      rw [own]
      rfl
  show after.procedures.context side = _
  rw [moved]
  rcases settledContext known held with ⟨still,later⟩ | ⟨done,phase,dated⟩
  · refine congrArg some (still.trans (if_neg ?_).symm)
    rintro ⟨phase,dated⟩
    obtain ⟨instant,found,different⟩ := later phase
    rw [found] at dated
    exact different (Option.some.inj dated)
  · exact congrArg some (done.trans (if_pos ⟨phase,dated⟩).symm)

theorem receivedPunctual {c : ActiveConnection} {header : UInt8} {payload : List UInt8} (known : Consistent (owned c))
    (fresh : (header >>> 3) &&& 1 = c.expectedSn) (control : header &&& 0x03 = llidControl) :
    Punctual ⟨c,.received payload (acceptReceive c header payload).2.2,(acceptReceive c header payload).2.1,
      (acceptReceive c header payload).1⟩ := by
  rw [acceptControl fresh control]
  generalize next : {c with expectedSn := c.expectedSn ^^^ 1} = c'
  have counter : c'.eventCounter = c.eventCounter := by rw [← next]
  have update : c'.pendingConnectionUpdate = c.pendingConnectionUpdate := by rw [← next]
  have map : c'.pendingChannelMap = c.pendingChannelMap := by rw [← next]
  refine ⟨⟨updateAheadOf known,rfl,?_⟩,⟨mapAheadOf known,rfl,?_⟩,rfl,known.instants,fun wrong => (nomatch wrong)⟩
  · show Stores (ConnectionUpdateInd.parse payload c.eventCounter).toOption (handleLlControl c' payload).reason
      c.pendingConnectionUpdate (handleLlControl c' payload).control.pendingConnectionUpdate
    rw [← counter,← update]
    cases parsed : ConnectionUpdateInd.parse payload c'.eventCounter with
    | error e => exact updateUnstored (Or.inl (by rw [parsed]; rfl))
    | ok u =>
      cases goes : (handleLlControl c' payload).reason with
      | none => exact updateStored parsed goes
      | some reason => exact updateUnstored (Or.inr (by simp [goes]))
  · show Stores (ChannelMapInd.parse payload c.eventCounter).toOption (handleLlControl c' payload).reason
      c.pendingChannelMap (handleLlControl c' payload).control.pendingChannelMap
    rw [← counter,← map]
    cases parsed : ChannelMapInd.parse payload c'.eventCounter with
    | error e => exact mapUnstored (Or.inl (by rw [parsed]; rfl))
    | ok u =>
      cases goes : (handleLlControl c' payload).reason with
      | none => exact mapStored parsed goes
      | some reason => exact mapUnstored (Or.inr (by simp [goes]))

/- The step lemma of the marks. -/
theorem markPunctual (known : Consistent (owned m.before)) (kind : Genuine False m ∨ Plain m) : Punctual m := by
  rcases kind with genuine | ⟨acts,same⟩
  · cases genuine with
    | instants settles => exact settledPunctual known settles
    | received fresh control => exact receivedPunctual known fresh control
    | @following c after updateClear mapClear moved =>
      have update : Still connectionUpdate ⟨c,.following,[],after⟩ := ⟨congrArg Ownership.update moved,by
        show (owned after).parameters = (owned c).parameters
        rw [moved]⟩
      have map : Still channelMapUpdate ⟨c,.following,[],after⟩ :=
        ⟨congrArg Ownership.map moved,congrArg Ownership.channelMap moved⟩
      refine ⟨⟨updateAheadOf known,update,?_⟩,⟨mapAheadOf known,map,?_⟩,congrArg Ownership.counter moved,known.instants,
        fun wrong => (nomatch wrong)⟩
      · intro u found
        have found : (owned c).update = some u := found
        have later : u.instant ≠ (owned c).counter := by simpa [Ownership.updateDue,found] using updateClear
        exact later
      · intro u found
        have found : (owned c).map = some u := found
        have later : u.instant ≠ (owned c).counter := by simpa [Ownership.mapDue,found] using mapClear
        exact later
    | other calm =>
      obtain ⟨_,procedures,same⟩ := calm
      exact stillPunctual known (Or.inl rfl) ⟨procedures,_,same⟩
  · exact stillPunctual known acts same

end Marks

/-! `apply_instants` never fails: a stored channel map is a valid one. -/

def MapValid (o : Ownership) : Prop := ∀ m, o.map = some m → dataChannelMapIsValid m.map = true

theorem shiftValid {o o' : Ownership} (shift : Shift o o') (known : MapValid o) : MapValid o' := by
  cases shift with
  | mapIndicated free unrequested valid =>
    rintro _ ⟨⟩
    exact valid
  | settled =>
    intro m found
    have found : (if o.mapDue then none else o.map) = some m := found
    split at found
    · cases found
    · exact known m found
  | _ => exact known

theorem walkValid {o o' : Ownership} (walk : Walks o o') (known : MapValid o) : MapValid o' := by
  induction walk with
  | refl => exact known
  | tail _ shift ih => exact shiftValid shift ih

theorem settleTotal {c : ActiveConnection} (valid : MapValid (owned c)) (now) :
    ∃ after notify, c.settleInstants now = .ok (after,notify) := by
  have mapped : ∃ middle, c.applyChannelMap = .ok middle := by
    unfold ActiveConnection.applyChannelMap
    cases pending : c.pendingChannelMap with
    | none => exact ⟨c,rfl⟩
    | some update =>
      dsimp only
      split
      · have good : dataChannelMapIsValid update.map = true := valid update pending
        unfold ChannelSelection1.updateMap
        rw [dif_pos good]
        exact ⟨_,rfl⟩
      · exact ⟨c,rfl⟩
  obtain ⟨middle,done⟩ := mapped
  unfold ActiveConnection.settleInstants ActiveConnection.applyInstants
  rw [done]
  exact ⟨_,_,rfl⟩

/- Every call of `apply_instants` that can follow from here succeeds: at the entry of an event,
at its close, and in each turn of the skip loop. -/
structure NeverRefused (c : ActiveConnection) : Prop where
  entry : ∀ now, ∃ after notify, c.settleInstants now = .ok (after,notify)
  closing : ∀ {clock settled notify staged received noted header payload acked released},
    c.settleInstants clock.entry = .ok (settled,notify) → stageTransmit (opened settled) = some staged →
    noteTransmission staged received.transmitted = some noted → receivedPdu received = some (header,payload) →
    acknowledgeTransmit (heard noted clock received) header (!staged.txFrameFresh) clock.acknowledged =
      some (acked,released) →
    ∃ after notify, (acceptReceive acked header payload).1.settleInstants clock.closing = .ok (after,notify)
  skipping : ∀ {now clock reason}, c.skipExpiredEvents now clock = .error reason → reason = 0x08

theorem skipLoopRefused {now clock turns count notify} {c : ActiveConnection} {reason}
    (valid : MapValid (owned c))
    (refused : ActiveConnection.skipLoop now clock turns count notify c = .error reason) : reason = 0x08 := by
  induction turns generalizing count notify c with
  | zero =>
    unfold ActiveConnection.skipLoop at refused
    split at refused
    · obtain ⟨after,told,settles⟩ := settleTotal valid (clock count.toNat)
      simp only [ActiveConnection.skipEvent,settles] at refused
      cases refused
      rfl
    · cases refused
  | succ turns ih =>
    unfold ActiveConnection.skipLoop at refused
    split at refused
    · cases skips : c.skipEvent (clock count.toNat) with
      | error reason' =>
        obtain ⟨after,told,settles⟩ := settleTotal valid (clock count.toNat)
        simp [ActiveConnection.skipEvent,settles] at skips
      | ok pair =>
        obtain ⟨next,more⟩ := pair
        simp only [skips] at refused
        exact ih (walkValid (skipWalk skips) valid) refused
    · cases refused

theorem validNeverRefused {c : ActiveConnection} (valid : MapValid (owned c)) : NeverRefused c := by
  refine ⟨settleTotal valid,?_,fun refused => skipLoopRefused valid refused⟩
  intro clock settled notify staged received noted header payload acked released settles stages notes read acks
  have opening := walkValid ((settleWalk settles).trans (openedCalm stages).1) valid
  have noting := walkValid (noteCalm notes).1 opening
  have acking : MapValid (owned acked) := walkValid (acknowledgeCalm acks).1.1 noting
  exact settleTotal (walkValid (acceptWalk acked header payload) acking) clock.closing

/-! Runs. -/

theorem runPunctual {request endUs now c} (created : ActiveConnection.new request endUs now = some c)
    {trace link} (run : History runner ⟨c,false⟩ trace link) (running : link.down = false) :
    ∀ m ∈ (runSections ⟨c,false⟩ (trace.map Prod.fst)).flatten, Punctual m := by
  induction run with
  | start => exact fun _ wrong => (nomatch wrong)
  | @step past link earlier input ih =>
    have up := stepRunning running
    have known := runConsistent created earlier up
    show ∀ m ∈ (runSections ⟨c,false⟩ ((past ++ [(input,(step link input).2)]).map Prod.fst)).flatten, Punctual m
    rw [historySections earlier,List.flatten_append]
    refine List.forall_mem_append.mpr ⟨ih up,fun m member => ?_⟩
    obtain ⟨consistent,kind⟩ := marksKept input known m member
    exact markPunctual consistent kind

theorem createdValid {request endUs now c} (created : ActiveConnection.new request endUs now = some c) :
    MapValid (owned c) := by
  obtain ⟨parameters,map,fresh⟩ := createdOwned created
  rw [fresh]
  exact fun m wrong => (nomatch wrong)

theorem historyValid {c : ActiveConnection} (valid : MapValid (owned c)) {trace link}
    (run : History runner ⟨c,false⟩ trace link) : link.down = false → MapValid (owned link.connection) := by
  refine stateInvariant (I := fun link => link.down = false → MapValid (owned link.connection)) ?_ ?_ run
  · exact fun _ => valid
  · exact fun link input valid lives => walkValid (stepWalk lives) (valid (stepRunning lives))

theorem instantsPunctual {request endUs now c} (created : ActiveConnection.new request endUs now = some c)
    {trace link} (run : History runner ⟨c,false⟩ trace link) (running : link.down = false) :
    (Leads c (runSections ⟨c,false⟩ (trace.map Prod.fst)).flatten link.connection ∧
      (∀ m ∈ (runSections ⟨c,false⟩ (trace.map Prod.fst)).flatten, Punctual m) ∧
      Once connectionUpdate (runSections ⟨c,false⟩ (trace.map Prod.fst)).flatten ∧
      Once channelMapUpdate (runSections ⟨c,false⟩ (trace.map Prod.fst)).flatten) ∧
    (∀ input, ∀ m ∈ marks link input, Punctual m) ∧ NeverRefused link.connection := by
  have leads := (runLeads run running).1
  have all := runPunctual created run running
  have known := runConsistent created run running
  refine ⟨⟨leads,all,governedOnce leads fun m member => (all m member).update,
    governedOnce leads fun m member => (all m member).map⟩,?_,validNeverRefused (historyValid (createdValid created) run running)⟩
  intro input m member
  obtain ⟨consistent,kind⟩ := marksKept input known m member
  exact markPunctual consistent kind

/- Received in event 0, the update is in force after event 6, all of them missed. -/
def missed : Input := .event ⟨2000,2000,2000,2000⟩ none

def updatedRun : List Input := hears 0x03 sampleUpdate :: List.replicate 6 missed

theorem updatePunctual :
    (run runner ⟨sampleConnection,false⟩ updatedRun).2.connection.request.interval = 48 ∧
    (run runner ⟨sampleConnection,false⟩ updatedRun).2.connection.eventCounter = 7 ∧
    ((runSections ⟨sampleConnection,false⟩ updatedRun).flatten.filter fun m => m.act == .instants &&
      m.before.pendingConnectionUpdate.any fun u => u.instant == m.before.eventCounter).map
        (fun m => (m.before.eventCounter,m.before.request.interval,m.after.request.interval)) = [(6,24,48)] ∧
    (∀ m ∈ (runSections ⟨sampleConnection,false⟩ updatedRun).flatten, Punctual m) ∧
    Once connectionUpdate (runSections ⟨sampleConnection,false⟩ updatedRun).flatten ∧
    NeverRefused (run runner ⟨sampleConnection,false⟩ updatedRun).2.connection := by
  obtain ⟨⟨_,all,once,_⟩,_,never⟩ := instantsPunctual sampleCreated (runHistory runner _ updatedRun) (by decide +kernel)
  exact ⟨by decide +kernel,by decide +kernel,by decide +kernel,all,once,never⟩

end Ch58xHal.PunctualInstants
