import Ch58xHal.ArqPeers

/-! Exactly once over the air. The logs of a run are tied to the state by one invariant: what
`queue_acl` accepted is completed or still queued, the Central has taken all of the completed
and at most the head of the queue, and the Host has been handed the PDUs of the Central up to
the one it is at. -/
namespace Ch58xHal.BackendArq
open ControlPdu Connection ConnectionEvent ConnectionRun DataHeader DataPlane ControlLabels ArqPeers
open StopAndWait SequencedLink SlotQueue
open AclQueue hiding proceed Observed queued
open Machines (History)

/-! One event. -/

/- The logs so far fit the state: the queue holds what was accepted and not completed, and both
directions are where their logs say. -/
structure Coupled (stream : Nat → CentralPdu) (handle : UInt16) (queued completed : List Fragment)
    (taken : List Aired) (handed : List HostCall) (s : Peers) : Prop where
  same : s.link.connection.handle = handle
  packed : (buffer s.link.connection.toDataPath).Packed
  labelled : Labelled s.link.connection.toControlPlane
  labels : ∀ pdu ∈ queued, pdu.llid = llidContinuation ∨ pdu.llid = llidStart
  fifo : queued = completed ++ held s.link.connection.toDataPath
  outward : ∃ h, Outward s.link.connection.toDataPath s.central.expectedSn completed taken h
  inward : ∃ g log, Inward s.sent log s.central.transmitSn s.link.connection.expectedSn g ∧
    handed = log.flatMap (aclOf stream handle)

/- How an event leaves the data path: with the frame acknowledged or not, and the packet of the
Central heard or not. -/
structure Ends (staged after : DataPath) (acks heard : Bool) (transmitSn : UInt8) : Prop where
  frame : after.txFrame = (if acks then release staged else staged).txFrame
  kind : after.transmitted = (if acks then release staged else staged).transmitted
  sequence : after.transmitSn = (if acks then release staged else staged).transmitSn
  head : after.pending = (if acks then release staged else staged).pending
  expected : after.expectedSn =
    if heard = true ∧ transmitSn = staged.expectedSn then staged.expectedSn ^^^ 1 else staged.expectedSn

theorem stageKeeps (d : DataPath) (control) :
    (stage d control).transmitSn = d.transmitSn ∧ (stage d control).expectedSn = d.expectedSn := by
  unfold stage build select
  dsimp only
  split_ifs <;> exact ⟨rfl,rfl⟩

theorem headLabel {d : DataPath} (labels : ∀ pdu ∈ held d, pdu.llid = llidContinuation ∨ pdu.llid = llidStart) :
    ∀ pdu, d.pending = some pdu → pdu.llid = llidContinuation ∨ pdu.llid = llidStart := by
  intro pdu pending
  refine labels (fragment pdu) (List.mem_map_of_mem ?_)
  simp [buffer,Buffer.contents,pending]

section Event
variable {stream : Nat → CentralPdu} {handle : UInt16} {queued completed : List Fragment} {taken : List Aired}
  {handed : List HostCall} {s : Peers}

theorem coupledStaged (coupled : Coupled stream handle queued completed taken handed s) {control}
    (offered : Offers s.link.connection control) :
    ∃ unit h, Ready (stage s.link.connection.toDataPath control) unit ∧
      Outward (stage s.link.connection.toDataPath control) s.central.expectedSn completed taken h ∧
      h.current = some unit ∧
      (s.link.connection.transmitted = .none ∧
          (stage s.link.connection.toDataPath control).txFrameFresh = true ∨
        s.link.connection.transmitted = unit.kind) := by
  obtain ⟨h,outward⟩ := coupled.outward
  obtain ⟨g,log,inward,_⟩ := coupled.inward
  have controls : ∀ pdu, control = some pdu → pdu.llid = llidControl := by
    intro pdu found
    rcases offered with pending | priority
    · exact coupled.labelled pdu (Or.inl (pending.symm.trans found))
    · exact coupled.labelled pdu (Or.inr (Or.inl (priority.symm.trans found)))
  have acls := headLabel fun pdu member =>
    coupled.labels pdu (coupled.fifo ▸ List.mem_append_right completed member)
  obtain ⟨unit,ready,current,owner⟩ := stageReady outward.loaded outward.tracks.transmitBit
    inward.tracks.expectedBit controls acls
  obtain ⟨h',staged,now⟩ := outwardStaged outward ready current (stageKeeps _ control).1
  exact ⟨unit,h',ready,staged,now,owner⟩

/- An event with an exchange, in both directions. -/
theorem exchangeMoved (coupled : Coupled stream handle queued completed taken handed s) {control}
    (offered : Offers s.link.connection control) {acks heard : Bool} (o : Occasion) (link : Link)
    (ends : Ends (stage s.link.connection.toDataPath control) link.connection.toDataPath acks heard
      s.central.transmitSn)
    (told : acks = true → s.central.expectedSn ≠ s.link.connection.transmitSn ∧
      (stage s.link.connection.toDataPath control).txFrameFresh = false)
    {after : Peers × Option Aired}
    (replied : takeReply s link (answer o (some (stage s.link.connection.toDataPath control).txFrame)) = after) :
    ∃ unit, Loaded (stage s.link.connection.toDataPath control) (some unit) ∧
      (∃ h, Outward link.connection.toDataPath after.1.central.expectedSn
        (completed ++ if acks then payloads [unit] else []) (taken ++ after.2.toList) h) ∧
      (completed ++ if acks then payloads [unit] else []) <+: payloads taken ∧
      (∀ log g, Inward s.sent log s.central.transmitSn s.link.connection.expectedSn g → ∃ g',
        Inward after.1.sent
          (log ++ if heard = true ∧ s.central.transmitSn = s.link.connection.expectedSn then [s.sent] else [])
          after.1.central.transmitSn link.connection.expectedSn g') ∧
      after.1.link = link := by
  obtain ⟨unit,h,ready,outward,current,owner⟩ := coupledStaged coupled offered
  obtain ⟨sequence,expected⟩ := stageKeeps s.link.connection.toDataPath control
  generalize stage s.link.connection.toDataPath control = staged at *
  have honest := loadedHonest ready.loaded
  have built : staged.transmitted = unit.kind := by
    cases ready.loaded with
    | loaded _ kind => exact kind
  have kind : airedKind s.link.connection.toDataPath link.connection.toDataPath = unit.kind := by
    rcases owner with ⟨idle,fresh⟩ | same
    · have silent : acks = false := by
        by_contra acked
        have old := (told (by simpa using acked)).2
        rw [fresh] at old
        cases old
      rw [airedKind,if_pos idle,ends.kind,silent]
      exact built
    · have chosen : s.link.connection.transmitted ≠ .none := same ▸ honestKind honest
      exact (if_neg chosen).trans same
  rw [replyTaken ready s link o kind] at replied
  subst replied
  obtain ⟨⟨h',moved⟩,known⟩ := outwardMoved outward current (delivers o) acks
    fun acked => sequence.symm ▸ (told acked).1
  have taking : (if delivers o = true ∧ staged.transmitSn = s.central.expectedSn then some unit else none).toList =
      if delivers o = true ∧ staged.transmitSn = s.central.expectedSn then [unit] else [] := by
    split <;> rfl
  refine ⟨unit,ready.loaded,⟨h',?_⟩,known,?_,rfl⟩
  · rw [taking]
    exact outwardAlike moved ends.frame ends.kind ends.sequence fun pdu found => by rw [ends.head]; exact found
  · intro log g inward
    have step := inwardMoved inward (delivers o) heard
    rw [ends.expected,expected]
    exact step

/- A packet of the Central that counts as received carries its PDU and its sequence numbers. -/
theorem heardRead {fate received header payload} (valid : IsBit s.central.expectedSn ∧ IsBit s.central.transmitSn)
    (comes : receives stream s fate = some received) (read : receivedPdu received = some (header,payload)) :
    nesn header = s.central.expectedSn ∧ sn header = s.central.transmitSn ∧
      header &&& 0x03 = (stream s.sent).header &&& 0x03 ∧ payload = (stream s.sent).payload := by
  cases fate with
  | lost => cases comes
  | corrupt packet delivered =>
    cases comes
    simp [receivedPdu] at read
  | heard moreData rssi timestamp transmitted delivered =>
    cases comes
    have llid := responseLlid s.central valid (stream s.sent).header moreData
    rw [readWire (llid.symm ▸ (stream s.sent).labelled) (stream s.sent).fits] at read
    cases read
    exact ⟨responseNesn s.central valid _ moreData,responseSn s.central valid _ moreData,llid,rfl⟩

end Event

theorem regainedBoth (front back : List HostCall) : regained (front ++ back) = regained front + regained back := by
  unfold regained
  rw [List.filterMap_append,List.sum_append]

/- A completion is for the PDU that was on air. -/
theorem completionTakes {d : DataPath} {unit} (loaded : Loaded d (some unit)) (handle header outstanding) :
    (held d).take (regained (completion handle d header outstanding)) =
      if acknowledgesTransmitOwner header d.transmitSn outstanding false then payloads [unit] else [] := by
  unfold completion
  cases loaded with
  | loaded _ kind _ _ _ head =>
    by_cases acks : acknowledgesTransmitOwner header d.transmitSn outstanding false = true
    · rw [if_pos acks]
      by_cases acl : d.transmitted = .acl
      · rw [if_pos ⟨acks,acl⟩]
        have owner : unit.kind = .acl := kind.symm.trans acl
        obtain ⟨pdu,pending,same⟩ := Option.map_eq_some_iff.mp (head owner)
        simp [regained,credit,held,buffer,Buffer.contents,pending,payloads,aclData,owner,same]
      · rw [if_neg fun both => acl both.2]
        have owner : unit.kind ≠ .acl := fun wrong => acl (kind.trans wrong)
        simp [regained,payloads,aclData,owner]
    · rw [if_neg acks,if_neg fun both => acks both.1]
      rfl

theorem runsQueue {c : ActiveConnection} {radio path frame calls} (runs : DataRuns c radio path frame calls)
    (packed : (buffer c.toDataPath).Packed) (carrying : Carrying c.toDataPath) :
    (buffer path).Packed ∧
      held c.toDataPath = (held c.toDataPath).take (regained calls) ++ held path := by
  obtain ⟨_,⟨same,none⟩ | ⟨taken,one,full⟩⟩ := runsBuffer runs carrying
  · refine ⟨same ▸ packed,?_⟩
    rw [none,held,held,same]
    rfl
  · obtain ⟨packedAfter,rest⟩ := takePacked packed
    obtain ⟨first,present⟩ := Option.isSome_iff_exists.mp full
    refine ⟨taken ▸ packedAfter,?_⟩
    have whole : (buffer c.toDataPath).contents = first :: (buffer c.toDataPath).contents.tail := by
      simp [buffer,Buffer.contents,present]
    rw [one,held,held,taken,rest,whole]
    rfl

theorem loadedCarrying {d : DataPath} {current} (loaded : Loaded d current) : Carrying d := by
  intro acl
  cases loaded with
  | idle _ none =>
    rw [none] at acl
    cases acl
  | loaded _ kind _ _ _ head =>
    obtain ⟨pdu,pending,_⟩ := Option.map_eq_some_iff.mp (head (kind.symm.trans acl))
    rw [pending]
    rfl

section Runs
variable {stream : Nat → CentralPdu} {handle : UInt16} {queued completed : List Fragment} {taken : List Aired}
  {handed : List HostCall} {s : Peers}

/- Both directions after one event. -/
structure Moved (stream : Nat → CentralPdu) (handle : UInt16) (completed : List Fragment) (known taken : List Aired)
    (handed : List HostCall) (link : Link) (after : Peers) : Prop where
  outward : ∃ h, Outward link.connection.toDataPath after.central.expectedSn completed taken h
  known : completed <+: payloads known
  inward : ∃ g log, Inward after.sent log after.central.transmitSn link.connection.expectedSn g ∧
    handed = log.flatMap (aclOf stream handle)
  link : after.link = link

theorem outwardKnown {d : DataPath} {expects h} (outward : Outward d expects completed taken h) :
    completed <+: payloads taken := by
  rw [← outward.known,← outward.accepted]
  exact (ackedPrefix h).filterMap aclData

theorem queuedHead {d after : DataPath} {handle bytes pdu} (ok : d.queueAcl handle bytes = .ok after)
    (first : d.pending = some pdu) : after.pending = some pdu := by
  unfold DataPath.queueAcl DataPath.store at ok
  split at ok
  · cases ok
  · dsimp only at ok
    split at ok
    · cases ok
    · rw [first] at ok
      simp only [Option.isNone_some,Bool.false_eq_true,if_false] at ok
      split at ok
      · cases ok
      · rename_i stored
        cases ok
        split at stored
        · cases stored
        · cases stored
          rfl

theorem unanswered (o : Occasion) : answer o none = none := by
  unfold answer
  split <;> rfl

/- What a step without an exchange leaves alone: the frame, its owner, both numbers and the head. -/
structure Undisturbed (d after : DataPath) : Prop where
  frame : after.txFrame = d.txFrame
  kind : after.transmitted = d.transmitted
  sequence : after.transmitSn = d.transmitSn
  expected : after.expectedSn = d.expectedSn
  head : ∀ pdu, d.pending.map fragment = some pdu → after.pending.map fragment = some pdu

theorem sameUndisturbed {d after : DataPath} (same : after = d) : Undisturbed d after := by
  subst same
  exact ⟨rfl,rfl,rfl,rfl,fun _ found => found⟩

theorem queuedUndisturbed {d after : DataPath} {handle bytes} (ok : d.queueAcl handle bytes = .ok after) :
    Undisturbed d after := by
  have head : ∀ pdu, d.pending.map fragment = some pdu → after.pending.map fragment = some pdu := by
    intro pdu found
    obtain ⟨first,pending,rfl⟩ := Option.map_eq_some_iff.mp found
    rw [queuedHead ok pending]
    rfl
  obtain ⟨pending,slots,token,rfl⟩ := queuedShape ok
  exact ⟨rfl,rfl,rfl,rfl,head⟩

theorem unmoved (coupled : Coupled stream handle queued completed taken handed s) {link : Link}
    (path : Undisturbed s.link.connection.toDataPath link.connection.toDataPath) (o : Occasion) :
    Moved stream handle (completed ++ []) taken (taken ++ (takeReply s link (answer o none)).2.toList) (handed ++ [])
      link (takeReply s link (answer o none)).1 := by
  obtain ⟨h,outward⟩ := coupled.outward
  obtain ⟨g,log,inward,handing⟩ := coupled.inward
  rw [unanswered,List.append_nil,List.append_nil]
  refine ⟨⟨h,?_⟩,outwardKnown outward,⟨g,log,?_,handing⟩,rfl⟩
  · show Outward link.connection.toDataPath s.central.expectedSn completed (taken ++ []) h
    rw [List.append_nil]
    exact outwardAlike outward path.frame path.kind path.sequence path.head
  · rw [path.expected]
    exact inward

/- The event ends before the packet of the Central is looked at. -/
theorem unheard (coupled : Coupled stream handle queued completed taken handed s) {control}
    (offered : Offers s.link.connection control) (o : Occasion) {link : Link}
    (ends : Ends (stage s.link.connection.toDataPath control) link.connection.toDataPath false false
      s.central.transmitSn) :
    Moved stream handle (completed ++ []) taken
      (taken ++ (takeReply s link (answer o (some (stage s.link.connection.toDataPath control).txFrame))).2.toList)
      (handed ++ []) link
      (takeReply s link (answer o (some (stage s.link.connection.toDataPath control).txFrame))).1 := by
  obtain ⟨g,log,inward,handing⟩ := coupled.inward
  obtain ⟨unit,loaded,outward,known,inwards,same⟩ :=
    exchangeMoved coupled offered o link ends (fun wrong => (nomatch wrong)) rfl
  obtain ⟨g',inward'⟩ := inwards log g inward
  refine ⟨outward,known,⟨g',log,?_,?_⟩,same⟩
  · simpa using inward'
  · rw [List.append_nil]
    exact handing

theorem forwardedUpward (handle llid payload) :
    (DataPlane.forwarded handle llid payload).filter upward = DataPlane.forwarded handle llid payload := by
  unfold DataPlane.forwarded
  split <;> rfl

/- What an acknowledgement releases, and a packet accepted after it, in terms of the staged frame. -/
theorem heardEnds {staged : DataPath} {transmitted : Bool} {header : UInt8} {outstanding acks : Bool}
    (acked : acknowledgesTransmitOwner header staged.transmitSn outstanding false = acks) :
    Ends staged (accept (acknowledge (note staged transmitted) header outstanding) header) acks true (sn header) := by
  have after : acknowledge (note staged transmitted) header outstanding =
      if acks then release (note staged transmitted) else note staged transmitted := by
    rw [acknowledge]
    show (if acknowledgesTransmitOwner header staged.transmitSn outstanding false then _ else _) = _
    rw [acked]
  have kept : ∀ d, (accept d header).txFrame = d.txFrame ∧ (accept d header).transmitSn = d.transmitSn := by
    intro d
    unfold accept
    split <;> exact ⟨rfl,rfl⟩
  have heads : ∀ d, (accept d header).pending = d.pending := fun d => congrArg Buffer.head (acceptKeeps d header).1
  rw [after]
  refine ⟨(kept _).1.trans ?_,(acceptKeeps _ header).2.trans ?_,(kept _).2.trans ?_,(heads _).trans ?_,?_⟩
  · cases acks <;> rfl
  · cases acks <;> rfl
  · cases acks <;> rfl
  · cases acks <;> rfl
  · have expected : (if acks then release (note staged transmitted) else note staged transmitted).expectedSn =
        staged.expectedSn := by cases acks <;> rfl
    rw [accept,expected]
    simp only [true_and]
    split
    · rfl
    · exact expected

theorem acknowledgedExpects (d : DataPath) (header outstanding) :
    (acknowledge d header outstanding).expectedSn = d.expectedSn := by
  unfold acknowledge
  split <;> rfl

/- What leaves the queue with the packet of an event, taken off the frame that was on air. -/
theorem heardCompletes {d acknowledged : DataPath} {control transmitted unit}
    (loaded : Loaded (note (stage d control) transmitted) (some unit)) (handle header outstanding payload) :
    (held d).take (regained (completion handle (note (stage d control) transmitted) header outstanding ++
        forwarding handle acknowledged header payload)) =
      if acknowledgesTransmitOwner header (stage d control).transmitSn outstanding false then payloads [unit] else [] := by
  have queue : held d = held (note (stage d control) transmitted) :=
    congrArg (fun b => b.contents.map fragment) (stageBuffer d control).symm
  rw [regainedBoth,forwardingFree,Nat.add_zero,queue,completionTakes loaded]
  rfl

/- And what the Host is handed of it. -/
theorem heardHands (handle : UInt16) (d acknowledged : DataPath) (header : UInt8) (outstanding : Bool)
    (payload : List UInt8) :
    (completion handle d header outstanding ++ forwarding handle acknowledged header payload).filter upward =
      if sn header = acknowledged.expectedSn then DataPlane.forwarded handle (header &&& 0x03) payload else [] := by
  have quiet : (completion handle d header outstanding).filter upward = [] := by
    unfold completion
    split <;> rfl
  rw [List.filter_append,quiet,List.nil_append,forwarding]
  split
  · exact forwardedUpward ..
  · rfl

theorem runsMoved (coupled : Coupled stream handle queued completed taken handed s) {fate path frame calls}
    (clock) {link : Link} (runs : DataRuns s.link.connection (receives stream s fate) path frame calls)
    (final : link.connection.toDataPath = path) :
    Moved stream handle (completed ++ (held s.link.connection.toDataPath).take (regained calls)) taken
      (taken ++ (takeReply s link (answer (.event clock fate) frame)).2.toList) (handed ++ calls.filter upward) link
      (takeReply s link (answer (.event clock fate) frame)).1 := by
  generalize comes : receives stream s fate = radio at runs
  cases runs with
  | refused => exact unmoved coupled (sameUndisturbed final) _
  | silent _ offered =>
    refine unheard coupled offered _ ?_
    rw [final]
    exact ⟨rfl,rfl,rfl,rfl,rfl⟩
  | noted offered =>
    refine unheard coupled offered _ ?_
    rw [final]
    exact ⟨rfl,rfl,rfl,rfl,rfl⟩
  | @heard received control header payload offered read staged acknowledged outstanding stages earlier acks =>
    subst stages earlier acks
    obtain ⟨h,outwardBefore⟩ := coupled.outward
    obtain ⟨g,log,inward,handing⟩ := coupled.inward
    obtain ⟨ack,sequence,llid,same⟩ := heardRead
      ⟨outwardBefore.tracks.expectedBit,inward.tracks.transmitBit⟩ comes read
    obtain ⟨transmitSn,expectedSn⟩ := stageKeeps s.link.connection.toDataPath control
    generalize acked : acknowledgesTransmitOwner header (stage s.link.connection.toDataPath control).transmitSn
      (!(stage s.link.connection.toDataPath control).txFrameFresh) false = acks
    have ends : Ends (stage s.link.connection.toDataPath control) link.connection.toDataPath acks true
        s.central.transmitSn := by
      rw [final,← sequence]
      exact heardEnds acked
    have told : acks = true → s.central.expectedSn ≠ s.link.connection.transmitSn ∧
        (stage s.link.connection.toDataPath control).txFrameFresh = false := by
      intro yes
      rw [yes,acknowledgesTransmitOwner,ack,transmitSn] at acked
      simpa [and_comm] using acked
    obtain ⟨unit,loaded,outward,known,inwards,onto⟩ :=
      exchangeMoved coupled offered (.event clock fate) link ends told rfl
    obtain ⟨g',inward'⟩ := inwards log g inward
    have noted : Loaded (note (stage s.link.connection.toDataPath control) received.transmitted) (some unit) :=
      loadedAlike loaded rfl rfl fun _ => id
    have hands : (if sn header = s.link.connection.expectedSn then
          DataPlane.forwarded s.link.connection.handle (header &&& 0x03) payload else []) =
        (if true = true ∧ s.central.transmitSn = s.link.connection.expectedSn then [s.sent] else []).flatMap
          (aclOf stream handle) := by
      rw [sequence]
      simp only [true_and]
      split
      · rw [llid,same,coupled.same]
        exact (List.append_nil _).symm
      · rfl
    rw [heardCompletes noted,acked,heardHands,acknowledgedExpects]
    rw [show (note (stage s.link.connection.toDataPath control) received.transmitted).expectedSn =
      s.link.connection.expectedSn from expectedSn,hands]
    refine ⟨outward,known,⟨g',_,inward',?_⟩,onto⟩
    rw [List.flatMap_append,← handing]

end Runs

/-! Whole runs. -/

theorem contentsBound {α : Type} {n : Nat} {b : Buffer α n} (packed : b.Packed) : b.contents.length ≤ n + 1 := by
  obtain ⟨free,dense⟩ := packed.dense
  have count := packedLength dense
  unfold Buffer.contents
  rw [List.length_append]
  cases b.head with
  | none => simp only [Option.toList_none,List.length_nil]; omega
  | some x => simp only [Option.toList_some,List.length_singleton]; omega

/- What `queue_acl` accepts it had room for; the PDU at the head stays there. -/
theorem acceptedStores {d after : DataPath} {handle} {packet : Packet} (kind : packet.kind = .aclData)
    (packed : (buffer d).Packed) (ok : d.queueAcl handle packet.bytes = .ok after) :
    (buffer after).Packed ∧ held after = held d ++ [fragmentOf packet] := by
  have form := queueWellFormed kind ok
  have room : (buffer d).contents.length < aclQueueCapacity + 1 := by
    by_contra crowded
    have full : (buffer d).contents.length = aclQueueCapacity + 1 :=
      Nat.le_antisymm (contentsBound packed) (Nat.le_of_not_lt crowded)
    unfold DataPath.queueAcl at ok
    split at ok
    · cases ok
    · dsimp only at ok
      split at ok
      · cases ok
      · have none := fun data => (storeBuffer d data).trans (putFull packed data full)
        simp only [Option.map_eq_none_iff] at none
        simp [none] at ok
  obtain ⟨stored,stores,packed',grown,_⟩ := queueStores form packed room
  rw [ok] at stores
  cases stores
  exact ⟨packed',grown⟩

theorem upwardAcl (calls : List HostCall) : calls.filter upward = (calls.filter aclCall).filter upward := by
  rw [List.filter_filter]
  refine List.filter_congr fun call _ => ?_
  cases call <;> rfl

section Step
variable {stream : Nat → CentralPdu} {handle : UInt16} {queued completed : List Fragment} {taken : List Aired}
  {handed : List HostCall} {s : Peers}

/- The queue and both directions after one step. -/
theorem movedCoupled (coupled : Coupled stream handle queued completed taken handed s)
    {accepted left : List Fragment} {taken' handed' link after}
    (moved : Moved stream handle (completed ++ left) taken taken' handed' link after)
    (same : link.connection.handle = handle) (packed : (buffer link.connection.toDataPath).Packed)
    (labelled : Labelled link.connection.toControlPlane)
    (labels : ∀ pdu ∈ accepted, pdu.llid = llidContinuation ∨ pdu.llid = llidStart)
    (queue : held s.link.connection.toDataPath ++ accepted = left ++ held link.connection.toDataPath) :
    Coupled stream handle (queued ++ accepted) (completed ++ left) taken' handed' after := by
  obtain ⟨outward,_,inward,rfl⟩ := moved
  refine ⟨same,packed,labelled,?_,?_,outward,inward⟩
  · intro pdu member
    rcases List.mem_append.mp member with old | new
    · exact coupled.labels pdu old
    · exact labels pdu new
  · rw [coupled.fifo,List.append_assoc,queue,List.append_assoc]

theorem boundaryLabel (packet : Packet) :
    (fragmentOf packet).llid = llidContinuation ∨ (fragmentOf packet).llid = llidStart := by
  show DataPath.llidOfBoundary _ = _ ∨ DataPath.llidOfBoundary _ = _
  unfold DataPath.llidOfBoundary
  split
  · exact Or.inl rfl
  · exact Or.inr rfl

theorem keptCoupled (coupled : Coupled stream handle queued completed taken handed s) (o : Occasion) (link : Link)
    (path : link.connection.toDataPath = s.link.connection.toDataPath) (same : link.connection.handle = handle)
    (labelled : Labelled link.connection.toControlPlane) :
    Coupled stream handle (queued ++ []) (completed ++ []) (taken ++ (takeReply s link (answer o none)).2.toList)
      (handed ++ []) (takeReply s link (answer o none)).1 ∧ completed ++ [] <+: payloads taken := by
  have moved := unmoved coupled (sameUndisturbed path) o
  refine ⟨movedCoupled coupled moved same (path ▸ coupled.packed) labelled (fun _ absent => (nomatch absent)) ?_,
    moved.known⟩
  rw [path,List.append_nil,List.nil_append]

theorem queuedCoupled (coupled : Coupled stream handle queued completed taken handed s) {packet : Packet}
    (kind : packet.kind = .aclData) {path : DataPath}
    (ok : s.link.connection.queueAcl s.link.connection.handle packet.bytes = .ok path) (link : Link)
    (final : link.connection.toDataPath = path) (same : link.connection.handle = handle)
    (labelled : Labelled link.connection.toControlPlane) (o : Occasion) :
    Coupled stream handle (queued ++ [fragmentOf packet]) (completed ++ [])
      (taken ++ (takeReply s link (answer o none)).2.toList) (handed ++ []) (takeReply s link (answer o none)).1 ∧
    completed ++ [] <+: payloads taken := by
  obtain ⟨packed,grown⟩ := acceptedStores kind coupled.packed ok
  have moved := unmoved coupled (final.symm ▸ queuedUndisturbed ok : Undisturbed _ link.connection.toDataPath) o
  refine ⟨movedCoupled coupled moved same (final ▸ packed) labelled ?_ ?_,moved.known⟩
  · intro pdu member
    rw [List.mem_singleton.mp member]
    exact boundaryLabel packet
  · rw [final,grown,List.nil_append]

theorem ranCoupled (coupled : Coupled stream handle queued completed taken handed s) {fate path frame calls}
    (clock) (runs : DataRuns s.link.connection (receives stream s fate) path frame calls) (link : Link)
    (final : link.connection.toDataPath = path) (same : link.connection.handle = handle)
    (labelled : Labelled link.connection.toControlPlane) :
    Coupled stream handle (queued ++ [])
      (completed ++ (held s.link.connection.toDataPath).take (regained calls))
      (taken ++ (takeReply s link (answer (.event clock fate) frame)).2.toList) (handed ++ calls.filter upward)
      (takeReply s link (answer (.event clock fate) frame)).1 ∧
    completed ++ (held s.link.connection.toDataPath).take (regained calls) <+: payloads taken := by
  have moved := runsMoved coupled clock runs final
  obtain ⟨h,outward⟩ := coupled.outward
  obtain ⟨packed,queue⟩ := runsQueue runs coupled.packed (loadedCarrying outward.loaded)
  refine ⟨movedCoupled coupled moved same (final ▸ packed) labelled (fun _ absent => (nomatch absent)) ?_,
    moved.known⟩
  rw [final,List.append_nil]
  exact queue

theorem proceedCoupled (coupled : Coupled stream handle queued completed taken handed s) (o : Occasion) :
    Coupled stream handle (queued ++ (proceed stream s o).2.queued) (completed ++ (proceed stream s o).2.completed)
      (taken ++ (proceed stream s o).2.taken.toList) (handed ++ (proceed stream s o).2.forwarded)
      (proceed stream s o).1 ∧
    completed ++ (proceed stream s o).2.completed <+: payloads taken := by
  have labelled := stepLabelled coupled.labelled (inputOf stream s o)
  unfold proceed
  dsimp only
  cases down : s.link.down with
  | true =>
    have silent : queues s.link o = [] := by
      unfold queues
      split
      · rw [if_neg fun up => by rw [down] at up; exact absurd up.1 (by decide)]
      · rfl
    rw [stepOver down,silent]
    exact keptCoupled coupled o s.link rfl coupled.same coupled.labelled
  | false =>
    obtain ⟨data,handles⟩ := stepData s.link down (inputOf stream s o)
    have same := handles.trans coupled.same
    rw [regainedAcl,upwardAcl]
    generalize (step s.link (inputOf stream s o)).2.exchange.map ExchangeRequest.transmit = frame at data ⊢
    generalize (step s.link (inputOf stream s o)).2.calls.filter aclCall = calls at data ⊢
    generalize (step s.link (inputOf stream s o)).1 = link at data same labelled ⊢
    generalize final : link.connection.toDataPath = path at data
    cases o with
    | host packet =>
      have data : DataStep s.link.connection (.host packet) path frame calls := data
      cases data with
      | kept _ refused =>
        have unqueued : queues s.link (.host packet) = [] := by
          refine if_neg ?_
          rintro ⟨_,kind,accepted⟩
          obtain ⟨status,error⟩ := refused packet rfl kind
          rw [error] at accepted
          cases accepted
        rw [unqueued]
        exact keptCoupled coupled _ link final same labelled
      | queued kind ok =>
        have logs : queues s.link (.host packet) = [fragmentOf packet] := by
          refine if_pos ⟨down,kind,?_⟩
          rw [ok]
          rfl
        rw [logs]
        exact queuedCoupled coupled kind ok link final same labelled _
    | deadlines now =>
      have data : DataStep s.link.connection (.deadlines now) path frame calls := data
      cases data with
      | kept => exact keptCoupled coupled _ link final same labelled
    | skip now clock =>
      have data : DataStep s.link.connection (.skip now clock) path frame calls := data
      cases data with
      | kept => exact keptCoupled coupled _ link final same labelled
    | event clock fate =>
      have data : DataStep s.link.connection (.event clock (receives stream s fate)) path frame calls := data
      cases data with
      | kept => exact keptCoupled coupled _ link final same labelled
      | ran runs => exact ranCoupled coupled clock runs link final same labelled

end Step

theorem startCoupled {handle request endUs now c}
    (created : ActiveConnection.newFor handle request endUs now = some c) (stream : Nat → CentralPdu) :
    Coupled stream handle [] [] [] [] ⟨⟨c,false⟩,.new 0 0,0⟩ := by
  have labelled := createdLabelled created
  unfold ActiveConnection.newFor at created
  split at created
  · cases created
  · cases created
    obtain ⟨packed,empty⟩ := emptyPacked PendingData aclQueueCapacity
    have idle : Outward ⟨0,0,1,none,Slots.empty PendingData aclQueueCapacity,.none,[],false⟩ 0 [] [] (.idle []) :=
      ⟨⟨Or.inl rfl,Or.inl rfl,by simp⟩,.idle rfl rfl,rfl,rfl,fun _ absent => (nomatch absent)⟩
    have first : Inward 0 [] 0 0 (⟨[],some 0,false,by simp⟩ : Half Nat) :=
      ⟨⟨Or.inl rfl,Or.inl rfl,by simp⟩,rfl,rfl,rfl⟩
    exact ⟨rfl,packed,labelled,fun _ absent => (nomatch absent),(congrArg (List.map fragment) empty).symm,⟨_,idle⟩,
      _,[],first,rfl⟩

theorem logged (past : Past) (o : Occasion) (seen : Observed) :
    queued (past ++ [(o,seen)]) = queued past ++ seen.queued ∧
    completed (past ++ [(o,seen)]) = completed past ++ seen.completed ∧
    taken (past ++ [(o,seen)]) = taken past ++ seen.taken.toList ∧
    handedOver (past ++ [(o,seen)]) = handedOver past ++ seen.forwarded :=
  ⟨by simp [queued],by simp [completed],Machines.filterMapSnoc _ _ _,by simp [handedOver]⟩

theorem coupledRun {handle request endUs now c}
    (created : ActiveConnection.newFor handle request endUs now = some c) {stream : Nat → CentralPdu} {past s}
    (run : History (peers stream) ⟨⟨c,false⟩,.new 0 0,0⟩ past s) :
    Coupled stream handle (queued past) (completed past) (taken past) (handedOver past) s := by
  refine Machines.historyInvariant
    (I := fun past s => Coupled stream handle (queued past) (completed past) (taken past) (handedOver past) s)
    (startCoupled created stream) ?_ run
  intro past s o coupled
  obtain ⟨accepts,completes,takes,hands⟩ := logged past o ((peers stream).step s o).2
  rw [accepts,completes,takes,hands]
  exact (proceedCoupled coupled o).1

/- What the Central took beyond the completions is the packet at the head of the queue. -/
theorem takenPrefix {d : DataPath} {expects : UInt8} {completed taken h}
    (outward : Outward d expects completed taken h) : payloads taken <+: completed ++ held d := by
  rw [← outward.accepted,← outward.known,Half.accepted]
  have loaded := outward.loaded
  generalize h.current = current at loaded
  cases loaded with
  | idle => simp [payloads]
  | @loaded header unit frame kind label honest fits head =>
    have first : payloads [unit] <+: held d := by
      by_cases acl : unit.kind = .acl
      · obtain ⟨pdu,pending,same⟩ := Option.map_eq_some_iff.mp (head acl)
        simp [payloads,aclData,acl,held,buffer,Buffer.contents,pending,same]
      · simp [payloads,aclData,acl]
    unfold payloads at *
    rw [List.filterMap_append]
    refine (List.prefix_append_right_inj _).mpr ?_
    split
    · exact first
    · exact List.nil_prefix

theorem backendExactlyOnce {handle request endUs now c}
    (created : ActiveConnection.newFor handle request endUs now = some c) (stream : Nat → CentralPdu) {past s}
    (run : History (peers stream) ⟨⟨c,false⟩,.new 0 0,0⟩ past s) :
    payloads (taken past) <+: queued past ∧ (∀ unit ∈ taken past, Honest unit) ∧
    (∀ o, completed (past ++ [(o,(proceed stream s o).2)]) <+: payloads (taken past)) ∧
    queued past = completed past ++ held s.link.connection.toDataPath ∧
    ∃ n, handedOver past = (List.range n).flatMap (aclOf stream handle) ∧ s.sent ≤ n ∧ n ≤ s.sent + 1 := by
  have coupled := coupledRun created run
  obtain ⟨h,outward⟩ := coupled.outward
  obtain ⟨g,log,inward,handing⟩ := coupled.inward
  refine ⟨coupled.fifo ▸ takenPrefix outward,outward.honest,?_,coupled.fifo,?_⟩
  · intro o
    rw [(logged past o _).2.1]
    exact (proceedCoupled coupled o).2
  · rw [handing,inwardRange inward]
    refine ⟨_,rfl,?_⟩
    split
    · exact ⟨Nat.le_refl _,Nat.le_succ _⟩
    · exact ⟨Nat.le_succ _,Nat.le_refl _⟩

/- Two packets and a Disconnect; answers delivered but denied, delivered and reported, lost, and
a packet of the Central corrupted. -/
def numberedPdu (n : Nat) : CentralPdu := ⟨0x02,[UInt8.ofNat n],by decide,Nat.le_add_left 1 26⟩

def unevenRun : List Occasion :=
  [.host ⟨.aclData,[0x01,0x20,0x01,0x00,7]⟩,.host ⟨.aclData,[0x01,0x10,0x01,0x00,8]⟩,
   .event ⟨2000,2000,2000,2000⟩ (.heard false 0 2000 false true),
   .event ⟨32000,32000,32000,32000⟩ (.heard false 0 32000 true false),
   .event ⟨62000,62000,62000,62000⟩ (.corrupt ⟨[],0,true,62000,true⟩ false),
   .event ⟨92000,92000,92000,92000⟩ (.heard true 0 92000 true true),
   .event ⟨122000,122000,122000,122000⟩ .lost,
   .host ⟨.cmd,[0x06,0x04,0x03,0x01,0x00,0x13]⟩,
   .event ⟨152000,152000,152000,152000⟩ (.heard false 0 152000 true true),
   .event ⟨182000,182000,182000,182000⟩ (.heard false 0 182000 true true)]

theorem unevenRunExactlyOnce :
    payloads (taken (Machines.run (peers numberedPdu) ⟨⟨sampleConnection,false⟩,.new 0 0,0⟩ unevenRun).1) =
      [⟨2,[7]⟩,⟨1,[8]⟩] ∧
    completed (Machines.run (peers numberedPdu) ⟨⟨sampleConnection,false⟩,.new 0 0,0⟩ unevenRun).1 =
      [⟨2,[7]⟩,⟨1,[8]⟩] ∧
    payloads (taken (Machines.run (peers numberedPdu) ⟨⟨sampleConnection,false⟩,.new 0 0,0⟩ unevenRun).1) <+:
      queued (Machines.run (peers numberedPdu) ⟨⟨sampleConnection,false⟩,.new 0 0,0⟩ unevenRun).1 :=
  ⟨by decide +kernel,by decide +kernel,
    (backendExactlyOnce sampleCreated numberedPdu (Machines.runHistory (peers numberedPdu) _ unevenRun)).1⟩

end Ch58xHal.BackendArq
