import Ch58xHal.PunctualInstants
import Ch58xHal.ReceiveWindow
import Ch58xHal.TimingArithmetic

/-! The receiver is opened in time. Between two events the next anchor is at least one unit of
the transmit window past the last synchronisation, and every interval in force or on the way
is a legal one; so the lead and the widening fit between the two, and a loop that skips missed
events gains on the clock with each turn. -/
namespace Ch58xHal.EventScheduling
open ControlPdu ChannelSelection Llcp Connection ConnectionEvent ConnectionRun ConnectIndCodec Advertising
open ControlHandlers DataPlane InstantOwners OwnershipSteps OwnershipRun Machines Lockstep PunctualInstants ReceiveWindow
open TimingArithmetic

/-! Intervals. -/

/- The shortest interval a Central may ask for is 6 units of 1250 us. -/
structure Admitted (p : Pace) : Prop where
  interval : 6 ≤ p.interval.toNat
  update : ∀ u, p.update = some u → 6 ≤ u.interval.toNat

theorem connectInterval {packet address request} (accepted : parseConnectIndDetailed packet address = .ok request) :
    6 ≤ request.interval.toNat := by
  obtain ⟨accepts,rfl⟩ := (parseAccepts ..).mp accepted
  obtain ⟨_,_,_,⟨low,_⟩,_⟩ := (permittedChecked ..).mp accepts.timing
  exact low

theorem updateInterval {payload counter u} (parsed : ConnectionUpdateInd.parse payload counter = .ok u) :
    6 ≤ u.interval.toNat := by
  obtain ⟨valid,_⟩ := parsedUpdate parsed
  obtain ⟨_,_,_,⟨low,_⟩,_⟩ := (permittedChecked ..).mp valid
  exact low

section Intervals
variable {c after : ActiveConnection}

theorem settledAdmitted {now notify} (admitted : Admitted (pace c))
    (settles : c.settleInstants now = .ok (after,notify)) : Admitted (pace after) := by
  obtain ⟨same,_,_⟩ := settleOwned settles
  have interval : after.request.interval = (owned c).settle.parameters.interval :=
    congrArg (fun o => o.parameters.interval) same
  have update : after.pendingConnectionUpdate = (owned c).settle.update := congrArg Ownership.update same
  cases due : (owned c).updateDue with
  | false =>
    refine ⟨?_,fun u found => admitted.update u ?_⟩
    · show _ ≤ after.request.interval.toNat
      rw [interval]
      have held : 6 ≤ (owned c).parameters.interval.toNat := admitted.interval
      simpa [Ownership.settle,due] using held
    · have found : after.pendingConnectionUpdate = some u := found
      rw [update] at found
      have kept : (owned c).update = some u := by simpa [Ownership.settle,due] using found
      exact kept
  | true =>
    obtain ⟨u,found,_⟩ := updateDueNow due
    refine ⟨?_,fun u found => ?_⟩
    · show _ ≤ after.request.interval.toNat
      rw [interval]
      simpa [Ownership.settle,due,found,parametersOf] using admitted.update u found
    · have found : after.pendingConnectionUpdate = some u := found
      rw [update] at found
      simp [Ownership.settle,due] at found

theorem handledAdmitted {payload handled} (admitted : Admitted (pace c)) (path : Handles c payload handled) :
    ∀ u, handled.control.pendingConnectionUpdate = some u → 6 ≤ u.interval.toNat := by
  intro u found
  cases handledIndicates path with
  | update parsed stored =>
    rw [stored] at found
    cases found
    exact updateInterval parsed
  | map _ _ update => exact admitted.update u (update.symm.trans found)
  | none update => exact admitted.update u (update.symm.trans found)

theorem acceptedAdmitted (admitted : Admitted (pace c)) (header payload) :
    Admitted (pace (acceptReceive c header payload).1) := by
  unfold acceptReceive
  split
  · have flipped : Admitted (pace {c with expectedSn := c.expectedSn ^^^ 1}) := ⟨admitted.interval,admitted.update⟩
    dsimp only
    split
    · exact ⟨flipped.interval,handledAdmitted flipped (controlHandles ..)⟩
    · split <;> exact flipped
  · exact admitted

end Intervals

/-! Anchors. -/

/- Inside an event, and between two events. -/
structure Ordered (c : ActiveConnection) : Prop where
  admitted : Admitted (pace c)
  anchors : c.lastSyncAnchor ≤ c.nextAnchor

structure Spaced (c : ActiveConnection) : Prop where
  admitted : Admitted (pace c)
  anchors : c.lastSyncAnchor + 1250 ≤ c.nextAnchor

section Anchors
variable {c settled after : ActiveConnection}

theorem settledOrdered {now notify} (ordered : Ordered c) (settles : c.settleInstants now = .ok (settled,notify)) :
    Ordered settled := by
  refine ⟨settledAdmitted ordered.admitted settles,?_⟩
  obtain ⟨channels,request,window,deadline,map,update,asked,rfl⟩ := settleShape settles
  exact ordered.anchors

theorem scheduledGains (admitted : Admitted (pace c)) :
    c.nextAnchor + 7500 ≤ c.scheduleFollowingEvent.nextAnchor := by
  have interval : 6 ≤ c.request.interval.toNat := admitted.interval
  rw [scheduledAnchor,EventTiming.interval]
  omega

theorem scheduledSpaced (ordered : Ordered c) : Spaced c.scheduleFollowingEvent := by
  have gains := scheduledGains ordered.admitted
  have anchors := ordered.anchors
  have last : c.scheduleFollowingEvent.lastSyncAnchor = c.lastSyncAnchor := rfl
  refine ⟨⟨ordered.admitted.interval,ordered.admitted.update⟩,?_⟩
  rw [last]
  omega

theorem orderedSpaced (spaced : Spaced c) : Ordered c :=
  ⟨spaced.admitted,Nat.le_of_add_right_le spaced.anchors⟩

theorem alikeOrdered (ordered : Ordered c) (same : pace after = pace c)
    (timing : after.toEventTiming = c.toEventTiming) : Ordered after := by
  have next : after.nextAnchor = c.nextAnchor := congrArg EventTiming.nextAnchor timing
  have last : after.lastSyncAnchor = c.lastSyncAnchor := congrArg EventTiming.lastSyncAnchor timing
  refine ⟨same ▸ ordered.admitted,?_⟩
  rw [next,last]
  exact ordered.anchors

theorem skippedSpaced {now notify} (spaced : Spaced c) (skips : c.skipEvent now = .ok (after,notify)) :
    Spaced after ∧ c.nextAnchor + 7500 ≤ after.nextAnchor := by
  obtain ⟨settled,settles,rfl⟩ := skipShape skips
  have ordered := settledOrdered (orderedSpaced spaced) settles
  have hopped : Ordered {settled with toEventTiming := settled.nextChannel.1} :=
    ⟨⟨ordered.admitted.interval,ordered.admitted.update⟩,ordered.anchors⟩
  refine ⟨scheduledSpaced hopped,?_⟩
  have gains := scheduledGains hopped.admitted
  rw [← settledAnchor settles]
  exact gains

theorem stagedOrdered {staged : ActiveConnection} {now notify} (spaced : Spaced c)
    (settles : c.settleInstants now = .ok (settled,notify)) (stages : stageTransmit (opened settled) = some staged) :
    Ordered staged := by
  have ordered := settledOrdered (orderedSpaced spaced) settles
  have opening : Ordered (opened settled) :=
    ⟨⟨ordered.admitted.interval,ordered.admitted.update⟩,ordered.anchors⟩
  obtain ⟨same,timing⟩ := stagePace stages
  exact alikeOrdered opening same timing

/- A packet moves both anchors to the same place. -/
theorem closedOrdered {clock received header payload outstanding terminate told}
    (ordered : Ordered c)
    (closes : Closes (heard c clock received) clock received header payload outstanding terminate after told none) :
    Ordered after := by
  generalize lives : (none : Option UInt8) = reason at closes
  have hearing : Admitted (pace (heard c clock received)) := ordered.admitted
  cases closes with
  | unacknowledged => cases lives
  | unsettled => cases lives
  | closed acks settles =>
    have acked := acknowledgePace acks
    have accepted := acceptedAdmitted (acked ▸ hearing) header payload
    have settled := settledAdmitted accepted settles
    exact ⟨⟨settled.interval,settled.update⟩,Nat.le_refl _⟩

end Anchors

theorem hostSpaced {c : ActiveConnection} (spaced : Spaced c) (packet) :
    Spaced (processConnectedHostPacket c packet).1 := by
  obtain ⟨same,timing⟩ := hostPace c packet
  have next := congrArg EventTiming.nextAnchor timing
  have last := congrArg EventTiming.lastSyncAnchor timing
  refine ⟨same ▸ spaced.admitted,?_⟩
  rw [next,last]
  exact spaced.anchors

theorem eventSpaced {c : ActiveConnection} {clock radio} (spaced : Spaced c)
    (lives : (connectionEvent c clock radio).reason = none) :
    Spaced (connectionEvent c clock radio).connection.scheduleFollowingEvent := by
  have path := eventRuns c clock radio
  generalize connectionEvent c clock radio = outcome at path lives ⊢
  refine scheduledSpaced ?_
  cases path with
  | unsettled => cases lives
  | unstaged => cases lives
  | silent settles stages => exact stagedOrdered spaced settles stages
  | uncompleted => cases lives
  | unreadable settles stages notes =>
    obtain ⟨same,timing⟩ := notePace notes
    exact alikeOrdered (stagedOrdered spaced settles stages) same timing
  | heard settles stages notes read closes =>
    obtain ⟨same,timing⟩ := notePace notes
    have lives : _ = none := lives
    subst lives
    exact closedOrdered (alikeOrdered (stagedOrdered spaced settles stages) same timing) closes

theorem stepSpaced {link : Link} {input : Input} (spaced : Spaced link.connection)
    (lives : (step link input).1.down = false) : Spaced (step link input).1.connection := by
  have path := (stepContinues lives).2
  generalize (step link input).1.connection = after at path ⊢
  generalize (step link input).2 = report at path
  cases path with
  | host => exact hostSpaced spaced _
  | deadlines => exact spaced
  | skip skips =>
    exact skipKeeps (P := Spaced) (fun _ _ _ _ spaced _ skips => (skippedSpaced spaced skips).1) spaced skips
  | event goes => exact eventSpaced spaced goes

section Runs
variable {request : ConnectInd} {handle : UInt16} {endUs now : Nat} {c : ActiveConnection}

theorem createdSpaced (interval : 6 ≤ request.interval.toNat)
    (created : ActiveConnection.newFor handle request endUs now = some c) :
    Spaced c ∧ MapValid (owned c) := by
  unfold ActiveConnection.newFor at created
  split at created
  · cases created
  · cases created
    refine ⟨⟨⟨interval,fun u absent => (nomatch absent)⟩,?_⟩,fun m absent => (nomatch absent)⟩
    show endUs + 1250 ≤ endUs + (request.windowOffset.toNat + 1) * 1250
    omega

theorem runSpaced (interval : 6 ≤ request.interval.toNat)
    (created : ActiveConnection.newFor handle request endUs now = some c) {trace link}
    (run : History runner ⟨c,false⟩ trace link) : link.down = false → Spaced link.connection := by
  refine historyInvariant (I := fun _ link => link.down = false → Spaced link.connection) ?_ ?_ run
  · exact fun _ => (createdSpaced interval created).1
  · intro past link input kept lives
    exact stepSpaced (kept (stepRunning lives)) lives

end Runs

/-! The lead and the widening. -/

theorem wideningFits {elapsed : Nat} (apart : 1250 ≤ elapsed) (sca : UInt8) :
    rxSetupLeadUs + windowWideningUs elapsed sca localSleepClockPpm < elapsed := by
  have ppm := ReceiveWindow.accuracyBound sca
  unfold windowWideningUs saturatingAdd saturatingMul localSleepClockPpm rxSetupLeadUs
  dsimp only
  generalize sleepClockAccuracyPpm sca = p at ppm
  have whole : elapsed / 1000000 * (p + 50) ≤ elapsed / 1000000 * 550 := Nat.mul_le_mul_left _ (by omega)
  have rest : elapsed % 1000000 * (p + 50) ≤ elapsed % 1000000 * 550 := Nat.mul_le_mul_left _ (by omega)
  omega

theorem opensInTime {c : ActiveConnection} (spaced : Spaced c) :
    ∃ opens, c.receiveOpen = some opens ∧ c.lastSyncAnchor < opens := by
  have anchors := spaced.anchors
  have fits : rxSetupLeadUs + c.wideningUs < c.nextAnchor - c.lastSyncAnchor :=
    wideningFits (by omega) c.request.sleepClockAccuracy
  refine ⟨c.nextAnchor - (rxSetupLeadUs + c.wideningUs),?_,by omega⟩
  unfold EventTiming.receiveOpen
  exact if_pos (by omega)

/-! The loop. -/

/- So many expired events skipped one after the other. -/
inductive Skips (now : Nat) (clock : Nat → Nat) (c : ActiveConnection) : Nat → ActiveConnection → Prop where
  | none : Skips now clock c 0 c
  | more {count before after told} (earlier : Skips now clock c count before)
      (expired : before.receiveClose < now) (skips : before.skipEvent (clock count) = .ok (after,told)) :
      Skips now clock c (count + 1) after

section Loop
variable {now : Nat} {clock : Nat → Nat} {c after : ActiveConnection} {count : Nat}

theorem skipsGain (chain : Skips now clock c count after) (spaced : Spaced c) :
    Spaced after ∧ c.nextAnchor + count * 7500 ≤ after.nextAnchor := by
  induction chain with
  | none => exact ⟨spaced,Nat.le_of_eq (by rw [Nat.zero_mul,Nat.add_zero])⟩
  | @more count before after told earlier expired skips ih =>
    obtain ⟨spaced,gained⟩ := ih
    obtain ⟨spaced',gains⟩ := skippedSpaced spaced skips
    refine ⟨spaced',?_⟩
    calc c.nextAnchor + (count + 1) * 7500
        = c.nextAnchor + count * 7500 + 7500 := by rw [Nat.succ_mul,Nat.add_assoc]
      _ ≤ before.nextAnchor + 7500 := Nat.add_le_add_right gained 7500
      _ ≤ after.nextAnchor := gains

theorem skipsValid (chain : Skips now clock c count after) (valid : MapValid (owned c)) :
    MapValid (owned after) := by
  induction chain with
  | none => exact valid
  | more earlier expired skips ih => exact walkValid (skipWalk skips) ih

theorem skipTotal (valid : MapValid (owned c)) (now) : ∃ after told, c.skipEvent now = .ok (after,told) := by
  obtain ⟨settled,told,settles⟩ := settleTotal valid now
  unfold ActiveConnection.skipEvent
  rw [settles]
  exact ⟨_,_,rfl⟩

/- What a loop that has turned `count` times makes of it: the turns left are the increments the
16-bit count has left. -/
theorem loopExact (turns : Nat) {total : UInt16} (told : Bool) {start : ActiveConnection}
    (valid : MapValid (owned start)) (chain : Skips now clock start total.toNat c)
    (room : total.toNat + turns = 65535) :
    (ActiveConnection.skipLoop now clock turns total told c = .error 0x08 ∧
      ∃ last, Skips now clock start 65536 last) ∨
    ∃ after count notify, ActiveConnection.skipLoop now clock turns total told c = .ok (after,count,notify) ∧
      Skips now clock start count.toNat after ∧ now ≤ after.receiveClose := by
  induction turns generalizing total told c with
  | zero =>
    unfold ActiveConnection.skipLoop
    split
    · rename_i expired
      obtain ⟨next,more,skips⟩ := skipTotal (skipsValid chain valid) (clock total.toNat)
      have full : total.toNat + 1 = 65536 := by omega
      have longer := Skips.more chain expired skips
      rw [full] at longer
      rw [skips]
      exact Or.inl ⟨rfl,next,longer⟩
    · rename_i reached
      exact Or.inr ⟨c,total,told,rfl,chain,Nat.le_of_not_lt reached⟩
  | succ turns ih =>
    unfold ActiveConnection.skipLoop
    split
    · rename_i expired
      obtain ⟨next,more,skips⟩ := skipTotal (skipsValid chain valid) (clock total.toNat)
      have raised : (total + 1).toNat = total.toNat + 1 := by
        rw [UInt16.toNat_add]
        exact Nat.mod_eq_of_lt (by show total.toNat + 1 < 2^16; omega)
      have longer := Skips.more chain expired skips
      rw [← raised] at longer
      rw [skips]
      exact ih _ longer (by omega)
    · rename_i reached
      exact Or.inr ⟨c,total,told,rfl,chain,Nat.le_of_not_lt reached⟩

theorem anchorCloses (c : ActiveConnection) : c.nextAnchor ≤ c.receiveClose := by
  unfold ActiveConnection.receiveClose
  exact Nat.le_add_right _ _

/- Giving up takes more than eight minutes without a turn of the loop. -/
theorem fullChainLate (chain : Skips now clock c 65536 after) (spaced : Spaced c) :
    c.nextAnchor + 65535 * 7500 < now := by
  generalize full : 65536 = count at chain
  cases chain with
  | none => cases full
  | more earlier expired skips =>
    cases full
    have gained := (skipsGain earlier spaced).2
    exact Nat.lt_of_le_of_lt (gained.trans (anchorCloses _)) expired

end Loop

theorem schedulingSafe {packet address request} (accepted : parseConnectIndDetailed packet address = .ok request)
    {handle endUs now c} (created : ActiveConnection.newFor handle request endUs now = some c) {trace link}
    (run : History runner ⟨c,false⟩ trace link) (running : link.down = false) :
    (∃ opens, link.connection.receiveOpen = some opens ∧ link.connection.lastSyncAnchor < opens) ∧
    ∀ now clock,
      (link.connection.skipExpiredEvents now clock = .error 0x08 ∧
        (∃ last, Skips now clock link.connection 65536 last) ∧
        link.connection.nextAnchor + 65535 * 7500 < now) ∨
      ∃ after count notify, link.connection.skipExpiredEvents now clock = .ok (after,count,notify) ∧
        Skips now clock link.connection count.toNat after ∧ now ≤ after.receiveClose := by
  have interval := connectInterval accepted
  have spaced := runSpaced interval created run running
  refine ⟨opensInTime spaced,fun now clock => ?_⟩
  have valid := historyValid (createdSpaced interval created).2 run running
  have start : Skips now clock link.connection (0 : UInt16).toNat link.connection := .none
  rcases loopExact 65535 false valid start rfl with ⟨failed,last,chain⟩ | done
  · exact Or.inl ⟨failed,⟨last,chain⟩,fullChainLate chain spaced⟩
  · exact Or.inr done

/- The connection of a packet on the air: its first event missed, the next ones skipped. -/
def acceptedConnection : ActiveConnection := (ActiveConnection.newFor 1 sampleConnect 1000 1000).get (by decide)

theorem connectCreated : ActiveConnection.newFor 1 sampleConnect 1000 1000 = some acceptedConnection :=
  (Option.some_get _).symm

theorem connectAccepted :
    parseConnectIndDetailed (connectImage sampleInitiator sampleAdvertiser sampleConnect) sampleAdvertiser =
      .ok sampleConnect := by decide +kernel

def caughtUp : List Input := [missed,.skip 300000 fun _ => 300000]

theorem caughtUpSafe :
    (run runner ⟨acceptedConnection,false⟩ caughtUp).2.connection.eventCounter = 10 ∧
    (run runner ⟨acceptedConnection,false⟩ caughtUp).2.connection.nextAnchor = 303500 ∧
    ∃ opens, (run runner ⟨acceptedConnection,false⟩ caughtUp).2.connection.receiveOpen = some opens ∧
      (run runner ⟨acceptedConnection,false⟩ caughtUp).2.connection.lastSyncAnchor < opens :=
  ⟨by decide +kernel,by decide +kernel,
    (schedulingSafe connectAccepted connectCreated (runHistory runner _ caughtUp) (by decide +kernel)).1⟩

end Ch58xHal.EventScheduling
