import Ch58xHal.DataHeader
import Ch58xHal.EventTxFifo
import Ch58xHal.SequencedLink

/-! A Peripheral built from the portable sequence state and the two-slot transmit state,
coupled with a Central that follows the same sequence rules. Either direction is a
stop-and-wait link; the environment may lose any packet in either direction and may
abort any response before it is on air. -/
namespace Ch58xHal.PortableArq
open DataHeader EventTx EventTxFifo InFlightQueue StopAndWait SequencedLink
open Machines (Machine History)

structure Link where
  sequence : DataSequenceState
  transmit : ConnectionEventTxState
  central : DataSequenceState
  sent : Nat
  deriving DecidableEq, Repr

inductive Fate where
  | aborted | lost | delivered
  deriving DecidableEq, Repr

inductive Leg where
  | centralLost
  | exchange (centralStaged : UInt8) (centralMoreData : Bool) (staged : UInt8) (moreData : Bool)
      (fate : Fate)
  deriving DecidableEq, Repr

structure LegReport where
  selected : Option (Except ConnectionEventTxError ConnectionEventTxDecision)
  closed : Option (Except ConnectionEventTxError Unit)
  centralAccepted : Option (Option ConnectionEventTxToken)
  peripheralAccepted : Option Nat

-- The Central numbers its PDUs by `sent` and repeats one until it is acknowledged.
def respond (link : Link) (staged : UInt8) (moreData : Bool) (fate : Fate)
    (d : ConnectionEventTxDecision) (taken : Option Nat) : Link × LegReport :=
  match fate with
  | .aborted =>
      let r := link.transmit.abortTransmit d
      ({link with transmit := r.1},⟨some (.ok d),some r.2,none,taken⟩)
  | .lost =>
      let r := link.transmit.completeTransmit d
      ({link with transmit := r.1},⟨some (.ok d),some r.2,none,taken⟩)
  | .delivered =>
      let r := link.transmit.completeTransmit d
      let heard := link.central.observe (link.sequence.responseHeader staged moreData)
      ({link with
          transmit := r.1
          central := heard.1
          sent := if heard.2.acknowledgedTransmit then link.sent+1 else link.sent},
        ⟨some (.ok d),some r.2,if heard.2.acceptedReceive then some d.responseToken else none,taken⟩)

def leg (link : Link) : Leg → Link × LegReport
  | .centralLost => (link,⟨none,none,none,none⟩)
  | .exchange centralStaged centralMoreData staged moreData fate =>
      let heard := link.sequence.observe (link.central.responseHeader centralStaged centralMoreData)
      let taken := if heard.2.acceptedReceive then some link.sent else none
      let chosen := link.transmit.select heard.2.acknowledgedTransmit
      let next := {link with sequence := heard.1, transmit := chosen.1}
      match chosen.2 with
      | .error e => (next,⟨some (.error e),none,none,taken⟩)
      | .ok d => respond next staged moreData fate d taken

def legs : Machine Link Leg LegReport := ⟨leg⟩

def flipWhen (b : UInt8) (flip : Bool) : UInt8 := if flip then b ^^^ 1 else b

/- `accepted`: the Central already took the PDU on air. `received`: the Peripheral
already took the Central's current PDU. -/
def start (tx : ConnectionEventTxState) (transmitSn expectedSn : UInt8) (accepted received : Bool) : Link :=
  let sequence := DataSequenceState.new transmitSn expectedSn
  ⟨sequence,tx,.new (flipWhen sequence.expectedSn received) (flipWhen sequence.transmitSn accepted),0⟩

def takenByCentral (past : List (Leg × LegReport)) : List ConnectionEventTxToken :=
  past.filterMap (fun call => call.2.centralAccepted.join)

def acknowledged (report : LegReport) : Option ConnectionEventTxToken :=
  match report.selected with
  | some (.ok d) => d.acknowledgedToken
  | _ => none

def acknowledgedTokens (past : List (Leg × LegReport)) : List ConnectionEventTxToken :=
  past.filterMap (fun call => acknowledged call.2)

def takenByPeripheral (past : List (Leg × LegReport)) : List Nat :=
  past.filterMap (fun call => call.2.peripheralAccepted)

/- The outward direction in terms of the abstract queue: `acked` payloads were reported
acknowledged, `taken` payloads were accepted by the Central. -/
structure Outward (owners : List UInt32) (acked taken : List Payload) (q : Queue Payload)
    (transmitSn expectedSn : UInt8) (h : Half (Option Payload)) : Prop where
  tracks : Tracks h transmitSn expectedSn
  whole : acked ++ q.unacked = numbered owners
  air : h.current = airUnit q
  reported : h.acked.filterMap id = acked
  accepted : h.accepted.filterMap id = taken

theorem outwardHeard {owners acked taken q t e h} (outward : Outward owners acked taken q t e h)
    (ready : q.planned = none) :
    ∃ p h', (select q (e != t)).2 = .plan p ∧ Served q (e != t) p (select q (e != t)).1 ∧
      Outward owners (acked ++ p.popped.toList) taken (select q (e != t)).1
        (if e != t then t ^^^ 1 else t) e h' ∧ h'.crossed = false := by
  have asked : (e != t) = true → q.onAir ≠ .nothing := by
    intro ack silent
    have crossed := outward.tracks.crossed.mpr (by simpa using ack)
    have held := h.held crossed
    simp [outward.air,airUnit,silent] at held
  obtain ⟨p,chosen,served⟩ := selectServed ready asked
  have whole : (acked ++ p.popped.toList) ++ (select q (e != t)).1.unacked = numbered owners := by
    rw [List.append_assoc,served.kept,outward.whole]
  cases ack : e != t with
  | true =>
    rw [ack] at served whole chosen
    have crossed := outward.tracks.crossed.mpr (by simpa using ack)
    have popped : airUnit q = some p.popped := served.popped
    refine ⟨p,h.acknowledge,chosen,served,⟨?_,whole,?_,?_,?_⟩,by simp [acknowledgeCrossed h crossed]⟩
    · exact tracksAcknowledge outward.tracks crossed
    · simp [acknowledgeCrossed h crossed,served.air]
    · rw [acknowledgeCrossed h crossed,idleAcked,Half.accepted,if_pos crossed,List.filterMap_append,
        outward.reported,outward.air,popped]
      cases p.popped <;> rfl
    · rw [acknowledgeCrossed h crossed,idleAccepted,outward.accepted]
  | false =>
    rw [ack] at served whole chosen
    have settled : h.crossed = false := by
      cases crossed : h.crossed with
      | false => rfl
      | true => exact absurd (by simpa using ack) (outward.tracks.crossed.mp crossed)
    have nothing : p.popped = none := served.popped
    refine ⟨p,h,chosen,served,⟨outward.tracks,whole,?_,?_,outward.accepted⟩,settled⟩
    · rw [served.air,outward.air]
      rfl
    · rw [nothing,outward.reported]
      simp

theorem outwardSent {owners acked taken q t e h} (outward : Outward owners acked taken q t e h)
    (settled : h.crossed = false) {p : Plan Payload} {air}
    (fill : airUnit ⟨q.unacked,air,none⟩ = some p.response) :
    Outward owners acked taken ⟨q.unacked,air,none⟩ t e (h.load p.response) :=
  ⟨tracksLoad outward.tracks settled _,outward.whole,fill.symm,outward.reported,
    by rw [loadAccepted h _ settled,outward.accepted]⟩

theorem outwardArrived {owners acked taken q t e h} (outward : Outward owners acked taken q t e h)
    (settled : h.crossed = false) {unit} (current : h.current = some unit) :
    Outward owners acked (taken ++ unit.toList) q t (e ^^^ 1) h.arrive := by
  refine ⟨tracksArrive outward.tracks settled current,outward.whole,outward.air,outward.reported,?_⟩
  rw [arriveNew h current settled,List.filterMap_append,outward.accepted]
  cases unit <;> simp

structure Coupled (owners : List UInt32) (before : List Nat) (past : List (Leg × LegReport))
    (link : Link) : Prop where
  sound : Sound link.transmit
  ready : link.transmit.planned = none
  outward : ∃ h, Outward owners ((acknowledgedTokens past).map payload)
    ((takenByCentral past).map payload) (queue link.transmit) link.sequence.transmitSn
    link.central.expectedSn h
  inward : ∃ h, Inward link.sent (before ++ takenByPeripheral past) link.central.transmitSn
    link.sequence.expectedSn h
  clean : ∀ call ∈ past, (∀ e, call.2.selected ≠ some (.error e)) ∧ ∀ e, call.2.closed ≠ some (.error e)

/- Between `select` and the end of the leg: the plan is pending, the outward direction is
settled and the Central's PDU has been taken. -/
structure Answering (owners : List UInt32) (acked taken : List Payload) (numbers : List Nat)
    (link : Link) (d : ConnectionEventTxDecision) : Prop where
  sound : Sound link.transmit
  planned : link.transmit.planned = some d
  outward : ∃ h, Outward owners acked taken (queue link.transmit) link.sequence.transmitSn
    link.central.expectedSn h ∧ h.crossed = false
  inward : ∃ h, Inward link.sent numbers link.central.transmitSn link.sequence.expectedSn h ∧
    h.crossed = true
  first : d.responseToken.isSome → d.responseToken.map payload = (queue link.transmit).unacked.head?

structure Closed (owners : List UInt32) (acked taken : List Payload) (numbers : List Nat)
    (result : Link × LegReport) (d : ConnectionEventTxDecision) (number : Option Nat) : Prop where
  report : result.2.selected = some (.ok d) ∧ result.2.closed = some (.ok ()) ∧
    result.2.peripheralAccepted = number
  sound : Sound result.1.transmit
  ready : result.1.transmit.planned = none
  outward : ∃ h, Outward owners acked (taken ++ (result.2.centralAccepted.join.map payload).toList)
    (queue result.1.transmit) result.1.sequence.transmitSn result.1.central.expectedSn h
  inward : ∃ h, Inward result.1.sent numbers result.1.central.transmitSn
    result.1.sequence.expectedSn h

theorem responded {owners acked taken numbers link d} (answering : Answering owners acked taken numbers link d)
    (staged : UInt8) (moreData : Bool) (fate : Fate) (number : Option Nat) :
    Closed owners acked taken numbers (respond link staged moreData fate d number) d number := by
  obtain ⟨sound,planned,⟨h,outward,settled⟩,⟨g,inward,crossed⟩,first⟩ := answering
  obtain ⟨done,after,view⟩ := completeRefines sound planned
  have ready : (link.transmit.completeTransmit d).1.planned = none := by
    simpa [queue] using congrArg Queue.planned view
  have fill : airUnit (queue (link.transmit.completeTransmit d).1) = some (d.responseToken.map payload) := by
    rw [view]
    cases token : d.responseToken with
    | none => rfl
    | some t => simp [airUnit,← first (by simp [token]),token]
  have sent : Outward owners acked taken (queue (link.transmit.completeTransmit d).1)
      link.sequence.transmitSn link.central.expectedSn (h.load (d.responseToken.map payload)) := by
    rw [view] at fill ⊢
    exact outwardSent outward settled (p := plan d) fill
  cases fate with
  | aborted =>
    have dropped := ConnectionEventTxState.abortPlanned planned
    have same : queue {link.transmit with planned := none} =
        ⟨(queue link.transmit).unacked,(queue link.transmit).onAir,none⟩ := rfl
    refine ⟨by simp [respond,dropped],by simpa [respond,dropped] using abortSound sound,
      by simp [respond,dropped],⟨h,?_⟩,⟨g,inward⟩⟩
    simp only [respond,dropped,Option.join_none,Option.map_none,Option.toList_none,List.append_nil]
    exact ⟨outward.tracks,outward.whole,outward.air,outward.reported,outward.accepted⟩
  | lost =>
    refine ⟨by simp [respond,done],after,ready,⟨h.load (d.responseToken.map payload),?_⟩,⟨g,inward⟩⟩
    simpa [respond] using sent
  | delivered =>
    obtain ⟨heard,ack,took⟩ := observeResponse link.central link.sequence
      ⟨inward.tracks.expectedBit,outward.tracks.transmitBit⟩ staged moreData
    have fresh : link.sequence.transmitSn = link.central.expectedSn := (tracksEqual outward.tracks settled).symm
    have different : link.sequence.expectedSn ≠ link.central.transmitSn := inward.tracks.crossed.mp crossed
    obtain ⟨g',inward'⟩ := inwardAcknowledged inward crossed
    have arrived := outwardArrived sent (by simp) rfl
    refine ⟨by simp [respond,done],after,ready,⟨(h.load (d.responseToken.map payload)).arrive,?_⟩,⟨g',?_⟩⟩
    · simpa [respond,heard,took,fresh] using arrived
    · simpa [respond,heard,ack,different] using inward'

theorem coupledSnoc {owners before past} (l : Leg) {report : LegReport} {link : Link}
    (sound : Sound link.transmit) (ready : link.transmit.planned = none)
    (outward : ∃ h, Outward owners
      ((acknowledgedTokens past).map payload ++ ((acknowledged report).map payload).toList)
      ((takenByCentral past).map payload ++ (report.centralAccepted.join.map payload).toList)
      (queue link.transmit) link.sequence.transmitSn link.central.expectedSn h)
    (inward : ∃ h, Inward link.sent
      (before ++ takenByPeripheral past ++ report.peripheralAccepted.toList)
      link.central.transmitSn link.sequence.expectedSn h)
    (clean : ∀ call ∈ past, (∀ e, call.2.selected ≠ some (.error e)) ∧
      ∀ e, call.2.closed ≠ some (.error e))
    (good : (∀ e, report.selected ≠ some (.error e)) ∧ ∀ e, report.closed ≠ some (.error e)) :
    Coupled owners before (past ++ [(l,report)]) link := by
  have acked : acknowledgedTokens (past ++ [(l,report)]) =
      acknowledgedTokens past ++ (acknowledged report).toList := Machines.filterMapSnoc _ _ _
  have byCentral : takenByCentral (past ++ [(l,report)]) =
      takenByCentral past ++ report.centralAccepted.join.toList := Machines.filterMapSnoc _ _ _
  have byPeripheral : takenByPeripheral (past ++ [(l,report)]) =
      takenByPeripheral past ++ report.peripheralAccepted.toList := Machines.filterMapSnoc _ _ _
  have mapped : ∀ t : Option ConnectionEventTxToken, t.toList.map payload = (t.map payload).toList := by
    intro t; cases t <;> rfl
  refine ⟨sound,ready,?_,?_,?_⟩
  · simpa only [acked,byCentral,List.map_append,mapped] using outward
  · simpa only [byPeripheral,List.append_assoc] using inward
  · intro call member
    rcases List.mem_append.mp member with old | new
    · exact clean call old
    · obtain rfl : call = (l,report) := by simpa using new
      exact good

-- what the Central's packet carries, if it is new
def fresh (link : Link) : Option Nat :=
  if link.central.transmitSn = link.sequence.expectedSn then some link.sent else none

-- the Peripheral once it has heard the Central and chosen its response
def heardBy (link : Link) (centralStaged : UInt8) (centralMoreData : Bool) : Link :=
  {link with
    sequence := (link.sequence.observe (link.central.responseHeader centralStaged centralMoreData)).1
    transmit := (link.transmit.select (link.central.expectedSn != link.sequence.transmitSn)).1}

theorem legKept {owners before past link} (coupled : Coupled owners before past link) (l : Leg) :
    Coupled owners before (past ++ [(l,(leg link l).2)]) (leg link l).1 := by
  cases l with
  | centralLost =>
    refine coupledSnoc _ coupled.sound coupled.ready ?_ ?_ coupled.clean (by simp [leg])
    · simpa [leg,acknowledged] using coupled.outward
    · simpa [leg] using coupled.inward
  | exchange centralStaged centralMoreData staged moreData fate =>
    obtain ⟨h,outward⟩ := coupled.outward
    obtain ⟨g,inward⟩ := coupled.inward
    have ready : (queue link.transmit).planned = none := by simp [queue,coupled.ready]
    obtain ⟨heard,ack,took⟩ := observeResponse link.sequence link.central
      ⟨outward.tracks.expectedBit,inward.tracks.transmitBit⟩ centralStaged centralMoreData
    obtain ⟨p,h',chosen,served,outward',settled⟩ := outwardHeard outward ready
    obtain ⟨g',inward',crossed⟩ := inwardHeard inward
    obtain ⟨sound,same,planned⟩ := selectRefines coupled.sound
      (link.central.expectedSn != link.sequence.transmitSn)
    rw [← same] at chosen served outward'
    -- the abstract queue answered with a plan, so the two-slot state did not fail
    obtain ⟨d,ok,rfl⟩ : ∃ d, (link.transmit.select
        (link.central.expectedSn != link.sequence.transmitSn)).2 = .ok d ∧ plan d = p := by
      cases answered : (link.transmit.select
        (link.central.expectedSn != link.sequence.transmitSn)).2 with
      | error e => simp [answered,answer] at chosen
      | ok d => exact ⟨d,rfl,by simpa [answered,answer] using chosen⟩
    have step : leg link (.exchange centralStaged centralMoreData staged moreData fate) =
        respond (heardBy link centralStaged centralMoreData) staged moreData fate d (fresh link) := by
      simp [leg,ack,took,ok,heardBy,fresh]
    have answering : Answering owners
        ((acknowledgedTokens past).map payload ++ (d.acknowledgedToken.map payload).toList)
        ((takenByCentral past).map payload)
        (before ++ takenByPeripheral past ++ (fresh link).toList)
          (heardBy link centralStaged centralMoreData) d := by
      refine ⟨sound,planned d ok,⟨h',?_,settled⟩,⟨g',?_,crossed⟩,?_⟩
      · simpa [heardBy,heard,plan] using outward'
      · have log : (fresh link).toList =
            if link.central.transmitSn = link.sequence.expectedSn then [link.sent] else [] := by
          simp only [fresh]; split <;> rfl
        rw [log]
        simpa [heardBy,heard] using inward'
      · intro some
        exact served.first (by simpa [plan] using some)
    have closed := responded answering staged moreData fate (fresh link)
    rw [step]
    have report : acknowledged (respond (heardBy link centralStaged centralMoreData) staged moreData fate d
        (fresh link)).2 = d.acknowledgedToken := by
      simp [acknowledged,closed.report.1]
    refine coupledSnoc _ closed.sound closed.ready ?_ ?_ coupled.clean ?_
    · rw [report]
      exact closed.outward
    · rw [closed.report.2.2]
      exact closed.inward
    · simp [closed.report.1,closed.report.2.1]

theorem flippedBit {b : UInt8} (valid : IsBit b) (flip : Bool) :
    IsBit (flipWhen b flip &&& 1) ∧ (flipWhen b flip &&& 1 ≠ b ↔ flip = true) := by
  rcases valid with rfl | rfl <;> cases flip <;> decide

def alreadyTaken (received : Bool) : List Nat := if received then [0] else []

theorem startCoupled {owners tx air} (built : Built owners tx air) (a b : UInt8) (accepted received : Bool)
    (crossing : accepted = true → air = .filler) :
    Coupled owners (alreadyTaken received) [] (start tx a b accepted received) := by
  obtain ⟨sound,view,_⟩ := builtSound built
  have outBits := flippedBit (maskIsBit a) accepted
  have inBits := flippedBit (maskIsBit b) received
  have ready : tx.planned = none := by simpa [queue] using congrArg Queue.planned view
  refine ⟨sound,ready,?_,?_,by simp⟩
  · have held : accepted = true → (airUnit (queue tx)).isSome = true := by
      intro crossed
      simp [view,crossing crossed,airUnit]
    refine ⟨⟨[],airUnit (queue tx),accepted,held⟩,⟨maskIsBit a,outBits.1,?_⟩,by simp [view,start,
      acknowledgedTokens],rfl,rfl,?_⟩
    · simpa [start,DataSequenceState.new] using outBits.2.symm
    · by_cases crossed : accepted = true
      · simp [Half.accepted,view,crossing crossed,airUnit,takenByCentral]
      · simp [Half.accepted,crossed,takenByCentral]
  · refine ⟨⟨[],some 0,received,fun _ => rfl⟩,⟨inBits.1,maskIsBit b,?_⟩,rfl,rfl,?_⟩
    · have flipped := inBits.2.symm
      rw [ne_comm] at flipped
      simpa [start,DataSequenceState.new] using flipped
    · cases received <;> rfl

theorem numberedOwners (owners : List UInt32) : (numbered owners).map Payload.owner = owners := by
  apply List.ext_getElem?
  intro i
  simp only [numbered,List.map_map,List.getElem?_map]
  by_cases inside : i < owners.length
  · simp [inside]
  · simp [inside]

theorem outwardPrefix {owners acked taken q t e h} (outward : Outward owners acked taken q t e h) :
    acked <+: taken ∧ taken <+: numbered owners ∧ taken.length ≤ acked.length + 1 := by
  have known := (ackedPrefix h).filterMap id
  have ahead := (acceptedPrefix h).filterMap id
  rw [outward.reported,outward.accepted] at known
  rw [outward.accepted,List.filterMap_append,outward.reported,outward.air] at ahead
  have next : (airUnit q).toList.filterMap id <+: q.unacked ∧
      ((airUnit q).toList.filterMap id).length ≤ 1 := by
    obtain ⟨unacked,onAir,planned⟩ := q
    cases onAir with
    | nothing => simp [airUnit]
    | filler => simp [airUnit]
    | head => cases unacked <;> simp [airUnit]
  refine ⟨known,?_,?_⟩
  · rw [← outward.whole]
    exact ahead.trans (List.prefix_append_right_inj _ |>.mpr next.1)
  · have bound := ahead.length_le
    rw [List.length_append] at bound
    omega

theorem portableExactlyOnce {owners tx air} (built : Built owners tx air) (a b : UInt8)
    (accepted received : Bool) (crossing : accepted = true → air = .filler) {past link}
    (run : History legs (start tx a b accepted received) past link) :
    (∀ call ∈ past, (∀ e, call.2.selected ≠ some (.error e)) ∧ ∀ e, call.2.closed ≠ some (.error e)) ∧
    (takenByCentral past).map ConnectionEventTxToken.ownerToken <+: owners ∧
    (acknowledgedTokens past).map ConnectionEventTxToken.ownerToken <+:
      (takenByCentral past).map ConnectionEventTxToken.ownerToken ∧
    (takenByCentral past).length ≤ (acknowledgedTokens past).length + 1 ∧
    ∃ count, alreadyTaken received ++ takenByPeripheral past = List.range count ∧
      link.sent ≤ count ∧ count ≤ link.sent + 1 := by
  have coupled := Machines.historyInvariant (startCoupled built a b accepted received crossing)
    (fun past link l kept => legKept kept l) run
  obtain ⟨h,outward⟩ := coupled.outward
  obtain ⟨g,inward⟩ := coupled.inward
  obtain ⟨known,ahead,lag⟩ := outwardPrefix outward
  have owner : ∀ tokens : List ConnectionEventTxToken,
      (tokens.map payload).map Payload.owner = tokens.map ConnectionEventTxToken.ownerToken := by
    intro tokens
    simp [payload,Function.comp_def]
  have ahead := ahead.map Payload.owner
  have known := known.map Payload.owner
  rw [owner,numberedOwners] at ahead
  rw [owner,owner] at known
  refine ⟨coupled.clean,ahead,known,by simpa using lag,_,inwardRange inward,?_,?_⟩
  · split <;> omega
  · split <;> omega

-- An Empty already taken, a lost response, an aborted one and a lost Central packet.
def twoOwnersScript : List Leg :=
  [.exchange 1 false 2 true .delivered,.exchange 1 true 2 false .lost,.centralLost,
   .exchange 1 true 2 false .aborted,.exchange 1 true 2 false .delivered,.exchange 1 false 1 false .delivered]

theorem portableExactlyOnceAfterEmpty :
    ∃ tx, ConnectionEventTxState.withEmptyRetry [10,20] = .ok tx ∧
      (takenByCentral (Machines.run legs (start tx 1 0 true false) twoOwnersScript).1).map
        ConnectionEventTxToken.ownerToken = [10,20] ∧
      (acknowledgedTokens (Machines.run legs (start tx 1 0 true false) twoOwnersScript).1).map
        ConnectionEventTxToken.ownerToken <+:
        (takenByCentral (Machines.run legs (start tx 1 0 true false) twoOwnersScript).1).map
          ConnectionEventTxToken.ownerToken :=
  ⟨_,rfl,by decide +kernel,(portableExactlyOnce (show Built [10,20] _ .filler from .emptyRetry rfl)
    1 0 true false (fun _ => rfl) (Machines.runHistory legs _ twoOwnersScript)).2.2.1⟩

end Ch58xHal.PortableArq
