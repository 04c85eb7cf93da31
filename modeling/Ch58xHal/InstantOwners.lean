import Ch58xHal.Connection
import Ch58xHal.LlcpSteps

/-! Who owns an instant. The abstract machine keeps only the procedure contexts, the two
pending indications, the Host's outstanding request, the event counter and what is in force
of parameters and channel map; a shift is one thing the connection can do to them. -/
namespace Ch58xHal.InstantOwners
open ControlPdu Llcp LlcpSteps Connection

structure Parameters where
  windowSize : UInt8
  windowOffset : UInt16
  interval : UInt16
  latency : UInt16
  supervisionTimeout : UInt16
  deriving DecidableEq, Repr

def parametersOf (update : ConnectionUpdateInd) : Parameters :=
  ⟨update.windowSize,update.windowOffset,update.interval,update.latency,update.supervisionTimeout⟩

structure Ownership where
  procedures : ProcedureManager
  update : Option ConnectionUpdateInd
  map : Option ChannelMapInd
  request : Option LocalConnectionParamRequest
  counter : UInt16
  parameters : Parameters
  channelMap : ChannelMap
  deriving DecidableEq, Repr

/- Progress of a queued Control PDU through transmission and acknowledgement. -/
inductive Advance (c : ProcedureContext) : ProcedureContext → Prop where
  | planned : Advance c c
  | sent (ready : c.Sendable) : Advance c {c with phase := .awaitingTxAck}
  | acknowledged (nowUs) (waiting : c.phase = .awaitingTxAck) : Advance c (c.afterAck nowUs)

def bearing (side : Option ProcedureContext) : Bool :=
  side.any fun c => c.active && c.kind.instantProcedure.isSome

def parametersActive (side : Option ProcedureContext) : Bool :=
  side.any fun c => c.kind == .connectionParameters && c.active

def failSide (s : ProcedureManager) (side : ProcedureInitiator) (error : UInt8) : ProcedureManager :=
  match s.fail side error with
  | .ok after => after
  | .error _ => s

namespace Ownership
variable (o : Ownership)

def updateDue : Bool := o.update.any fun update => update.instant == o.counter
def mapDue : Bool := o.map.any fun update => update.instant == o.counter

/- What an event does to instants that have come. -/
def settle : Ownership :=
  { o with
    procedures := o.procedures.onConnectionEvent o.counter 0x28
    update := if o.updateDue then none else o.update
    map := if o.mapDue then none else o.map
    request := if o.updateDue then none else o.request
    parameters := if o.updateDue then (o.update.map parametersOf).getD o.parameters else o.parameters
    channelMap := if o.mapDue then (o.map.map ChannelMapInd.map).getD o.channelMap else o.channelMap }

end Ownership

inductive Shift (o : Ownership) : Ownership → Prop where
  | kept : Shift o o
  | advanced {side c c'} (held : o.procedures.context side = some c) (move : Advance c c') :
      Shift o {o with procedures := o.procedures.put side c'}
  | asked {c r} (idle : o.procedures.localSide.any ProcedureContext.active = false)
      (kind : c.kind = .connectionParameters) (phase : c.phase = .queued) (undated : c.instant = none)
      (answered : c.expectedResponseOpcode.isSome) (free : o.request = none)
      (remote : parametersActive o.procedures.remoteSide = false)
      (update : o.update = none) (map : o.map = none) :
      Shift o {o with procedures := o.procedures.put .localSide c,request := some r}
  | terminating {c} (idle : o.procedures.localSide.any ProcedureContext.active = false)
      (kind : c.kind = .termination) (undated : c.instant = none)
      (phase : c.phase = .queued ∨ c.phase = .failed) :
      Shift o {o with procedures := o.procedures.put .localSide c}
  | unasked {c} (idle : o.procedures.localSide.any ProcedureContext.active = false)
      (kind : c.kind = .connectionParameters) (undated : c.instant = none)
      (answered : c.expectedResponseOpcode.isSome) (phase : c.phase = .failed) :
      Shift o {o with procedures := o.procedures.put .localSide c}
  | responding {c} (idle : o.procedures.remoteSide.any ProcedureContext.active = false)
      (undated : c.instant = none) (phase : c.phase = .responseQueued ∨ c.phase = .failed)
      (kind : c.kind.instantProcedure = none ∨ c.kind = .connectionParameters ∧
        c.expectedResponseOpcode.isSome ∧ bearing o.procedures.localSide = false) :
      Shift o {o with procedures := o.procedures.put .remoteSide c}
  | dropped {status} (outstanding : o.request.isSome) :
      Shift o {o with procedures := failSide o.procedures .localSide status,request := none}
  | rejected {status} (active : parametersActive o.procedures.remoteSide = true) :
      Shift o {o with procedures := failSide o.procedures .remoteSide status}
  | updateIndicated {c u} (free : o.update = none) (unrequested : o.request = none)
      (ahead : classifyInstant o.counter u.instant ≠ .passed)
      (idle : o.procedures.remoteSide.any ProcedureContext.active = false)
      (own : bearing o.procedures.localSide = false) (kind : c.kind = .connectionUpdate)
      (phase : c.phase = .awaitingInstant) (dated : c.instant = some u.instant) :
      Shift o {o with procedures := o.procedures.put .remoteSide c,update := some u}
  | updateAnswered {side c u} (free : o.update = none)
      (ahead : classifyInstant o.counter u.instant ≠ .passed)
      (held : o.procedures.context side = some c) (waiting : c.phase = .awaitingResponse)
      (owner : side = .localSide ∧ (∃ r, o.request = some r ∧ r.accepts u = true) ∨
        side = .remoteSide ∧ o.request = none ∧ c.kind = .connectionParameters) :
      Shift o {o with
        procedures := o.procedures.put side {c with instant := some u.instant,phase := .awaitingInstant}
        update := some u}
  | mapIndicated {c m} (free : o.map = none) (unrequested : o.request = none)
      (valid : dataChannelMapIsValid m.map = true) (ahead : classifyInstant o.counter m.instant ≠ .passed)
      (idle : o.procedures.remoteSide.any ProcedureContext.active = false)
      (own : bearing o.procedures.localSide = false) (kind : c.kind = .channelMapUpdate)
      (phase : c.phase = .awaitingInstant) (dated : c.instant = some m.instant) :
      Shift o {o with procedures := o.procedures.put .remoteSide c,map := some m}
  | settled : Shift o o.settle
  | scheduled (updateClear : o.updateDue = false) (mapClear : o.mapDue = false) :
      Shift o {o with counter := o.counter + 1}

/-! What holds of every reachable ownership. -/

/- A context of the connection: instants come last, and only the procedures that carry one
ever wait for it. -/
structure Sound (c : ProcedureContext) : Prop where
  early : c.instant.isSome = true → c.phase = .awaitingInstant ∨ c.Finished
  answered : c.kind = .connectionParameters → c.expectedResponseOpcode.isSome = true
  indication : c.kind = .connectionUpdate ∨ c.kind = .channelMapUpdate →
    c.phase = .awaitingInstant ∨ c.Finished
  undated : c.kind.instantProcedure = none → c.instant = none
  dated : c.phase = .awaitingInstant → c.instant.isSome = true

def Pending (o : Ownership) (c : ProcedureContext) : Prop :=
  if c.kind = .channelMapUpdate then ∃ m, o.map = some m ∧ c.instant = some m.instant
  else ∃ u, o.update = some u ∧ c.instant = some u.instant

structure Consistent (o : Ownership) : Prop where
  sound : ∀ side c, o.procedures.context side = some c → Sound c
  ownKinds : ∀ c, o.procedures.localSide = some c → c.kind = .termination ∨ c.kind = .connectionParameters
  exclusive : ¬(bearing o.procedures.localSide = true ∧ bearing o.procedures.remoteSide = true)
  requested : o.request.isSome = parametersActive o.procedures.localSide
  instants : ∀ side c, o.procedures.context side = some c → c.phase = .awaitingInstant → Pending o c
  answered : ∀ r u, o.request = some r → o.update = some u → r.accepts u = true ∧
    ∀ c, o.procedures.localSide = some c → c.phase = .awaitingInstant
  updateAhead : ∀ u, o.update = some u → classifyInstant o.counter u.instant ≠ .passed
  mapAhead : ∀ m, o.map = some m → classifyInstant o.counter m.instant ≠ .passed

/-! Single contexts. -/

theorem activePhase (c : ProcedureContext) : c.active = true ↔ c.phase ≠ .complete ∧ c.phase ≠ .failed := by
  rw [ProcedureContext.active,Bool.not_eq_true',decide_eq_false_iff_not,ProcedureContext.Finished,not_or]

theorem advanceSound {c c' : ProcedureContext} (sound : Sound c) (move : Advance c c') :
    Sound c' ∧ c'.kind = c.kind ∧ (c'.phase = .awaitingInstant → c' = c) ∧
      (c.kind.instantProcedure.isSome = true → c'.active = c.active) := by
  cases move with
  | planned => exact ⟨sound,rfl,fun _ => rfl,fun _ => rfl⟩
  | sent ready =>
    have unfinished : ¬(c.phase = .awaitingInstant ∨ c.Finished) := by
      rcases ready with phase | phase <;> simp [ProcedureContext.Finished,phase]
    have undated : c.instant = none := by
      cases dated : c.instant with
      | none => rfl
      | some instant => exact absurd (sound.early (by simp [dated])) unfinished
    refine ⟨⟨?_,sound.answered,?_,fun _ => undated,fun wrong => (nomatch wrong)⟩,rfl,
      fun wrong => (nomatch wrong),fun _ => ?_⟩
    · intro dated
      exact absurd dated (by simp [undated])
    · intro kind
      exact absurd (sound.indication kind) unfinished
    · rcases ready with phase | phase <;> simp [ProcedureContext.active,ProcedureContext.Finished,phase]
  | acknowledged nowUs waiting =>
    have unfinished : ¬(c.phase = .awaitingInstant ∨ c.Finished) := by
      simp [ProcedureContext.Finished,waiting]
    have undated : c.instant = none := by
      cases dated : c.instant with
      | none => rfl
      | some instant => exact absurd (sound.early (by simp [dated])) unfinished
    -- without an instant the acknowledgement leads to the response or to the end
    have after : (c.expectedResponseOpcode.isSome = true ∧ (c.afterAck nowUs).phase = .awaitingResponse) ∨
        (c.expectedResponseOpcode = none ∧ (c.afterAck nowUs).phase = .complete) := by
      cases expected : c.expectedResponseOpcode <;> cases responding : c.pendingResponse <;>
        simp [ProcedureContext.afterAck,undated,expected,responding]
    have same : (c.afterAck nowUs).kind = c.kind ∧ (c.afterAck nowUs).instant = none ∧
        (c.afterAck nowUs).expectedResponseOpcode = c.expectedResponseOpcode := by
      unfold ProcedureContext.afterAck
      split_ifs <;> exact ⟨rfl,undated,rfl⟩
    obtain ⟨kind,instant,expected⟩ := same
    have never : (c.afterAck nowUs).phase ≠ .awaitingInstant := by
      rcases after with ⟨_,phase⟩ | ⟨_,phase⟩ <;> simp [phase]
    refine ⟨⟨?_,?_,?_,fun _ => instant,fun wrong => absurd wrong never⟩,kind,
      fun wrong => absurd wrong never,?_⟩
    · intro dated
      exact absurd dated (by simp [instant])
    · rw [kind,expected]
      exact sound.answered
    · rw [kind]
      exact fun indication => absurd (sound.indication indication) unfinished
    · intro bears
      have parameters : c.kind = .connectionParameters := by
        cases form : c.kind <;> simp [form,ProcedureKind.instantProcedure] at bears ⊢
        · exact unfinished (sound.indication (Or.inl form))
        · exact unfinished (sound.indication (Or.inr form))
      rcases after with ⟨_,phase⟩ | ⟨absent,_⟩
      · simp [ProcedureContext.active,ProcedureContext.Finished,phase,waiting]
      · exact absurd (sound.answered parameters) (by simp [absent])

theorem failedSound {c : ProcedureContext} (sound : Sound c) (error : UInt8) :
    Sound {c.withFailure error with pendingResponse := false} :=
  ⟨fun _ => Or.inr (Or.inr rfl),sound.answered,fun _ => Or.inr (Or.inr rfl),sound.undated,
    fun wrong => (nomatch wrong)⟩

theorem classifyNext {counter instant : UInt16} (ahead : classifyInstant counter instant ≠ .passed)
    (later : instant ≠ counter) : classifyInstant (counter + 1) instant ≠ .passed := by
  rw [ne_eq,classifyPassed] at ahead ⊢
  have different : instant.toNat ≠ counter.toNat := fun same => later (UInt16.toNat_inj.mp same)
  have first := UInt16.toNat_lt instant
  have second := UInt16.toNat_lt counter
  rw [UInt16.toNat_sub] at ahead ⊢
  have next : (counter + 1).toNat = (counter.toNat + 1) % 65536 := UInt16.toNat_add counter 1
  rw [next]
  omega

theorem putForall {P : ProcedureContext → Prop} {s : ProcedureManager} {side : ProcedureInitiator}
    {c : ProcedureContext} (new : P c) (old : ∀ i x, s.context i = some x → P x) :
    ∀ i x, (s.put side c).context i = some x → P x := by
  intro i x held
  rw [contextPut] at held
  split at held
  · cases held
    exact new
  · exact old i x held

theorem idleSide {side : Option ProcedureContext} (idle : side.any ProcedureContext.active = false) :
    bearing side = false ∧ parametersActive side = false := by
  cases side with
  | none => exact ⟨rfl,rfl⟩
  | some c =>
    have inactive : c.active = false := idle
    simp [bearing,parametersActive,inactive]

theorem parametersBear {side : Option ProcedureContext} (quiet : bearing side = false) :
    parametersActive side = false := by
  cases side with
  | none => rfl
  | some c =>
    cases kind : c.kind <;> cases active : c.active <;>
      simp_all [bearing,parametersActive,ProcedureKind.instantProcedure]

theorem indicationSound {c : ProcedureContext} (phase : c.phase = .awaitingInstant)
    (dated : c.instant.isSome = true) (kind : c.kind = .connectionUpdate ∨ c.kind = .channelMapUpdate) :
    Sound c := by
  refine ⟨fun _ => Or.inl phase,fun parameters => ?_,fun _ => Or.inl phase,fun plain => ?_,fun _ => dated⟩
  · rcases kind with other | other <;> simp [other] at parameters
  · rcases kind with other | other <;> simp [other,ProcedureKind.instantProcedure] at plain

/-! Shifts keep the invariant. -/

section Keep
variable {o : Ownership} (known : Consistent o)
include known

theorem pendingKept {o' : Ownership} (update : o'.update = o.update) (map : o'.map = o.map) :
    ∀ side c, o.procedures.context side = some c → c.phase = .awaitingInstant → Pending o' c := by
  intro side c held phase
  have old := known.instants side c held phase
  unfold Pending at old ⊢
  rwa [update,map]

theorem advancedKept {side : ProcedureInitiator} {c c' : ProcedureContext}
    (held : o.procedures.context side = some c) (move : Advance c c') :
    Consistent {o with procedures := o.procedures.put side c'} := by
  obtain ⟨sound,kind,still,active⟩ := advanceSound (known.sound side c held) move
  have bears : bearing (some c') = bearing (some c) := by
    cases carries : c.kind.instantProcedure.isSome with
    | false => simp [bearing,kind,carries]
    | true => simp [bearing,kind,carries,active carries]
  have asks : parametersActive (some c') = parametersActive (some c) := by
    by_cases parameters : c.kind = .connectionParameters
    · simp [parametersActive,kind,parameters,active (by rw [parameters]; rfl)]
    · have other : (c.kind == .connectionParameters) = false := beq_eq_false_iff_ne.mpr parameters
      simp [parametersActive,kind,other]
  refine ⟨putForall sound known.sound,?_,?_,?_,?_,?_,known.updateAhead,known.mapAhead⟩
  · cases side with
    | localSide =>
      rintro _ ⟨⟩
      rw [kind]
      exact known.ownKinds c held
    | remoteSide => exact known.ownKinds
  · cases side with
    | localSide =>
      have own : o.procedures.localSide = some c := held
      have exclusive := known.exclusive
      rw [own] at exclusive
      simpa only [ProcedureManager.put,bears] using exclusive
    | remoteSide =>
      have own : o.procedures.remoteSide = some c := held
      have exclusive := known.exclusive
      rw [own] at exclusive
      simpa only [ProcedureManager.put,bears] using exclusive
  · cases side with
    | localSide =>
      have own : o.procedures.localSide = some c := held
      have requested := known.requested
      rw [own] at requested
      simpa only [ProcedureManager.put,asks] using requested
    | remoteSide => exact known.requested
  · refine putForall ?_ (pendingKept known rfl rfl)
    intro phase
    have same := still phase
    rw [same] at phase ⊢
    exact pendingKept known rfl rfl side c held phase
  · intro r u asked pending
    obtain ⟨accepts,waiting⟩ := known.answered r u asked pending
    refine ⟨accepts,?_⟩
    cases side with
    | localSide =>
      rintro _ ⟨⟩
      have phase := waiting c held
      cases move with
      | planned => exact phase
      | sent ready => rcases ready with other | other <;> simp [other] at phase
      | acknowledged nowUs acked => simp [acked] at phase
    | remoteSide => exact waiting

/- A new local context where none is active. -/
theorem localKept {c : ProcedureContext} (idle : o.procedures.localSide.any ProcedureContext.active = false)
    (sound : Sound c) (kind : c.kind = .termination ∨ c.kind = .connectionParameters)
    (silent : bearing (some c) = false) (phase : c.phase ≠ .awaitingInstant) :
    Consistent {o with procedures := o.procedures.put .localSide c} := by
  have unrequested : o.request = none := by
    have requested := known.requested
    rw [(idleSide idle).2] at requested
    simpa using requested
  refine ⟨putForall sound known.sound,?_,?_,?_,?_,?_,known.updateAhead,known.mapAhead⟩
  · rintro _ ⟨⟩
    exact kind
  · rintro ⟨own,_⟩
    have own : bearing (some c) = true := own
    rw [silent] at own
    cases own
  · have asks : parametersActive (some c) = false := parametersBear silent
    simp only [ProcedureManager.put,asks,unrequested,Option.isSome_none]
  · exact putForall (fun wrong => absurd wrong phase) (pendingKept known rfl rfl)
  · intro r u asked
    rw [unrequested] at asked
    cases asked

theorem askedKept {c : ProcedureContext} {r : LocalConnectionParamRequest}
    (kind : c.kind = .connectionParameters) (phase : c.phase = .queued) (undated : c.instant = none)
    (answered : c.expectedResponseOpcode.isSome)
    (remote : parametersActive o.procedures.remoteSide = false) (update : o.update = none)
    (map : o.map = none) :
    Consistent {o with procedures := o.procedures.put .localSide c,request := some r} := by
  have active : c.active = true := by simp [ProcedureContext.active,ProcedureContext.Finished,phase]
  have sound : Sound c := by
    refine ⟨fun dated => ?_,fun _ => answered,fun indication => ?_,fun _ => undated,fun wrong => ?_⟩
    · exact absurd dated (by simp [undated])
    · exact absurd indication (by simp [kind])
    · exact absurd wrong (by simp [phase])
  refine ⟨putForall sound known.sound,?_,?_,?_,?_,?_,known.updateAhead,known.mapAhead⟩
  · rintro _ ⟨⟩
    exact Or.inr kind
  · -- an active remote owner would have an indication pending
    rintro ⟨_,other⟩
    have other : bearing o.procedures.remoteSide = true := other
    cases held : o.procedures.remoteSide with
    | none => simp [held,bearing] at other
    | some x =>
      rw [held] at other remote
      obtain ⟨running,carries⟩ : x.active = true ∧ x.kind.instantProcedure.isSome = true := by
        simpa [bearing] using other
      have own : o.procedures.context .remoteSide = some x := held
      have indication : x.kind = .connectionUpdate ∨ x.kind = .channelMapUpdate := by
        cases form : x.kind <;> simp_all [ProcedureKind.instantProcedure,parametersActive]
      have waiting : x.phase = .awaitingInstant := by
        rcases (known.sound _ x own).indication indication with waiting | finished
        · exact waiting
        · rw [activePhase] at running
          rcases finished with done | done
          · exact absurd done running.1
          · exact absurd done running.2
      have pending := known.instants _ x own waiting
      unfold Pending at pending
      split at pending
      · obtain ⟨m,found,_⟩ := pending
        rw [map] at found
        cases found
      · obtain ⟨u,found,_⟩ := pending
        rw [update] at found
        cases found
  · simp [ProcedureManager.put,parametersActive,kind,active]
  · refine putForall (fun wrong => ?_) (pendingKept known rfl rfl)
    exact absurd wrong (by simp [phase])
  · intro _ u _ pending
    rw [update] at pending
    cases pending

/- A new remote context; a procedure with an instant needs the local side to be free of one. -/
theorem remoteKept {c : ProcedureContext} {update : Option ConnectionUpdateInd} {map : Option ChannelMapInd}
    (sound : Sound c) (own : bearing (some c) = true → bearing o.procedures.localSide = false)
    (updated : update = o.update ∨ o.update = none ∧ o.request = none)
    (mapped : map = o.map ∨ o.map = none)
    (updateAhead : ∀ u, update = some u → classifyInstant o.counter u.instant ≠ .passed)
    (mapAhead : ∀ m, map = some m → classifyInstant o.counter m.instant ≠ .passed)
    (pending : c.phase = .awaitingInstant →
      Pending {o with procedures := o.procedures.put .remoteSide c,update := update,map := map} c) :
    Consistent {o with procedures := o.procedures.put .remoteSide c,update := update,map := map} := by
  have older : ∀ side x, o.procedures.context side = some x → x.phase = .awaitingInstant →
      Pending {o with procedures := o.procedures.put .remoteSide c,update := update,map := map} x := by
    intro side x held phase
    have old := known.instants side x held phase
    unfold Pending at old ⊢
    split at old
    · rename_i kind
      rw [if_pos kind]
      obtain ⟨m,found,same⟩ := old
      rcases mapped with rfl | absent
      · exact ⟨m,found,same⟩
      · rw [absent] at found
        cases found
    · rename_i kind
      rw [if_neg kind]
      obtain ⟨u,found,same⟩ := old
      rcases updated with rfl | ⟨absent,_⟩
      · exact ⟨u,found,same⟩
      · rw [absent] at found
        cases found
  refine ⟨putForall sound known.sound,known.ownKinds,?_,known.requested,putForall pending older,?_,
    updateAhead,mapAhead⟩
  · rintro ⟨first,second⟩
    have free := own second
    rw [show bearing o.procedures.localSide = true from first] at free
    cases free
  · intro r u asked found
    rcases updated with rfl | ⟨_,unrequested⟩
    · exact known.answered r u asked found
    · rw [show o.request = some r from asked] at unrequested
      cases unrequested

theorem respondingKept {c : ProcedureContext} (undated : c.instant = none)
    (phase : c.phase = .responseQueued ∨ c.phase = .failed)
    (kind : c.kind.instantProcedure = none ∨ c.kind = .connectionParameters ∧
      c.expectedResponseOpcode.isSome ∧ bearing o.procedures.localSide = false) :
    Consistent {o with procedures := o.procedures.put .remoteSide c} := by
  have early : c.phase ≠ .awaitingInstant := by
    rcases phase with phase | phase <;> simp [phase]
  have sound : Sound c := by
    refine ⟨fun dated => absurd dated (by simp [undated]),?_,?_,fun _ => undated,fun wrong => absurd wrong early⟩
    · intro parameters
      rcases kind with plain | ⟨_,answered,_⟩
      · exact absurd plain (by simp [parameters,ProcedureKind.instantProcedure])
      · exact answered
    · rintro (indication | indication)
      · rcases kind with plain | ⟨parameters,_⟩
        · exact absurd plain (by simp [indication,ProcedureKind.instantProcedure])
        · exact absurd parameters (by simp [indication])
      · rcases kind with plain | ⟨parameters,_⟩
        · exact absurd plain (by simp [indication,ProcedureKind.instantProcedure])
        · exact absurd parameters (by simp [indication])
  refine remoteKept known sound ?_ (Or.inl rfl) (Or.inl rfl) known.updateAhead known.mapAhead
    (fun wrong => absurd wrong early)
  intro bears
  rcases kind with plain | ⟨_,_,free⟩
  · exact absurd bears (by simp [bearing,plain])
  · exact free

theorem updateIndicatedKept {c : ProcedureContext} {u : ConnectionUpdateInd} (free : o.update = none)
    (unrequested : o.request = none) (ahead : classifyInstant o.counter u.instant ≠ .passed)
    (own : bearing o.procedures.localSide = false) (kind : c.kind = .connectionUpdate)
    (phase : c.phase = .awaitingInstant) (dated : c.instant = some u.instant) :
    Consistent {o with procedures := o.procedures.put .remoteSide c,update := some u} := by
  refine remoteKept known (indicationSound phase (by simp [dated]) (Or.inl kind)) (fun _ => own)
    (Or.inr ⟨free,unrequested⟩) (Or.inl rfl) ?_ known.mapAhead ?_
  · rintro _ ⟨⟩
    exact ahead
  · intro _
    unfold Pending
    rw [if_neg (by simp [kind])]
    exact ⟨u,rfl,dated⟩

theorem mapIndicatedKept {c : ProcedureContext} {m : ChannelMapInd} (free : o.map = none)
    (ahead : classifyInstant o.counter m.instant ≠ .passed)
    (own : bearing o.procedures.localSide = false) (kind : c.kind = .channelMapUpdate)
    (phase : c.phase = .awaitingInstant) (dated : c.instant = some m.instant) :
    Consistent {o with procedures := o.procedures.put .remoteSide c,map := some m} := by
  refine remoteKept known (indicationSound phase (by simp [dated]) (Or.inr kind)) (fun _ => own)
    (Or.inl rfl) (Or.inr free) known.updateAhead ?_ ?_
  · rintro _ ⟨⟩
    exact ahead
  · intro _
    unfold Pending
    rw [if_pos kind]
    exact ⟨m,rfl,dated⟩

omit known in
theorem failSideCases (s : ProcedureManager) (side : ProcedureInitiator) (error : UInt8) :
    (s.context side = none ∧ failSide s side error = s) ∨
    ∃ c, s.context side = some c ∧
      failSide s side error = s.put side {c.withFailure error with pendingResponse := false} := by
  unfold failSide ProcedureManager.fail ProcedureManager.contextMut
  cases held : s.context side with
  | none => exact Or.inl ⟨rfl,rfl⟩
  | some c => exact Or.inr ⟨c,rfl,rfl⟩

omit known in
theorem failedInactive (c : ProcedureContext) (error : UInt8) :
    bearing (some {c.withFailure error with pendingResponse := false}) = false ∧
      parametersActive (some {c.withFailure error with pendingResponse := false}) = false := by
  refine idleSide ?_
  simp [ProcedureContext.active,ProcedureContext.Finished,ProcedureContext.withFailure]

theorem droppedKept (outstanding : o.request.isSome = true) (status : UInt8) :
    Consistent {o with procedures := failSide o.procedures .localSide status,request := none} := by
  have requested := known.requested
  rcases failSideCases o.procedures .localSide status with ⟨absent,_⟩ | ⟨c,held,failed⟩
  · have absent : o.procedures.localSide = none := absent
    rw [outstanding,absent] at requested
    cases requested
  · obtain ⟨silent,quiet⟩ := failedInactive c status
    rw [failed]
    refine ⟨putForall (failedSound (known.sound _ c held) status) known.sound,?_,?_,?_,?_,?_,
      known.updateAhead,known.mapAhead⟩
    · rintro _ ⟨⟩
      exact known.ownKinds c held
    · rintro ⟨first,_⟩
      rw [show bearing (some {c.withFailure status with pendingResponse := false}) = true from first] at silent
      cases silent
    · exact quiet.symm
    · exact putForall (fun wrong => (nomatch wrong)) (pendingKept known rfl rfl)
    · intro r u asked
      cases asked

theorem rejectedKept (status : UInt8) :
    Consistent {o with procedures := failSide o.procedures .remoteSide status} := by
  rcases failSideCases o.procedures .remoteSide status with ⟨_,same⟩ | ⟨c,held,failed⟩
  · rw [same]
    exact known
  · obtain ⟨silent,_⟩ := failedInactive c status
    rw [failed]
    refine remoteKept known (failedSound (known.sound _ c held) status) ?_ (Or.inl rfl) (Or.inl rfl)
      known.updateAhead known.mapAhead (fun wrong => (nomatch wrong))
    intro bears
    rw [silent] at bears
    cases bears

/- The Central's answer to a parameter request, of either side. -/
theorem updateAnsweredKept {side : ProcedureInitiator} {c : ProcedureContext} {u : ConnectionUpdateInd}
    (free : o.update = none) (ahead : classifyInstant o.counter u.instant ≠ .passed)
    (held : o.procedures.context side = some c) (waiting : c.phase = .awaitingResponse)
    (owner : side = .localSide ∧ (∃ r, o.request = some r ∧ r.accepts u = true) ∨
      side = .remoteSide ∧ o.request = none ∧ c.kind = .connectionParameters) :
    Consistent {o with
      procedures := o.procedures.put side {c with instant := some u.instant,phase := .awaitingInstant}
      update := some u} := by
  have sound := known.sound side c held
  have running : c.active = true := by simp [ProcedureContext.active,ProcedureContext.Finished,waiting]
  have parameters : c.kind = .connectionParameters := by
    rcases owner with ⟨rfl,r,asked,_⟩ | ⟨_,_,kind⟩
    · have requested := known.requested
      rw [show o.procedures.localSide = some c from held,asked] at requested
      simp [parametersActive] at requested
      exact requested.1
    · exact kind
  have alike : bearing (some {c with instant := some u.instant,phase := .awaitingInstant}) =
      bearing (some c) := by
    simp [bearing,ProcedureContext.active,ProcedureContext.Finished,waiting]
  have asks : parametersActive (some {c with instant := some u.instant,phase := .awaitingInstant}) =
      parametersActive (some c) := by
    simp [parametersActive,ProcedureContext.active,ProcedureContext.Finished,waiting]
  have next : Sound {c with instant := some u.instant,phase := .awaitingInstant} := by
    refine ⟨fun _ => Or.inl rfl,sound.answered,fun _ => Or.inl rfl,fun plain => ?_,fun _ => rfl⟩
    exact absurd plain (by simp [parameters,ProcedureKind.instantProcedure])
  have older : ∀ i x, o.procedures.context i = some x → x.phase = .awaitingInstant →
      Pending {o with
        procedures := o.procedures.put side {c with instant := some u.instant,phase := .awaitingInstant}
        update := some u} x := by
    intro i x held' phase
    have old := known.instants i x held' phase
    unfold Pending at old ⊢
    split at old
    · rename_i kind
      rw [if_pos kind]
      exact old
    · obtain ⟨other,found,_⟩ := old
      rw [free] at found
      cases found
  refine ⟨putForall next known.sound,?_,?_,?_,putForall ?_ older,?_,?_,known.mapAhead⟩
  · cases side with
    | localSide =>
      rintro _ ⟨⟩
      exact Or.inr parameters
    | remoteSide => exact known.ownKinds
  · have exclusive := known.exclusive
    cases side with
    | localSide =>
      rw [show o.procedures.localSide = some c from held] at exclusive
      simpa only [ProcedureManager.put,alike] using exclusive
    | remoteSide =>
      rw [show o.procedures.remoteSide = some c from held] at exclusive
      simpa only [ProcedureManager.put,alike] using exclusive
  · have requested := known.requested
    cases side with
    | localSide =>
      rw [show o.procedures.localSide = some c from held] at requested
      simpa only [ProcedureManager.put,asks] using requested
    | remoteSide => exact requested
  · intro _
    unfold Pending
    rw [if_neg (by simp [parameters])]
    exact ⟨u,rfl,rfl⟩
  · rintro r _ asked ⟨⟩
    rcases owner with ⟨rfl,r',asked',accepts⟩ | ⟨_,unrequested,_⟩
    · rw [show o.request = some r from asked] at asked'
      cases asked'
      refine ⟨accepts,?_⟩
      rintro _ ⟨⟩
      rfl
    · rw [show o.request = some r from asked] at unrequested
      cases unrequested
  · rintro _ ⟨⟩
    exact ahead

/- One context under an event: it is left alone, its instant still to come, or its instant
has come and it completes. -/
theorem settledContext {side : ProcedureInitiator} {c : ProcedureContext}
    (held : o.procedures.context side = some c) :
    (c.onConnectionEvent o.counter 0x28 = c ∧
      (c.phase = .awaitingInstant → ∃ instant, c.instant = some instant ∧ instant ≠ o.counter)) ∨
    (c.onConnectionEvent o.counter 0x28 = {c with phase := .complete,responseDeadlineUs := 0} ∧
      c.phase = .awaitingInstant ∧ c.instant = some o.counter) := by
  unfold ProcedureContext.onConnectionEvent
  by_cases phase : c.phase = .awaitingInstant
  · have pending := known.instants side c held phase
    obtain ⟨instant,dated,ahead⟩ :
        ∃ instant, c.instant = some instant ∧ classifyInstant o.counter instant ≠ .passed := by
      unfold Pending at pending
      split at pending
      · obtain ⟨m,found,same⟩ := pending
        exact ⟨m.instant,same,known.mapAhead m found⟩
      · obtain ⟨u,found,same⟩ := pending
        exact ⟨u.instant,same,known.updateAhead u found⟩
    rw [if_neg (not_not.mpr phase),dated]
    dsimp only
    cases relation : classifyInstant o.counter instant with
    | current => exact Or.inr ⟨rfl,phase,by rw [(classifyCurrent _ _).mp relation]⟩
    | future delta =>
      refine Or.inl ⟨rfl,fun _ => ⟨instant,rfl,fun same => ?_⟩⟩
      rw [(classifyCurrent _ _).mpr same] at relation
      cases relation
    | passed => exact absurd relation ahead
  · rw [if_pos phase]
    exact Or.inl ⟨rfl,fun wrong => absurd wrong phase⟩

/- The Host's own procedures wait only for the instant of a connection update. -/
theorem ownPending {c : ProcedureContext} (held : o.procedures.localSide = some c)
    (phase : c.phase = .awaitingInstant) : ∃ u, o.update = some u ∧ c.instant = some u.instant := by
  have pending := known.instants .localSide c held phase
  have kind : c.kind ≠ .channelMapUpdate := by
    rcases known.ownKinds c held with kind | kind <;> simp [kind]
  unfold Pending at pending
  rwa [if_neg kind] at pending

omit known in
theorem settledHeld {side : ProcedureInitiator} {x : ProcedureContext}
    (held : o.settle.procedures.context side = some x) :
    ∃ c, o.procedures.context side = some c ∧ x = c.onConnectionEvent o.counter 0x28 := by
  cases side with
  | localSide =>
    obtain ⟨c,own,same⟩ := Option.map_eq_some_iff.mp held
    exact ⟨c,own,same.symm⟩
  | remoteSide =>
    obtain ⟨c,own,same⟩ := Option.map_eq_some_iff.mp held
    exact ⟨c,own,same.symm⟩

omit known in
theorem completedSound {c : ProcedureContext} (sound : Sound c) :
    Sound {c with phase := .complete,responseDeadlineUs := 0} :=
  ⟨fun _ => Or.inr (Or.inl rfl),sound.answered,fun _ => Or.inr (Or.inl rfl),sound.undated,
    fun wrong => (nomatch wrong)⟩

omit known in
theorem settledSide (c : ProcedureContext) (n : UInt16) :
    (bearing (some (c.onConnectionEvent n 0x28)) = true → bearing (some c) = true) ∧
      (c.onConnectionEvent n 0x28).kind = c.kind := by
  unfold ProcedureContext.onConnectionEvent
  split
  · exact ⟨id,rfl⟩
  · split
    · exact ⟨id,rfl⟩
    · split
      · exact ⟨fun bears => absurd bears (by simp [bearing,ProcedureContext.active,ProcedureContext.Finished]),rfl⟩
      · exact ⟨id,rfl⟩
      · refine ⟨fun bears => absurd bears ?_,rfl⟩
        simp [bearing,ProcedureContext.active,ProcedureContext.Finished,ProcedureContext.withFailure]

omit known in
theorem updateDueNow (due : o.updateDue = true) : ∃ u, o.update = some u ∧ u.instant = o.counter := by
  unfold Ownership.updateDue at due
  cases found : o.update with
  | none => simp [found] at due
  | some u => exact ⟨u,rfl,by simpa [found] using due⟩

/- The local side and the request leave together, at the instant of the update. -/
theorem settledRequested : o.settle.request.isSome = parametersActive o.settle.procedures.localSide := by
  have requested := known.requested
  show (if o.updateDue then none else o.request).isSome =
    parametersActive (o.procedures.localSide.map (ProcedureContext.onConnectionEvent o.counter 0x28))
  cases held : o.procedures.localSide with
  | none =>
    rw [held] at requested
    have unrequested : o.request = none := by simpa [parametersActive] using requested
    simp [unrequested,parametersActive]
  | some c =>
    rw [held] at requested
    have own : o.procedures.context .localSide = some c := held
    rcases settledContext known own with ⟨same,later⟩ | ⟨done,phase,dated⟩
    · rw [Option.map_some,same]
      by_cases due : o.updateDue = true
      · -- an answered request would have its instant now
        rw [if_pos due]
        cases asked : o.request with
        | none =>
          rw [asked] at requested
          exact requested
        | some r =>
          obtain ⟨u,found,now⟩ := updateDueNow due
          obtain ⟨_,waiting⟩ := known.answered r u asked found
          have phase := waiting c held
          obtain ⟨instant,dated,different⟩ := later phase
          obtain ⟨u',found',dated'⟩ := ownPending known held phase
          rw [found] at found'
          cases found'
          rw [dated'] at dated
          cases dated
          exact absurd now different
      · rw [if_neg due]
        exact requested
    · obtain ⟨u,found,dated'⟩ := ownPending known held phase
      rw [dated] at dated'
      have now : o.counter = u.instant := Option.some.inj dated'
      have due : o.updateDue = true := by
        rw [Ownership.updateDue,found,now]
        simp
      rw [if_pos due,Option.map_some,done]
      simp [parametersActive,ProcedureContext.active,ProcedureContext.Finished]

theorem settledKept : Consistent o.settle := by
  refine ⟨?_,?_,?_,settledRequested known,?_,?_,?_,?_⟩
  · intro side x held
    obtain ⟨c,own,rfl⟩ := settledHeld held
    have sound := known.sound side c own
    rcases settledContext known own with ⟨same,_⟩ | ⟨done,_⟩
    · rw [same]
      exact sound
    · rw [done]
      exact completedSound sound
  · intro x held
    have found : o.settle.procedures.context .localSide = some x := held
    obtain ⟨c,own,rfl⟩ := settledHeld found
    rw [(settledSide c o.counter).2]
    exact known.ownKinds c own
  · rintro ⟨first,second⟩
    have back : ∀ side : Option ProcedureContext,
        bearing (side.map (ProcedureContext.onConnectionEvent o.counter 0x28)) = true → bearing side = true := by
      intro side bears
      cases side with
      | none => exact bears
      | some c => exact (settledSide c o.counter).1 bears
    exact known.exclusive ⟨back _ first,back _ second⟩
  · intro side x held phase
    obtain ⟨c,own,rfl⟩ := settledHeld held
    rcases settledContext known own with ⟨same,later⟩ | ⟨done,_⟩
    · rw [same] at phase ⊢
      obtain ⟨instant,dated,different⟩ := later phase
      have pending := known.instants side c own phase
      unfold Pending at pending ⊢
      split at pending
      · rename_i kind
        rw [if_pos kind]
        obtain ⟨m,found,dated'⟩ := pending
        refine ⟨m,?_,dated'⟩
        have undue : o.mapDue = false := by
          rw [dated] at dated'
          cases dated'
          simp [Ownership.mapDue,found,different]
        simp [Ownership.settle,undue,found]
      · rename_i kind
        rw [if_neg kind]
        obtain ⟨u,found,dated'⟩ := pending
        refine ⟨u,?_,dated'⟩
        have undue : o.updateDue = false := by
          rw [dated] at dated'
          cases dated'
          simp [Ownership.updateDue,found,different]
        simp [Ownership.settle,undue,found]
    · rw [done] at phase
      cases phase
  · intro r u asked found
    have undue : o.updateDue = false := by
      by_contra due
      simp [Ownership.settle,due] at asked
    have asked' : o.request = some r := by simpa [Ownership.settle,undue] using asked
    have found' : o.update = some u := by simpa [Ownership.settle,undue] using found
    obtain ⟨accepts,waiting⟩ := known.answered r u asked' found'
    refine ⟨accepts,?_⟩
    intro x held
    have found : o.settle.procedures.context .localSide = some x := held
    obtain ⟨c,own,rfl⟩ := settledHeld found
    have phase := waiting c own
    rcases settledContext known own with ⟨same,_⟩ | ⟨_,_,dated⟩
    · rw [same]
      exact phase
    · obtain ⟨u',found'',dated'⟩ := ownPending known own phase
      rw [found'] at found''
      cases found''
      rw [dated] at dated'
      have now : o.counter = u.instant := Option.some.inj dated'
      simp [Ownership.updateDue,found',now] at undue
  · intro u found
    by_cases due : o.updateDue = true
    · simp [Ownership.settle,due] at found
    · exact known.updateAhead u (by simpa [Ownership.settle,due] using found)
  · intro m found
    by_cases due : o.mapDue = true
    · simp [Ownership.settle,due] at found
    · exact known.mapAhead m (by simpa [Ownership.settle,due] using found)

theorem scheduledKept (updateClear : o.updateDue = false) (mapClear : o.mapDue = false) :
    Consistent {o with counter := o.counter + 1} := by
  refine ⟨known.sound,known.ownKinds,known.exclusive,known.requested,?_,known.answered,?_,?_⟩
  · intro side c held phase
    exact pendingKept known rfl rfl side c held phase
  · intro u found
    have found : o.update = some u := found
    have later : u.instant ≠ o.counter := by simpa [Ownership.updateDue,found] using updateClear
    exact classifyNext (known.updateAhead u found) later
  · intro m found
    have found : o.map = some m := found
    have later : m.instant ≠ o.counter := by simpa [Ownership.mapDue,found] using mapClear
    exact classifyNext (known.mapAhead m found) later

end Keep

theorem shiftKept {o o' : Ownership} (shift : Shift o o') (known : Consistent o) : Consistent o' := by
  cases shift with
  | kept => exact known
  | advanced held move => exact advancedKept known held move
  | asked idle kind phase undated answered free remote update map =>
    exact askedKept known kind phase undated answered remote update map
  | @terminating c idle kind undated phase =>
    have early : c.phase ≠ .awaitingInstant := by
      rcases phase with phase | phase <;> simp [phase]
    refine localKept known idle ⟨?_,?_,?_,fun _ => undated,fun wrong => absurd wrong early⟩ (Or.inl kind)
      (by simp [bearing,kind,ProcedureKind.instantProcedure]) early
    · exact fun dated => absurd dated (by simp [undated])
    · exact fun parameters => absurd parameters (by simp [kind])
    · exact fun indication => absurd indication (by simp [kind])
  | @unasked c idle kind undated answered phase =>
    refine localKept known idle ⟨?_,fun _ => answered,?_,fun _ => undated,?_⟩ (Or.inr kind) ?_ (by simp [phase])
    · exact fun dated => absurd dated (by simp [undated])
    · exact fun indication => absurd indication (by simp [kind])
    · exact fun wrong => absurd wrong (by simp [phase])
    · simp [bearing,ProcedureContext.active,ProcedureContext.Finished,phase]
  | responding idle undated phase kind => exact respondingKept known undated phase kind
  | dropped outstanding => exact droppedKept known outstanding _
  | rejected active => exact rejectedKept known _
  | updateIndicated free unrequested ahead idle own kind phase dated =>
    exact updateIndicatedKept known free unrequested ahead own kind phase dated
  | updateAnswered free ahead held waiting owner => exact updateAnsweredKept known free ahead held waiting owner
  | mapIndicated free unrequested valid ahead idle own kind phase dated =>
    exact mapIndicatedKept known free ahead own kind phase dated
  | settled => exact settledKept known
  | scheduled updateClear mapClear => exact scheduledKept known updateClear mapClear

end Ch58xHal.InstantOwners
