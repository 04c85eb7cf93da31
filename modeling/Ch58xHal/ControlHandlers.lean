import Ch58xHal.ConnectionRun
import Ch58xHal.InstantOwners

/-! What the procedures of a connection and the handlers of received Control PDUs can do,
each said once: no later proof unfolds a handler again. -/
namespace Ch58xHal.ControlHandlers
open ControlPdu Llcp LlcpSteps Connection ConnectionEvent InstantOwners

/-! Procedures. -/

theorem startRemoteDone {s after : ProcedureManager} {c} (ok : s.startRemote c = .ok after) :
    s.remoteSide.any ProcedureContext.active = false ∧
      (c.kind.instantProcedure.isSome = true → bearing s.localSide = false) ∧
      after = s.put .remoteSide (ProcedureManager.indicated c) := by
  unfold ProcedureManager.startRemote at ok
  split at ok
  · cases ok
  · split at ok
    · cases ok
    · rename_i idle
      split at ok
      · cases ok
      · rename_i own
        cases ok
        refine ⟨?_,?_,rfl⟩
        · cases present : s.remoteSide with
          | none => rfl
          | some remote => simpa [present] using idle
        · intro bears
          cases present : s.localSide with
          | none => rfl
          | some mine => simpa [present,bearing,bears] using own

theorem answeredDone {s after : ProcedureManager} {side opcode instant}
    (ok : s.expectedResponseWithInstant side opcode instant = .ok after) :
    ∃ c, s.context side = some c ∧ c.phase = .awaitingResponse ∧
      after = s.put side {c with instant := some instant,phase := .awaitingInstant} := by
  unfold ProcedureManager.expectedResponseWithInstant ProcedureManager.contextMut at ok
  cases held : s.context side with
  | none => simp [held] at ok
  | some c =>
    simp only [held] at ok
    split_ifs at ok with early wrong
    cases ok
    exact ⟨c,rfl,not_not.mp early,rfl⟩

def abandoned (c : ProcedureContext) (error : UInt8) : ProcedureContext :=
  {c.withFailure error with pendingResponse := false}

theorem failHeld {p : ControlPlane} {side c} (held : p.procedures.context side = some c) (error) :
    p.failProcedure side error = {p with procedures := p.procedures.put side (abandoned c error)} := by
  unfold ControlPlane.failProcedure ProcedureManager.fail ProcedureManager.contextMut
  rw [held]
  rfl

theorem failMissing {p : ControlPlane} {side} (missing : p.procedures.context side = none) (error) :
    p.failProcedure side error = p := by
  unfold ControlPlane.failProcedure ProcedureManager.fail ProcedureManager.contextMut
  rw [missing]

theorem queueTokenRefused {p : ControlPlane} {bytes token}
    (full : (p.queueControlWithToken bytes token).2 ≠ true) : (p.queueControlWithToken bytes token).1 = p := by
  unfold ControlPlane.queueControlWithToken at full ⊢
  split
  · dsimp only
    split_ifs <;> simp_all
  · rfl

/- The context of a remote request whose response has been queued. -/
def answering (kind : ProcedureKind) (token : ProcedureToken) (opcode : UInt8) (expected : Option UInt8)
    (timeout : Option UInt32) : ProcedureContext :=
  {ProcedureContext.new kind .remoteSide token opcode expected none timeout with
    phase := .responseQueued
    pendingResponse := true}

/- A remote request is answered, refused with a Control PDU, or fails at once. -/
inductive Responds (p : ControlPlane) (kind : ProcedureKind) (opcode : UInt8) (response : List UInt8)
    (expected : Option UInt8) (timeout : Option UInt32) : ControlPlane → Prop where
  | silent (empty : response = []) : Responds p kind opcode response expected timeout p
  | refused (error) : Responds p kind opcode response expected timeout
      (p.allocateControlToken.1.queueControl [0x11,opcode,error]).1
  | answered {after first rest} (form : response = first :: rest)
      (idle : p.procedures.remoteSide.any ProcedureContext.active = false)
      (exclusive : kind.instantProcedure.isSome = true → bearing p.procedures.localSide = false)
      (put : after = p.procedures.put .remoteSide
        (answering kind p.allocateControlToken.2 first expected timeout))
      (queued : ({p.allocateControlToken.1 with procedures := after}.queueControlWithToken response
        p.allocateControlToken.2).2 = true) :
      Responds p kind opcode response expected timeout
        ({p.allocateControlToken.1 with procedures := after}.queueControlWithToken response
          p.allocateControlToken.2).1
  | failed {first rest} (form : response = first :: rest)
      (idle : p.procedures.remoteSide.any ProcedureContext.active = false)
      (exclusive : kind.instantProcedure.isSome = true → bearing p.procedures.localSide = false) :
      Responds p kind opcode response expected timeout {p.allocateControlToken.1 with
        procedures := p.procedures.put .remoteSide
          (abandoned (answering kind p.allocateControlToken.2 first expected timeout) 0x3a)}

theorem responseResponds (p : ControlPlane) (kind opcode response expected timeout) :
    Responds p kind opcode response expected timeout
      (p.queueRemoteProcedureResponseWithFollowup kind opcode response expected timeout).1 := by
  unfold ControlPlane.queueRemoteProcedureResponseWithFollowup
  cases response with
  | nil => exact .silent rfl
  | cons first rest =>
    dsimp only
    split
    · exact .refused _
    · exact .refused _
    · rename_i procedures started
      obtain ⟨idle,exclusive,rfl⟩ := startRemoteDone started
      have answer : (p.allocateControlToken.1.procedures.put .remoteSide (ProcedureManager.indicated
          (ProcedureContext.new kind .remoteSide p.allocateControlToken.2 first expected none
            timeout))).responseQueued p.allocateControlToken.2 first =
          .ok (p.procedures.put .remoteSide
            (answering kind p.allocateControlToken.2 first expected timeout)) := rfl
      rw [answer]
      dsimp only
      split
      · rename_i queued
        exact .answered rfl idle exclusive rfl queued
      · rename_i full
        rw [queueTokenRefused full,failHeld (c := answering kind p.allocateControlToken.2 first expected
          timeout) rfl]
        exact .failed rfl idle exclusive

theorem instantStarted {p after : ControlPlane} {kind opcode instant}
    (ok : p.startRemoteInstantProcedure kind opcode instant = (after,none)) :
    ∃ c : ProcedureContext, c.kind = kind ∧ c.phase = .awaitingInstant ∧ c.instant = some instant ∧
      c.token = p.allocateControlToken.2 ∧
      p.procedures.remoteSide.any ProcedureContext.active = false ∧
      (kind.instantProcedure.isSome = true → bearing p.procedures.localSide = false) ∧
      after = {p.allocateControlToken.1 with procedures := p.procedures.put .remoteSide c} := by
  unfold ControlPlane.startRemoteInstantProcedure at ok
  dsimp only at ok
  split at ok
  · rename_i procedures started
    obtain ⟨idle,exclusive,rfl⟩ := startRemoteDone started
    cases ok
    exact ⟨_,rfl,rfl,rfl,rfl,idle,exclusive,rfl⟩
  · cases ok
  · cases ok

theorem instantRefused {p after : ControlPlane} {kind opcode instant error}
    (ok : p.startRemoteInstantProcedure kind opcode instant = (after,some error)) :
    after = p.allocateControlToken.1 := by
  unfold ControlPlane.startRemoteInstantProcedure at ok
  dsimp only at ok
  split at ok
  · cases ok
  · cases ok
    rfl
  · cases ok
    rfl

def requesting (kind : ProcedureKind) (token : ProcedureToken) (opcode : UInt8) (expected : Option UInt8)
    (timeout : Option UInt32) : ProcedureContext :=
  ProcedureContext.new kind .localSide token opcode expected none timeout

/- A local procedure is refused, started with its PDU queued, or fails for want of a slot. -/
inductive Starts (p : ControlPlane) (kind : ProcedureKind) (request : List UInt8)
    (expected : Option UInt8) (timeout : Option UInt32) : ControlPlane × Bool → Prop where
  | silent (empty : request = []) : Starts p kind request expected timeout (p,false)
  | busy (active : p.procedures.localSide.any ProcedureContext.active = true) :
      Starts p kind request expected timeout (p.allocateControlToken.1,false)
  | started {after first rest} (form : request = first :: rest)
      (idle : p.procedures.localSide.any ProcedureContext.active = false)
      (put : after = p.procedures.put .localSide
        (requesting kind p.allocateControlToken.2 first expected timeout))
      (queued : ({p.allocateControlToken.1 with procedures := after}.queueControlWithToken request
        p.allocateControlToken.2).2 = true) :
      Starts p kind request expected timeout
        ({p.allocateControlToken.1 with procedures := after}.queueControlWithToken request
          p.allocateControlToken.2)
  | failed {first rest} (form : request = first :: rest)
      (idle : p.procedures.localSide.any ProcedureContext.active = false) :
      Starts p kind request expected timeout
        ({p.allocateControlToken.1 with
          procedures := p.procedures.put .localSide
            (abandoned (requesting kind p.allocateControlToken.2 first expected timeout) 0x3a)},false)

theorem localStarts (p : ControlPlane) (kind request expected timeout) :
    Starts p kind request expected timeout (p.queueLocalProcedure kind request expected timeout) := by
  unfold ControlPlane.queueLocalProcedure
  cases request with
  | nil => exact .silent rfl
  | cons first rest =>
    dsimp only
    cases active : p.procedures.localSide.any ProcedureContext.active with
    | true =>
      have refused : p.allocateControlToken.1.procedures.startLocal (ProcedureContext.new kind .localSide
          p.allocateControlToken.2 first expected none timeout) = .error .busy := by
        have same : p.allocateControlToken.1.procedures = p.procedures := rfl
        simp [ProcedureManager.startLocal,ProcedureContext.new,same,active]
      rw [refused]
      exact .busy active
    | false =>
      have started : p.allocateControlToken.1.procedures.startLocal (ProcedureContext.new kind .localSide
          p.allocateControlToken.2 first expected none timeout) = .ok (p.procedures.put .localSide
            (requesting kind p.allocateControlToken.2 first expected timeout)) := by
        have same : p.allocateControlToken.1.procedures = p.procedures := rfl
        simp [ProcedureManager.startLocal,ProcedureContext.new,same,active,requesting,ProcedureManager.put]
      rw [started]
      dsimp only
      split
      · rename_i queued
        exact .started rfl active rfl queued
      · rename_i full
        rw [queueTokenRefused full,failHeld (c := requesting kind p.allocateControlToken.2 first expected
          timeout) rfl]
        exact .failed rfl active

/-! Received Control PDUs. -/

/- What the two colliding requests of the Central start with. -/
def cleared (c : ActiveConnection) (error : UInt8) : Handled :=
  if c.localConnectionParamRequest.isSome then dropLocalRequest c c.toControlPlane error
  else ⟨c.toControlPlane,[],none⟩

def mapCollision : UInt8 := procedureCollisionError .connectionParametersRequest .channelMapUpdate

def requestCollision : UInt8 :=
  procedureCollisionError .connectionParametersRequest .connectionParametersRequest

/- Whose procedure an LL_CONNECTION_UPDATE_IND answers. -/
def Answers (c : ActiveConnection) (update : ConnectionUpdateInd) : ProcedureInitiator → Prop
  | .localSide => ∃ r, c.localConnectionParamRequest = some r ∧ r.accepts update = true
  | .remoteSide => c.localConnectionParamRequest = none ∧ c.remoteConnectionParametersActive = true

inductive Handles (c : ActiveConnection) (payload : List UInt8) : Handled → Prop where
  | ignored : Handles c payload ⟨c.toControlPlane,[],none⟩
  | ended (reason) : Handles c payload ⟨c.toControlPlane,[],some reason⟩
  | refused (answer) : Handles c payload ⟨(c.queueControl answer).1,[],none⟩
  | dropped {error} (asked : c.localConnectionParamRequest.isSome = true)
      (code : error = 0 → payload = [0x11,0x0f,0x00]) :
      Handles c payload (dropLocalRequest c c.toControlPlane error)
  | rejected {error} (active : c.remoteConnectionParametersActive = true) :
      Handles c payload ⟨c.failProcedure .remoteSide error,[emitConnectionUpdateResult c error],none⟩
  | responded {kind opcode response after} (plain : kind.instantProcedure = none)
      (responds : Responds c.toControlPlane kind opcode response none none after) :
      Handles c payload ⟨after,[],none⟩
  | requested {response after}
      (responds : Responds (cleared c requestCollision).control .connectionParameters 0x0f response
        (some 0x00) (some procedureResponseTimeoutUs) after) :
      Handles c payload ⟨after,(cleared c requestCollision).calls,none⟩
  | updateAnswered {update i procedures}
      (parsed : ConnectionUpdateInd.parse payload c.eventCounter = .ok update)
      (free : c.pendingConnectionUpdate = none) (owner : Answers c update i)
      (answer : c.procedures.expectedResponseWithInstant i 0x00 update.instant = .ok procedures) :
      Handles c payload ⟨{c.toControlPlane with
        procedures := procedures
        pendingConnectionUpdate := some update},[],none⟩
  | updateIndicated {update after}
      (parsed : ConnectionUpdateInd.parse payload c.eventCounter = .ok update)
      (free : c.pendingConnectionUpdate = none) (unrequested : c.localConnectionParamRequest = none)
      (started : c.startRemoteInstantProcedure .connectionUpdate 0x00 update.instant = (after,none)) :
      Handles c payload ⟨{after with pendingConnectionUpdate := some update},[],none⟩
  | updateCollided (error) : Handles c payload ⟨c.allocateControlToken.1,[],some error⟩
  | mapStored {update after} (parsed : ChannelMapInd.parse payload c.eventCounter = .ok update)
      (free : c.pendingChannelMap = none)
      (started : (cleared c mapCollision).control.startRemoteInstantProcedure .channelMapUpdate 0x01
        update.instant = (after,none)) :
      Handles c payload ⟨{after with pendingChannelMap := some update},(cleared c mapCollision).calls,none⟩
  | mapCollided (error) :
      Handles c payload ⟨(cleared c mapCollision).control.allocateControlToken.1,
        (cleared c mapCollision).calls,some error⟩

/- Where `handle_ll_control` sends a PDU, and the forms it answers itself. -/
inductive Dispatches (c : ActiveConnection) : List UInt8 → Handled → Prop where
  | empty : Dispatches c [] ⟨c.toControlPlane,[],none⟩
  | update (rest) : Dispatches c (0x00 :: rest) (handleConnectionUpdateInd c (0x00 :: rest))
  | map (rest) : Dispatches c (0x01 :: rest) (handleChannelMapInd c (0x01 :: rest))
  | terminated (code) : Dispatches c [0x02,code] ⟨c.toControlPlane,[],some code⟩
  | malformed (rest) : Dispatches c (0x02 :: rest) ⟨c.toControlPlane,[],some 0x1e⟩
  | unknown (request) : Dispatches c [0x07,request] (handleUnknownRsp c [0x07,request])
  | reject (request code) : Dispatches c [0x11,request,code] (handleRejectExtInd c [0x11,request,code])
  | answered {payload} (kind opcode response) (plain : kind.instantProcedure = none) :
      Dispatches c payload ⟨(c.queueRemoteProcedureResponse kind opcode response).1,[],none⟩
  | parameters (rest) : Dispatches c (0x0f :: rest) (handleConnectionParamReq c (0x0f :: rest))
  | refused {payload} (answer) : Dispatches c payload ⟨(c.queueControl answer).1,[],none⟩

section Handlers
variable (c : ActiveConnection) (payload : List UInt8)

theorem updateHandles : Handles c payload (handleConnectionUpdateInd c payload) := by
  unfold handleConnectionUpdateInd
  dsimp only
  cases parsed : ConnectionUpdateInd.parse payload c.eventCounter with
  | error e => cases e <;> exact .ended _
  | ok update =>
    dsimp only
    by_cases free : c.pendingConnectionUpdate.isNone = true
    · have free' : c.pendingConnectionUpdate = none := Option.isNone_iff_eq_none.mp free
      rw [if_pos free]
      by_cases mismatch : c.localConnectionParamRequest.any (fun request => !request.accepts update) = true
      · rw [if_pos mismatch]
        exact .ended _
      rw [if_neg mismatch]
      by_cases asked : c.localConnectionParamRequest.isSome = true
      · rw [if_pos asked]
        obtain ⟨r,found⟩ := Option.isSome_iff_exists.mp asked
        have accepts : r.accepts update = true := by simpa [found] using mismatch
        cases answer : c.procedures.expectedResponseWithInstant .localSide 0x00 update.instant with
        | error e => exact .ended _
        | ok procedures =>
          exact .updateAnswered (i := .localSide) parsed free' ⟨r,found,accepts⟩ answer
      rw [if_neg asked]
      have unrequested : c.localConnectionParamRequest = none := by simpa using asked
      by_cases active : c.remoteConnectionParametersActive = true
      · rw [if_pos active]
        cases answer : c.procedures.expectedResponseWithInstant .remoteSide 0x00 update.instant with
        | error e => exact .ended _
        | ok procedures =>
          exact .updateAnswered (i := .remoteSide) parsed free' ⟨unrequested,active⟩ answer
      rw [if_neg active]
      cases started : c.startRemoteInstantProcedure .connectionUpdate 0x00 update.instant with
      | mk after error =>
        cases error with
        | some error =>
          rw [instantRefused started]
          exact .updateCollided error
        | none => exact .updateIndicated parsed free' unrequested started
    · rw [if_neg free]
      exact .ended _

theorem mapHandles : Handles c payload (handleChannelMapInd c payload) := by
  unfold handleChannelMapInd
  dsimp only
  cases parsed : ChannelMapInd.parse payload c.eventCounter with
  | error e => cases e <;> exact .ended _
  | ok update =>
    dsimp only
    by_cases free : c.pendingChannelMap.isNone = true
    · rw [if_pos free]
      have form : (if c.localConnectionParamRequest.isSome then dropLocalRequest c c.toControlPlane
          (procedureCollisionError .connectionParametersRequest .channelMapUpdate)
        else ⟨c.toControlPlane,[],none⟩) = cleared c mapCollision := rfl
      rw [form]
      cases started : (cleared c mapCollision).control.startRemoteInstantProcedure .channelMapUpdate 0x01
          update.instant with
      | mk after error =>
        cases error with
        | some error =>
          rw [instantRefused started]
          exact .mapCollided error
        | none => exact .mapStored parsed (Option.isNone_iff_eq_none.mp free) started
    · rw [if_neg free]
      exact .ended _

theorem unknownHandles : Handles c payload (handleUnknownRsp c payload) := by
  unfold handleUnknownRsp
  dsimp only
  split
  · rename_i refused
    exact .dropped refused.2 fun wrong => absurd wrong (by decide)
  · exact .ignored

theorem rejectHandles {request code : UInt8} (form : payload = [0x11,request,code]) :
    Handles c payload (handleRejectExtInd c payload) := by
  subst form
  unfold handleRejectExtInd
  dsimp only
  split
  · rename_i refused
    have first : request = 0x0f := refused.1
    exact .dropped refused.2 fun zero => by rw [first,show code = 0 from zero]
  · split
    · rename_i refused
      exact .rejected refused.2
    · exact .ignored

theorem parameterHandles : Handles c payload (handleConnectionParamReq c payload) := by
  unfold handleConnectionParamReq
  dsimp only
  split
  · split
    · exact .refused _
    · exact .requested (responseResponds _ _ _ _ _ _)
  · exact .refused _

theorem controlDispatches : Dispatches c payload (handleLlControl c payload) := by
  unfold handleLlControl
  cases payload with
  | nil => exact .empty
  | cons opcode rest =>
    dsimp only
    by_cases update : opcode = 0x00
    · rw [if_pos update,update]
      exact .update rest
    rw [if_neg update]
    by_cases map : opcode = 0x01
    · rw [if_pos map,map]
      exact .map rest
    rw [if_neg map]
    by_cases terminate : opcode = 0x02
    · rw [if_pos terminate,terminate]
      split
      · rename_i two
        match rest,two with
        | [code],_ => exact .terminated code
      · exact .malformed rest
    rw [if_neg terminate]
    by_cases unknown : opcode = 0x07 ∧ rest.length + 1 = 2
    · rw [if_pos unknown]
      obtain ⟨rfl,two⟩ := unknown
      match rest,two with
      | [request],_ => exact .unknown request
    rw [if_neg unknown]
    by_cases reject : opcode = 0x11 ∧ rest.length + 1 = 3
    · rw [if_pos reject]
      obtain ⟨rfl,three⟩ := reject
      match rest,three with
      | [request,code],_ => exact .reject request code
    rw [if_neg reject]
    by_cases feature : opcode = 0x08 ∧ rest.length + 1 = 9
    · rw [if_pos feature]
      exact .answered .featureExchange _ _ rfl
    rw [if_neg feature]
    by_cases version : opcode = 0x0c ∧ rest.length + 1 = 6
    · rw [if_pos version]
      exact .answered .versionExchange _ _ rfl
    rw [if_neg version]
    by_cases parameters : opcode = 0x0f
    · rw [if_pos parameters,parameters]
      exact .parameters rest
    rw [if_neg parameters]
    by_cases response : opcode = 0x10
    · rw [if_pos response]
      exact .refused _
    rw [if_neg response]
    by_cases ping : opcode = 0x12 ∧ rest.length + 1 = 1
    · rw [if_pos ping]
      exact .answered .ping _ _ rfl
    rw [if_neg ping]
    exact .refused _

theorem controlHandles : Handles c payload (handleLlControl c payload) := by
  have path := controlDispatches c payload
  generalize handleLlControl c payload = handled at path ⊢
  cases path with
  | empty => exact .ignored
  | update => exact updateHandles c _
  | map => exact mapHandles c _
  | terminated => exact .ended _
  | malformed => exact .ended _
  | unknown => exact unknownHandles c _
  | reject => exact rejectHandles c _ rfl
  | answered kind opcode response plain => exact .responded plain (responseResponds _ kind opcode response _ _)
  | parameters => exact parameterHandles c _
  | refused => exact .refused _

end Handlers

/-! Why a handler ends the connection. -/

/- The reasons the handlers have of their own; any other is what an LL_TERMINATE_IND says. -/
def handlerReasons : List UInt8 := [0x1e,0x20,0x23,0x28,0x2a,0x3d]

def Ours (reason : Option UInt8) : Prop := ∀ r, reason = some r → r ∈ handlerReasons

theorem oursNone : Ours none := fun _ wrong => (nomatch wrong)

theorem oursSome {r : UInt8} (ours : r ∈ handlerReasons) : Ours (some r) := by
  rintro _ ⟨⟩
  exact ours

theorem collisionReason (own remote) : procedureCollisionError own remote ∈ handlerReasons := by
  cases own <;> cases remote <;> decide

theorem startRemoteReason {s : ProcedureManager} {c : ProcedureContext} {error}
    (refused : s.startRemote c = .error (.collision error)) : error ∈ handlerReasons := by
  have collided : ∀ own remote, ProcedureManager.collision own remote = .collision error → error ∈ handlerReasons := by
    intro own remote same
    unfold ProcedureManager.collision at same
    split at same
    · cases same
      exact collisionReason _ _
    · cases same
  unfold ProcedureManager.startRemote at refused
  split at refused
  · cases refused
  · split at refused
    · exact collided _ _ (Except.error.inj refused)
    · split at refused
      · exact collided _ _ (Except.error.inj refused)
      · cases refused

theorem instantReason {p after : ControlPlane} {kind opcode instant error}
    (refused : p.startRemoteInstantProcedure kind opcode instant = (after,some error)) : error ∈ handlerReasons := by
  unfold ControlPlane.startRemoteInstantProcedure at refused
  dsimp only at refused
  split at refused
  · cases refused
  · rename_i collided
    cases refused
    exact startRemoteReason collided
  · cases refused
    decide

section Reason
variable (c : ActiveConnection) (payload : List UInt8)

theorem answeredReason (answer : Except ProcedureError ProcedureManager) (u : ConnectionUpdateInd) :
    Ours (match (match answer with
      | .ok procedures => (({c.toControlPlane with procedures := procedures},none) : ControlPlane × Option UInt8)
      | .error _ => (c.toControlPlane,some 0x3d)) with
    | (p,some error) => (⟨p,[],some error⟩ : Handled)
    | (p,none) => ⟨{p with pendingConnectionUpdate := some u},[],none⟩).reason := by
  cases answer with
  | error e => exact oursSome (by decide)
  | ok procedures => exact oursNone

theorem updateReason : Ours (handleConnectionUpdateInd c payload).reason := by
  unfold handleConnectionUpdateInd
  dsimp only
  split
  · split_ifs
    · exact oursSome (by decide)
    · exact answeredReason _ _ _
    · exact answeredReason _ _ _
    · split
      · rename_i refused
        exact oursSome (instantReason refused)
      · exact oursNone
    · exact oursSome (by decide)
  · exact oursSome (by decide)
  · exact oursSome (by decide)

theorem mapReason : Ours (handleChannelMapInd c payload).reason := by
  unfold handleChannelMapInd
  dsimp only
  split
  · split
    · split
      · rename_i refused
        exact oursSome (instantReason refused)
      · exact oursNone
    · exact oursSome (by decide)
  · exact oursSome (by decide)
  · exact oursSome (by decide)

theorem unknownReason : (handleUnknownRsp c payload).reason = none := by
  unfold handleUnknownRsp
  dsimp only
  split <;> rfl

theorem rejectReason : (handleRejectExtInd c payload).reason = none := by
  unfold handleRejectExtInd
  dsimp only
  split_ifs <;> rfl

theorem parametersReason : (handleConnectionParamReq c payload).reason = none := by
  unfold handleConnectionParamReq
  dsimp only
  split
  · split <;> rfl
  · rfl

theorem handledReason {r : UInt8} (ends : (handleLlControl c payload).reason = some r) :
    r ∈ handlerReasons ∨ payload = [0x02,r] := by
  have path := controlDispatches c payload
  generalize handleLlControl c payload = handled at path ends
  cases path with
  | empty => cases ends
  | update => exact Or.inl (updateReason c _ r ends)
  | map => exact Or.inl (mapReason c _ r ends)
  | terminated code => exact Or.inr (by rw [show code = r from Option.some.inj ends])
  | malformed => exact Or.inl (oursSome (by decide) r ends)
  | unknown =>
    rw [unknownReason] at ends
    cases ends
  | reject =>
    rw [rejectReason] at ends
    cases ends
  | answered => cases ends
  | parameters =>
    rw [parametersReason] at ends
    cases ends
  | refused => cases ends

end Reason

/- The reason a received packet gives comes from a new Control PDU. -/
theorem acceptedReason {c : ActiveConnection} {header : UInt8} {payload : List UInt8} {r : UInt8}
    (ends : (acceptReceive c header payload).2.2 = some r) :
    ((header >>> 3) &&& 1 = c.expectedSn ∧ header &&& 0x03 = llidControl) ∧
      (r ∈ handlerReasons ∨ payload = [0x02,r]) := by
  unfold acceptReceive at ends
  split at ends
  · rename_i fresh
    dsimp only at ends
    split at ends
    · rename_i control
      exact ⟨⟨fresh,control⟩,handledReason _ _ ends⟩
    · split at ends <;> cases ends
  · cases ends

end Ch58xHal.ControlHandlers
