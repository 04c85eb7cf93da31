import Ch58xHal.Llcp
import Ch58xHal.Routines

/-! The manager's operations write by write: every field is assigned where the source assigns
it, and a refused call keeps whatever it had assigned. That nothing was assigned by then is
what the rules for routines show. -/
namespace Ch58xHal.LlcpWrites
open ControlPdu Llcp Routines

abbrev Step := Routine ProcedureError ProcedureManager

def otherSide : ProcedureInitiator → ProcedureInitiator
  | .localSide => .remoteSide
  | .remoteSide => .localSide

def contextMut (initiator : ProcedureInitiator) : Step ProcedureContext := do
  match (← get).context initiator with
  | none => throw .missingContext
  | some c => pure c

/- An assignment through the reference that `context_mut` returned. -/
def assign (initiator : ProcedureInitiator) (f : ProcedureContext → ProcedureContext) : Step Unit :=
  modify fun s => match s.context initiator with
    | none => s
    | some c => s.put initiator (f c)

def startLocal (c : ProcedureContext) : Step Unit := do
  rejectIf (c.initiator ≠ .localSide) .invalidPhase
  rejectIf ((← get).localSide.any ProcedureContext.active = true) .busy
  modify fun s => {s with localSide := some c}

def refuseRemote (s : ProcedureManager) (c : ProcedureContext) : Step Unit :=
  match s.remoteSide.filter ProcedureContext.active with
  | some remote => throw (ProcedureManager.collision remote.kind c.kind)
  | none =>
    match s.localSide.filter ProcedureContext.active with
    | some own => rejectIf (own.kind.instantProcedure.isSome ∧ c.kind.instantProcedure.isSome)
        (ProcedureManager.collision own.kind c.kind)
    | none => pure ()

def startRemote (c : ProcedureContext) : Step Unit := do
  rejectIf (c.initiator ≠ .remoteSide) .invalidPhase
  refuseRemote (← get) c
  modify fun s => {s with remoteSide := some (ProcedureManager.indicated c)}

def txPlanned (initiator : ProcedureInitiator) (token : ProcedureToken) : Step Unit := do
  let c ← contextMut initiator
  rejectIf (c.token ≠ token) .staleToken
  rejectIf (¬c.Sendable) .invalidPhase

def txDone (initiator : ProcedureInitiator) (token : ProcedureToken) : Step Unit := do
  let c ← contextMut initiator
  rejectIf (c.token ≠ token) .staleToken
  rejectIf (¬c.Sendable) .invalidPhase
  assign initiator fun c => {c with phase := .awaitingTxAck}

/- The response to a remote procedure was acknowledged: deadline, phase, then the flag. -/
def responseAcknowledged (initiator : ProcedureInitiator) (c : ProcedureContext) (nowUs : Nat) : Step Unit := do
  if c.instant.isSome then
    assign initiator fun c => {c with phase := .awaitingInstant}
  else if c.expectedResponseOpcode.isSome then do
    assign initiator fun c => {c with responseDeadlineUs := c.deadlineFrom nowUs}
    assign initiator fun c => {c with phase := .awaitingResponse}
  else
    assign initiator fun c => {c with phase := .complete}

def nesnAck (initiator : ProcedureInitiator) (token : ProcedureToken) (nowUs : Nat) : Step Unit := do
  let c ← contextMut initiator
  rejectIf (c.token ≠ token) .staleToken
  rejectIf (c.phase ≠ .awaitingTxAck) .invalidPhase
  if c.pendingResponse then do
    responseAcknowledged initiator c nowUs
    assign initiator fun c => {c with pendingResponse := false}
  else if c.expectedResponseOpcode.isSome then do
    assign initiator fun c => {c with phase := .awaitingResponse}
    assign initiator fun c => {c with responseDeadlineUs := c.deadlineFrom nowUs}
  else if c.instant.isSome then
    assign initiator fun c => {c with phase := .awaitingInstant}
  else
    assign initiator fun c => {c with phase := .complete}

def expectedResponse (initiator : ProcedureInitiator) (opcode : UInt8) : Step Unit := do
  let c ← contextMut initiator
  rejectIf (c.phase ≠ .awaitingResponse) .invalidPhase
  rejectIf (c.expectedResponseOpcode ≠ some opcode) .wrongOpcode
  assign initiator fun c => {c with responseDeadlineUs := 0}
  assign initiator fun c => {c with phase := if c.instant.isSome then .awaitingInstant else .complete}

def expectedResponseWithInstant (initiator : ProcedureInitiator) (opcode : UInt8) (instant : UInt16) :
    Step Unit := do
  let c ← contextMut initiator
  rejectIf (c.phase ≠ .awaitingResponse) .invalidPhase
  rejectIf (c.expectedResponseOpcode ≠ some opcode) .wrongOpcode
  assign initiator fun c => {c with instant := some instant}
  assign initiator fun c => {c with phase := .awaitingInstant}

def responseQueued (token : ProcedureToken) (txOpcode : UInt8) : Step Unit := do
  let c ← contextMut .remoteSide
  rejectIf (¬(c.phase = .queued ∨ c.phase = .awaitingResponse)) .invalidPhase
  assign .remoteSide fun c => {c with token := token}
  assign .remoteSide fun c => {c with txOpcode := txOpcode}
  assign .remoteSide fun c => {c with pendingResponse := true}
  assign .remoteSide fun c => {c with phase := .responseQueued}

def sides : List ProcedureInitiator := [.localSide,.remoteSide]

/- One turn of the loop in `check_timeouts`. -/
def timeoutSide (nowUs : Nat) (error : UInt8) (failed : Bool) (side : ProcedureInitiator) : Step Bool := do
  match (← get).context side with
  | none => pure failed
  | some c =>
    if c.Due nowUs then do
      assign side fun c => {c with phase := .failed}
      assign side fun c => {c with error := some error}
      assign side fun c => {c with responseDeadlineUs := 0}
      pure true
    else pure failed

def checkTimeouts (nowUs : Nat) (error : UInt8) : Step Bool := sides.foldlM (timeoutSide nowUs error) false

def fail (initiator : ProcedureInitiator) (error : UInt8) : Step Unit := do
  let _ ← contextMut initiator
  assign initiator fun c => {c with phase := .failed}
  assign initiator fun c => {c with error := some error}
  assign initiator fun c => {c with responseDeadlineUs := 0}
  assign initiator fun c => {c with pendingResponse := false}

/- One turn of the loop in `on_connection_event`. -/
def eventSide (eventCounter : UInt16) (passedError : UInt8) (_ : Unit) (side : ProcedureInitiator) :
    Step Unit := do
  match (← get).context side with
  | none => pure ()
  | some c =>
    if c.phase ≠ .awaitingInstant then pure ()
    else match c.instant with
      | none => pure ()
      | some instant =>
        match classifyInstant eventCounter instant with
        | .current => do
          assign side fun c => {c with phase := .complete}
          assign side fun c => {c with responseDeadlineUs := 0}
        | .future _ => pure ()
        | .passed => do
          assign side fun c => {c with phase := .failed}
          assign side fun c => {c with error := some passedError}
          assign side fun c => {c with responseDeadlineUs := 0}

def onConnectionEvent (eventCounter : UInt16) (passedError : UInt8) : Step Unit :=
  sides.foldlM (eventSide eventCounter passedError) ()

/-! Every operation with any arguments; only `check_timeouts` returns something. -/

inductive Operation where
  | startLocal (c : ProcedureContext)
  | startRemote (c : ProcedureContext)
  | txPlanned (initiator : ProcedureInitiator) (token : ProcedureToken)
  | txDone (initiator : ProcedureInitiator) (token : ProcedureToken)
  | nesnAck (initiator : ProcedureInitiator) (token : ProcedureToken) (nowUs : Nat)
  | expectedResponse (initiator : ProcedureInitiator) (opcode : UInt8)
  | expectedResponseWithInstant (initiator : ProcedureInitiator) (opcode : UInt8) (instant : UInt16)
  | responseQueued (token : ProcedureToken) (txOpcode : UInt8)
  | checkTimeouts (nowUs : Nat) (error : UInt8)
  | fail (initiator : ProcedureInitiator) (error : UInt8)
  | onConnectionEvent (eventCounter : UInt16) (passedError : UInt8)

def returning (m : Step Unit) : Step (Option Bool) := do
  m
  pure none

def operate : Operation → Step (Option Bool)
  | .startLocal c => returning (startLocal c)
  | .startRemote c => returning (startRemote c)
  | .txPlanned i t => returning (txPlanned i t)
  | .txDone i t => returning (txDone i t)
  | .nesnAck i t now => returning (nesnAck i t now)
  | .expectedResponse i op => returning (expectedResponse i op)
  | .expectedResponseWithInstant i op instant => returning (expectedResponseWithInstant i op instant)
  | .responseQueued t op => returning (responseQueued t op)
  | .checkTimeouts now e => do
    let failed ← checkTimeouts now e
    pure (some failed)
  | .fail i e => returning (fail i e)
  | .onConnectionEvent counter e => returning (onConnectionEvent counter e)

/- The side an operation is for; the two loops are for both. -/
def initiatorOf : Operation → Option ProcedureInitiator
  | .startLocal _ => some .localSide
  | .startRemote _ => some .remoteSide
  | .txPlanned i _ => some i
  | .txDone i _ => some i
  | .nesnAck i _ _ => some i
  | .expectedResponse i _ => some i
  | .expectedResponseWithInstant i _ _ => some i
  | .responseQueued _ _ => some .remoteSide
  | .checkTimeouts _ _ => none
  | .fail i _ => some i
  | .onConnectionEvent _ _ => none

/-! Every operation is its checks, then its writes. -/

theorem contextReadOnly (side : ProcedureInitiator) : ReadOnly (contextMut side) := by
  refine bindReadOnly getReadOnly fun s => ?_
  cases s.context side with
  | none => exact throwReadOnly _
  | some c => exact pureReadOnly c

theorem refuseReadOnly (s : ProcedureManager) (c : ProcedureContext) : ReadOnly (refuseRemote s c) := by
  unfold refuseRemote
  split
  · exact throwReadOnly _
  · split
    · exact rejectReadOnly _ _
    · exact pureReadOnly ()

theorem assignCompletes (side : ProcedureInitiator) (f : ProcedureContext → ProcedureContext) :
    Completes (assign side f) := modifyCompletes _

theorem writesComplete {m rest : Step Unit} (first : Completes m) (later : Completes rest) :
    Completes (do m; rest) := bindCompletes first fun _ => later

theorem respondedCompletes (side : ProcedureInitiator) (c : ProcedureContext) (nowUs : Nat) :
    Completes (responseAcknowledged side c nowUs) := by
  unfold responseAcknowledged
  split
  · exact assignCompletes _ _
  · split
    · exact writesComplete (assignCompletes _ _) (assignCompletes _ _)
    · exact assignCompletes _ _

theorem timeoutCompletes (nowUs : Nat) (error : UInt8) (failed : Bool) (side : ProcedureInitiator) :
    Completes (timeoutSide nowUs error failed side) := by
  refine bindCompletes (fun s => ⟨s,rfl⟩) fun s => ?_
  split
  · exact pureCompletes failed
  · split
    · exact bindCompletes (assignCompletes _ _) fun _ => bindCompletes (assignCompletes _ _) fun _ =>
        bindCompletes (assignCompletes _ _) fun _ => pureCompletes true
    · exact pureCompletes failed

theorem eventCompletes (eventCounter : UInt16) (passedError : UInt8) (u : Unit) (side : ProcedureInitiator) :
    Completes (eventSide eventCounter passedError u side) := by
  refine bindCompletes (fun s => ⟨s,rfl⟩) fun s => ?_
  split
  · exact pureCompletes ()
  · split
    · exact pureCompletes ()
    · split
      · exact pureCompletes ()
      · split
        · exact writesComplete (assignCompletes _ _) (assignCompletes _ _)
        · exact pureCompletes ()
        · exact writesComplete (assignCompletes _ _) (writesComplete (assignCompletes _ _) (assignCompletes _ _))

/- The checks shared by the operations on a context that exists. -/
theorem checkedAtomic (side : ProcedureInitiator) {first second : ProcedureContext → Prop}
    [∀ c, Decidable (first c)] [∀ c, Decidable (second c)] (e f : ProcedureError)
    {writes : ProcedureContext → Step Unit} (total : ∀ c, Completes (writes c)) :
    Atomic (do
      let c ← contextMut side
      rejectIf (first c) e
      rejectIf (second c) f
      writes c) :=
  bindAtomic (contextReadOnly side) fun c => bindAtomic (rejectReadOnly _ _) fun _ =>
    bindAtomic (rejectReadOnly _ _) fun _ => completesAtomic (total c)

theorem acknowledgedCompletes (side : ProcedureInitiator) (c : ProcedureContext) (nowUs : Nat) :
    Completes (if c.pendingResponse then do
        responseAcknowledged side c nowUs
        assign side fun c => {c with pendingResponse := false}
      else if c.expectedResponseOpcode.isSome then do
        assign side fun c => {c with phase := .awaitingResponse}
        assign side fun c => {c with responseDeadlineUs := c.deadlineFrom nowUs}
      else if c.instant.isSome then assign side fun c => {c with phase := .awaitingInstant}
      else assign side fun c => {c with phase := .complete}) := by
  split
  · exact writesComplete (respondedCompletes side c nowUs) (assignCompletes _ _)
  · split
    · exact writesComplete (assignCompletes _ _) (assignCompletes _ _)
    · split
      · exact assignCompletes _ _
      · exact assignCompletes _ _

theorem operateAtomic (op : Operation) : Atomic (operate op) := by
  have none : ∀ {m : Step Unit}, Atomic m → Atomic (returning m) :=
    fun atomic => thenAtomic atomic fun _ => pureCompletes _
  cases op with
  | startLocal c =>
    exact none (bindAtomic (rejectReadOnly _ _) fun _ => bindAtomic getReadOnly fun _ =>
      bindAtomic (rejectReadOnly _ _) fun _ => completesAtomic (modifyCompletes _))
  | startRemote c =>
    exact none (bindAtomic (rejectReadOnly _ _) fun _ => bindAtomic getReadOnly fun s =>
      bindAtomic (refuseReadOnly s c) fun _ => completesAtomic (modifyCompletes _))
  | txPlanned i t =>
    exact none (bindAtomic (contextReadOnly i) fun c => bindAtomic (rejectReadOnly _ _) fun _ =>
      readOnlyAtomic (rejectReadOnly _ _))
  | txDone i t => exact none (checkedAtomic i _ _ fun _ => assignCompletes _ _)
  | nesnAck i t now => exact none (checkedAtomic i _ _ fun c => acknowledgedCompletes i c now)
  | expectedResponse i opcode =>
    exact none (checkedAtomic i _ _ fun _ => writesComplete (assignCompletes _ _) (assignCompletes _ _))
  | expectedResponseWithInstant i opcode instant =>
    exact none (checkedAtomic i _ _ fun _ => writesComplete (assignCompletes _ _) (assignCompletes _ _))
  | responseQueued t opcode =>
    exact none (bindAtomic (contextReadOnly _) fun _ => bindAtomic (rejectReadOnly _ _) fun _ =>
      completesAtomic (writesComplete (assignCompletes _ _) (writesComplete (assignCompletes _ _)
        (writesComplete (assignCompletes _ _) (assignCompletes _ _)))))
  | checkTimeouts now e =>
    exact completesAtomic (bindCompletes (foldCompletes (timeoutCompletes now e) sides false) fun _ =>
      pureCompletes _)
  | fail i e =>
    exact none (bindAtomic (contextReadOnly i) fun _ => completesAtomic
      (writesComplete (assignCompletes _ _) (writesComplete (assignCompletes _ _)
        (writesComplete (assignCompletes _ _) (assignCompletes _ _)))))
  | onConnectionEvent counter e =>
    exact none (completesAtomic (foldCompletes (eventCompletes counter e) sides ()))

/-! The other side. -/

def otherContext (side : ProcedureInitiator) (s : ProcedureManager) : Option ProcedureContext :=
  s.context (otherSide side)

theorem putContext (s : ProcedureManager) (side : ProcedureInitiator) (c : ProcedureContext) :
    (s.put side c).context side = some c ∧ otherContext side (s.put side c) = otherContext side s := by
  cases side <;> exact ⟨rfl,rfl⟩

theorem assignKeeps (side : ProcedureInitiator) (f : ProcedureContext → ProcedureContext) :
    Keeps (otherContext side) (assign side f) := by
  refine modifyKeeps fun s => ?_
  split
  · rfl
  · exact (putContext s side _).2

theorem assignsKeep {side : ProcedureInitiator} {f : ProcedureContext → ProcedureContext} {rest : Step Unit}
    (later : Keeps (otherContext side) rest) : Keeps (otherContext side) (do assign side f; rest) :=
  bindKeeps (assignKeeps side f) fun _ => later

theorem checkedKeeps (side : ProcedureInitiator) {first second : ProcedureContext → Prop}
    [∀ c, Decidable (first c)] [∀ c, Decidable (second c)] (e f : ProcedureError)
    {writes : ProcedureContext → Step Unit} (kept : ∀ c, Keeps (otherContext side) (writes c)) :
    Keeps (otherContext side) (do
      let c ← contextMut side
      rejectIf (first c) e
      rejectIf (second c) f
      writes c) :=
  bindKeeps (readOnlyKeeps (contextReadOnly side)) fun c => bindKeeps (readOnlyKeeps (rejectReadOnly _ _))
    fun _ => bindKeeps (readOnlyKeeps (rejectReadOnly _ _)) fun _ => kept c

theorem respondedKeeps (side : ProcedureInitiator) (c : ProcedureContext) (nowUs : Nat) :
    Keeps (otherContext side) (responseAcknowledged side c nowUs) := by
  unfold responseAcknowledged
  split
  · exact assignKeeps _ _
  · split
    · exact assignsKeep (assignKeeps _ _)
    · exact assignKeeps _ _

theorem operateKeeps {op : Operation} {side : ProcedureInitiator} (own : initiatorOf op = some side) :
    Keeps (otherContext side) (operate op) := by
  have none : ∀ {m : Step Unit}, Keeps (otherContext side) m → Keeps (otherContext side) (returning m) :=
    fun kept => bindKeeps kept fun _ => readOnlyKeeps (pureReadOnly _)
  cases op with
  | startLocal c =>
    cases own
    exact none (bindKeeps (readOnlyKeeps (rejectReadOnly _ _)) fun _ => bindKeeps (readOnlyKeeps getReadOnly)
      fun _ => bindKeeps (readOnlyKeeps (rejectReadOnly _ _)) fun _ => modifyKeeps fun _ => rfl)
  | startRemote c =>
    cases own
    exact none (bindKeeps (readOnlyKeeps (rejectReadOnly _ _)) fun _ => bindKeeps (readOnlyKeeps getReadOnly)
      fun s => bindKeeps (readOnlyKeeps (refuseReadOnly s c)) fun _ => modifyKeeps fun _ => rfl)
  | txPlanned i t =>
    cases own
    exact none (readOnlyKeeps (bindReadOnly (contextReadOnly _) fun _ => bindReadOnly (rejectReadOnly _ _)
      fun _ => rejectReadOnly _ _))
  | txDone i t =>
    cases own
    exact none (checkedKeeps _ _ _ fun _ => assignKeeps _ _)
  | nesnAck i t now =>
    cases own
    refine none (checkedKeeps _ _ _ fun c => ?_)
    split
    · exact bindKeeps (respondedKeeps _ c now) fun _ => assignKeeps _ _
    · split
      · exact assignsKeep (assignKeeps _ _)
      · split
        · exact assignKeeps _ _
        · exact assignKeeps _ _
  | expectedResponse i opcode =>
    cases own
    exact none (checkedKeeps _ _ _ fun _ => assignsKeep (assignKeeps _ _))
  | expectedResponseWithInstant i opcode instant =>
    cases own
    exact none (checkedKeeps _ _ _ fun _ => assignsKeep (assignKeeps _ _))
  | responseQueued t opcode =>
    cases own
    exact none (bindKeeps (readOnlyKeeps (contextReadOnly _)) fun _ => bindKeeps (readOnlyKeeps
      (rejectReadOnly _ _)) fun _ => assignsKeep (assignsKeep (assignsKeep (assignKeeps _ _))))
  | checkTimeouts now e => cases own
  | fail i e =>
    cases own
    exact none (bindKeeps (readOnlyKeeps (contextReadOnly _)) fun _ =>
      assignsKeep (assignsKeep (assignsKeep (assignKeeps _ _))))
  | onConnectionEvent counter e => cases own

/-! The loops change each side by that side's own context. -/

def mapSide (s : ProcedureManager) (side : ProcedureInitiator) (f : ProcedureContext → ProcedureContext) :
    ProcedureManager :=
  match s.context side with
  | none => s
  | some c => s.put side (f c)

theorem assignResult (side : ProcedureInitiator) (f : ProcedureContext → ProcedureContext)
    (s : ProcedureManager) : result (assign side f) s = (.ok (),mapSide s side f) := rfl

theorem mapTwice (s : ProcedureManager) (side : ProcedureInitiator) (f g : ProcedureContext → ProcedureContext) :
    mapSide (mapSide s side f) side g = mapSide s side fun c => g (f c) := by
  obtain ⟨own,remote⟩ := s
  cases side with
  | localSide => cases own <;> rfl
  | remoteSide => cases remote <;> rfl

theorem mapUnchanged {s : ProcedureManager} {side : ProcedureInitiator} {f : ProcedureContext → ProcedureContext}
    (same : ∀ c, s.context side = some c → f c = c) : mapSide s side f = s := by
  obtain ⟨own,remote⟩ := s
  cases side with
  | localSide =>
    cases own with
    | none => rfl
    | some c => exact congrArg (fun c => ProcedureManager.mk (some c) remote) (same c rfl)
  | remoteSide =>
    cases remote with
    | none => rfl
    | some c => exact congrArg (fun c => ProcedureManager.mk own (some c)) (same c rfl)

theorem mapThere {s : ProcedureManager} {side : ProcedureInitiator} {c : ProcedureContext}
    {f g : ProcedureContext → ProcedureContext} (there : s.context side = some c) (same : f c = g c) :
    mapSide s side f = mapSide s side g := by
  unfold mapSide
  rw [there]
  exact congrArg (s.put side) same

theorem mapBoth (s : ProcedureManager) (f : ProcedureContext → ProcedureContext) :
    mapSide (mapSide s .localSide f) .remoteSide f = ⟨s.localSide.map f,s.remoteSide.map f⟩ := by
  obtain ⟨own,remote⟩ := s
  cases own <;> cases remote <;> rfl

theorem timeoutTurn (nowUs : Nat) (error : UInt8) (failed : Bool) (side : ProcedureInitiator)
    (s : ProcedureManager) :
    result (timeoutSide nowUs error failed side) s =
      (.ok (failed || (s.context side).any fun c => decide (c.Due nowUs)),
        mapSide s side (ProcedureContext.checkTimeout nowUs error)) := by
  unfold timeoutSide
  rw [bindOk (resultGet s)]
  cases there : s.context side with
  | none =>
    rw [mapUnchanged (by rw [there]; exact fun c found => nomatch found)]
    simp
  | some c =>
    by_cases due : c.Due nowUs
    · simp only [if_pos due,bindOk (assignResult _ _ _),resultPure,mapTwice,Option.any_some,decide_eq_true due,
        Bool.or_true]
      exact congrArg (Prod.mk _) (mapThere there
        (show c.withFailure error = ProcedureContext.checkTimeout nowUs error c from (if_pos due).symm))
    · rw [mapUnchanged fun d found => by
        rw [there] at found
        cases found
        exact (if_neg due : ProcedureContext.checkTimeout nowUs error c = c)]
      simp [due]

theorem timeoutsSwept (s : ProcedureManager) (nowUs : Nat) (error : UInt8) :
    result (checkTimeouts nowUs error) s =
      (.ok (s.checkTimeouts nowUs error).2,(s.checkTimeouts nowUs error).1) := by
  unfold checkTimeouts sides
  rw [List.foldlM_cons,bindOk (timeoutTurn ..),List.foldlM_cons,bindOk (timeoutTurn ..),List.foldlM_nil,
    resultPure,mapBoth]
  obtain ⟨own,remote⟩ := s
  cases own <;> simp [ProcedureManager.checkTimeouts,ProcedureManager.context,mapSide,ProcedureManager.put]

theorem eventTurn (eventCounter : UInt16) (passedError : UInt8) (u : Unit) (side : ProcedureInitiator)
    (s : ProcedureManager) :
    result (eventSide eventCounter passedError u side) s =
      (.ok (),mapSide s side (ProcedureContext.onConnectionEvent eventCounter passedError)) := by
  unfold eventSide
  rw [bindOk (resultGet s)]
  cases there : s.context side with
  | none =>
    rw [mapUnchanged (by rw [there]; exact fun c found => nomatch found)]
    rfl
  | some c =>
    have unchanged : ProcedureContext.onConnectionEvent eventCounter passedError c = c →
        mapSide s side (ProcedureContext.onConnectionEvent eventCounter passedError) = s := by
      intro kept
      refine mapUnchanged fun d found => ?_
      rw [there] at found
      cases found
      exact kept
    by_cases waiting : c.phase = .awaitingInstant
    · cases due : c.instant with
      | none =>
        rw [unchanged (by simp [ProcedureContext.onConnectionEvent,waiting,due])]
        simp [waiting,due]
      | some instant =>
        cases relation : classifyInstant eventCounter instant with
        | current =>
          simp only [ne_eq,waiting,not_true_eq_false,if_false,due,relation,bindOk (assignResult _ _ _),
            assignResult,mapTwice]
          exact congrArg (Prod.mk _) (mapThere there
            (by simp [ProcedureContext.onConnectionEvent,waiting,due,relation]))
        | future delta =>
          rw [unchanged (by simp [ProcedureContext.onConnectionEvent,waiting,due,relation])]
          simp [waiting,due,relation]
        | passed =>
          simp only [ne_eq,waiting,not_true_eq_false,if_false,due,relation,bindOk (assignResult _ _ _),
            assignResult,mapTwice]
          exact congrArg (Prod.mk _) (mapThere there
            (by simp [ProcedureContext.onConnectionEvent,ProcedureContext.withFailure,waiting,due,relation]))
    · rw [unchanged (if_pos waiting)]
      simp [waiting]

theorem eventsSwept (s : ProcedureManager) (eventCounter : UInt16) (passedError : UInt8) :
    result (onConnectionEvent eventCounter passedError) s =
      (.ok (),s.onConnectionEvent eventCounter passedError) := by
  unfold onConnectionEvent sides
  rw [List.foldlM_cons,bindOk (eventTurn ..),List.foldlM_cons,bindOk (eventTurn ..),List.foldlM_nil,
    resultPure,mapBoth]
  rfl

/-! Write by write, every operation comes to what the manager's own definition says. -/

def answered (s : ProcedureManager) :
    Except ProcedureError ProcedureManager → Except ProcedureError (Option Bool) × ProcedureManager
  | .ok after => (.ok none,after)
  | .error e => (.error e,s)

def reference (s : ProcedureManager) : Operation → Except ProcedureError (Option Bool) × ProcedureManager
  | .startLocal c => answered s (s.startLocal c)
  | .startRemote c => answered s (s.startRemote c)
  | .txPlanned i t => answered s (s.txPlanned i t)
  | .txDone i t => answered s (s.txDone i t)
  | .nesnAck i t now => answered s (s.nesnAck i t now)
  | .expectedResponse i op => answered s (s.expectedResponse i op)
  | .expectedResponseWithInstant i op instant => answered s (s.expectedResponseWithInstant i op instant)
  | .responseQueued t op => answered s (s.responseQueued t op)
  | .checkTimeouts now e => (.ok (some (s.checkTimeouts now e).2),(s.checkTimeouts now e).1)
  | .fail i e => answered s (s.fail i e)
  | .onConnectionEvent counter e => (.ok none,s.onConnectionEvent counter e)

theorem contextFound {s : ProcedureManager} {side : ProcedureInitiator} {c} (there : s.context side = some c) :
    result (contextMut side) s = (.ok c,s) := by
  unfold contextMut
  rw [bindOk (resultGet s),there]
  rfl

theorem contextMissing {s : ProcedureManager} {side : ProcedureInitiator} (none : s.context side = none) :
    result (contextMut side) s = (.error .missingContext,s) := by
  unfold contextMut
  rw [bindOk (resultGet s),none]
  rfl

theorem rejected {condition : Prop} [Decidable condition] (holds : condition) (e : ProcedureError)
    (s : ProcedureManager) : result (rejectIf condition e : Step Unit) s = (.error e,s) := by
  rw [resultReject,if_pos holds]

theorem passed {condition : Prop} [Decidable condition] (fails : ¬condition) (e : ProcedureError)
    (s : ProcedureManager) : result (rejectIf condition e : Step Unit) s = (.ok (),s) := by
  rw [resultReject,if_neg fails]

theorem returned {m : Step Unit} {s after : ProcedureManager} (ok : result m s = (.ok (),after)) :
    result (returning m) s = (.ok none,after) := bindOk ok

theorem refusedBy {m : Step Unit} {s after : ProcedureManager} {e} (failed : result m s = (.error e,after)) :
    result (returning m) s = (.error e,after) := bindError failed

/- What a body leaves when it was given the context, against what it was to leave. -/
def Leaves (s : ProcedureManager) (side : ProcedureInitiator) (body : Step Unit) :
    Except ProcedureError ProcedureContext → Prop
  | .ok c => result body s = (.ok (),s.put side c)
  | .error e => result body s = (.error e,s)

theorem contextAgrees (s : ProcedureManager) (side : ProcedureInitiator) {body : ProcedureContext → Step Unit}
    {next : ProcedureContext → Except ProcedureError ProcedureContext}
    (leaves : ∀ c, s.context side = some c → Leaves s side (body c) (next c)) :
    result (returning do
      let c ← contextMut side
      body c) s = answered s (s.contextMut side next) := by
  unfold ProcedureManager.contextMut
  cases there : s.context side with
  | none => exact refusedBy (bindError (contextMissing there))
  | some c =>
    have left := leaves c there
    cases outcome : next c with
    | ok d =>
      rw [outcome] at left
      simp only [outcome]
      exact returned ((bindOk (contextFound there)).trans left)
    | error e =>
      rw [outcome] at left
      simp only [outcome]
      exact refusedBy ((bindOk (contextFound there)).trans left)

theorem rejectLeaves {s : ProcedureManager} {side : ProcedureInitiator} {condition : Prop} [Decidable condition]
    {e : ProcedureError} {rest : Step Unit} {next : Except ProcedureError ProcedureContext}
    (leaves : ¬condition → Leaves s side rest next) :
    Leaves s side (do rejectIf condition e; rest) (if condition then .error e else next) := by
  split
  · rename_i holds
    exact bindError (rejected holds e s)
  · rename_i fails
    have left := leaves fails
    cases next with
    | ok c => exact (bindOk (passed fails e s)).trans left
    | error f => exact (bindOk (passed fails e s)).trans left

theorem checkedAgrees (s : ProcedureManager) (side : ProcedureInitiator) {first second : ProcedureContext → Prop}
    [∀ c, Decidable (first c)] [∀ c, Decidable (second c)] (e f : ProcedureError)
    {writes : ProcedureContext → Step Unit} {next : ProcedureContext → ProcedureContext}
    (written : ∀ c, s.context side = some c → result (writes c) s = (.ok (),s.put side (next c))) :
    result (returning do
      let c ← contextMut side
      rejectIf (first c) e
      rejectIf (second c) f
      writes c) s =
    answered s (s.contextMut side fun c =>
      if first c then .error e else if second c then .error f else .ok (next c)) :=
  contextAgrees s side fun c there => rejectLeaves fun _ => rejectLeaves fun _ => written c there

theorem mapPut {s : ProcedureManager} {side : ProcedureInitiator} {c : ProcedureContext}
    {f : ProcedureContext → ProcedureContext} (there : s.context side = some c) :
    mapSide s side f = s.put side (f c) := by
  unfold mapSide
  rw [there]

theorem assigned {s : ProcedureManager} {side : ProcedureInitiator} {c : ProcedureContext}
    {f : ProcedureContext → ProcedureContext} (there : s.context side = some c) :
    result (assign side f) s = (.ok (),s.put side (f c)) := congrArg (Prod.mk _) (mapPut there)

theorem assignedTwice {s : ProcedureManager} {side : ProcedureInitiator} {c : ProcedureContext}
    {f g : ProcedureContext → ProcedureContext} (there : s.context side = some c) :
    result (do assign side f; assign side g : Step Unit) s = (.ok (),s.put side (g (f c))) := by
  rw [bindOk (assignResult side f s),assignResult,mapTwice,mapPut there]

/- The same branches on both sides: which field is written first makes no difference. -/
theorem acknowledgedWrites {s : ProcedureManager} {side : ProcedureInitiator} {c : ProcedureContext}
    (there : s.context side = some c) (nowUs : Nat) :
    result (if c.pendingResponse then do
        responseAcknowledged side c nowUs
        assign side fun c => {c with pendingResponse := false}
      else if c.expectedResponseOpcode.isSome then do
        assign side fun c => {c with phase := .awaitingResponse}
        assign side fun c => {c with responseDeadlineUs := c.deadlineFrom nowUs}
      else if c.instant.isSome then assign side fun c => {c with phase := .awaitingInstant}
      else assign side fun c => {c with phase := .complete} : Step Unit) s =
    (.ok (),s.put side (c.afterAck nowUs)) := by
  unfold ProcedureContext.afterAck responseAcknowledged
  split
  · split
    · exact assignedTwice there
    · split
      · rw [bindOk ((bindOk (assignResult _ _ s)).trans (assignResult _ _ _)),assignResult,mapTwice,mapTwice,
          mapPut there]
      · exact assignedTwice there
  · split
    · exact assignedTwice there
    · split
      · exact assigned there
      · exact assigned there

theorem startLocalAgrees (s : ProcedureManager) (c : ProcedureContext) :
    result (returning (startLocal c)) s = answered s (s.startLocal c) := by
  unfold startLocal ProcedureManager.startLocal
  by_cases foreign : c.initiator ≠ .localSide
  · rw [if_pos foreign]
    exact refusedBy (bindError (rejected foreign _ s))
  · rw [if_neg foreign]
    by_cases busy : s.localSide.any ProcedureContext.active = true
    · rw [if_pos busy]
      exact refusedBy ((bindOk (passed foreign _ s)).trans ((bindOk (resultGet s)).trans
        (bindError (rejected busy _ s))))
    · rw [if_neg busy]
      exact returned ((bindOk (passed foreign _ s)).trans ((bindOk (resultGet s)).trans
        ((bindOk (passed busy _ s)).trans rfl)))

theorem refusedAgrees (s : ProcedureManager) (c : ProcedureContext) :
    (∃ e, result (refuseRemote s c) s = (.error e,s) ∧
      (c.initiator = .remoteSide → s.startRemote c = .error e)) ∨
    result (refuseRemote s c) s = (.ok (),s) ∧
      (c.initiator = .remoteSide → s.startRemote c = .ok {s with remoteSide := some (ProcedureManager.indicated c)}) := by
  unfold refuseRemote ProcedureManager.startRemote
  cases remote : s.remoteSide.filter ProcedureContext.active with
  | some r => exact Or.inl ⟨_,rfl,fun own => if_neg (not_not.mpr own)⟩
  | none =>
    have narrowed : s.localSide.filter (fun own => own.active && own.kind.instantProcedure.isSome &&
        c.kind.instantProcedure.isSome) =
        (s.localSide.filter ProcedureContext.active).filter
          fun own => own.kind.instantProcedure.isSome && c.kind.instantProcedure.isSome := by
      cases s.localSide with
      | none => rfl
      | some own => cases active : own.active <;> simp [Option.filter,active]
    rw [narrowed]
    cases s.localSide.filter ProcedureContext.active with
    | none => exact Or.inr ⟨rfl,fun own => if_neg (not_not.mpr own)⟩
    | some own =>
      by_cases both : own.kind.instantProcedure.isSome ∧ c.kind.instantProcedure.isSome
      · refine Or.inl ⟨_,rejected both _ s,fun side => ?_⟩
        rw [if_neg (not_not.mpr side)]
        simp [Option.filter,both]
      · refine Or.inr ⟨passed both _ s,fun side => ?_⟩
        rw [if_neg (not_not.mpr side)]
        simp [Option.filter,both]

theorem startRemoteAgrees (s : ProcedureManager) (c : ProcedureContext) :
    result (returning (startRemote c)) s = answered s (s.startRemote c) := by
  unfold startRemote
  by_cases foreign : c.initiator ≠ .remoteSide
  · rw [ProcedureManager.startRemote,if_pos foreign]
    exact refusedBy (bindError (rejected foreign _ s))
  · rcases refusedAgrees s c with ⟨e,refused,same⟩ | ⟨admitted,same⟩
    · rw [same (not_not.mp foreign)]
      exact refusedBy ((bindOk (passed foreign _ s)).trans ((bindOk (resultGet s)).trans (bindError refused)))
    · rw [same (not_not.mp foreign)]
      exact returned ((bindOk (passed foreign _ s)).trans ((bindOk (resultGet s)).trans
        ((bindOk admitted).trans rfl)))

theorem operateAgrees (s : ProcedureManager) (op : Operation) : result (operate op) s = reference s op := by
  cases op with
  | startLocal c => exact startLocalAgrees s c
  | startRemote c => exact startRemoteAgrees s c
  | txPlanned i t =>
    refine contextAgrees s i fun c there => rejectLeaves fun _ => ?_
    have same : s.put i c = s := (mapPut (f := id) there).symm.trans (mapUnchanged fun _ _ => rfl)
    by_cases late : ¬c.Sendable
    · rw [if_pos late]
      exact rejected late _ s
    · rw [if_neg late]
      show result _ s = (.ok (),s.put i c)
      rw [same]
      exact passed late _ s
  | txDone i t => exact checkedAgrees s i _ _ fun c there => assigned there
  | nesnAck i t now => exact checkedAgrees s i _ _ fun c there => acknowledgedWrites there now
  | expectedResponse i opcode => exact checkedAgrees s i _ _ fun c there => assignedTwice there
  | expectedResponseWithInstant i opcode instant =>
    exact checkedAgrees s i _ _ fun c there => assignedTwice there
  | responseQueued t opcode =>
    refine contextAgrees s .remoteSide fun c there => rejectLeaves fun _ => ?_
    refine (bindOk (assignResult _ _ s)).trans ((bindOk (assignResult _ _ _)).trans
      ((bindOk (assignResult _ _ _)).trans ?_))
    rw [assignResult,mapTwice,mapTwice,mapTwice,mapPut there]
  | checkTimeouts now e => exact bindOk (timeoutsSwept s now e)
  | fail i e =>
    refine contextAgrees s i fun c there => ?_
    refine (bindOk (assignResult _ _ s)).trans ((bindOk (assignResult _ _ _)).trans
      ((bindOk (assignResult _ _ _)).trans ?_))
    rw [assignResult,mapTwice,mapTwice,mapTwice,mapPut there]
    rfl
  | onConnectionEvent counter e => exact returned (eventsSwept s counter e)

/-! Nothing half done, and nothing done to the other side. -/

/- The manager with only this side's context. -/
def alone (s : ProcedureManager) : ProcedureInitiator → ProcedureManager
  | .localSide => ⟨s.localSide,none⟩
  | .remoteSide => ⟨none,s.remoteSide⟩

def starts : Operation → Option ProcedureInitiator
  | .startLocal _ => some .localSide
  | .startRemote _ => some .remoteSide
  | _ => none

theorem startRefused {s : ProcedureManager} {op : Operation} {side : ProcedureInitiator} {c}
    (start : starts op = some side) (there : s.context side = some c) (active : c.active = true) :
    ∃ e, (result (operate op) s).1 = .error e := by
  rw [operateAgrees]
  cases op with
  | startLocal other =>
    cases start
    have busy : s.localSide.any ProcedureContext.active = true := by
      rw [show s.localSide = some c from there]
      exact active
    simp only [reference,ProcedureManager.startLocal,busy,if_true]
    split <;> exact ⟨_,rfl⟩
  | startRemote other =>
    cases start
    have busy : s.remoteSide.filter ProcedureContext.active = some c := by
      rw [show s.remoteSide = some c from there]
      simp [Option.filter,active]
    simp only [reference,ProcedureManager.startRemote,busy]
    split <;> exact ⟨_,rfl⟩
  | _ => cases start

/- A sweep leaves on each side what it would with the other side absent. -/
theorem sweptAlone {s : ProcedureManager} {op : Operation} (both : initiatorOf op = none)
    (side : ProcedureInitiator) :
    (result (operate op) s).2.context side = (result (operate op) (alone s side)).2.context side := by
  rw [operateAgrees,operateAgrees]
  cases op with
  | checkTimeouts now e => cases side <;> rfl
  | onConnectionEvent counter e => cases side <;> rfl
  | _ => cases both

theorem timeoutAlone (s : ProcedureManager) (nowUs : Nat) (error : UInt8) :
    ∃ own remote, (result (operate (.checkTimeouts nowUs error)) (alone s .localSide)).1 = .ok (some own) ∧
      (result (operate (.checkTimeouts nowUs error)) (alone s .remoteSide)).1 = .ok (some remote) ∧
      (result (operate (.checkTimeouts nowUs error)) s).1 = .ok (some (own || remote)) := by
  rw [operateAgrees,operateAgrees,operateAgrees]
  refine ⟨_,_,rfl,rfl,?_⟩
  simp [reference,ProcedureManager.checkTimeouts,alone]

theorem managerAtomicIsolated (s : ProcedureManager) (op : Operation) :
    (∀ e, (result (operate op) s).1 = .error e → (result (operate op) s).2 = s) ∧
    (∀ side, initiatorOf op = some side →
      (result (operate op) s).2.context (otherSide side) = s.context (otherSide side)) ∧
    (∀ side c, starts op = some side → s.context side = some c → c.active = true →
      (result (operate op) s).2.context side = some c) ∧
    (initiatorOf op = none → ∀ side,
      (result (operate op) s).2.context side = (result (operate op) (alone s side)).2.context side) ∧
    ∀ nowUs error, op = .checkTimeouts nowUs error → ∃ own remote,
      (result (operate op) (alone s .localSide)).1 = .ok (some own) ∧
      (result (operate op) (alone s .remoteSide)).1 = .ok (some remote) ∧
      (result (operate op) s).1 = .ok (some (own || remote)) := by
  refine ⟨operateAtomic op s,fun side own => operateKeeps own s,?_,sweptAlone,?_⟩
  · intro side c start there active
    obtain ⟨e,failed⟩ := startRefused start there active
    rw [operateAtomic op s e failed,there]
  · rintro nowUs error rfl
    exact timeoutAlone s nowUs error

end Ch58xHal.LlcpWrites
