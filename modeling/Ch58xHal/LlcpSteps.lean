import Ch58xHal.Llcp

/-! What one call can do to one side's context, and the calls a context has lived
through. A context's tenure begins with the successful start that installed it; every
history property of a procedure is stated over its tenure. -/
namespace Ch58xHal.LlcpSteps
open ControlPdu Machines Llcp

/- The calls that change a context of this side, each with the guard it passed. -/
inductive Moves (side : ProcedureInitiator) (c : ProcedureContext) : Call → ProcedureContext → Prop where
  | transmitted (ready : c.Sendable) :
      Moves side c (.txDone side c.token) {c with phase := .awaitingTxAck}
  | acknowledged (nowUs) (waiting : c.phase = .awaitingTxAck) :
      Moves side c (.nesnAck side c.token nowUs) (c.afterAck nowUs)
  | answered (opcode) (waiting : c.phase = .awaitingResponse)
      (expected : c.expectedResponseOpcode = some opcode) :
      Moves side c (.expectedResponse side opcode) c.afterResponse
  | answeredWithInstant (opcode instant) (waiting : c.phase = .awaitingResponse)
      (expected : c.expectedResponseOpcode = some opcode) :
      Moves side c (.expectedResponseWithInstant side opcode instant)
        {c with instant := some instant,phase := .awaitingInstant}
  | responding (token opcode) (remote : side = .remoteSide)
      (idle : c.phase = .queued ∨ c.phase = .awaitingResponse) :
      Moves side c (.responseQueued token opcode)
        {c with token := token,txOpcode := opcode,pendingResponse := true,phase := .responseQueued}
  | timedOut (nowUs error) (due : c.Due nowUs) :
      Moves side c (.checkTimeouts nowUs error) (c.withFailure error)
  | failed (error) : Moves side c (.fail side error) {c.withFailure error with pendingResponse := false}
  | reached (instant error) (waiting : c.phase = .awaitingInstant) (current : c.instant = some instant) :
      Moves side c (.onConnectionEvent instant error)
        {c with phase := .complete,responseDeadlineUs := 0}
  | missed (counter instant error) (waiting : c.phase = .awaitingInstant)
      (current : c.instant = some instant) (passed : classifyInstant counter instant = .passed) :
      Moves side c (.onConnectionEvent counter error) (c.withFailure error)

/- The context a successful call writes; a sweep over both contexts addresses neither. -/
def target : Call → Option ProcedureInitiator
  | .startLocal _ => some .localSide
  | .startRemote _ => some .remoteSide
  | .txDone i _ => some i
  | .nesnAck i _ _ => some i
  | .expectedResponse i _ => some i
  | .expectedResponseWithInstant i _ _ => some i
  | .responseQueued _ _ => some .remoteSide
  | .fail i _ => some i
  | .txPlanned _ _ => none
  | .checkTimeouts _ _ => none
  | .onConnectionEvent _ _ => none

def Refused (a : Answer) : Prop := ∃ e, a = .refused e

def Accepted : Call → Answer → Prop
  | .checkTimeouts _ _,a => ∃ failed, a = .anyFailed failed
  | _,a => a = .done

def Quiet (side : ProcedureInitiator) (entry : Call × Answer) : Prop :=
  Refused entry.2 ∨ target entry.1 ≠ some side

def starting : ProcedureInitiator → Request → Call
  | .localSide,r => .startLocal r
  | .remoteSide,r => .startRemote r

def begun : ProcedureInitiator → Request → ProcedureContext
  | .localSide,r => r.context
  | .remoteSide,r => ProcedureManager.indicated r.context

inductive Changes (side : ProcedureInitiator) :
    Option ProcedureContext → Call × Answer → Option ProcedureContext → Prop where
  | kept (x entry) (quiet : Quiet side entry) : Changes side x entry x
  | moved {c c' k a} (move : Moves side c k c') (accepted : Accepted k a) :
      Changes side (some c) (k,a) (some c')
  | started (x r) (mine : r.initiator = side) :
      Changes side x (starting side r,.done) (some (begun side r))

section Manager
variable {s : ProcedureManager} {k : Call} {side i : ProcedureInitiator}

@[simp] theorem contextPut (c) : (s.put i c).context side = if side = i then some c else s.context side := by
  cases i <;> cases side <;> rfl

@[simp] theorem notRefused : ¬Refused .done := by
  rintro ⟨e,same⟩
  cases same

theorem doneAccepted (aims : target k = some i) : Accepted k .done := by
  cases k <;> first | rfl | cases aims

theorem refusedChanges (x e) : Changes side x (k,.refused e) x := .kept x _ (.inl ⟨e,rfl⟩)

theorem contextMutChanges {body} (aims : target k = some i)
    (moves : ∀ c c', s.context i = some c → body c = .ok c' → Moves i c k c') :
    Changes side (s.context side) (k,(answer s (s.contextMut i body)).2)
      ((answer s (s.contextMut i body)).1.context side) := by
  unfold ProcedureManager.contextMut
  cases present : s.context i with
  | none => exact refusedChanges _ _
  | some c =>
    cases result : body c with
    | error e =>
      simp only [result,answer]
      exact refusedChanges _ e
    | ok c' =>
      simp only [result,answer,contextPut]
      by_cases mine : side = i
      · subst mine
        rw [present,if_pos rfl]
        exact .moved (moves c c' present result) (doneAccepted aims)
      · rw [if_neg mine]
        have elsewhere : target k ≠ some side := by simpa [aims] using Ne.symm mine
        exact .kept _ _ (.inr elsewhere)

theorem planChanges (token) :
    Changes side (s.context side) (.txPlanned i token,(answer s (s.txPlanned i token)).2)
      ((answer s (s.txPlanned i token)).1.context side) := by
  have same : (answer s (s.txPlanned i token)).1.context side = s.context side := by
    unfold ProcedureManager.txPlanned ProcedureManager.contextMut
    cases present : s.context i with
    | none => rfl
    | some c =>
      by_cases mine : side = i <;> dsimp only <;> split_ifs <;> simp_all [answer]
  rw [same]
  exact .kept _ _ (.inr (by simp [target]))

theorem startLocalChanges (r : Request) :
    Changes side (s.context side) (.startLocal r,(answer s (s.startLocal r.context)).2)
      ((answer s (s.startLocal r.context)).1.context side) := by
  unfold ProcedureManager.startLocal
  split
  · exact refusedChanges _ _
  · rename_i own
    split
    · exact refusedChanges _ _
    · cases side with
      | localSide => exact .started _ r (by simpa [Request.context,ProcedureContext.new] using own)
      | remoteSide => exact .kept _ _ (.inr (by simp [target]))

theorem startRemoteChanges (r : Request) :
    Changes side (s.context side) (.startRemote r,(answer s (s.startRemote r.context)).2)
      ((answer s (s.startRemote r.context)).1.context side) := by
  unfold ProcedureManager.startRemote
  split
  · exact refusedChanges _ _
  · rename_i own
    split
    · exact refusedChanges _ _
    · split
      · exact refusedChanges _ _
      · cases side with
        | remoteSide => exact .started _ r (by simpa [Request.context,ProcedureContext.new] using own)
        | localSide => exact .kept _ _ (.inr (by simp [target]))

-- Both sweeps act on each context alone, so one argument serves them.
theorem sweepChanges {f : ProcedureContext → ProcedureContext} {after : ProcedureManager} {a}
    (swept : after.context side = (s.context side).map f) (broad : target k = none)
    (accepted : Accepted k a) (moves : ∀ c, f c = c ∨ Moves side c k (f c)) :
    Changes side (s.context side) (k,a) (after.context side) := by
  have quiet : Quiet side (k,a) := .inr (by simp [broad])
  rw [swept]
  cases present : s.context side with
  | none => exact .kept _ _ quiet
  | some c =>
    obtain same | move := moves c
    · simpa [same] using Changes.kept (some c) (k,a) quiet
    · exact .moved move accepted

theorem timeoutMoves (nowUs error) (c : ProcedureContext) :
    c.checkTimeout nowUs error = c ∨
      Moves side c (.checkTimeouts nowUs error) (c.checkTimeout nowUs error) := by
  unfold ProcedureContext.checkTimeout
  split
  · exact .inr (.timedOut _ _ (by assumption))
  · exact .inl rfl

theorem eventMoves (counter error) (c : ProcedureContext) :
    c.onConnectionEvent counter error = c ∨
      Moves side c (.onConnectionEvent counter error) (c.onConnectionEvent counter error) := by
  unfold ProcedureContext.onConnectionEvent
  split
  · exact .inl rfl
  · rename_i waiting
    have waiting : c.phase = .awaitingInstant := not_not.mp waiting
    split
    · exact .inl rfl
    · rename_i instant current
      split
      · rename_i now
        obtain rfl := (classifyCurrent counter instant).mp now
        exact .inr (.reached _ _ waiting current)
      · exact .inl rfl
      · exact .inr (.missed _ instant _ waiting current (by assumption))

/- The step lemma of this manager: nothing else can happen to a context. -/
theorem callChanges (s : ProcedureManager) (k : Call) (side : ProcedureInitiator) :
    Changes side (s.context side) (k,(call s k).2) ((call s k).1.context side) := by
  cases k with
  | startLocal r => exact startLocalChanges r
  | startRemote r => exact startRemoteChanges r
  | txPlanned i token => exact planChanges token
  | txDone i token =>
    refine contextMutChanges rfl fun c c' _ ok => ?_
    split_ifs at ok with stale early
    cases ok
    obtain rfl : c.token = token := not_not.mp stale
    exact .transmitted early
  | nesnAck i token nowUs =>
    refine contextMutChanges rfl fun c c' _ ok => ?_
    split_ifs at ok with stale early
    cases ok
    obtain rfl : c.token = token := not_not.mp stale
    exact .acknowledged nowUs (not_not.mp early)
  | expectedResponse i opcode =>
    refine contextMutChanges rfl fun c c' _ ok => ?_
    split_ifs at ok with early wrong
    cases ok
    exact .answered opcode (not_not.mp early) (not_not.mp wrong)
  | expectedResponseWithInstant i opcode instant =>
    refine contextMutChanges rfl fun c c' _ ok => ?_
    split_ifs at ok with early wrong
    cases ok
    exact .answeredWithInstant opcode instant (not_not.mp early) (not_not.mp wrong)
  | responseQueued token opcode =>
    refine contextMutChanges rfl fun c c' _ ok => ?_
    split_ifs at ok with early
    cases ok
    exact .responding token opcode rfl early
  | checkTimeouts nowUs error =>
    refine sweepChanges (f := ProcedureContext.checkTimeout nowUs error) ?_ rfl ⟨_,rfl⟩
      (timeoutMoves nowUs error)
    cases side <;> rfl
  | fail i error =>
    refine contextMutChanges rfl fun c c' _ ok => ?_
    cases ok
    exact .failed error
  | onConnectionEvent counter error =>
    refine sweepChanges (f := ProcedureContext.onConnectionEvent counter error) ?_ rfl rfl
      (eventMoves counter error)
    cases side <;> rfl

end Manager

/-! Tenures. -/

structure Tenure where
  request : Request
  calls : List (Call × Answer)
  deriving DecidableEq, Repr

def begins (side : ProcedureInitiator) : Call × Answer → Option Request
  | (.startLocal r,.done) => if side = .localSide then some r else none
  | (.startRemote r,.done) => if side = .remoteSide then some r else none
  | _ => none

def extend (side : ProcedureInitiator) (t : Option Tenure) (entry : Call × Answer) : Option Tenure :=
  match begins side entry with
  | some r => some ⟨r,[]⟩
  | none => t.map (fun t => ⟨t.request,t.calls ++ [entry]⟩)

def tenure (side : ProcedureInitiator) (past : List (Call × Answer)) : Option Tenure :=
  past.foldl (extend side) none

theorem tenureSnoc (side past entry) :
    tenure side (past ++ [entry]) = extend side (tenure side past) entry := by
  simp [tenure]

theorem quietBegins {side entry} (quiet : Quiet side entry) : begins side entry = none := by
  obtain ⟨k,a⟩ := entry
  unfold begins
  split
  · rename_i r same
    cases same
    obtain refused | elsewhere := quiet
    · exact absurd refused notRefused
    · simpa [target,eq_comm] using elsewhere
  · rename_i r same
    cases same
    obtain refused | elsewhere := quiet
    · exact absurd refused notRefused
    · simpa [target,eq_comm] using elsewhere
  · rfl

theorem movesBegins {side c k c' a} (move : Moves side c k c') : begins side (k,a) = none := by
  cases move <;> rfl

theorem beginsStarting (side r) : begins side (starting side r,.done) = some r := by
  cases side <;> simp [starting,begins]

/- Run rule for procedures: what holds of a context when it starts, and survives both
the calls that leave it alone and the calls that move it, holds of every context. -/
theorem tenureInvariant {P : ProcedureInitiator → Tenure → ProcedureContext → Prop}
    (start : ∀ side r, r.initiator = side → P side ⟨r,[]⟩ (begun side r))
    (kept : ∀ side t c entry, Quiet side entry → P side t c →
      P side ⟨t.request,t.calls ++ [entry]⟩ c)
    (moved : ∀ side t c k c' a, Moves side c k c' → Accepted k a → P side t c →
      P side ⟨t.request,t.calls ++ [(k,a)]⟩ c')
    {past s} (h : History caller .new past s) {side c} (there : s.context side = some c) :
    ∃ t, tenure side past = some t ∧ P side t c := by
  induction h generalizing c with
  | start => cases side <;> cases there
  | @step past s before k ih =>
    have change := callChanges s k side
    simp only [caller] at there ⊢
    rw [tenureSnoc]
    rw [there] at change
    generalize previous : s.context side = x at change
    generalize (call s k).2 = a at change ⊢
    cases change with
    | kept _ _ quiet =>
      obtain ⟨t,known,holds⟩ := ih previous
      refine ⟨_,?_,kept side t c _ quiet holds⟩
      rw [extend,quietBegins quiet,known]
      rfl
    | moved move accepted =>
      obtain ⟨t,known,holds⟩ := ih previous
      refine ⟨_,?_,moved side t _ k c a move accepted holds⟩
      rw [extend,movesBegins move,known]
      rfl
    | started _ r mine =>
      refine ⟨_,?_,start side r mine⟩
      rw [extend,beginsStarting]

end Ch58xHal.LlcpSteps
