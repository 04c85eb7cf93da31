import Mathlib.Data.List.Forall2
import Ch58xHal.LlcpSteps

/-! No procedure completes without its evidence. Each phase stands for the part of the
evidence already seen in the context's tenure; a queued response discards it, since the
context then owns another PDU. -/
namespace Ch58xHal.LlcpEvidence
open List (SublistForall₂)
open ControlPdu Machines Llcp LlcpSteps

inductive Demand where
  | txDone (token : ProcedureToken)
  | nesnAck (token : ProcedureToken)
  | response (opcode : UInt8)
  | instant (event : UInt16)
  deriving DecidableEq, Repr

inductive Meets (side : ProcedureInitiator) : Demand → Call × Answer → Prop where
  | txDone (token) : Meets side (.txDone token) (.txDone side token,.done)
  | nesnAck (token nowUs) : Meets side (.nesnAck token) (.nesnAck side token nowUs,.done)
  | response (opcode) : Meets side (.response opcode) (.expectedResponse side opcode,.done)
  | indication (opcode instant) :
      Meets side (.response opcode) (.expectedResponseWithInstant side opcode instant,.done)
  | instant (event error) : Meets side (.instant event) (.onConnectionEvent event error,.done)

def indication (side : ProcedureInitiator) (r : Request) : Prop :=
  side = .remoteSide ∧ r.instant.isSome
instance (side r) : Decidable (indication side r) := inferInstanceAs (Decidable (_ ∧ _))

def exchange (c : ProcedureContext) : List Demand := [.txDone c.token,.nesnAck c.token]
def reply (c : ProcedureContext) : List Demand := (c.expectedResponseOpcode.map .response).toList
def moment (c : ProcedureContext) : List Demand := (c.instant.map .instant).toList

/- What completion of a context demands, in order. A remote indication was on air before
the context existed, so only its instant is left. -/
def demands (side : ProcedureInitiator) (r : Request) (c : ProcedureContext) : List Demand :=
  (if indication side r then [] else exchange c ++ reply c) ++ moment c

def Evidence (side : ProcedureInitiator) (t : Tenure) (c : ProcedureContext) : Prop :=
  SublistForall₂ (Meets side) (demands side t.request c) t.calls

section Ordered
variable {α β : Type} {R : α → β → Prop} {l : List α} {m : List β}

theorem laterKept (x : β) (h : SublistForall₂ R l m) : SublistForall₂ R l (m ++ [x]) := by
  obtain ⟨part,agree,inside⟩ := List.sublistForall₂_iff.mp h
  exact List.sublistForall₂_iff.mpr ⟨part,agree,inside.trans (List.sublist_append_left m [x])⟩

theorem laterMet {a : α} {x : β} (h : SublistForall₂ R l m) (met : R a x) :
    SublistForall₂ R (l ++ [a]) (m ++ [x]) := by
  obtain ⟨part,agree,inside⟩ := List.sublistForall₂_iff.mp h
  have last : List.Forall₂ R [a] [x] := .cons met .nil
  exact List.sublistForall₂_iff.mpr ⟨part ++ [x],List.rel_append agree last,
    inside.append (List.Sublist.refl [x])⟩

end Ordered

/- The prefix of the demands that a phase stands for. -/
def shown (side : ProcedureInitiator) (r : Request) (c : ProcedureContext) : List Demand :=
  match c.phase with
  | .queued | .responseQueued | .failed => []
  | .awaitingTxAck => [.txDone c.token]
  | .awaitingResponse => exchange c
  | .awaitingInstant => if indication side r then [] else exchange c ++ reply c
  | .complete => demands side r c

def Early (c : ProcedureContext) : Prop := c.phase ≠ .awaitingInstant ∧ ¬c.Finished

structure Supported (side : ProcedureInitiator) (t : Tenure) (c : ProcedureContext) : Prop where
  direct : indication side t.request → ¬Early c
  timeless : side = .remoteSide → Early c → c.instant = none
  answering : c.pendingResponse → side = .remoteSide
  seen : SublistForall₂ (Meets side) (shown side t.request c) t.calls

theorem supportedStart (side r) : Supported side ⟨r,[]⟩ (begun side r) := by
  cases side with
  | localSide =>
    exact ⟨by simp [indication],by simp,by simp [begun,Request.context,ProcedureContext.new],.nil⟩
  | remoteSide =>
    cases moment : r.instant with
    | none =>
      have same : begun .remoteSide r = r.context := by
        simp [begun,ProcedureManager.indicated,Request.context,ProcedureContext.new,moment]
      rw [same]
      exact ⟨by simp [indication,moment],
        fun _ _ => by simp [Request.context,ProcedureContext.new,moment],by simp,.nil⟩
    | some i =>
      have same : begun .remoteSide r = {r.context with phase := .awaitingInstant} := by
        simp [begun,ProcedureManager.indicated,Request.context,ProcedureContext.new,moment]
      rw [same]
      refine ⟨by simp [Early],by simp [Early],by simp,?_⟩
      simpa [shown,indication,moment] using SublistForall₂.nil

theorem supportedKept {side t c} (entry) (h : Supported side t c) :
    Supported side ⟨t.request,t.calls ++ [entry]⟩ c :=
  ⟨h.direct,h.timeless,h.answering,laterKept entry h.seen⟩

section Moved
variable {side : ProcedureInitiator} {t : Tenure} {c : ProcedureContext}

-- A failed context stands for no evidence at all.
theorem failedSupported {c' entry} (h : Supported side t c) (phase : c'.phase = .failed)
    (pending : c'.pendingResponse → c.pendingResponse) :
    Supported side ⟨t.request,t.calls ++ [entry]⟩ c' := by
  have finished : ¬Early c' := fun early => early.2 (.inr phase)
  refine ⟨fun _ => finished,fun _ early => absurd early finished,fun p => h.answering (pending p),?_⟩
  simpa [shown,phase] using SublistForall₂.nil

theorem transmittedSupported (ready : c.Sendable) (h : Supported side t c) :
    Supported side ⟨t.request,t.calls ++ [(.txDone side c.token,.done)]⟩
      {c with phase := .awaitingTxAck} := by
  have early : Early c := by
    obtain phase | phase := ready <;> simp [Early,ProcedureContext.Finished,phase]
  have none : shown side t.request c = [] := by
    obtain phase | phase := ready <;> simp [shown,phase]
  refine ⟨fun direct => absurd early (h.direct direct),fun remote _ => h.timeless remote early,
    h.answering,?_⟩
  have seen := h.seen
  rw [none] at seen
  exact laterMet seen (.txDone c.token)

-- The branch for a pending response with an instant is dead: a remote context that still
-- owes a response has no instant.
theorem acknowledgedSupported (nowUs) (waiting : c.phase = .awaitingTxAck) (h : Supported side t c) :
    Supported side ⟨t.request,t.calls ++ [(.nesnAck side c.token nowUs,.done)]⟩ (c.afterAck nowUs) := by
  have early : Early c := by simp [Early,ProcedureContext.Finished,waiting]
  have ordinary : ¬indication side t.request := fun direct => h.direct direct early
  have seen : SublistForall₂ (Meets side) (exchange c)
      (t.calls ++ [(.nesnAck side c.token nowUs,.done)]) := by
    have sent := h.seen
    simp only [shown,waiting] at sent
    exact laterMet sent (.nesnAck c.token nowUs)
  have remote : c.pendingResponse → c.instant = none := fun p => h.timeless (h.answering p) early
  unfold ProcedureContext.afterAck
  split_ifs with pending moment expects expects moment
  · simp [remote pending] at moment
  · exact ⟨fun direct => absurd direct ordinary,fun _ _ => remote pending,by simp,seen⟩
  · refine ⟨fun direct => absurd direct ordinary,fun _ early => by simp [Early,ProcedureContext.Finished] at early,
      by simp,?_⟩
    simpa [shown,demands,ordinary,reply,LlcpEvidence.moment,exchange,remote pending,
      Option.not_isSome_iff_eq_none.mp expects] using seen
  · exact ⟨fun direct => absurd direct ordinary,fun side _ => h.timeless side early,h.answering,seen⟩
  · refine ⟨fun direct => absurd direct ordinary,fun _ early => by simp [Early] at early,h.answering,?_⟩
    simpa [shown,ordinary,reply,exchange,Option.not_isSome_iff_eq_none.mp expects] using seen
  · refine ⟨fun direct => absurd direct ordinary,fun _ early => by simp [Early,ProcedureContext.Finished] at early,
      h.answering,?_⟩
    simpa [shown,demands,ordinary,reply,LlcpEvidence.moment,exchange,Option.not_isSome_iff_eq_none.mp expects,
      Option.not_isSome_iff_eq_none.mp moment] using seen

-- Both response calls show the same thing and differ in the instant they leave behind.
theorem answeredSupported {c' entry opcode} (waiting : c.phase = .awaitingResponse)
    (expected : c.expectedResponseOpcode = some opcode) (h : Supported side t c)
    (met : Meets side (.response opcode) entry) (token : c'.token = c.token)
    (opcodeKept : c'.expectedResponseOpcode = c.expectedResponseOpcode)
    (pending : c'.pendingResponse = c.pendingResponse)
    (next : c'.phase = .awaitingInstant ∨ c'.phase = .complete ∧ c'.instant = none) :
    Supported side ⟨t.request,t.calls ++ [entry]⟩ c' := by
  have early : Early c := by simp [Early,ProcedureContext.Finished,waiting]
  have ordinary : ¬indication side t.request := fun direct => h.direct direct early
  have late : ¬Early c' := by
    obtain phase | ⟨phase,_⟩ := next <;> simp [Early,ProcedureContext.Finished,phase]
  have seen := h.seen
  simp only [shown,waiting] at seen
  have seen := laterMet seen met
  refine ⟨fun direct => absurd direct ordinary,fun _ early => absurd early late,
    fun p => h.answering (pending ▸ p),?_⟩
  obtain phase | ⟨phase,moment⟩ := next
  · simpa [shown,phase,ordinary,exchange,reply,token,opcodeKept,expected] using seen
  · simpa [shown,phase,demands,ordinary,exchange,reply,LlcpEvidence.moment,moment,token,opcodeKept,expected] using seen

theorem reachedSupported {instant} (error) (waiting : c.phase = .awaitingInstant)
    (current : c.instant = some instant) (h : Supported side t c) :
    Supported side ⟨t.request,t.calls ++ [(.onConnectionEvent instant error,.done)]⟩
      {c with phase := .complete,responseDeadlineUs := 0} := by
  have late : ¬Early {c with phase := .complete,responseDeadlineUs := 0} := by
    simp [Early,ProcedureContext.Finished]
  refine ⟨fun _ => late,fun _ early => absurd early late,h.answering,?_⟩
  have seen := h.seen
  simp only [shown,waiting] at seen
  have seen := laterMet seen (Meets.instant instant error)
  simpa [shown,demands,moment,current,exchange,reply] using seen

end Moved

theorem supportedMoved {side t c k c' a} (move : Moves side c k c') (accepted : Accepted k a)
    (h : Supported side t c) : Supported side ⟨t.request,t.calls ++ [(k,a)]⟩ c' := by
  cases move with
  | transmitted ready =>
    cases accepted
    exact transmittedSupported ready h
  | acknowledged nowUs waiting =>
    cases accepted
    exact acknowledgedSupported nowUs waiting h
  | answered opcode waiting expected =>
    cases accepted
    refine answeredSupported waiting expected h (.response opcode) rfl rfl rfl ?_
    unfold ProcedureContext.afterResponse
    cases moment : c.instant <;> simp
  | answeredWithInstant opcode instant waiting expected =>
    cases accepted
    exact answeredSupported waiting expected h (.indication opcode instant) rfl rfl rfl (.inl rfl)
  | responding token opcode remote idle =>
    have early : Early c := by
      obtain phase | phase := idle <;> simp [Early,ProcedureContext.Finished,phase]
    exact ⟨fun direct => absurd early (h.direct direct),fun remote _ => h.timeless remote early,
      fun _ => remote,.nil⟩
  | timedOut nowUs error due => exact failedSupported h rfl id
  | failed error => exact failedSupported h rfl (by simp)
  | reached instant error waiting current =>
    cases accepted
    exact reachedSupported error waiting current h
  | missed counter instant error waiting current passed => exact failedSupported h rfl id

theorem supported {past s} (h : History caller .new past s) {side c} (there : s.context side = some c) :
    ∃ t, tenure side past = some t ∧ Supported side t c :=
  tenureInvariant (fun side r _ => supportedStart side r) (fun _ _ _ entry _ => supportedKept entry)
    (fun _ _ _ _ _ _ => supportedMoved) h there

/- The three calls that can complete a context, each on exactly what it still lacks. -/
inductive Completes (side : ProcedureInitiator) (c : ProcedureContext) : Call → Prop where
  | acknowledged (nowUs) (waiting : c.phase = .awaitingTxAck)
      (unanswered : c.expectedResponseOpcode = none) (timeless : c.instant = none) :
      Completes side c (.nesnAck side c.token nowUs)
  | answered (opcode) (waiting : c.phase = .awaitingResponse)
      (expected : c.expectedResponseOpcode = some opcode) (timeless : c.instant = none) :
      Completes side c (.expectedResponse side opcode)
  | reached (instant error) (waiting : c.phase = .awaitingInstant) (current : c.instant = some instant) :
      Completes side c (.onConnectionEvent instant error)

theorem ackCompletes {c : ProcedureContext} {nowUs} (h : (c.afterAck nowUs).phase = .complete) :
    c.expectedResponseOpcode = none ∧ c.instant = none := by
  unfold ProcedureContext.afterAck at h
  split_ifs at h with pending moment expects expects moment <;> simp_all

theorem begunOpen (side r) : ¬(begun side r).Finished := by
  cases side with
  | localSide => simp [begun,Request.context,ProcedureContext.new,ProcedureContext.Finished]
  | remoteSide =>
    unfold begun ProcedureManager.indicated
    dsimp only
    split <;> simp [Request.context,ProcedureContext.new,ProcedureContext.Finished]

theorem completedBy {s : ProcedureManager} {side c k c'} (before : s.context side = some c)
    (after : (call s k).1.context side = some c') (done : c'.phase = .complete) :
    c' = c ∨ Completes side c k := by
  have change := callChanges s k side
  rw [before,after] at change
  generalize (call s k).2 = a at change
  cases change with
  | kept => exact .inl rfl
  | started _ r => exact absurd (.inl done) (begunOpen side r)
  | moved move =>
    cases move with
    | transmitted | answeredWithInstant | responding | timedOut | failed | missed => cases done
    | acknowledged nowUs waiting =>
      obtain ⟨unanswered,timeless⟩ := ackCompletes done
      exact .inr (.acknowledged nowUs waiting unanswered timeless)
    | answered opcode waiting expected =>
      have timeless : c.instant = none := by
        cases moment : c.instant <;> simp_all [ProcedureContext.afterResponse]
      exact .inr (.answered opcode waiting expected timeless)
    | reached instant error waiting current => exact .inr (.reached instant error waiting current)

theorem finishedStays {s : ProcedureManager} {side c} (k) (before : s.context side = some c)
    (finished : c.Finished) :
    (call s k).1.context side = some c ∨ (∃ error, k = .fail side error) ∨
      ∃ r, k = starting side r ∧ (call s k).2 = .done := by
  have change := callChanges s k side
  rw [before] at change
  generalize same : (call s k).1.context side = after at change
  generalize (call s k).2 = a at change ⊢
  cases change with
  | kept => exact .inl rfl
  | started _ r => exact .inr (.inr ⟨r,rfl,rfl⟩)
  | moved move =>
    cases move with
    | failed error => exact .inr (.inl ⟨error,rfl⟩)
    | transmitted ready =>
      obtain phase | phase := ready <;> simp [ProcedureContext.Finished,phase] at finished
    | responding token opcode remote idle =>
      obtain phase | phase := idle <;> simp [ProcedureContext.Finished,phase] at finished
    | timedOut nowUs error due =>
      obtain ⟨phase | phase,_⟩ := due <;> simp [ProcedureContext.Finished,phase] at finished
    | acknowledged nowUs waiting => simp [ProcedureContext.Finished,waiting] at finished
    | answered opcode waiting => simp [ProcedureContext.Finished,waiting] at finished
    | answeredWithInstant opcode instant waiting => simp [ProcedureContext.Finished,waiting] at finished
    | reached instant error waiting => simp [ProcedureContext.Finished,waiting] at finished
    | missed counter instant error waiting => simp [ProcedureContext.Finished,waiting] at finished

theorem completionNeedsEvidence {past s} (h : History caller .new past s) (side : ProcedureInitiator)
    (c : ProcedureContext) (there : s.context side = some c) :
    (c.phase = .complete → ∃ t, tenure side past = some t ∧ Evidence side t c) ∧
    (∀ k c', (call s k).1.context side = some c' → c'.phase = .complete →
      c' = c ∨ Completes side c k) ∧
    (c.Finished → ∀ k, (call s k).1.context side = some c ∨ (∃ error, k = .fail side error) ∨
      ∃ r, k = starting side r ∧ (call s k).2 = .done) := by
  refine ⟨?_,fun k c' => completedBy there,fun finished k => finishedStays k there finished⟩
  intro done
  obtain ⟨t,known,support⟩ := supported h there
  have seen := support.seen
  simp only [shown,done] at seen
  exact ⟨t,known,seen⟩

def parameterToken : ProcedureToken := ⟨0x80000001,1⟩

def parameterCalls : List Call :=
  [.startLocal ⟨.connectionParameters,.localSide,parameterToken,0x0f,some 0,none,some 40000000⟩,
   .txDone .localSide parameterToken,.nesnAck .localSide parameterToken 5000,
   .expectedResponseWithInstant .localSide 0 30,.onConnectionEvent 29 0x28,.onConnectionEvent 30 0x28]

theorem parameterProcedureEvidence :
    ∃ c, (run caller .new parameterCalls).2.context .localSide = some c ∧ c.phase = .complete ∧
      ∃ t, tenure .localSide (run caller .new parameterCalls).1 = some t ∧ Evidence .localSide t c :=
  ⟨_,rfl,rfl,(completionNeedsEvidence (runHistory caller .new parameterCalls) .localSide _ rfl).1 rfl⟩

/- An indication that also names a response opcode completes at its instant alone. -/
def indicationCalls : List Call :=
  [.startRemote ⟨.channelMapUpdate,.remoteSide,parameterToken,0x01,some 0x10,some 30,none⟩,
   .onConnectionEvent 30 0x28]

theorem indicationSkipsResponse :
    ∃ past s c, History caller .new past s ∧ s.context .remoteSide = some c ∧ c.phase = .complete ∧
      c.expectedResponseOpcode = some 0x10 ∧
      ∀ entry ∈ past, ¬Meets .remoteSide (.response 0x10) entry := by
  refine ⟨_,_,_,runHistory caller .new indicationCalls,rfl,rfl,rfl,?_⟩
  intro entry member met
  have calls : entry.1 ∈ indicationCalls := by
    have listed := List.mem_map_of_mem (f := Prod.fst) member
    exact listed
  cases met <;> simp [indicationCalls] at calls

end Ch58xHal.LlcpEvidence
