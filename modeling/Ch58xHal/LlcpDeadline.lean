import Ch58xHal.LlcpEvidence

/-! Response deadlines. The source keeps one sentinel-coded time per context, written in
six operations; here every armed deadline is traced to the last acknowledgement of the
same context. -/
namespace Ch58xHal.LlcpDeadline
open ControlPdu Machines Llcp LlcpSteps LlcpEvidence

def ackTime (side : ProcedureInitiator) : Call × Answer → Option Nat
  | (.nesnAck i _ nowUs,.done) => if i = side then some nowUs else none
  | _ => none

def lastAck (side : ProcedureInitiator) (calls : List (Call × Answer)) : Option Nat :=
  (calls.filterMap (ackTime side)).getLast?

theorem lastAckPast {side calls entry} (silent : ackTime side entry = none) :
    lastAck side (calls ++ [entry]) = lastAck side calls := by
  simp [lastAck,silent]

theorem lastAckNow (side calls token nowUs) :
    lastAck side (calls ++ [(.nesnAck side token nowUs,.done)]) = some nowUs := by
  simp [lastAck,ackTime]

theorem quietSilent {side entry} (quiet : Quiet side entry) : ackTime side entry = none := by
  obtain ⟨k,a⟩ := entry
  unfold ackTime
  split
  · rename_i i token nowUs same
    cases same
    obtain refused | elsewhere := quiet
    · exact absurd refused notRefused
    · simpa [target] using elsewhere
  · rfl

structure Timed (side : ProcedureInitiator) (t : Tenure) (c : ProcedureContext) : Prop
    extends Supported side t c where
  finished : c.Finished → c.responseDeadlineUs = 0
  armed : c.phase = .awaitingResponse → c.responseTimeoutUs ≠ 0 → c.responseDeadlineUs ≠ 0
  expecting : c.responseDeadlineUs ≠ 0 → c.expectedResponseOpcode.isSome
  source : c.responseDeadlineUs ≠ 0 → ∃ nowUs, lastAck side t.calls = some nowUs ∧
    c.responseDeadlineUs = saturatingAdd nowUs c.responseTimeoutUs.toNat

theorem timedStart (side r) : Timed side ⟨r,[]⟩ (begun side r) := by
  have none : (begun side r).responseDeadlineUs = 0 := by
    unfold begun ProcedureManager.indicated Request.context ProcedureContext.new
    cases side <;> dsimp only
    split <;> rfl
  have phase : (begun side r).phase ≠ .awaitingResponse := by
    unfold begun ProcedureManager.indicated Request.context ProcedureContext.new
    cases side <;> dsimp only
    · simp
    · split <;> simp
  exact ⟨supportedStart side r,fun _ => none,fun waiting => absurd waiting phase,
    fun armed => absurd none armed,fun armed => absurd none armed⟩

theorem timedKept {side t c entry} (quiet : Quiet side entry) (h : Timed side t c) :
    Timed side ⟨t.request,t.calls ++ [entry]⟩ c :=
  ⟨supportedKept entry h.toSupported,h.finished,h.armed,h.expecting,fun armed => by
    rw [lastAckPast (quietSilent quiet)]
    exact h.source armed⟩

section Moved
variable {side : ProcedureInitiator} {t : Tenure} {c c' : ProcedureContext} {entry : Call × Answer}

theorem disarmedTimed (support : Supported side ⟨t.request,t.calls ++ [entry]⟩ c')
    (disarmed : c'.responseDeadlineUs = 0) (phase : c'.phase ≠ .awaitingResponse) :
    Timed side ⟨t.request,t.calls ++ [entry]⟩ c' :=
  ⟨support,fun _ => disarmed,fun waiting => absurd waiting phase,
    fun armed => absurd disarmed armed,fun armed => absurd disarmed armed⟩

-- Everything else that moves a context leaves its deadline alone.
theorem untouchedTimed (support : Supported side ⟨t.request,t.calls ++ [entry]⟩ c')
    (h : Timed side t c) (silent : ackTime side entry = none)
    (deadline : c'.responseDeadlineUs = c.responseDeadlineUs)
    (timeout : c'.responseTimeoutUs = c.responseTimeoutUs)
    (opcode : c'.expectedResponseOpcode = c.expectedResponseOpcode)
    (running : ¬c'.Finished) (phase : c'.phase ≠ .awaitingResponse) :
    Timed side ⟨t.request,t.calls ++ [entry]⟩ c' := by
  refine ⟨support,fun finished => absurd finished running,fun waiting => absurd waiting phase,?_,?_⟩
  · rw [deadline,opcode]
    exact h.expecting
  · rw [deadline,timeout,lastAckPast silent]
    exact h.source

theorem deadlineFromSource (nowUs) (armed : c.deadlineFrom nowUs ≠ 0) :
    c.deadlineFrom nowUs = saturatingAdd nowUs c.responseTimeoutUs.toNat := by
  unfold ProcedureContext.deadlineFrom at armed ⊢
  split
  · rename_i untimed
    simp [untimed] at armed
  · rfl

theorem deadlineFromArmed (nowUs) (timed : c.responseTimeoutUs ≠ 0) : c.deadlineFrom nowUs ≠ 0 := by
  have positive : c.responseTimeoutUs.toNat ≠ 0 := by
    intro zero
    exact timed (UInt32.toNat_inj.mp zero)
  rw [ProcedureContext.deadlineFrom,if_neg timed,saturatingAdd]
  omega

theorem acknowledgedTimed (nowUs) (waiting : c.phase = .awaitingTxAck) (h : Timed side t c) :
    Timed side ⟨t.request,t.calls ++ [(.nesnAck side c.token nowUs,.done)]⟩ (c.afterAck nowUs) := by
  have support := acknowledgedSupported nowUs waiting h.toSupported
  have idle : c.expectedResponseOpcode.isSome = false → c.responseDeadlineUs = 0 := by
    intro silent
    by_contra armed
    simp [h.expecting armed] at silent
  have early : Early c := by simp [Early,ProcedureContext.Finished,waiting]
  by_cases expects : c.expectedResponseOpcode.isSome
  · have next : (c.afterAck nowUs).phase = .awaitingResponse ∧
        (c.afterAck nowUs).responseDeadlineUs = c.deadlineFrom nowUs ∧
        (c.afterAck nowUs).responseTimeoutUs = c.responseTimeoutUs ∧
        (c.afterAck nowUs).expectedResponseOpcode = c.expectedResponseOpcode := by
      unfold ProcedureContext.afterAck
      by_cases pending : c.pendingResponse
      · have timeless := h.timeless (h.answering pending) early
        simp [pending,timeless,expects]
      · simp [pending,expects]
    obtain ⟨phase,deadline,timeout,opcode⟩ := next
    refine ⟨support,?_,?_,?_,?_⟩
    · intro finished
      simp [ProcedureContext.Finished,phase] at finished
    · intro _ timed
      rw [timeout] at timed
      rw [deadline]
      exact deadlineFromArmed nowUs timed
    · intro _
      rw [opcode]
      exact expects
    · intro armed
      rw [deadline] at armed ⊢
      rw [timeout]
      exact ⟨nowUs,lastAckNow side t.calls c.token nowUs,deadlineFromSource nowUs armed⟩
  · have zero := idle (by simpa using expects)
    refine disarmedTimed support ?_ ?_
    · unfold ProcedureContext.afterAck
      split_ifs <;> simp_all
    · unfold ProcedureContext.afterAck
      split_ifs <;> simp

end Moved

theorem timedMoved {side t c k c' a} (move : Moves side c k c') (accepted : Accepted k a)
    (h : Timed side t c) : Timed side ⟨t.request,t.calls ++ [(k,a)]⟩ c' := by
  have support := supportedMoved move accepted h.toSupported
  cases move with
  | transmitted ready =>
    exact untouchedTimed support h rfl rfl rfl rfl (by simp [ProcedureContext.Finished]) (by simp)
  | acknowledged nowUs waiting =>
    cases accepted
    exact acknowledgedTimed nowUs waiting h
  | answered opcode waiting expected =>
    refine disarmedTimed support rfl ?_
    unfold ProcedureContext.afterResponse
    dsimp only
    split <;> simp
  | answeredWithInstant opcode instant waiting expected =>
    exact untouchedTimed support h rfl rfl rfl rfl (by simp [ProcedureContext.Finished]) (by simp)
  | responding token opcode remote idle =>
    exact untouchedTimed support h rfl rfl rfl rfl (by simp [ProcedureContext.Finished]) (by simp)
  | timedOut nowUs error due => exact disarmedTimed support rfl (by simp [ProcedureContext.withFailure])
  | failed error => exact disarmedTimed support rfl (by simp [ProcedureContext.withFailure])
  | reached instant error waiting current => exact disarmedTimed support rfl (by simp)
  | missed counter instant error waiting current passed =>
    exact disarmedTimed support rfl (by simp [ProcedureContext.withFailure])

theorem timed {past s} (h : History caller .new past s) {side c} (there : s.context side = some c) :
    ∃ t, tenure side past = some t ∧ Timed side t c :=
  tenureInvariant (fun side r _ => timedStart side r) (fun _ _ _ _ => timedKept)
    (fun _ _ _ _ _ _ => timedMoved) h there

/- The calls that may write a context's deadline. -/
def retimes (side : ProcedureInitiator) : Call → Prop
  | .nesnAck i _ _ => i = side
  | .expectedResponse i _ => i = side
  | .fail i _ => i = side
  | .checkTimeouts _ _ => True
  | .onConnectionEvent _ _ => True
  | .startLocal _ => side = .localSide
  | .startRemote _ => side = .remoteSide
  | _ => False

theorem acceptedStands {k a} (accepted : Accepted k a) : ¬Refused a := by
  rintro ⟨e,rfl⟩
  cases k with
  | checkTimeouts =>
    obtain ⟨failed,same⟩ := accepted
    cases same
  | _ => cases accepted

theorem deadlineWritten {s : ProcedureManager} {side c} (k) (there : s.context side = some c) :
    ∃ c', (call s k).1.context side = some c' ∧
      (c'.responseDeadline = c.responseDeadline ∨ ¬Refused (call s k).2 ∧ retimes side k) := by
  have change := callChanges s k side
  rw [there] at change
  generalize (call s k).1.context side = after at change ⊢
  generalize (call s k).2 = a at change ⊢
  cases change with
  | kept => exact ⟨c,rfl,.inl rfl⟩
  | started _ r => exact ⟨_,rfl,.inr ⟨notRefused,by cases side <;> rfl⟩⟩
  | @moved _ c' _ _ move accepted =>
    refine ⟨c',rfl,?_⟩
    have stands := acceptedStands accepted
    cases move with
    | transmitted | answeredWithInstant | responding => exact .inl rfl
    | acknowledged | answered | failed => exact .inr ⟨stands,rfl⟩
    | timedOut | reached | missed => exact .inr ⟨stands,trivial⟩

def Expired (c : ProcedureContext) (nowUs : Nat) : Prop :=
  (c.phase = .awaitingResponse ∨ c.phase = .awaitingInstant) ∧
    ∃ deadline, c.responseDeadline = some deadline ∧ deadline ≤ nowUs

theorem expiredDue (c : ProcedureContext) (nowUs) : Expired c nowUs ↔ c.Due nowUs := by
  unfold Expired ProcedureContext.Due ProcedureContext.responseDeadline
  by_cases armed : c.responseDeadlineUs = 0 <;> simp [armed]

theorem sweepTimesOut (s : ProcedureManager) (nowUs error side) :
    (call s (.checkTimeouts nowUs error)).1.context side =
      (s.context side).map (ProcedureContext.checkTimeout nowUs error) := by
  cases side <;> rfl

theorem sweepAnswers (s : ProcedureManager) (nowUs error) :
    (call s (.checkTimeouts nowUs error)).2 = .anyFailed true ↔
      ∃ side c, s.context side = some c ∧ Expired c nowUs := by
  simp only [call,ProcedureManager.checkTimeouts,Answer.anyFailed.injEq,Bool.or_eq_true,Option.any_eq_true,
    decide_eq_true_eq,expiredDue]
  constructor
  · rintro (⟨c,there,due⟩ | ⟨c,there,due⟩)
    · exact ⟨.localSide,c,there,due⟩
    · exact ⟨.remoteSide,c,there,due⟩
  · rintro ⟨side,c,there,due⟩
    cases side with
    | localSide => exact .inl ⟨c,there,due⟩
    | remoteSide => exact .inr ⟨c,there,due⟩

theorem deadlineFollowsAcknowledgement {past s} (h : History caller .new past s)
    (side : ProcedureInitiator) (c : ProcedureContext) (there : s.context side = some c) :
    (c.Finished → c.responseDeadline = none) ∧
    (c.phase = .awaitingResponse → c.responseTimeoutUs ≠ 0 → c.responseDeadline.isSome) ∧
    (∀ deadline, c.responseDeadline = some deadline → ∃ t nowUs, tenure side past = some t ∧
      lastAck side t.calls = some nowUs ∧
      deadline = saturatingAdd nowUs c.responseTimeoutUs.toNat) ∧
    (∀ k, ∃ c', (call s k).1.context side = some c' ∧
      (c'.responseDeadline = c.responseDeadline ∨ ¬Refused (call s k).2 ∧ retimes side k)) ∧
    ∀ nowUs error,
      (Expired c nowUs → (call s (.checkTimeouts nowUs error)).1.context side =
        some {c with phase := .failed,error := some error,responseDeadlineUs := 0}) ∧
      (¬Expired c nowUs → (call s (.checkTimeouts nowUs error)).1.context side = some c) ∧
      ((call s (.checkTimeouts nowUs error)).2 = .anyFailed true ↔
        ∃ side c, s.context side = some c ∧ Expired c nowUs) := by
  obtain ⟨t,known,timing⟩ := timed h there
  refine ⟨?_,?_,?_,fun k => deadlineWritten k there,fun nowUs error => ⟨?_,?_,sweepAnswers s nowUs error⟩⟩
  · intro finished
    simp [ProcedureContext.responseDeadline,timing.finished finished]
  · intro waiting timedContext
    simp [ProcedureContext.responseDeadline,timing.armed waiting timedContext]
  · intro deadline found
    unfold ProcedureContext.responseDeadline at found
    split at found
    · cases found
    · rename_i armed
      cases found
      obtain ⟨nowUs,acked,sum⟩ := timing.source armed
      exact ⟨t,nowUs,known,acked,sum⟩
  · intro expired
    rw [sweepTimesOut,there]
    simp [ProcedureContext.checkTimeout,(expiredDue c nowUs).mp expired,ProcedureContext.withFailure]
  · intro running
    rw [sweepTimesOut,there]
    simp [ProcedureContext.checkTimeout,mt (expiredDue c nowUs).mpr running]

-- The deadline survives the accepted indication and an unrelated call.
theorem parameterDeadline :
    ∃ c, (run caller .new (parameterCalls.take 5)).2.context .localSide = some c ∧
      c.responseDeadline = some 40005000 ∧
      ∃ t nowUs, tenure .localSide (run caller .new (parameterCalls.take 5)).1 = some t ∧
        lastAck .localSide t.calls = some nowUs ∧
        40005000 = saturatingAdd nowUs c.responseTimeoutUs.toNat :=
  ⟨_,rfl,rfl,(deadlineFollowsAcknowledgement (runHistory caller .new (parameterCalls.take 5))
    .localSide _ rfl).2.2.1 _ rfl⟩

end Ch58xHal.LlcpDeadline
