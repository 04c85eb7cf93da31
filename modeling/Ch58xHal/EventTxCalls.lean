import Ch58xHal.EventTxFifo

/-! Every call on the two-slot state, with any decision value handed back: issued, spent or
forged. What each call can do is said once here, refusals included. -/
namespace Ch58xHal.EventTxCalls
open EventTx EventTxFifo Machines

inductive TxCall where
  | select (acknowledged : Bool)
  | preview (acknowledged : Bool)
  | complete (d : ConnectionEventTxDecision)
  | abort (d : ConnectionEventTxDecision)
  deriving DecidableEq, Repr

inductive TxResult where
  | decided (r : Except ConnectionEventTxError ConnectionEventTxDecision)
  | committed (r : Except ConnectionEventTxError Unit)

def TxResult.failed : TxResult → Bool
  | .decided (.error _) => true
  | .committed (.error _) => true
  | _ => false

def events : Machine ConnectionEventTxState TxCall TxResult where
  step s
    | .select acknowledged => ((s.select acknowledged).1,.decided (s.select acknowledged).2)
    | .preview acknowledged => (s,.decided (s.previewSelect acknowledged))
    | .complete d => ((s.completeTransmit d).1,.committed (s.completeTransmit d).2)
    | .abort d => ((s.abortTransmit d).1,.committed (s.abortTransmit d).2)

/- A selection needs no plan pending and, for an acknowledgement, something outstanding; a
commit needs its plan pending. -/
def Refuses (s : ConnectionEventTxState) : TxCall → Prop
  | .select acknowledged => s.planned.isSome ∨ (acknowledged = true ∧ s.outstanding = none)
  | .preview acknowledged => s.planned.isSome ∨ (acknowledged = true ∧ s.outstanding = none)
  | .complete d => s.planned ≠ some d
  | .abort d => s.planned ≠ some d

theorem selectPreviews (s : ConnectionEventTxState) (ack : Bool) : (s.select ack).2 = s.previewSelect ack := by
  cases pending : s.planned with
  | some d =>
    rw [ConnectionEventTxState.selectPending pending]
    simp [ConnectionEventTxState.previewSelect,pending]
  | none =>
    cases out : s.outstanding with
    | none =>
      cases ack with
      | true =>
        rw [ConnectionEventTxState.selectUnasked pending out]
        simp [ConnectionEventTxState.previewSelect,pending,out]
      | false =>
        rw [ConnectionEventTxState.selectFresh pending out]
        simp [ConnectionEventTxState.previewSelect,pending,out]
    | some o =>
      cases ack with
      | true =>
        rw [ConnectionEventTxState.selectAcknowledged pending out]
        simp [ConnectionEventTxState.previewSelect,pending,out]
      | false =>
        rw [ConnectionEventTxState.selectRetry pending out]
        simp [ConnectionEventTxState.previewSelect,pending,out]

/-! What a commit of the pending plan does. -/

def refilled (s : ConnectionEventTxState) (d : ConnectionEventTxDecision) (r : ConnectionEventTxRefill) :
    ConnectionEventTxState :=
  {s.sent d with
    generations := s.generations.set r.slot r.token.generation
    slots := s.slots.set r.slot (some r.token)
    nextPayloadId := s.nextPayloadId + 1}

/- A plan with a refill is one for the oldest staged payload, the other slot being empty. -/
theorem plannedRefill {s : ConnectionEventTxState} (sound : Sound s) {d r} (pending : s.planned = some d)
    (found : d.refillAfterTransmit = some r) :
    s.outstanding = none ∧ s.nextPayloadId < s.payloadCount ∧ d.responseSlot = pickSlot s ∧
      d.responseToken = s.slots.get (pickSlot s) ∧ s.slots.get (pickSlot s).other = none ∧
      r = s.refill (pickSlot s).other := by
  have coherent := sound.planned d pending
  cases out : s.outstanding with
  | some o =>
    have plain := (coherent.held o out).2.2
    rw [found] at plain
    cases plain
  | none =>
    obtain ⟨slot,token,refill⟩ := coherent.idle out
    rw [found,nextRefill] at refill
    split at refill
    · rename_i free
      cases refill
      exact ⟨rfl,free.1,slot,token,free.2,rfl⟩
    · cases refill

theorem plannedStaged {s : ConnectionEventTxState} (sound : Sound s) (silent : s.outstanding = none)
    (more : s.nextPayloadId < s.payloadCount) :
    ConnectionEventTxState.stagedSlot s.slots = some (pickSlot s) := by
  unfold pickSlot
  cases first : ConnectionEventTxState.stagedSlot s.slots with
  | none => exact absurd (sound.idle silent first) (Nat.ne_of_lt more)
  | some slot => rfl

inductive Commits (s : ConnectionEventTxState) (d : ConnectionEventTxDecision) : ConnectionEventTxState → Prop where
  | plain (nothing : d.refillAfterTransmit = none)
      (same : ∀ o, s.outstanding = some o → o.slot = d.responseSlot ∧ o.token = d.responseToken) :
      Commits s d (s.sent d)
  | refill {r} (found : d.refillAfterTransmit = some r) (good : s.refillMatches r = true) :
      Commits s d (refilled s d r)

theorem completeCommits {s : ConnectionEventTxState} (sound : Sound s) {d} (pending : s.planned = some d) :
    (s.completeTransmit d).2 = .ok () ∧ Commits s d (s.completeTransmit d).1 := by
  have coherent := sound.planned d pending
  cases found : d.refillAfterTransmit with
  | none =>
    have same : ∀ o, s.outstanding = some o → o.slot = d.responseSlot ∧ o.token = d.responseToken := by
      intro o out
      obtain ⟨slot,token,_⟩ := coherent.held o out
      exact ⟨slot.symm,token.symm⟩
    rw [ConnectionEventTxState.completePlain pending same found]
    exact ⟨rfl,.plain found same⟩
  | some r =>
    obtain ⟨silent,more,slot,token,free,rfl⟩ := plannedRefill sound pending found
    have good := (refillSound sound (plannedStaged sound silent more) free more slot token).1
    rw [ConnectionEventTxState.completeRefill pending silent found good]
    exact ⟨rfl,.refill found good⟩

/-! The calls, case by case. -/

inductive Moves (s : ConnectionEventTxState) : TxCall → ConnectionEventTxState → TxResult → Prop where
  | refused {call result} (refuses : Refuses s call) (failed : result.failed = true) : Moves s call s result
  | previewed {ack d} (ready : s.planned = none) (ok : (s.select ack).2 = .ok d) :
      Moves s (.preview ack) s (.decided (.ok d))
  | fresh (ready : s.planned = none) (silent : s.outstanding = none) :
      Moves s (.select false) {s with planned := some (s.choose s.slots s.lastReleasedSlot none)}
        (.decided (.ok (s.choose s.slots s.lastReleasedSlot none)))
  | retried (ready : s.planned = none) {o} (out : s.outstanding = some o) :
      Moves s (.select false) {s with planned := some (s.retry o)} (.decided (.ok (s.retry o)))
  | acknowledged (ready : s.planned = none) {o} (out : s.outstanding = some o) :
      Moves s (.select true)
        {s.released o with planned := some (s.choose (s.slots.set o.slot none) o.slot (some o))}
        (.decided (.ok (s.choose (s.slots.set o.slot none) o.slot (some o))))
  | aborted {d} (pending : s.planned = some d) : Moves s (.abort d) {s with planned := none} (.committed (.ok ()))
  | completed {d after} (pending : s.planned = some d) (commits : Commits s d after) :
      Moves s (.complete d) after (.committed (.ok ()))

theorem selectMoves (s : ConnectionEventTxState) (ack : Bool) :
    Moves s (.select ack) (s.select ack).1 (.decided (s.select ack).2) := by
  cases pending : s.planned with
  | some d =>
    rw [ConnectionEventTxState.selectPending pending]
    exact .refused (Or.inl (by rw [pending]; rfl)) rfl
  | none =>
    cases out : s.outstanding with
    | none =>
      cases ack with
      | true =>
        rw [ConnectionEventTxState.selectUnasked pending out]
        exact .refused (Or.inr ⟨rfl,out⟩) rfl
      | false =>
        rw [ConnectionEventTxState.selectFresh pending out]
        exact .fresh pending out
    | some o =>
      cases ack with
      | true =>
        rw [ConnectionEventTxState.selectAcknowledged pending out]
        exact .acknowledged pending out
      | false =>
        rw [ConnectionEventTxState.selectRetry pending out]
        exact .retried pending out

/- A preview answers what the selection would, and is refused with it. -/
theorem previewMoves (s : ConnectionEventTxState) (ack : Bool) :
    Moves s (.preview ack) s (.decided (s.previewSelect ack)) := by
  have moves := selectMoves s ack
  rw [selectPreviews] at moves
  cases previewed : s.previewSelect ack with
  | ok d =>
    refine .previewed ?_ ((selectPreviews s ack).trans previewed)
    cases pending : s.planned with
    | none => rfl
    | some plan => simp [ConnectionEventTxState.previewSelect,pending] at previewed
  | error e =>
    rw [previewed] at moves
    generalize (s.select ack).1 = after at moves
    cases moves with
    | refused refuses failed => exact .refused refuses rfl

theorem callMoves {s : ConnectionEventTxState} (sound : Sound s) (call : TxCall) :
    Moves s call (events.step s call).1 (events.step s call).2 := by
  cases call with
  | select ack => exact selectMoves s ack
  | preview ack => exact previewMoves s ack
  | complete d =>
    by_cases pending : s.planned = some d
    · obtain ⟨ok,commits⟩ := completeCommits sound pending
      show Moves s _ _ (.committed (s.completeTransmit d).2)
      rw [ok]
      exact .completed pending commits
    · show Moves s _ (s.completeTransmit d).1 (.committed (s.completeTransmit d).2)
      rw [ConnectionEventTxState.completeUnplanned pending]
      exact .refused pending rfl
  | abort d =>
    by_cases pending : s.planned = some d
    · show Moves s _ (s.abortTransmit d).1 (.committed (s.abortTransmit d).2)
      rw [ConnectionEventTxState.abortPlanned pending]
      exact .aborted pending
    · show Moves s _ (s.abortTransmit d).1 (.committed (s.abortTransmit d).2)
      rw [ConnectionEventTxState.abortUnplanned pending]
      exact .refused pending rfl

theorem callSound {s : ConnectionEventTxState} (sound : Sound s) (call : TxCall) :
    Sound (events.step s call).1 := by
  cases call with
  | select ack => exact (selectRefines sound ack).1
  | preview ack => exact sound
  | complete d =>
    by_cases pending : s.planned = some d
    · exact (completeRefines sound pending).2.1
    · show Sound (s.completeTransmit d).1
      rw [ConnectionEventTxState.completeUnplanned pending]
      exact sound
  | abort d =>
    by_cases pending : s.planned = some d
    · show Sound (s.abortTransmit d).1
      rw [ConnectionEventTxState.abortPlanned pending]
      exact abortSound sound
    · show Sound (s.abortTransmit d).1
      rw [ConnectionEventTxState.abortUnplanned pending]
      exact sound

theorem runSound {owners tx air} (built : Built owners tx air) {past s} (run : History events tx past s) :
    Sound s :=
  stateInvariant (I := Sound) (builtSound built).1 (fun _ call sound => callSound sound call) run

/-! Errors are exact, and leave the state alone. -/

theorem movesFailed {s call after result} (moves : Moves s call after result) :
    (result.failed = true ↔ Refuses s call) ∧ (result.failed = true → after = s) := by
  cases moves with
  | refused refuses failed => exact ⟨iff_of_true failed refuses,fun _ => rfl⟩
  | @previewed ack d ready ok =>
    refine ⟨iff_of_false Bool.false_ne_true ?_,fun _ => rfl⟩
    rintro (pending | ⟨rfl,silent⟩)
    · rw [ready] at pending
      cases pending
    · rw [ConnectionEventTxState.selectUnasked ready silent] at ok
      cases ok
  | fresh ready silent =>
    refine ⟨iff_of_false Bool.false_ne_true ?_,fun failed => by cases failed⟩
    rintro (pending | ⟨asked,_⟩)
    · rw [ready] at pending
      cases pending
    · cases asked
  | retried ready out =>
    refine ⟨iff_of_false Bool.false_ne_true ?_,fun failed => by cases failed⟩
    rintro (pending | ⟨asked,_⟩)
    · rw [ready] at pending
      cases pending
    · cases asked
  | acknowledged ready out =>
    refine ⟨iff_of_false Bool.false_ne_true ?_,fun failed => by cases failed⟩
    rintro (pending | ⟨_,silent⟩)
    · rw [ready] at pending
      cases pending
    · rw [out] at silent
      cases silent
  | aborted pending => exact ⟨iff_of_false Bool.false_ne_true (not_not.mpr pending),fun failed => by cases failed⟩
  | completed pending commits =>
    exact ⟨iff_of_false Bool.false_ne_true (not_not.mpr pending),fun failed => by cases failed⟩

/- The checks of a commit behind the comparison with the pending plan. -/
def PassesChecks (s : ConnectionEventTxState) (d : ConnectionEventTxDecision) : Prop :=
  s.outstanding.any (fun o => o.slot != d.responseSlot || o.token != d.responseToken) = false ∧
  d.refillAfterTransmit.any (fun r => !s.refillMatches r) = false

theorem plannedPasses {s : ConnectionEventTxState} (sound : Sound s) {d} (pending : s.planned = some d) :
    PassesChecks s d := by
  obtain ⟨_,commits⟩ := completeCommits sound pending
  generalize (s.completeTransmit d).1 = after at commits
  cases commits with
  | plain nothing same =>
    refine ⟨?_,by rw [nothing]; rfl⟩
    cases out : s.outstanding with
    | none => rfl
    | some o =>
      obtain ⟨slot,token⟩ := same o out
      simp [slot,token]
  | refill found good =>
    refine ⟨?_,by rw [found]; simp [good]⟩
    rw [(plannedRefill sound pending found).1]
    rfl

theorem txErrorsExact {owners tx air} (built : Built owners tx air) {past s} (run : History events tx past s) :
    (∀ call, (events.step s call).2.failed = true ↔ Refuses s call) ∧
    (∀ call, (events.step s call).2.failed = true → (events.step s call).1 = s) ∧
    (∀ ack, events.step s (.preview ack) = (s,(events.step s (.select ack)).2)) ∧
    ∀ d, s.planned = some d → PassesChecks s d := by
  have sound := runSound built run
  refine ⟨fun call => (movesFailed (callMoves sound call)).1,fun call => (movesFailed (callMoves sound call)).2,
    ?_,fun d pending => plannedPasses sound pending⟩
  intro ack
  show (s,TxResult.decided (s.previewSelect ack)) = (s,TxResult.decided (s.select ack).2)
  rw [selectPreviews]

def forgedCalls (tx : ConnectionEventTxState) : List TxCall :=
  [.preview true,.select false,.select false,.abort (tx.retry ⟨.slot1,none⟩)]

theorem txErrorsExactForged :
    ∃ tx, ConnectionEventTxState.newWithOwnerTokens [10,20,30] = .ok tx ∧
      ((Machines.run events tx (forgedCalls tx)).1.map fun call => call.2.failed) = [true,false,true,true] ∧
      ∀ call, (events.step (Machines.run events tx (forgedCalls tx)).2 call).2.failed = true →
        (events.step (Machines.run events tx (forgedCalls tx)).2 call).1 =
          (Machines.run events tx (forgedCalls tx)).2 := by
  refine ⟨_,rfl,by decide +kernel,?_⟩
  have built : Built [10,20,30] _ .nothing := .withOwners rfl
  exact (txErrorsExact built (runHistory events _ _)).2.1

end Ch58xHal.EventTxCalls
