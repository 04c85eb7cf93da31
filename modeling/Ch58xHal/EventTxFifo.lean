import Mathlib.Data.List.Sort
import Ch58xHal.EventTx
import Ch58xHal.InFlightQueue

/-! The two-slot state refines a FIFO with one PDU in flight. The source keeps no
queue: order is the order of payload ids in two slots followed by the ids that were
never staged. The slot shapes listed here are the only ones a call can reach. -/
namespace Ch58xHal.EventTxFifo
open EventTx InFlightQueue

structure Payload where
  id : Nat
  owner : UInt32
  deriving DecidableEq, Repr

def payload (t : ConnectionEventTxToken) : Payload := ⟨t.payloadId,t.ownerToken⟩

def ascending (slots : PerSlot (Option ConnectionEventTxToken)) : List ConnectionEventTxToken :=
  match ConnectionEventTxState.stagedSlot slots with
  | none => []
  | some slot => (slots.get slot).toList ++ (slots.get slot.other).toList

def unstaged (s : ConnectionEventTxState) : List Payload :=
  (List.range' s.nextPayloadId (s.payloadCount - s.nextPayloadId)).map
    (fun id => ⟨id,s.ownerTokens.getD id 0⟩)

def onAir : Option ConnectionEventOutstanding → OnAir
  | none => .nothing
  | some ⟨_,none⟩ => .filler
  | some ⟨_,some _⟩ => .head

def plan (d : ConnectionEventTxDecision) : Plan Payload :=
  ⟨d.acknowledgedToken.map payload,d.responseToken.map payload,d.responseIsRetry,
    d.morePayloadsAfterResponse⟩

def queue (s : ConnectionEventTxState) : Queue Payload :=
  ⟨(ascending s.slots).map payload ++ unstaged s,onAir s.outstanding,s.planned.map plan⟩

def vacant : PerSlot (Option ConnectionEventTxToken) := ⟨none,none⟩

inductive Layout : PerSlot (Option ConnectionEventTxToken) → Nat → Prop where
  | none (next) : Layout vacant next
  | one (slot) (t : ConnectionEventTxToken) : Layout (vacant.set slot (some t)) (t.payloadId+1)
  | two (slot) (a b : ConnectionEventTxToken) (adjacent : b.payloadId = a.payloadId+1) :
      Layout ((vacant.set slot (some a)).set slot.other (some b)) (b.payloadId+1)

section Layouts
open ConnectionEventTxState (stagedSlot)

@[simp] theorem vacantGet (slot) : vacant.get slot = none := by cases slot <;> rfl
@[simp] theorem vacantStaged : stagedSlot vacant = none := rfl
@[simp] theorem vacantAscending : ascending vacant = [] := rfl

@[simp] theorem oneStaged (slot t) : stagedSlot (vacant.set slot (some t)) = some slot := by
  cases slot <;> rfl

@[simp] theorem oneAscending (slot t) : ascending (vacant.set slot (some t)) = [t] := by
  simp [ascending]

theorem twoStaged (slot) {a b : ConnectionEventTxToken} (adjacent : b.payloadId = a.payloadId+1) :
    stagedSlot ((vacant.set slot (some a)).set slot.other (some b)) = some slot := by
  cases slot <;> simp [vacant,PerSlot.set,stagedSlot,ConnectionEventTxSlot.other,adjacent]

theorem twoAscending (slot) {a b : ConnectionEventTxToken} (adjacent : b.payloadId = a.payloadId+1) :
    ascending ((vacant.set slot (some a)).set slot.other (some b)) = [a,b] := by
  simp [ascending,twoStaged slot adjacent]

theorem layoutIds {slots next} (h : Layout slots next) :
    (ascending slots).length ≤ next ∧ (ascending slots).map ConnectionEventTxToken.payloadId =
      List.range' (next - (ascending slots).length) (ascending slots).length := by
  cases h with
  | none => exact ⟨Nat.zero_le _,rfl⟩
  | one slot t => simp
  | two slot a b adjacent => simp [twoAscending slot adjacent,adjacent,List.range']

theorem layoutHead {slots next slot} (h : Layout slots next) (first : stagedSlot slots = some slot) :
    ∃ t, slots.get slot = some t ∧ ascending slots = t :: (slots.get slot.other).toList := by
  cases h with
  | none => simp at first
  | one place t =>
    obtain rfl : place = slot := by simpa using first
    exact ⟨t,by simp,by simp⟩
  | two place a b adjacent =>
    obtain rfl : place = slot := by simpa [twoStaged place adjacent] using first
    exact ⟨a,by simp,by simp [twoAscending place adjacent]⟩

theorem stagedNone {slots next} (h : Layout slots next) (empty : stagedSlot slots = none) :
    slots = vacant := by
  cases h with
  | none => rfl
  | one slot t => simp at empty
  | two slot a b adjacent => simp [twoStaged slot adjacent] at empty

-- Releasing the oldest payload leaves the other slot, whichever it is.
theorem layoutRelease {slots next slot} (h : Layout slots next) (first : stagedSlot slots = some slot) :
    Layout (slots.set slot none) next ∧ ascending (slots.set slot none) = (ascending slots).tail := by
  have cleared : vacant.set slot none = vacant := by cases slot <;> rfl
  cases h with
  | none => simp at first
  | one place t =>
    obtain rfl : place = slot := by simpa using first
    simpa [cleared] using Layout.none _
  | two place a b adjacent =>
    obtain rfl : place = slot := by simpa [twoStaged place adjacent] using first
    have left : ((vacant.set place (some a)).set place.other (some b)).set place none =
        vacant.set place.other (some b) := by rw [PerSlot.setComm,PerSlot.setSet,← PerSlot.setComm,cleared]
    rw [left,twoAscending place adjacent]
    exact ⟨.one place.other b,by simp⟩

-- A refill enters the slot opposite to the oldest payload and becomes the newest.
theorem layoutRefill {slots next slot} (h : Layout slots next) (first : stagedSlot slots = some slot)
    (free : slots.get slot.other = none) (t : ConnectionEventTxToken) (id : t.payloadId = next) :
    Layout (slots.set slot.other (some t)) (next+1) ∧
      ascending (slots.set slot.other (some t)) = ascending slots ++ [t] ∧
      stagedSlot (slots.set slot.other (some t)) = some slot := by
  cases h with
  | none => simp at first
  | one place a =>
    obtain rfl : place = slot := by simpa using first
    rw [twoAscending place id,twoStaged place id,← id]
    exact ⟨.two place a t id,by simp,rfl⟩
  | two place a b adjacent =>
    obtain rfl : place = slot := by simpa [twoStaged place adjacent] using first
    simp at free

end Layouts

section Ownership
open ConnectionEventTxState (stagedSlot)

def pickSlot (s : ConnectionEventTxState) : ConnectionEventTxSlot :=
  (stagedSlot s.slots).getD s.lastReleasedSlot

def nextRefill (s : ConnectionEventTxState) : Option ConnectionEventTxRefill :=
  if s.nextPayloadId < s.payloadCount ∧ s.slots.get (pickSlot s).other = none then
    some (s.refill (pickSlot s).other) else none

-- What a pending plan says must still be what the state would send.
structure Coherent (s : ConnectionEventTxState) (d : ConnectionEventTxDecision) : Prop where
  held : ∀ o, s.outstanding = some o → d.responseSlot = o.slot ∧ d.responseToken = o.token ∧
    d.refillAfterTransmit = none
  idle : s.outstanding = none → d.responseSlot = pickSlot s ∧
    d.responseToken = s.slots.get (pickSlot s) ∧ d.refillAfterTransmit = nextRefill s

structure Sound (s : ConnectionEventTxState) : Prop where
  capacity : s.payloadCount ≤ maxConnectionEventTxPayloads
  table : s.ownerTokens.length = maxConnectionEventTxPayloads
  within : s.nextPayloadId ≤ s.payloadCount
  layout : Layout s.slots s.nextPayloadId
  owners : ∀ t ∈ ascending s.slots, t.ownerToken = s.ownerTokens.getD t.payloadId 0
  idle : s.outstanding = none → stagedSlot s.slots = none → s.nextPayloadId = s.payloadCount
  held : ∀ o, s.outstanding = some o → s.slots.get o.slot = o.token ∧
    (o.token.isSome → stagedSlot s.slots = some o.slot) ∧
    (s.slots.get o.slot.other = none → s.nextPayloadId = s.payloadCount)
  planned : ∀ d, s.planned = some d → Coherent s d

theorem unstagedNil {s : ConnectionEventTxState} (within : s.nextPayloadId ≤ s.payloadCount) :
    unstaged s = [] ↔ s.nextPayloadId = s.payloadCount := by
  simp only [unstaged,List.map_eq_nil_iff,List.range'_eq_nil_iff]
  omega

theorem unstagedCons {s : ConnectionEventTxState} (more : s.nextPayloadId < s.payloadCount) :
    unstaged s = ⟨s.nextPayloadId,s.ownerTokens.getD s.nextPayloadId 0⟩ ::
      unstaged {s with nextPayloadId := s.nextPayloadId+1} := by
  have size : s.payloadCount - s.nextPayloadId = (s.payloadCount - (s.nextPayloadId+1)) + 1 := by omega
  simp only [unstaged,size,List.range'_succ,List.map_cons]

theorem choosePlan (s : ConnectionEventTxState) {slots} (last acked)
    (within : s.nextPayloadId ≤ s.payloadCount) (layout : Layout slots s.nextPayloadId)
    (drained : stagedSlot slots = none → s.nextPayloadId = s.payloadCount) :
    plan (s.choose slots last acked) =
      fresh ((acked.bind ConnectionEventOutstanding.token).map payload)
        ((ascending slots).map payload ++ unstaged s) := by
  have waiting := unstagedNil within
  cases first : stagedSlot slots with
  | none =>
    have done := drained first
    have none := stagedNone layout first
    subst none
    simp [plan,ConnectionEventTxState.choose,fresh,waiting.mpr done,done]
  | some slot =>
    obtain ⟨t,there,order⟩ := layoutHead layout first
    simp only [plan,ConnectionEventTxState.choose,first,Option.getD_some,there,fresh,order]
    by_cases more : s.nextPayloadId < s.payloadCount
    · have some : unstaged s ≠ [] := fun none => by have := waiting.mp none; omega
      simp [more,some]
    · have none : unstaged s = [] := waiting.mpr (by omega)
      cases slots.get slot.other <;> simp [more,none]

theorem chooseCoherent (s : ConnectionEventTxState) {slots} (last acked)
    (layout : Layout slots s.nextPayloadId)
    (drained : stagedSlot slots = none → s.nextPayloadId = s.payloadCount)
    (freed : ∀ o, acked = some o → slots.get o.slot = none) (t : ConnectionEventTxState)
    (same : t.slots = slots ∧ t.lastReleasedSlot = last ∧ t.outstanding = none ∧
      t.nextPayloadId = s.nextPayloadId ∧ t.payloadCount = s.payloadCount ∧
      t.ownerTokens = s.ownerTokens ∧ t.generations = s.generations) :
    Coherent t (s.choose slots last acked) := by
  obtain ⟨rfl,rfl,idle,next,count,owners,generations⟩ := same
  refine ⟨fun o held => by simp [idle] at held,fun _ => ⟨rfl,rfl,?_⟩⟩
  have refill : ∀ slot, t.refill slot = s.refill slot := by
    intro slot; simp [ConnectionEventTxState.refill,next,owners,generations]
  cases first : stagedSlot t.slots with
  | none =>
    have done := drained first
    simp [ConnectionEventTxState.choose,nextRefill,next,count,done]
  | some slot =>
    obtain ⟨a,there,order⟩ := layoutHead layout first
    simp only [ConnectionEventTxState.choose,nextRefill,pickSlot,first,Option.getD_some,next,count,refill]
    cases acked with
    | none =>
      cases free : t.slots.get slot.other <;> simp
    | some o =>
      -- the acknowledged slot is empty, so it is the one opposite to the response
      have opposite : o.slot = slot.other := by
        have empty := freed o rfl
        cases hs : slot <;> cases ho : o.slot <;> simp_all [ConnectionEventTxSlot.other]
      have free := freed o rfl
      rw [opposite] at free
      simp [opposite,free]

theorem ascendingOther {slots : PerSlot (Option ConnectionEventTxToken)} {slot}
    (empty : slots.get slot = none) : ascending slots = (slots.get slot.other).toList := by
  obtain ⟨a,b⟩ := slots
  cases slot
  · cases b <;> simp_all [PerSlot.get,ascending,stagedSlot,ConnectionEventTxSlot.other]
  · cases a <;> simp_all [PerSlot.get,ascending,stagedSlot,ConnectionEventTxSlot.other]

theorem retryPlan {s : ConnectionEventTxState} (sound : Sound s) {o} (out : s.outstanding = some o) :
    plan (s.retry o) = again (queue s) := by
  obtain ⟨there,first,_⟩ := sound.held o out
  have waiting := unstagedNil sound.within
  have within := sound.within
  have rest : decide (s.nextPayloadId < s.payloadCount) = !(unstaged s).isEmpty := by
    by_cases more : s.nextPayloadId < s.payloadCount
    · have some : unstaged s ≠ [] := fun none => by have := waiting.mp none; omega
      simp [more,some]
    · simp [more,waiting.mpr (by omega)]
  obtain ⟨slot,token⟩ := o
  cases token with
  | none =>
    simp only at there
    rw [plan,again,queue,out,ascendingOther there]
    cases next : s.slots.get slot.other <;>
      simp [ConnectionEventTxState.retry,onAir,rest,payload,next]
  | some t =>
    obtain ⟨t',there',order⟩ := layoutHead sound.layout (first rfl)
    obtain rfl : t = t' := by simpa [there] using there'
    simp only at order
    rw [plan,again,queue,out,order]
    cases next : s.slots.get slot.other <;>
      simp [ConnectionEventTxState.retry,onAir,rest,payload,next]

theorem retryCoherent {s : ConnectionEventTxState} {o} (out : s.outstanding = some o) :
    Coherent {s with planned := some (s.retry o)} (s.retry o) := by
  refine ⟨fun o' out' => ?_,fun none => ?_⟩
  · obtain rfl : o = o' := by simpa [out] using out'
    exact ⟨rfl,rfl,rfl⟩
  · simp [out] at none

-- Planning does not touch ownership: only the plan itself has to be justified.
theorem plannedSound {s : ConnectionEventTxState} (sound : Sound s) {d}
    (coherent : Coherent {s with planned := some d} d) : Sound {s with planned := some d} where
  capacity := sound.capacity
  table := sound.table
  within := sound.within
  layout := sound.layout
  owners := sound.owners
  idle := sound.idle
  held := sound.held
  planned := by
    intro d' found
    obtain rfl : d = d' := by simpa using found
    exact coherent

theorem releasedSound {s : ConnectionEventTxState} (sound : Sound s) (open' : s.planned = none) {o}
    (out : s.outstanding = some o) : Sound (s.released o) := by
  obtain ⟨there,first,full⟩ := sound.held o out
  obtain ⟨layout,order⟩ : Layout (s.slots.set o.slot none) s.nextPayloadId ∧
      ascending (s.slots.set o.slot none) <:+ ascending s.slots := by
    cases held : o.token with
    | none =>
      have same := PerSlot.setGet s.slots o.slot
      rw [there,held] at same
      rw [same]
      exact ⟨sound.layout,List.suffix_rfl⟩
    | some t =>
      obtain ⟨layout,order⟩ := layoutRelease sound.layout (first (by simp [held]))
      exact ⟨layout,order ▸ List.tail_suffix _⟩
  have empty : stagedSlot (s.slots.set o.slot none) = none → s.nextPayloadId = s.payloadCount := by
    intro none
    have gone := congrArg (fun slots => slots.get o.slot.other) (stagedNone layout none)
    exact full (by simpa using gone)
  exact ⟨sound.capacity,sound.table,sound.within,layout,
    fun t mem => sound.owners t (order.subset mem),fun _ => empty,
    by intro o' out'; simp [ConnectionEventTxState.released] at out',by intro d found; simp [ConnectionEventTxState.released,open'] at found⟩

theorem releasedUnacked {s : ConnectionEventTxState} (sound : Sound s) {o}
    (out : s.outstanding = some o) :
    (queue (s.released o)).unacked =
      if o.token.isSome then (queue s).unacked.tail else (queue s).unacked := by
  obtain ⟨there,first,_⟩ := sound.held o out
  cases held : o.token with
  | none =>
    have same := PerSlot.setGet s.slots o.slot
    rw [there,held] at same
    simp [queue,ConnectionEventTxState.released,unstaged,same]
  | some t =>
    have staged := first (by simp [held])
    obtain ⟨t',_,order⟩ := layoutHead sound.layout staged
    simp [queue,ConnectionEventTxState.released,unstaged,(layoutRelease sound.layout staged).2,order]

theorem sentSound {s : ConnectionEventTxState} (sound : Sound s) {d}
    (there : s.slots.get d.responseSlot = d.responseToken)
    (first : d.responseToken.isSome → stagedSlot s.slots = some d.responseSlot)
    (full : s.slots.get d.responseSlot.other = none → s.nextPayloadId = s.payloadCount) :
    Sound (s.sent d) where
  capacity := sound.capacity
  table := sound.table
  within := sound.within
  layout := sound.layout
  owners := sound.owners
  idle := by intro none; simp [ConnectionEventTxState.sent] at none
  held := by
    intro o out
    obtain rfl : ⟨d.responseSlot,d.responseToken⟩ = o := by simpa [ConnectionEventTxState.sent] using out
    exact ⟨there,first,full⟩
  planned := by intro d' found; simp [ConnectionEventTxState.sent] at found

theorem refillSound {s : ConnectionEventTxState} (sound : Sound s) {slot}
    (first : stagedSlot s.slots = some slot) (free : s.slots.get slot.other = none)
    (more : s.nextPayloadId < s.payloadCount) {d} (at' : d.responseSlot = slot)
    (token : d.responseToken = s.slots.get slot) :
    let r := s.refill slot.other
    let t := {s.sent d with
      generations := s.generations.set r.slot r.token.generation
      slots := s.slots.set r.slot (some r.token)
      nextPayloadId := s.nextPayloadId + 1 }
    s.refillMatches r = true ∧ Sound t ∧ (queue t).unacked = (queue s).unacked := by
  intro r t
  obtain ⟨layout,order,oldest⟩ := layoutRefill sound.layout first free r.token rfl
  have inside : s.nextPayloadId < s.ownerTokens.length := by
    have := sound.capacity; have := sound.table; omega
  refine ⟨?_,⟨sound.capacity,sound.table,more,layout,?_,?_,?_,?_⟩,?_⟩
  · have table : s.ownerTokens[s.nextPayloadId]? = some (s.ownerTokens.getD s.nextPayloadId 0) := by
      simp [List.getD,inside]
    simp only [r,ConnectionEventTxState.refillMatches,ConnectionEventTxState.refill,free,table,
      Option.isNone_none,beq_self_eq_true,Bool.and_self]
  · intro a mem
    have found : a ∈ ascending s.slots ++ [r.token] := order ▸ mem
    rcases List.mem_append.mp found with old | new
    · exact sound.owners a old
    · obtain rfl : a = r.token := by simpa using new
      rfl
  · intro none
    simp [t,ConnectionEventTxState.sent] at none
  · intro o out
    obtain rfl : ⟨d.responseSlot,d.responseToken⟩ = o := by simpa [t,ConnectionEventTxState.sent] using out
    simp only [at']
    refine ⟨?_,fun _ => oldest,?_⟩
    · rw [token]
      exact PerSlot.getOtherSet _ _ _
    · intro empty
      have : (s.slots.set slot.other (some r.token)).get slot.other = some r.token := PerSlot.getSet _ _ _
      exact absurd (empty.symm.trans this) (by simp)
  · intro d' found
    simp [t,ConnectionEventTxState.sent] at found
  · have moved : (queue t).unacked = (ascending s.slots ++ [r.token]).map payload ++
        unstaged {s with nextPayloadId := s.nextPayloadId+1} := by rw [← order]; rfl
    have before : (queue s).unacked = (ascending s.slots).map payload ++ unstaged s := rfl
    rw [moved,before,List.map_append,List.append_assoc,unstagedCons more]
    rfl

theorem completeRefines {s : ConnectionEventTxState} (sound : Sound s) {d} (pending : s.planned = some d) :
    (s.completeTransmit d).2 = .ok () ∧ Sound (s.completeTransmit d).1 ∧
    queue (s.completeTransmit d).1 =
      ⟨(queue s).unacked,if d.responseToken.isSome then .head else .filler,none⟩ := by
  have coherent := sound.planned d pending
  have shape : ∀ t : ConnectionEventTxState, t.outstanding = some ⟨d.responseSlot,d.responseToken⟩ →
      t.planned = none → (queue t).unacked = (queue s).unacked →
      queue t = ⟨(queue s).unacked,if d.responseToken.isSome then .head else .filler,none⟩ := by
    intro t out open' same
    rw [← same]
    cases token : d.responseToken <;> simp [queue,out,open',onAir,token]
  cases out : s.outstanding with
  | some o =>
    obtain ⟨slot,token,plain⟩ := coherent.held o out
    obtain ⟨there,first,full⟩ := sound.held o out
    rw [ConnectionEventTxState.completePlain pending (by
      intro o' out'
      obtain rfl : o = o' := by simpa [out] using out'
      exact ⟨slot.symm,token.symm⟩) plain]
    have after := sentSound sound (d := d) (by rw [slot,token]; exact there)
      (by rw [slot,token]; exact first) (by rw [slot]; exact full)
    exact ⟨rfl,after,shape _ rfl rfl rfl⟩
  | none =>
    obtain ⟨slot,token,refill⟩ := coherent.idle out
    cases first : stagedSlot s.slots with
    | none =>
      have done := sound.idle out first
      have empty := stagedNone sound.layout first
      have plain : d.refillAfterTransmit = none := by simp [refill,nextRefill,done]
      have nothing : d.responseToken = none := by simp [token,empty]
      rw [ConnectionEventTxState.completePlain pending (by simp [out]) plain]
      have after := sentSound sound (d := d) (by rw [slot]; exact token.symm) (by simp [nothing])
        (fun _ => done)
      exact ⟨rfl,after,shape _ rfl rfl rfl⟩
    | some place =>
      have pick : pickSlot s = place := by simp [pickSlot,first]
      rw [pick] at slot token
      by_cases more : s.nextPayloadId < s.payloadCount ∧ s.slots.get place.other = none
      · have found : d.refillAfterTransmit = some (s.refill place.other) := by
          simp [refill,nextRefill,pick,more]
        obtain ⟨good,after,same⟩ := refillSound sound first more.2 more.1 slot token
        rw [ConnectionEventTxState.completeRefill pending out found good]
        exact ⟨rfl,after,shape _ rfl rfl same⟩
      · have plain : d.refillAfterTransmit = none := by
          simp only [refill,nextRefill,pick,if_neg more]
        rw [ConnectionEventTxState.completePlain pending (by simp [out]) plain]
        have after := sentSound sound (d := d) (by rw [slot]; exact token.symm)
          (fun _ => by rw [slot]; exact first) (by
            rw [slot]
            intro empty
            have := sound.within
            by_contra
            exact more ⟨by omega,empty⟩)
        exact ⟨rfl,after,shape _ rfl rfl rfl⟩

theorem abortSound {s : ConnectionEventTxState} (sound : Sound s) : Sound {s with planned := none} :=
  ⟨sound.capacity,sound.table,sound.within,sound.layout,sound.owners,sound.idle,sound.held,
    by intro d found; simp at found⟩

end Ownership

structure Caller where
  tx : ConnectionEventTxState
  issued : Option ConnectionEventTxDecision
  deriving DecidableEq, Repr

inductive TxAnswer where
  | selected (r : Except ConnectionEventTxError ConnectionEventTxDecision)
  | committed (r : Except ConnectionEventTxError Unit)
  | notIssued

def keep (before : Option ConnectionEventTxDecision) :
    Except ConnectionEventTxError ConnectionEventTxDecision → Option ConnectionEventTxDecision
  | .ok d => some d
  | .error _ => before

-- `complete` and `abort` are made on the plan issued last, also when it is already spent.
def caller : Machines.Machine Caller Call TxAnswer where
  step c
    | .select acknowledged =>
        let r := c.tx.select acknowledged
        (⟨r.1,keep c.issued r.2⟩,.selected r.2)
    | .complete => match c.issued with
        | none => (c,.notIssued)
        | some d => (⟨(c.tx.completeTransmit d).1,c.issued⟩,.committed (c.tx.completeTransmit d).2)
    | .abort => match c.issued with
        | none => (c,.notIssued)
        | some d => (⟨(c.tx.abortTransmit d).1,c.issued⟩,.committed (c.tx.abortTransmit d).2)

def answer : TxAnswer → Answer Payload
  | .selected (.ok d) => .plan (plan d)
  | .committed (.ok _) => .done
  | _ => .refused

structure Refines (c : Caller) (q : Queue Payload) : Prop where
  sound : Sound c.tx
  view : q = queue c.tx
  issued : ∀ d, c.tx.planned = some d → c.issued = some d

theorem selectRefines {s : ConnectionEventTxState} (sound : Sound s) (ack : Bool) :
    Sound (s.select ack).1 ∧
    (queue (s.select ack).1,answer (.selected (s.select ack).2)) = InFlightQueue.select (queue s) ack ∧
    ∀ d, (s.select ack).2 = .ok d → (s.select ack).1.planned = some d := by
  cases pending : s.planned with
  | some d =>
    rw [ConnectionEventTxState.selectPending pending]
    simp [InFlightQueue.select,queue,answer,pending,sound]
  | none =>
    cases out : s.outstanding with
    | none =>
      cases ack with
      | true =>
        rw [ConnectionEventTxState.selectUnasked pending out]
        simp [InFlightQueue.select,queue,answer,onAir,pending,out,sound]
      | false =>
        have good := choosePlan s s.lastReleasedSlot none sound.within sound.layout (sound.idle out)
        have coherent := chooseCoherent s s.lastReleasedSlot none sound.layout (sound.idle out) (by simp)
          {s with planned := some (s.choose s.slots s.lastReleasedSlot none)}
          ⟨rfl,rfl,out,rfl,rfl,rfl,rfl⟩
        rw [ConnectionEventTxState.selectFresh pending out]
        refine ⟨plannedSound sound coherent,?_,by simp⟩
        simp [InFlightQueue.select,queue,answer,onAir,pending,out,good,unstaged]
    | some o =>
      cases ack with
      | false =>
        have good := retryPlan sound out
        rw [ConnectionEventTxState.selectRetry pending out]
        refine ⟨plannedSound sound (retryCoherent out),?_,by simp⟩
        obtain ⟨slot,token⟩ := o
        cases token <;> simp [InFlightQueue.select,queue,answer,pending,out,onAir,unstaged,good]
      | true =>
        have after := releasedSound sound pending out
        have good : plan (s.choose (s.slots.set o.slot none) o.slot (some o)) =
            fresh (o.token.map payload)
              ((ascending (s.slots.set o.slot none)).map payload ++ unstaged s) :=
          choosePlan s o.slot (some o) sound.within after.layout (after.idle rfl)
        have freed : ∀ o', some o = some o' → (s.slots.set o.slot none).get o'.slot = none := by
          rintro o' ⟨⟩
          exact PerSlot.getSet _ _ _
        have coherent := chooseCoherent s o.slot (some o) after.layout (after.idle rfl) freed
          {s.released o with planned := some (s.choose (s.slots.set o.slot none) o.slot (some o))}
          ⟨rfl,rfl,rfl,rfl,rfl,rfl,rfl⟩
        have left : (ascending (s.slots.set o.slot none)).map payload ++ unstaged s = _ :=
          releasedUnacked sound out
        rw [ConnectionEventTxState.selectAcknowledged pending out]
        refine ⟨plannedSound after coherent,?_,by simp⟩
        rw [left] at good
        change (Queue.mk ((ascending (s.slots.set o.slot none)).map payload ++ unstaged s) .nothing _,_) = _
        rw [left]
        have popped : o.token.map payload = if o.token.isSome then (queue s).unacked.head? else none := by
          cases held : o.token with
          | none => rfl
          | some t =>
            obtain ⟨t',there,order⟩ := layoutHead sound.layout ((sound.held o out).2.1 (by simp [held]))
            have same := (sound.held o out).1
            rw [there,held] at same
            cases Option.some.inj same
            simp [queue,order]
        obtain ⟨slot,token⟩ := o
        cases token <;>
          simp_all [InFlightQueue.select,queue,answer,onAir]

theorem selectError {s : ConnectionEventTxState} {ack e} (failed : (s.select ack).2 = .error e) :
    (s.select ack).1 = s := by
  cases pending : s.planned with
  | some d => rw [ConnectionEventTxState.selectPending pending]
  | none =>
    cases out : s.outstanding with
    | none =>
      cases ack with
      | true => rw [ConnectionEventTxState.selectUnasked pending out]
      | false => simp [ConnectionEventTxState.selectFresh pending out] at failed
    | some o =>
      cases ack with
      | true => simp [ConnectionEventTxState.selectAcknowledged pending out] at failed
      | false => simp [ConnectionEventTxState.selectRetry pending out] at failed

theorem selectSimulated {c q} (ack : Bool) (h : Refines c q) :
    answer (caller.step c (.select ack)).2 = (select q ack).2 ∧
    Refines (caller.step c (.select ack)).1 (select q ack).1 := by
  obtain ⟨sound,rfl,owner⟩ := h
  obtain ⟨after,same,fresh⟩ := selectRefines sound ack
  refine ⟨congrArg Prod.snd same,after,congrArg Prod.fst same.symm,?_⟩
  intro d found
  change (c.tx.select ack).1.planned = some d at found
  change keep c.issued (c.tx.select ack).2 = some d
  cases answered : (c.tx.select ack).2 with
  | ok d' => rw [fresh d' answered] at found; exact found
  | error e => rw [selectError answered] at found; exact owner d found

theorem completeSimulated {c q} (h : Refines c q) :
    answer (caller.step c .complete).2 = (complete q).2 ∧
    Refines (caller.step c .complete).1 (complete q).1 := by
  obtain ⟨sound,rfl,owner⟩ := h
  obtain ⟨tx,issued⟩ := c
  cases pending : tx.planned with
  | none =>
    have refused : complete (queue tx) = (queue tx,.refused) := by simp [complete,queue,pending]
    rw [refused]
    cases issued with
    | none => exact ⟨rfl,sound,rfl,owner⟩
    | some d =>
      have stale := ConnectionEventTxState.completeUnplanned (s := tx) (d := d) (by simp [pending])
      simp only [caller,stale]
      exact ⟨rfl,sound,rfl,owner⟩
  | some d =>
    obtain rfl : issued = some d := owner d pending
    obtain ⟨ok,after,same⟩ := completeRefines sound pending
    have token : (plan d).response.isSome = d.responseToken.isSome := by simp [plan]
    have done : complete (queue tx) = (queue (tx.completeTransmit d).1,.done) := by
      simp [complete,show (queue tx).planned = some (plan d) by simp [queue,pending],same,token]
    rw [done]
    refine ⟨by simp [caller,ok,answer],after,rfl,?_⟩
    intro d' found
    have none : (tx.completeTransmit d).1.planned = none := by
      simpa [queue] using congrArg Queue.planned same
    simp [caller,none] at found

theorem abortSimulated {c q} (h : Refines c q) :
    answer (caller.step c .abort).2 = (abort q).2 ∧ Refines (caller.step c .abort).1 (abort q).1 := by
  obtain ⟨sound,rfl,owner⟩ := h
  obtain ⟨tx,issued⟩ := c
  cases pending : tx.planned with
  | none =>
    have refused : abort (queue tx) = (queue tx,.refused) := by simp [abort,queue,pending]
    rw [refused]
    cases issued with
    | none => exact ⟨rfl,sound,rfl,owner⟩
    | some d =>
      have stale := ConnectionEventTxState.abortUnplanned (s := tx) (d := d) (by simp [pending])
      simp only [caller,stale]
      exact ⟨rfl,sound,rfl,owner⟩
  | some d =>
    obtain rfl : issued = some d := owner d pending
    have done : abort (queue tx) = (queue {tx with planned := none},.done) := by
      simp [abort,queue,pending,unstaged]
    rw [done]
    simp only [caller,ConnectionEventTxState.abortPlanned pending]
    exact ⟨rfl,abortSound sound,rfl,by intro d' found; simp at found⟩

theorem callerSimulates : Machines.Simulates caller (machine Payload) Refines answer where
  answers := by
    intro c q call h
    cases call with
    | select ack => exact (selectSimulated ack h).1
    | complete => exact (completeSimulated h).1
    | abort => exact (abortSimulated h).1
  related := by
    intro c q call h
    cases call with
    | select ack => exact (selectSimulated ack h).2
    | complete => exact (completeSimulated h).2
    | abort => exact (abortSimulated h).2

def numbered (owners : List UInt32) : List Payload :=
  (List.range owners.length).map (fun id => ⟨id,owners.getD id 0⟩)

/- Every way the source builds a state: the owner list it stands for and what is
already on air. -/
inductive Built : List UInt32 → ConnectionEventTxState → OnAir → Prop where
  | new (count : UInt8) :
      Built ((List.range (min count.toNat 8)).map UInt32.ofNat) (.new count) .nothing
  | withOwners {owners tx} (ok : ConnectionEventTxState.newWithOwnerTokens owners = .ok tx) :
      Built owners tx .nothing
  | emptyRetry {owners tx} (ok : ConnectionEventTxState.withEmptyRetry owners = .ok tx) :
      Built owners tx .filler

def firstToken (table : List UInt32) (id : Nat) : ConnectionEventTxToken := ⟨id,table.getD id 0,0⟩

def firstSlots (table : List UInt32) : Nat → PerSlot (Option ConnectionEventTxToken)
  | 0 => vacant
  | 1 => vacant.set .slot0 (some (firstToken table 0))
  | _ => (vacant.set .slot0 (some (firstToken table 0))).set ConnectionEventTxSlot.slot0.other
      (some (firstToken table 1))

theorem fromTable (table : List UInt32) (count : Nat) : ConnectionEventTxState.fromOwnerTokens table count =
    ⟨firstSlots table count,⟨0,0⟩,none,none,count,min count 2,table,.slot0⟩ := by
  match count with
  | 0 => rfl
  | 1 => rfl
  | n+2 => simp [ConnectionEventTxState.fromOwnerTokens,firstSlots,firstToken,vacant,PerSlot.set,
      ConnectionEventTxSlot.other]

theorem tableUnstaged {table : List UInt32} {count next : Nat} (within : next ≤ count) :
    (List.range count).map (fun id => Payload.mk id (table.getD id 0)) =
      (List.range next).map (fun id => Payload.mk id (table.getD id 0)) ++
      (List.range' next (count-next)).map (fun id => Payload.mk id (table.getD id 0)) := by
  obtain ⟨rest,rfl⟩ := Nat.exists_eq_add_of_le within
  rw [Nat.add_sub_cancel_left,← List.map_append,List.range_eq_range',List.range_eq_range',
    ← List.range'_append_1,Nat.zero_add]

theorem tableSound {table : List UInt32} {count : Nat} (size : table.length = 8) (bound : count ≤ 8) :
    Sound (.fromOwnerTokens table count) ∧ queue (.fromOwnerTokens table count) =
      ⟨(List.range count).map (fun id => ⟨id,table.getD id 0⟩),.nothing,none⟩ := by
  have adjacent : (firstToken table 1).payloadId = (firstToken table 0).payloadId+1 := rfl
  rw [fromTable]
  obtain ⟨layout,owners,drained,order⟩ : Layout (firstSlots table count) (min count 2) ∧
      (∀ t ∈ ascending (firstSlots table count), t.ownerToken = table.getD t.payloadId 0) ∧
      (ConnectionEventTxState.stagedSlot (firstSlots table count) = none → min count 2 = count) ∧
      (ascending (firstSlots table count)).map payload =
        (List.range (min count 2)).map (fun id => ⟨id,table.getD id 0⟩) := by
    match count with
    | 0 => exact ⟨.none _,by simp [firstSlots],by simp,rfl⟩
    | 1 => exact ⟨.one .slot0 _,by simp [firstSlots,firstToken],by simp [firstSlots],rfl⟩
    | n+2 =>
      have two : min (n+2) 2 = 2 := by omega
      simp only [firstSlots,two,twoStaged .slot0 adjacent,twoAscending .slot0 adjacent]
      exact ⟨.two .slot0 _ _ adjacent,by simp [firstToken],by simp,rfl⟩
  refine ⟨⟨bound,size,Nat.min_le_left _ _,layout,owners,fun _ => drained,by simp,by simp⟩,?_⟩
  rw [tableUnstaged (Nat.min_le_left count 2)]
  simp only [queue,order,unstaged,onAir,Option.map_none]

def retrySlots (table : List UInt32) : Nat → PerSlot (Option ConnectionEventTxToken)
  | 0 => vacant
  | _+1 => vacant.set .slot1 (some (firstToken table 0))

theorem emptyRetryTable {owners tx} (ok : ConnectionEventTxState.withEmptyRetry owners = .ok tx) :
    owners.length ≤ 8 ∧
    tx = ⟨retrySlots (ConnectionEventTxState.copied owners) owners.length,⟨0,0⟩,some ⟨.slot0,none⟩,none,
      owners.length,min owners.length 1,ConnectionEventTxState.copied owners,.slot0⟩ := by
  unfold ConnectionEventTxState.withEmptyRetry ConnectionEventTxState.newWithOwnerTokens at ok
  split at ok
  · contradiction
  · rename_i tx' made
    split at made
    · contradiction
    · rename_i fits
      cases Except.ok.inj made
      cases Except.ok.inj ok
      refine ⟨Nat.le_of_not_lt fits,?_⟩
      rw [fromTable]
      match owners with
      | [] => rfl
      | [_] => rfl
      | _ :: _ :: rest => simp [firstSlots,retrySlots,vacant,PerSlot.set,ConnectionEventTxSlot.other]

theorem emptyRetrySound {table : List UInt32} {count : Nat} (size : table.length = 8) (bound : count ≤ 8) :
    let s : ConnectionEventTxState :=
      ⟨retrySlots table count,⟨0,0⟩,some ⟨.slot0,none⟩,none,count,min count 1,table,.slot0⟩
    Sound s ∧ queue s = ⟨(List.range count).map (fun id => ⟨id,table.getD id 0⟩),.filler,none⟩ := by
  intro s
  obtain ⟨layout,owners,free,full,order⟩ : Layout (retrySlots table count) (min count 1) ∧
      (∀ t ∈ ascending (retrySlots table count), t.ownerToken = table.getD t.payloadId 0) ∧
      (retrySlots table count).get .slot0 = none ∧
      ((retrySlots table count).get .slot1 = none → min count 1 = count) ∧
      (ascending (retrySlots table count)).map payload =
        (List.range (min count 1)).map (fun id => ⟨id,table.getD id 0⟩) := by
    match count with
    | 0 => exact ⟨.none _,by simp [retrySlots],rfl,fun _ => rfl,rfl⟩
    | n+1 =>
      have one : min (n+1) 1 = 1 := by omega
      rw [retrySlots,one,oneAscending]
      exact ⟨.one .slot1 _,by simp [firstToken],rfl,by simp [PerSlot.get,PerSlot.set],rfl⟩
  refine ⟨⟨bound,size,Nat.min_le_left _ _,layout,owners,by simp [s],?_,by simp [s]⟩,?_⟩
  · intro o out
    obtain rfl : ⟨.slot0,none⟩ = o := by simpa [s] using out
    exact ⟨free,by simp,full⟩
  · rw [tableUnstaged (Nat.min_le_left count 1)]
    simp only [s,queue,order,unstaged,onAir,Option.map_none]

theorem builtSound {owners tx air} (built : Built owners tx air) :
    Sound tx ∧ queue tx = ⟨numbered owners,air,none⟩ ∧ tx.payloadCount = owners.length := by
  have copy : ∀ owners : List UInt32, owners.length ≤ 8 →
      (ConnectionEventTxState.copied owners).length = 8 ∧
      (List.range owners.length).map
        (fun id => Payload.mk id ((ConnectionEventTxState.copied owners).getD id 0)) = numbered owners := by
    intro owners bound
    refine ⟨by simp [ConnectionEventTxState.copied,maxConnectionEventTxPayloads]; omega,?_⟩
    apply List.map_congr_left
    intro id inside
    have inside : id < owners.length := List.mem_range.mp inside
    simp [ConnectionEventTxState.copied,List.getElem?_append_left inside]
  cases built with
  | new count =>
    have size : ((List.range maxConnectionEventTxPayloads).map
        (fun id => if id < min count.toNat 8 then UInt32.ofNat id else 0)).length = 8 := by
      simp [maxConnectionEventTxPayloads]
    obtain ⟨sound,view⟩ := tableSound size (Nat.min_le_right count.toNat 8)
    refine ⟨sound,view.trans ?_,by simp [ConnectionEventTxState.new,
      ConnectionEventTxState.fromOwnerTokens,maxConnectionEventTxPayloads]⟩
    simp only [numbered,List.length_map,List.length_range,Queue.mk.injEq,and_true]
    apply List.map_congr_left
    intro id inside
    have inside : id < min count.toNat 8 := List.mem_range.mp inside
    have small : id < 8 := by omega
    simp [maxConnectionEventTxPayloads,inside,small]
    omega
  | withOwners ok =>
    unfold ConnectionEventTxState.newWithOwnerTokens at ok
    split at ok
    · contradiction
    · rename_i fits
      cases Except.ok.inj ok
      obtain ⟨size,same⟩ := copy owners (Nat.le_of_not_lt fits)
      obtain ⟨sound,view⟩ := tableSound size (Nat.le_of_not_lt fits)
      exact ⟨sound,view.trans (by rw [same]),rfl⟩
  | emptyRetry ok =>
    obtain ⟨bound,rfl⟩ := emptyRetryTable ok
    obtain ⟨size,same⟩ := copy owners bound
    obtain ⟨sound,view⟩ := emptyRetrySound size bound
    exact ⟨sound,view.trans (by rw [same]),rfl⟩

def acknowledgedToken : TxAnswer → Option ConnectionEventTxToken
  | .selected (.ok d) => d.acknowledgedToken
  | _ => none

theorem answerPopped (a : TxAnswer) : popped (answer a) = (acknowledgedToken a).map payload := by
  match a with
  | .selected (.ok d) => rfl
  | .selected (.error _) => rfl
  | .committed (.ok _) => rfl
  | .committed (.error _) => rfl
  | .notIssued => rfl

def slotIds (slots : PerSlot (Option ConnectionEventTxToken)) : List Nat :=
  ((slots.at0.toList ++ slots.at1.toList).map ConnectionEventTxToken.payloadId).insertionSort (· ≤ ·)

theorem slotIdsAscending {slots next} (h : Layout slots next) :
    slotIds slots = (ascending slots).map ConnectionEventTxToken.payloadId := by
  cases h with
  | none => rfl
  | one slot t => rw [oneAscending]; cases slot <;> rfl
  | two slot a b adjacent =>
    rw [twoAscending slot adjacent]
    cases slot <;> simp [slotIds,vacant,PerSlot.set,ConnectionEventTxSlot.other,adjacent]

theorem txStateRefinesQueue {owners tx air} (built : Built owners tx air) {past c}
    (run : Machines.History caller ⟨tx,none⟩ past c) :
    Machines.History (machine Payload) ⟨numbered owners,air,none⟩
      (past.map (fun call => (call.1,answer call.2))) (queue c.tx) ∧
    (∀ ack d, (c.tx.select ack).2 = .ok d → Explains (queue c.tx) ack (plan d)) ∧
    past.filterMap (fun call => (acknowledgedToken call.2).map ConnectionEventTxToken.payloadId) ++
      slotIds c.tx.slots ++ List.range' c.tx.nextPayloadId (c.tx.payloadCount - c.tx.nextPayloadId) =
      List.range owners.length := by
  obtain ⟨sound,view,count⟩ := builtSound built
  have ready : tx.planned = none := by simpa [queue] using congrArg Queue.planned view
  have initial : Refines ⟨tx,none⟩ ⟨numbered owners,air,none⟩ :=
    ⟨sound,view.symm,by intro d found; simp [ready] at found⟩
  obtain ⟨q,shadow,after,rfl,_⟩ := Machines.simulatedHistory callerSimulates initial run
  have whole := poppedUnacked shadow
  have ids := congrArg (List.map Payload.id) whole
  have distinct : ((numbered owners).map Payload.id).Nodup := by
    simp [numbered,Function.comp_def,List.nodup_range]
  refine ⟨shadow,?_,?_⟩
  · intro ack d ok
    have suffix : (queue c.tx).unacked <:+ numbered owners := ⟨_,whole⟩
    have unique : (queue c.tx).unacked.Nodup := (List.Nodup.of_map _ distinct).sublist suffix.sublist
    have same := congrArg Prod.snd (selectRefines after ack).2.1
    rw [ok] at same
    exact selectExplained unique same.symm
  · have head : (past.map (fun call => (call.1,answer call.2))).filterMap (fun call => popped call.2) =
        (past.filterMap (fun call => acknowledgedToken call.2)).map payload := by
      simp only [List.filterMap_map,Function.comp_def,answerPopped,List.map_filterMap]
    rw [head] at ids
    simp only [queue,List.map_append,List.map_map,unstaged,numbered,Function.comp_def,payload,
      List.map_id'] at ids
    rw [slotIdsAscending after.layout]
    simpa [List.map_filterMap,List.append_assoc] using ids

def threeOwnersCalls : List Call :=
  [.select false,.complete,.select true,.abort,.select false,.complete,.select false,.abort]

theorem txStateRefinesQueueThree :
    ∃ tx, ConnectionEventTxState.newWithOwnerTokens [10,20,30] = .ok tx ∧
      slotIds (Machines.run caller ⟨tx,none⟩ threeOwnersCalls).2.tx.slots = [1,2] ∧
      Machines.History (machine Payload) ⟨numbered [10,20,30],.nothing,none⟩
        ((Machines.run caller ⟨tx,none⟩ threeOwnersCalls).1.map (fun call => (call.1,answer call.2)))
        (queue (Machines.run caller ⟨tx,none⟩ threeOwnersCalls).2.tx) :=
  ⟨_,rfl,by decide +kernel,
    (txStateRefinesQueue (.withOwners rfl) (Machines.runHistory caller _ threeOwnersCalls)).1⟩

end Ch58xHal.EventTxFifo
