import Ch58xHal.EventTxCalls

/-! Where a payload lives. The slots alternate, so a payload's slot and generation follow from
its number alone: that is what a whole run keeps, aborted refills included. -/
namespace Ch58xHal.EventTxSlots
open EventTx EventTxFifo EventTxCalls Machines
open ConnectionEventTxState (stagedSlot)

-- A run that starts with an Empty in slot 0 is one place further.
def placeOf (shift id : Nat) : ConnectionEventTxSlot := if (id + shift) % 2 = 0 then .slot0 else .slot1

def generationOf (shift id : Nat) : UInt8 := UInt8.ofNat ((id + shift) / 2)

def assigned (shift : Nat) (owners : List UInt32) (id : Nat) : ConnectionEventTxSlot × ConnectionEventTxToken :=
  (placeOf shift id,⟨id,owners.getD id 0,generationOf shift id⟩)

theorem placeSucc (shift id : Nat) : placeOf shift (id + 1) = (placeOf shift id).other := by
  unfold placeOf
  rcases Nat.mod_two_eq_zero_or_one (id + shift) with even | odd
  · rw [if_neg (by omega),if_pos even]
    rfl
  · rw [if_pos (by omega),if_neg (by omega)]
    rfl

theorem generationNext (shift id : Nat) : generationOf shift (id + 2) = generationOf shift id + 1 := by
  have half : (id + 2 + shift) / 2 = (id + shift) / 2 + 1 := by omega
  rw [generationOf,generationOf,half,UInt8.ofNat_add]
  rfl

/- Eight payloads wrap no generation, so a place and a generation name one payload. -/
theorem assignedInjective {shift a b : Nat} (low : a < 8) (high : b < 8)
    (place : placeOf shift a = placeOf shift b) (generation : generationOf shift a = generationOf shift b) :
    a = b := by
  have halves := congrArg UInt8.toNat generation
  rw [generationOf,generationOf,UInt8.toNat_ofNat',UInt8.toNat_ofNat'] at halves
  have parity : (a + shift) % 2 = (b + shift) % 2 := by
    unfold placeOf at place
    rcases Nat.mod_two_eq_zero_or_one (a + shift) with even | odd
    · rw [if_pos even] at place
      split at place
      · omega
      · cases place
    · rw [if_neg (by omega)] at place
      split at place
      · cases place
      · omega
  omega

structure Placed (shift : Nat) (s : ConnectionEventTxState) : Prop where
  slots : ∀ slot t, s.slots.get slot = some t →
    slot = placeOf shift t.payloadId ∧ t.generation = generationOf shift t.payloadId
  generations : s.nextPayloadId < s.payloadCount → ∀ i, i = s.nextPayloadId ∨ i = s.nextPayloadId + 1 →
    s.generations.get (placeOf shift i) + 1 = generationOf shift i

theorem eitherSlot (slot place : ConnectionEventTxSlot) : slot = place ∨ slot = place.other := by
  cases slot <;> cases place <;> decide

theorem heldToken {slots next slot} {t : ConnectionEventTxToken} (h : Layout slots next)
    (there : slots.get slot = some t) : t ∈ ascending slots := by
  cases first : stagedSlot slots with
  | none =>
    rw [stagedNone h first,vacantGet] at there
    cases there
  | some place =>
    obtain ⟨a,oldest,order⟩ := layoutHead h first
    rw [order]
    rcases eitherSlot slot place with rfl | rfl
    · rw [oldest] at there
      cases there
      exact List.mem_cons_self
    · rw [there]
      exact List.mem_cons_of_mem _ List.mem_cons_self

theorem heldBelow {slots next slot} {t : ConnectionEventTxToken} (h : Layout slots next)
    (there : slots.get slot = some t) : t.payloadId < next := by
  obtain ⟨fits,ids⟩ := layoutIds h
  have listed : t.payloadId ∈ (ascending slots).map ConnectionEventTxToken.payloadId :=
    List.mem_map_of_mem (heldToken h there)
  rw [ids] at listed
  have range := List.mem_range'_1.mp listed
  omega

section Placing
variable {shift : Nat} {s : ConnectionEventTxState}

/- A held payload is where it was assigned, under its owner. -/
theorem heldAssigned (sound : Sound s) (placed : Placed shift s) {slot t} (there : s.slots.get slot = some t) :
    (slot,t) = assigned shift s.ownerTokens t.payloadId ∧ t.payloadId < s.payloadCount := by
  obtain ⟨place,generation⟩ := placed.slots slot t there
  have owner := sound.owners t (heldToken sound.layout there)
  refine ⟨?_,Nat.lt_of_lt_of_le (heldBelow sound.layout there) sound.within⟩
  rw [assigned,← place,← generation,← owner]

/- While something is left to stage, the free slot is the one assigned to it. -/
theorem freePlace (sound : Sound s) (placed : Placed shift s) (silent : s.outstanding = none)
    (more : s.nextPayloadId < s.payloadCount) (free : s.slots.get (pickSlot s).other = none) :
    (pickSlot s).other = placeOf shift s.nextPayloadId := by
  obtain ⟨t,there,order⟩ := layoutHead sound.layout (plannedStaged sound silent more)
  rw [free] at order
  obtain ⟨fits,ids⟩ := layoutIds sound.layout
  rw [order] at fits ids
  have last : t.payloadId + 1 = s.nextPayloadId := by
    have head : t.payloadId = s.nextPayloadId - 1 := by simpa using ids
    have fits : 1 ≤ s.nextPayloadId := by simpa using fits
    omega
  rw [← last,placeSucc,← (placed.slots _ t there).1]

theorem plannedResponse (sound : Sound s) {d} (pending : s.planned = some d) :
    s.slots.get d.responseSlot = d.responseToken := by
  have coherent := sound.planned d pending
  cases out : s.outstanding with
  | some o =>
    obtain ⟨slot,token,_⟩ := coherent.held o out
    rw [slot,token]
    exact (sound.held o out).1
  | none =>
    obtain ⟨slot,token,_⟩ := coherent.idle out
    rw [slot,token]

theorem plannedRefillAssigned (sound : Sound s) (placed : Placed shift s) {d r} (pending : s.planned = some d)
    (found : d.refillAfterTransmit = some r) :
    (r.slot,r.token) = assigned shift s.ownerTokens s.nextPayloadId ∧ s.nextPayloadId < s.payloadCount := by
  obtain ⟨silent,more,_,_,free,rfl⟩ := plannedRefill sound pending found
  have place := freePlace sound placed silent more free
  refine ⟨?_,more⟩
  rw [assigned,ConnectionEventTxState.refill,← placed.generations more _ (Or.inl rfl),← place]

/- The slot a plan refills is not the one it sends from, and it is empty. -/
theorem plannedApart (sound : Sound s) {d r} (pending : s.planned = some d)
    (found : d.refillAfterTransmit = some r) :
    r.slot = d.responseSlot.other ∧ r.slot ≠ d.responseSlot ∧ s.slots.get r.slot = none := by
  obtain ⟨_,_,slot,_,free,rfl⟩ := plannedRefill sound pending found
  refine ⟨by rw [slot]; rfl,?_,free⟩
  rw [slot]
  show (pickSlot s).other ≠ pickSlot s
  cases pickSlot s <;> decide

end Placing

/-! Placement over one call. -/

section Steps
variable {shift : Nat} {s : ConnectionEventTxState}

theorem placedShrinks {after : ConnectionEventTxState} (placed : Placed shift s)
    (slots : ∀ slot t, after.slots.get slot = some t → s.slots.get slot = some t)
    (generations : after.generations = s.generations) (next : after.nextPayloadId = s.nextPayloadId)
    (count : after.payloadCount = s.payloadCount) : Placed shift after where
  slots := fun slot t there => placed.slots slot t (slots slot t there)
  generations := by
    rw [generations,next,count]
    exact placed.generations

theorem clearedHolds {slots : PerSlot (Option ConnectionEventTxToken)} {free slot t}
    (there : (slots.set free none).get slot = some t) : slots.get slot = some t := by
  rcases eitherSlot slot free with rfl | rfl
  · rw [PerSlot.getSet] at there
    cases there
  · rwa [PerSlot.getSetOther] at there

theorem refilledPlaced (sound : Sound s) (placed : Placed shift s) {d r} (pending : s.planned = some d)
    (found : d.refillAfterTransmit = some r) : Placed shift (refilled s d r) := by
  obtain ⟨at',more⟩ := plannedRefillAssigned sound placed pending found
  have place : r.slot = placeOf shift s.nextPayloadId := congrArg Prod.fst at'
  have token : r.token = ⟨s.nextPayloadId,s.ownerTokens.getD s.nextPayloadId 0,
    generationOf shift s.nextPayloadId⟩ := congrArg Prod.snd at'
  constructor
  · intro slot t there
    change (s.slots.set r.slot (some r.token)).get slot = some t at there
    rcases eitherSlot slot r.slot with rfl | rfl
    · rw [PerSlot.getSet] at there
      cases there
      rw [place,token]
      exact ⟨rfl,rfl⟩
    · rw [PerSlot.getSetOther] at there
      exact placed.slots _ t there
  · intro _ i which
    show (s.generations.set r.slot r.token.generation).get (placeOf shift i) + 1 = _
    rcases which with rfl | rfl
    · show (s.generations.set r.slot r.token.generation).get (placeOf shift (s.nextPayloadId + 1)) + 1 = _
      rw [placeSucc,← place,PerSlot.getSetOther,place,← placeSucc]
      exact placed.generations more _ (Or.inr rfl)
    · show (s.generations.set r.slot r.token.generation).get (placeOf shift (s.nextPayloadId + 1 + 1)) + 1 = _
      rw [placeSucc,placeSucc,otherOther,← place,PerSlot.getSet,token]
      exact (generationNext shift s.nextPayloadId).symm

theorem movedPlaced (sound : Sound s) (placed : Placed shift s) {call after result}
    (moves : Moves s call after result) : Placed shift after := by
  cases moves with
  | refused refuses failed => exact placed
  | previewed ready ok => exact placed
  | fresh ready silent => exact placedShrinks placed (fun _ _ there => there) rfl rfl rfl
  | retried ready out => exact placedShrinks placed (fun _ _ there => there) rfl rfl rfl
  | acknowledged ready out => exact placedShrinks placed (fun _ _ there => clearedHolds there) rfl rfl rfl
  | aborted pending => exact placedShrinks placed (fun _ _ there => there) rfl rfl rfl
  | completed pending commits =>
    cases commits with
    | plain nothing same => exact placedShrinks placed (fun _ _ there => there) rfl rfl rfl
    | refill found good => exact refilledPlaced sound placed pending found

end Steps

/-! What the decisions of a run say about its payloads. -/

def appears : TxResult → List (ConnectionEventTxSlot × ConnectionEventTxToken)
  | .decided (.ok d) => (d.responseToken.map fun t => (d.responseSlot,t)).toList ++
      (d.refillAfterTransmit.map fun r => (r.slot,r.token)).toList
  | _ => []

def acknowledges : TxResult → Option ConnectionEventTxToken
  | .decided (.ok d) => d.acknowledgedToken
  | _ => none

/- The payloads whose acknowledgement a selection reported, in order. -/
def released (past : List (TxCall × TxResult)) : List Nat :=
  past.filterMap fun call => match call.1 with
    | .select _ => (acknowledges call.2).map ConnectionEventTxToken.payloadId
    | _ => none

section Decisions
variable {shift : Nat} {s : ConnectionEventTxState}

theorem selectAppears (sound : Sound s) (placed : Placed shift s) {ack : Bool} {p}
    (member : p ∈ appears (.decided (s.select ack).2)) :
    p = assigned shift s.ownerTokens p.2.payloadId ∧ p.2.payloadId < s.payloadCount := by
  have after := (selectRefines sound ack).1
  have planned := (selectRefines sound ack).2.2
  have moved := movedPlaced sound placed (selectMoves s ack)
  have kept : (s.select ack).1.ownerTokens = s.ownerTokens ∧ (s.select ack).1.payloadCount = s.payloadCount := by
    have moves := selectMoves s ack
    generalize (s.select ack).1 = after,TxResult.decided (s.select ack).2 = result at moves
    cases moves <;> exact ⟨rfl,rfl⟩
  cases answered : (s.select ack).2 with
  | error e =>
    rw [answered] at member
    cases member
  | ok d =>
    have pending := planned d answered
    rw [answered] at member
    rw [← kept.1,← kept.2]
    rcases List.mem_append.mp member with response | refill
    · rw [Option.mem_toList,Option.map_eq_some_iff] at response
      obtain ⟨t,token,rfl⟩ := response
      exact heldAssigned after moved ((plannedResponse after pending).trans token)
    · rw [Option.mem_toList,Option.map_eq_some_iff] at refill
      obtain ⟨r,found,rfl⟩ := refill
      obtain ⟨at',more⟩ := plannedRefillAssigned after moved pending found
      have id : r.token.payloadId = (s.select ack).1.nextPayloadId :=
        congrArg (fun p => p.2.payloadId) at'
      rw [id]
      exact ⟨at',more⟩

theorem selectAcknowledges (sound : Sound s) {ack : Bool} {t}
    (told : acknowledges (.decided (s.select ack).2) = some t) :
    ∃ o, s.outstanding = some o ∧ o.token = some t ∧ s.slots.get o.slot = some t := by
  have moves := selectMoves s ack
  generalize (s.select ack).1 = after,(s.select ack).2 = result at moves told
  cases moves with
  | refused refuses failed =>
    cases result with
    | ok d => cases failed
    | error e => cases told
  | fresh ready silent => cases told
  | retried ready out => cases told
  | @acknowledged ready o out =>
    have token : o.token = some t := told
    exact ⟨o,out,token,(sound.held o out).1.trans token⟩

/- A selection and its preview name the same payloads, each where it was assigned. -/
theorem callAppears (sound : Sound s) (placed : Placed shift s) (call : TxCall) {p}
    (member : p ∈ appears (events.step s call).2) :
    p = assigned shift s.ownerTokens p.2.payloadId ∧ p.2.payloadId < s.payloadCount := by
  cases call with
  | select ack => exact selectAppears sound placed member
  | preview ack =>
    change p ∈ appears (.decided (s.previewSelect ack)) at member
    rw [← selectPreviews] at member
    exact selectAppears sound placed member
  | complete d => cases member
  | abort d => cases member

theorem callAcknowledges (sound : Sound s) (placed : Placed shift s) (call : TxCall) {t}
    (told : acknowledges (events.step s call).2 = some t) :
    t = (assigned shift s.ownerTokens t.payloadId).2 ∧ t.payloadId < s.payloadCount := by
  have held : ∀ {ack}, acknowledges (.decided (s.select ack).2) = some t →
      t = (assigned shift s.ownerTokens t.payloadId).2 ∧ t.payloadId < s.payloadCount := by
    intro ack told
    obtain ⟨o,_,_,there⟩ := selectAcknowledges sound told
    obtain ⟨at',below⟩ := heldAssigned sound placed there
    exact ⟨congrArg Prod.snd at',below⟩
  cases call with
  | select ack => exact held told
  | preview ack =>
    change acknowledges (.decided (s.previewSelect ack)) = some t at told
    rw [← selectPreviews] at told
    exact held told
  | complete d => cases told
  | abort d => cases told

/- The payload acknowledged is the oldest one held. -/
theorem acknowledgedOldest (sound : Sound s) {o t} (out : s.outstanding = some o) (token : o.token = some t) :
    ascending s.slots = t :: ascending (s.slots.set o.slot none) := by
  obtain ⟨there,first,_⟩ := sound.held o out
  have staged := first (by rw [token]; rfl)
  obtain ⟨a,oldest,order⟩ := layoutHead sound.layout staged
  rw [there,token] at oldest
  cases oldest
  rw [(layoutRelease sound.layout staged).2,order,List.tail_cons]

end Decisions

/-! The invariant of a run. -/

/- A plan that announces more either has it staged or will stage it. -/
def Promised (s : ConnectionEventTxState) : Prop :=
  ∀ d, s.planned = some d → d.morePayloadsAfterResponse = true →
    (s.slots.get d.responseSlot.other).isSome ∨ s.nextPayloadId < s.payloadCount

structure Kept (shift : Nat) (owners : List UInt32) (count : Nat) (past : List (TxCall × TxResult))
    (s : ConnectionEventTxState) : Prop where
  sound : Sound s
  placed : Placed shift s
  table : s.ownerTokens = owners
  size : s.payloadCount = count
  appeared : ∀ call ∈ past, ∀ p ∈ appears call.2,
    p = assigned shift owners p.2.payloadId ∧ p.2.payloadId < count
  acknowledged : ∀ call ∈ past, ∀ t, acknowledges call.2 = some t →
    t = (assigned shift owners t.payloadId).2 ∧ t.payloadId < count
  order : released past = List.range (s.nextPayloadId - (ascending s.slots).length)
  promised : Promised s

section Kept
variable {shift : Nat} {s : ConnectionEventTxState}

theorem movedTable {call after result} (moves : Moves s call after result) :
    after.ownerTokens = s.ownerTokens ∧ after.payloadCount = s.payloadCount := by
  cases moves with
  | completed pending commits => cases commits <;> exact ⟨rfl,rfl⟩
  | _ => exact ⟨rfl,rfl⟩

theorem choosePromises {slots last acked} {d} (chosen : s.choose slots last acked = d)
    (more : d.morePayloadsAfterResponse = true) :
    (slots.get d.responseSlot.other).isSome ∨ s.nextPayloadId < s.payloadCount := by
  subst chosen
  simp only [ConnectionEventTxState.choose,Bool.or_eq_true,decide_eq_true_eq] at more ⊢
  rcases more with (held | refill) | rest
  · exact Or.inl held
  · obtain ⟨r,found⟩ := Option.isSome_iff_exists.mp refill
    obtain ⟨slot,_,staged⟩ := Option.bind_eq_some_iff.mp found
    split at staged
    · rename_i rest
      exact Or.inr rest
    · cases staged
  · exact Or.inr rest

theorem movedPromised (promised : Promised s) {call after result} (moves : Moves s call after result) :
    Promised after := by
  intro d planned more
  cases moves with
  | refused refuses failed => exact promised d planned more
  | previewed ready ok => exact promised d planned more
  | fresh ready silent =>
    cases planned
    exact choosePromises rfl more
  | retried ready out =>
    cases planned
    simpa [ConnectionEventTxState.retry] using more
  | acknowledged ready out =>
    cases planned
    exact choosePromises rfl more
  | aborted pending => cases planned
  | completed pending commits => cases commits <;> cases planned

theorem failedSilent {result : TxResult} (failed : result.failed = true) : acknowledges result = none := by
  match result with
  | .decided (.ok d) => cases failed
  | .decided (.error e) => rfl
  | .committed r => rfl

/- The ids released so far are the ones below the oldest held. -/
theorem movedOrder (sound : Sound s) {past call after result} (moves : Moves s call after result)
    (order : released past = List.range (s.nextPayloadId - (ascending s.slots).length)) :
    released (past ++ [(call,result)]) = List.range (after.nextPayloadId - (ascending after.slots).length) := by
  rw [released,filterMapSnoc]
  change released past ++ _ = _
  rw [order]
  cases moves with
  | refused refuses failed => cases call <;> simp [failedSilent failed]
  | previewed ready ok => simp
  | fresh ready silent => simp [acknowledges,ConnectionEventTxState.choose]
  | retried ready out => simp [acknowledges,ConnectionEventTxState.retry]
  | aborted pending => simp
  | @acknowledged ready o out =>
    cases token : o.token with
    | none =>
      have same := PerSlot.setGet s.slots o.slot
      rw [(sound.held o out).1,token] at same
      simp [acknowledges,ConnectionEventTxState.choose,ConnectionEventTxState.released,token,same]
    | some t =>
      have oldest := acknowledgedOldest sound out token
      obtain ⟨fits,ids⟩ := layoutIds sound.layout
      rw [oldest,List.length_cons] at fits ids
      have head : t.payloadId = s.nextPayloadId - ((ascending (s.slots.set o.slot none)).length + 1) := by
        rw [List.range'_succ,List.map_cons] at ids
        exact (List.cons.inj ids).1
      have left : s.nextPayloadId - (ascending (s.slots.set o.slot none)).length = t.payloadId + 1 := by omega
      rw [oldest,List.length_cons,← head]
      simp only [acknowledges,ConnectionEventTxState.choose,Option.bind_some,token,Option.map_some,
        Option.toList_some,ConnectionEventTxState.released]
      rw [left,List.range_succ]
  | completed pending commits =>
    cases commits with
    | plain nothing same => simp [ConnectionEventTxState.sent]
    | @refill r found good =>
      rename_i d
      obtain ⟨silent,more,_,_,free,rfl⟩ := plannedRefill sound pending found
      have grown := (layoutRefill sound.layout (plannedStaged sound silent more) free
        (s.refill (pickSlot s).other).token rfl).2.1
      have size : (ascending (refilled s d (s.refill (pickSlot s).other)).slots).length =
          (ascending s.slots).length + 1 := by
        show (ascending (s.slots.set (pickSlot s).other (some (s.refill (pickSlot s).other).token))).length = _
        rw [grown,List.length_append,List.length_singleton]
      rw [size]
      simp [refilled,Nat.add_sub_add_right]

theorem movedKept {owners count past call} (kept : Kept shift owners count past s) :
    Kept shift owners count (past ++ [(call,(events.step s call).2)]) (events.step s call).1 := by
  have moves := callMoves kept.sound call
  obtain ⟨table,size⟩ := movedTable moves
  refine ⟨callSound kept.sound call,movedPlaced kept.sound kept.placed moves,table.trans kept.table,
    size.trans kept.size,?_,?_,movedOrder kept.sound moves kept.order,movedPromised kept.promised moves⟩
  · intro earlier member p shown
    rcases List.mem_append.mp member with old | new
    · exact kept.appeared earlier old p shown
    · rw [List.mem_singleton.mp new] at shown
      rw [← kept.table,← kept.size]
      exact callAppears kept.sound kept.placed call shown
  · intro earlier member t told
    rcases List.mem_append.mp member with old | new
    · exact kept.acknowledged earlier old t told
    · rw [List.mem_singleton.mp new] at told
      rw [← kept.table,← kept.size]
      exact callAcknowledges kept.sound kept.placed call told

theorem keptRun {owners count first} (start : Kept shift owners count [] first) {past s}
    (run : History events first past s) : Kept shift owners count past s :=
  historyInvariant (I := Kept shift owners count) start (fun _ _ _ kept => movedKept kept) run

end Kept

/-! The three ways to start. -/

theorem vacantPlaced {shift : Nat} {s : ConnectionEventTxState} (empty : s.slots = vacant)
    (drained : s.nextPayloadId = s.payloadCount) : Placed shift s where
  slots := by
    intro slot t there
    rw [empty,vacantGet] at there
    cases there
  generations := fun more => absurd drained (Nat.ne_of_lt more)

theorem tablePlaced (table : List UInt32) (count : Nat) :
    Placed 0 (.fromOwnerTokens table count) ∧
      min count 2 - (ascending (firstSlots table count)).length = 0 := by
  rw [fromTable]
  match count with
  | 0 => exact ⟨vacantPlaced rfl rfl,rfl⟩
  | 1 =>
    refine ⟨⟨?_,fun more => absurd more (Nat.lt_irrefl 1)⟩,rfl⟩
    intro slot t there
    cases slot <;> cases there
    show ConnectionEventTxSlot.slot0 = placeOf 0 0 ∧ (0 : UInt8) = generationOf 0 0
    decide
  | n+2 =>
    have two : min (n + 2) 2 = 2 := by omega
    rw [two]
    refine ⟨⟨?_,?_⟩,rfl⟩
    · intro slot t there
      cases slot with
      | slot0 =>
        cases there
        show ConnectionEventTxSlot.slot0 = placeOf 0 0 ∧ (0 : UInt8) = generationOf 0 0
        decide
      | slot1 =>
        cases there
        show ConnectionEventTxSlot.slot1 = placeOf 0 1 ∧ (0 : UInt8) = generationOf 0 1
        decide
    · intro _ i which
      change i = 2 ∨ i = 3 at which
      show (PerSlot.mk 0 0 : PerSlot UInt8).get (placeOf 0 i) + 1 = generationOf 0 i
      rcases which with rfl | rfl <;> decide

theorem retryPlaced (table : List UInt32) (count : Nat) :
    Placed 1 ⟨retrySlots table count,⟨0,0⟩,some ⟨.slot0,none⟩,none,count,min count 1,table,.slot0⟩ ∧
      min count 1 - (ascending (retrySlots table count)).length = 0 := by
  match count with
  | 0 => exact ⟨vacantPlaced rfl rfl,rfl⟩
  | n+1 =>
    have one : min (n + 1) 1 = 1 := by omega
    rw [one]
    refine ⟨⟨?_,?_⟩,rfl⟩
    · intro slot t there
      cases slot <;> cases there
      show ConnectionEventTxSlot.slot1 = placeOf 1 0 ∧ (0 : UInt8) = generationOf 1 0
      decide
    · intro _ i which
      change i = 1 ∨ i = 2 at which
      show (PerSlot.mk 0 0 : PerSlot UInt8).get (placeOf 1 i) + 1 = generationOf 1 i
      rcases which with rfl | rfl <;> decide

theorem builtKept {owners tx air} (built : Built owners tx air) :
    ∃ shift, Kept shift tx.ownerTokens tx.payloadCount [] tx := by
  obtain ⟨sound,view,_⟩ := builtSound built
  have ready : tx.planned = none := by simpa [queue] using congrArg InFlightQueue.Queue.planned view
  have start : ∀ {shift}, Placed shift tx → tx.nextPayloadId - (ascending tx.slots).length = 0 →
      Kept shift tx.ownerTokens tx.payloadCount [] tx := by
    intro shift placed none
    refine ⟨sound,placed,rfl,rfl,fun _ member => absurd member List.not_mem_nil,
      fun _ member => absurd member List.not_mem_nil,?_,?_⟩
    · rw [none]
      rfl
    · intro d planned
      rw [ready] at planned
      cases planned
  cases built with
  | new count =>
    obtain ⟨placed,first⟩ := tablePlaced _ (min count.toNat maxConnectionEventTxPayloads)
    refine ⟨0,start placed ?_⟩
    rw [ConnectionEventTxState.new,fromTable]
    exact first
  | withOwners ok =>
    unfold ConnectionEventTxState.newWithOwnerTokens at ok
    split at ok
    · cases ok
    · cases Except.ok.inj ok
      obtain ⟨placed,first⟩ := tablePlaced (ConnectionEventTxState.copied owners) owners.length
      refine ⟨0,start placed ?_⟩
      rw [fromTable]
      exact first
  | emptyRetry ok =>
    obtain ⟨_,rfl⟩ := emptyRetryTable ok
    obtain ⟨placed,first⟩ := retryPlaced (ConnectionEventTxState.copied owners) owners.length
    exact ⟨1,start placed first⟩

/-! What the rest of the controller relies on, in every state of every run. -/

/- An outstanding response stays as it is until a selection reports its acknowledgement. -/
def StaysUntilAcknowledged (s : ConnectionEventTxState) (o : ConnectionEventOutstanding) : Prop :=
  s.slots.get o.slot = o.token ∧
  ∀ call, ((events.step s call).1.outstanding = some o ∧ (events.step s call).1.slots.get o.slot = o.token) ∨
    (call = .select true ∧ (∃ d, (events.step s call).2 = .decided (.ok d)) ∧
      acknowledges (events.step s call).2 = o.token)

/- The next payload nobody acknowledged: the one after the response, or the oldest if it was empty. -/
def nextUnacknowledged (past : List (TxCall × TxResult)) (d : ConnectionEventTxDecision) : Nat :=
  (released past).length + if d.responseToken.isSome then 1 else 0

structure SlotsSafe (past : List (TxCall × TxResult)) (s : ConnectionEventTxState) : Prop where
  issuedApart : ∀ ack d r, (s.select ack).2 = .ok d → d.refillAfterTransmit = some r →
    r.slot ≠ d.responseSlot ∧ (s.select ack).1.slots.get r.slot = none
  pendingApart : ∀ d r, s.planned = some d → d.refillAfterTransmit = some r →
    r.slot ≠ d.responseSlot ∧ s.slots.get r.slot = none
  outstanding : ∀ o, s.outstanding = some o → StaysUntilAcknowledged s o
  identity : ∀ a ∈ past, ∀ b ∈ past, ∀ p ∈ appears a.2, ∀ q ∈ appears b.2,
    (p.2.payloadId = q.2.payloadId → p = q) ∧
    (p.1 = q.1 ∧ p.2.generation = q.2.generation → p.2.payloadId = q.2.payloadId)
  acknowledged : ∀ a ∈ past, ∀ b ∈ past, ∀ t, acknowledges a.2 = some t → ∀ q ∈ appears b.2,
    t.payloadId = q.2.payloadId → t = q.2
  inRange : s.nextPayloadId ≤ s.payloadCount ∧ s.payloadCount ≤ s.ownerTokens.length ∧
    s.ownerTokens.length = maxConnectionEventTxPayloads
  releasedInOrder : released past = List.range (released past).length
  staged : ∀ d, s.planned = some d → d.morePayloadsAfterResponse = true →
    ∃ t, (s.completeTransmit d).1.slots.get d.responseSlot.other = some t ∧
      t.payloadId = nextUnacknowledged past d

section Safe
variable {shift : Nat} {s : ConnectionEventTxState}

theorem outstandingStays (sound : Sound s) {o} (out : s.outstanding = some o) : StaysUntilAcknowledged s o := by
  have there := (sound.held o out).1
  refine ⟨there,fun call => ?_⟩
  have moves := callMoves sound call
  generalize (events.step s call).1 = after,(events.step s call).2 = result at moves ⊢
  cases moves with
  | refused refuses failed => exact Or.inl ⟨out,there⟩
  | previewed ready ok => exact Or.inl ⟨out,there⟩
  | fresh ready silent =>
    rw [out] at silent
    cases silent
  | retried ready again => exact Or.inl ⟨out,there⟩
  | acknowledged ready same =>
    rw [out] at same
    cases same
    exact Or.inr ⟨rfl,⟨_,rfl⟩,rfl⟩
  | aborted pending => exact Or.inl ⟨out,there⟩
  | completed pending commits =>
    cases commits with
    | plain nothing same =>
      obtain ⟨slot,token⟩ := same o out
      refine Or.inl ⟨?_,there⟩
      show some (ConnectionEventOutstanding.mk _ _) = some o
      rw [← slot,← token]
    | refill found good =>
      have silent := (plannedRefill sound pending found).1
      rw [out] at silent
      cases silent

theorem committedOutstanding {d after} (commits : Commits s d after) :
    after.outstanding = some ⟨d.responseSlot,d.responseToken⟩ := by
  cases commits <;> rfl

theorem committedStaged (sound : Sound s) (promised : Promised s) {d} (pending : s.planned = some d)
    (more : d.morePayloadsAfterResponse = true) :
    ∃ t, (s.completeTransmit d).1.slots.get d.responseSlot.other = some t := by
  obtain ⟨_,commits⟩ := completeCommits sound pending
  have after := (completeRefines sound pending).2.1
  generalize (s.completeTransmit d).1 = committed at commits after ⊢
  have full := (after.held _ (committedOutstanding commits)).2.2
  cases held : committed.slots.get d.responseSlot.other with
  | some t => exact ⟨t,rfl⟩
  | none =>
    -- an empty other slot means nothing is left to stage, which the plan denied
    have drained := full held
    cases commits with
    | plain nothing same =>
      rcases promised d pending more with other | rest
      · change s.slots.get d.responseSlot.other = none at held
        rw [held] at other
        cases other
      · exact absurd drained (Nat.ne_of_lt rest)
    | refill found good =>
      rw [← (plannedApart sound pending found).1] at held
      change (s.slots.set _ (some _)).get _ = none at held
      rw [PerSlot.getSet] at held
      cases held

/- In a committed state the response is the oldest payload, and what the other slot holds follows. -/
theorem otherNumber {after : ConnectionEventTxState} (sound : Sound after) {slot token t}
    (out : after.outstanding = some ⟨slot,token⟩) (there : after.slots.get slot.other = some t) :
    t.payloadId = after.nextPayloadId - (ascending after.slots).length + if token.isSome then 1 else 0 := by
  obtain ⟨held,first,_⟩ := sound.held _ out
  obtain ⟨fits,ids⟩ := layoutIds sound.layout
  cases token with
  | none =>
    rw [ascendingOther held,there] at ids fits ⊢
    have head : t.payloadId = after.nextPayloadId - 1 := by simpa using ids
    simpa using head
  | some a =>
    obtain ⟨oldest,_,order⟩ := layoutHead sound.layout (first rfl)
    rw [there] at order
    rw [order] at ids fits ⊢
    have second : t.payloadId = after.nextPayloadId - 2 + 1 := by
      have pair : [oldest.payloadId,t.payloadId] = List.range' (after.nextPayloadId - 2) 2 := by simpa using ids
      exact (List.cons.inj (List.cons.inj pair).2).1
    simpa using second

theorem keptSafe {owners count past} (kept : Kept shift owners count past s) : SlotsSafe past s where
  issuedApart := by
    intro ack d r issued found
    obtain ⟨sound,_,planned⟩ := selectRefines kept.sound ack
    exact (plannedApart sound (planned d issued) found).2
  pendingApart := fun d r pending found => (plannedApart kept.sound pending found).2
  outstanding := fun o out => outstandingStays kept.sound out
  identity := by
    intro a hereA b hereB p shownP q shownQ
    obtain ⟨placeP,lowP⟩ := kept.appeared a hereA p shownP
    obtain ⟨placeQ,lowQ⟩ := kept.appeared b hereB q shownQ
    have capacity := kept.sound.capacity
    rw [kept.size] at capacity
    refine ⟨?_,?_⟩
    · intro same
      rw [placeP,placeQ,same]
    · rintro ⟨place,generation⟩
      rw [placeP,placeQ] at place generation
      exact assignedInjective (Nat.lt_of_lt_of_le lowP capacity) (Nat.lt_of_lt_of_le lowQ capacity) place generation
  acknowledged := by
    intro a hereA b hereB t told q shown same
    rw [(kept.acknowledged a hereA t told).1,(kept.appeared b hereB q shown).1,same]
  inRange := ⟨kept.sound.within,kept.sound.table ▸ kept.sound.capacity,kept.sound.table⟩
  releasedInOrder := by rw [kept.order,List.length_range]
  staged := by
    intro d pending more
    obtain ⟨t,there⟩ := committedStaged kept.sound kept.promised pending more
    refine ⟨t,there,?_⟩
    have after : Kept shift owners count (past ++ [(.complete d,_)]) (s.completeTransmit d).1 := movedKept kept
    have count : released past = List.range ((s.completeTransmit d).1.nextPayloadId -
        (ascending (s.completeTransmit d).1.slots).length) := by
      rw [← after.order,released,released,filterMapSnoc]
      exact (List.append_nil _).symm
    rw [nextUnacknowledged,count,List.length_range]
    exact otherNumber after.sound (committedOutstanding (completeCommits kept.sound pending).2) there

end Safe

theorem dmaSlotsSafe {owners tx air} (built : Built owners tx air) {past s} (run : History events tx past s) :
    SlotsSafe past s := by
  obtain ⟨shift,start⟩ := builtKept built
  exact keptSafe (keptRun start run)

/- A refill planned with the acknowledgement is aborted, planned again and committed. -/
def abortedRefill (tx : ConnectionEventTxState) : List TxCall :=
  let first := (tx.select false).2.toOption
  let sent := first.elim tx fun d => ((tx.select false).1.completeTransmit d).1
  let refill := (sent.select true).2.toOption
  let idle := refill.elim sent fun d => ((sent.select true).1.abortTransmit d).1
  let again := (idle.select false).2.toOption
  [.select false] ++ (first.map TxCall.complete).toList ++ [.select true] ++ (refill.map TxCall.abort).toList ++
    [.select false] ++ (again.map TxCall.complete).toList

theorem dmaSlotsSafeAborted :
    ∃ tx, ConnectionEventTxState.newWithOwnerTokens [10,20,30] = .ok tx ∧
      (Machines.run events tx (abortedRefill tx)).2.slots =
        ⟨some ⟨2,30,1⟩,some ⟨1,20,0⟩⟩ ∧
      SlotsSafe (Machines.run events tx (abortedRefill tx)).1 (Machines.run events tx (abortedRefill tx)).2 := by
  refine ⟨_,rfl,by decide +kernel,?_⟩
  have built : Built [10,20,30] _ .nothing := .withOwners rfl
  exact dmaSlotsSafe built (runHistory events _ _)

end Ch58xHal.EventTxSlots
