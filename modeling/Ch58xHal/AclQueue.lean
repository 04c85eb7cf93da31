import Ch58xHal.DataPlane

/-! Host flow control over a connection. The Host owns five credits, the controller one
pending PDU and four queue cells behind it; neither side counts the other's, so the sum
is an invariant of the run and not of any single call. -/
namespace Ch58xHal.AclQueue
open ControlPdu Connection ConnectionEvent ConnectionRun DataPlane Machines SlotQueue

structure WellFormed (handle : UInt16) (packet : Packet) : Prop where
  kind : packet.kind = .aclData
  header : 4 ≤ packet.bytes.length
  addressed : word packet.bytes 0 &&& 0x0fff = handle
  complete : (word packet.bytes 2).toNat + 4 = packet.bytes.length
  small : (word packet.bytes 2).toNat ≤ maxDataPduPayload

instance (handle packet) : Decidable (WellFormed handle packet) :=
  decidable_of_iff (packet.kind = .aclData ∧ 4 ≤ packet.bytes.length ∧
    word packet.bytes 0 &&& 0x0fff = handle ∧
    (word packet.bytes 2).toNat + 4 = packet.bytes.length ∧
    (word packet.bytes 2).toNat ≤ maxDataPduPayload)
    ⟨fun ⟨a,b,c,d,e⟩ => ⟨a,b,c,d,e⟩,fun ⟨a,b,c,d,e⟩ => ⟨a,b,c,d,e⟩⟩

structure Fragment where
  llid : UInt8
  bytes : List UInt8
  deriving DecidableEq, Repr

def fragment (d : PendingData) : Fragment := ⟨d.llid,d.bytes⟩

-- The Packet_Boundary_Flag of the HCI header and the octets after it.
def fragmentOf (packet : Packet) : Fragment :=
  ⟨DataPath.llidOfBoundary (word packet.bytes 0),packet.bytes.drop 4⟩

def credit : HostCall → Option Nat
  | .completedAcl _ count => some count.toNat
  | _ => none

def regained (calls : List HostCall) : Nat := (calls.filterMap credit).sum

structure Session where
  link : Link
  credits : Nat

structure Observed where
  report : Report
  queued : List Fragment
  left : List Fragment

def sends (handle : UInt16) : Input → Option Packet
  | .host packet => if WellFormed handle packet then some packet else none
  | _ => none

def proceed (s : Session) (input : Input) : Session × Observed :=
  let c := s.link.connection
  let sent := sends c.handle input
  let done := step s.link input
  let back := regained done.2.calls
  (⟨done.1,s.credits - sent.toList.length + back⟩,
   ⟨done.2,sent.toList.map fragmentOf,if back = 0 then [] else c.pending.toList.map fragment⟩)

/- The Host holds a well-formed ACL packet back while it has no credit. -/
def exchange (s : Session) (input : Input) : Session × Observed :=
  if s.link.down ∨ ((sends s.link.connection.handle input).isSome ∧ s.credits = 0) then
    (s,⟨⟨[],none,none,0⟩,[],[]⟩)
  else proceed s input

def host : Machine Session Input Observed := ⟨exchange⟩

def queued (past : List (Input × Observed)) : List Fragment := past.flatMap fun entry => entry.2.queued
def left (past : List (Input × Observed)) : List Fragment := past.flatMap fun entry => entry.2.left

def occupied (d : DataPath) : Nat := (d.pending :: d.queuedAcl.cells).countP Option.isSome

def held (d : DataPath) : List Fragment := (buffer d).contents.map fragment

theorem occupiedContents (d : DataPath) : occupied d = (buffer d).contents.length := by
  unfold occupied buffer Buffer.contents Slots.contents
  rw [List.length_append,List.length_filterMap_eq_countP,List.countP_cons]
  cases d.pending <;> simp [Nat.add_comm]

theorem regainedAcl (calls : List HostCall) : regained calls = regained (calls.filter aclCall) := by
  have same : credit = fun call => if aclCall call then credit call else none := by
    funext call
    cases call <;> rfl
  unfold regained
  rw [List.filterMap_filter,← same]

/-! What a call can do to the queue. -/

theorem storeBuffer (d : DataPath) (data : PendingData) :
    (d.store data).map buffer = (buffer d).put data := by
  unfold DataPath.store Buffer.put buffer
  dsimp only
  split
  · rfl
  · cases d.queuedAcl.insert data <;> rfl

theorem storePending {d after : DataPath} {data} (ok : d.store data = some after) : after.pending.isSome := by
  unfold DataPath.store at ok
  split at ok
  · cases ok
    rfl
  · rename_i full
    split at ok
    · cases ok
    · cases ok
      simpa [Option.isSome_iff_ne_none] using full

theorem queueWellFormed {d after : DataPath} {handle} {packet : Packet} (kind : packet.kind = .aclData)
    (ok : d.queueAcl handle packet.bytes = .ok after) : WellFormed handle packet := by
  unfold DataPath.queueAcl at ok
  split at ok
  · cases ok
  · rename_i header
    dsimp only at ok
    split at ok
    · cases ok
    · rename_i valid
      simp only [not_or,not_not] at valid
      exact ⟨kind,by omega,valid.1,valid.2.1,by omega⟩

/- A well-formed packet enters a queue that has room, unchanged and behind the others. -/
theorem queueStores {d : DataPath} {handle} {packet : Packet} (form : WellFormed handle packet)
    (packed : (buffer d).Packed) (room : (buffer d).contents.length < aclQueueCapacity + 1) :
    ∃ after, d.queueAcl handle packet.bytes = .ok after ∧ (buffer after).Packed ∧
      held after = held d ++ [fragmentOf packet] ∧ after.pending.isSome := by
  have header : ¬packet.bytes.length < 4 := Nat.not_lt.mpr form.header
  have valid : ¬(word packet.bytes 0 &&& 0x0fff ≠ handle ∨
      (word packet.bytes 2).toNat + 4 ≠ packet.bytes.length ∨
      maxDataPduPayload < (word packet.bytes 2).toNat) := by
    simp only [not_or,not_not]
    exact ⟨form.addressed,form.complete,Nat.not_lt.mpr form.small⟩
  unfold DataPath.queueAcl
  rw [if_neg header]
  dsimp only
  rw [dif_neg valid]
  generalize_proofs fits
  obtain ⟨b,put,packedAfter,contents⟩ := putPacked packed
    ⟨packet.bytes.drop 4,DataPath.llidOfBoundary (word packet.bytes 0),d.nextAclOwnerToken,fits⟩ room
  rw [← storeBuffer] at put
  obtain ⟨stored,stores,rfl⟩ := Option.map_eq_some_iff.mp put
  rw [stores]
  have pending := storePending stores
  refine ⟨_,rfl,packedAfter,?_,pending⟩
  change (buffer stored).contents.map fragment = _
  simp [contents,held,fragment,fragmentOf]

def Carrying (d : DataPath) : Prop := d.transmitted = .acl → d.pending.isSome

theorem stageBuffer (d : DataPath) (control) : buffer (stage d control) = buffer d := by
  unfold stage build select buffer
  dsimp only
  split_ifs <;> rfl

theorem stageCarrying {d : DataPath} (control) (h : Carrying d) : Carrying (stage d control) := by
  have kind : (stage d control).transmitted = (select d control).transmitted := by
    unfold stage build
    dsimp only
    split_ifs <;> rfl
  have pending : (stage d control).pending = d.pending := congrArg Buffer.head (stageBuffer d control)
  intro acl
  rw [pending]
  rw [kind] at acl
  unfold select at acl
  split at acl
  · dsimp only [kindToSend] at acl
    split at acl
    · cases acl
    · split at acl
      · assumption
      · cases acl
  · exact h acl

theorem acceptKeeps (d : DataPath) (header) :
    buffer (accept d header) = buffer d ∧ (accept d header).transmitted = d.transmitted := by
  unfold accept
  split <;> exact ⟨rfl,rfl⟩

theorem forwardingFree (handle d header payload) : regained (forwarding handle d header payload) = 0 := by
  unfold forwarding forwarded
  split
  · split <;> rfl
  · rfl

/- An acknowledgement pops exactly when it completes an ACL PDU. -/
theorem acknowledgeBuffer (handle : UInt16) {d : DataPath} (header outstanding) (carrying : Carrying d) :
    Carrying (acknowledge d header outstanding) ∧
    (buffer (acknowledge d header outstanding) = buffer d ∧
        completion handle d header outstanding = [] ∨
      buffer (acknowledge d header outstanding) = (buffer d).take ∧
        completion handle d header outstanding = [.completedAcl handle 1] ∧ d.pending.isSome) := by
  unfold acknowledge completion
  by_cases acks : DataHeader.acknowledgesTransmitOwner header d.transmitSn outstanding false
  · rw [if_pos acks]
    have idle : Carrying (release d) := by
      intro acl
      cases acl
    by_cases acl : d.transmitted = .acl
    · refine ⟨idle,.inr ⟨?_,by rw [if_pos ⟨acks,acl⟩],carrying acl⟩⟩
      simp [release,buffer,Buffer.take,acl]
    · refine ⟨idle,.inl ⟨?_,by rw [if_neg (fun both => acl both.2)]⟩⟩
      simp [release,buffer,acl]
  · rw [if_neg acks]
    exact ⟨carrying,.inl ⟨rfl,by rw [if_neg (fun both => acks both.1)]⟩⟩

/- An event leaves the queue alone and gives no credit, or pops it and gives one. -/
theorem runsBuffer {c : ActiveConnection} {radio path frame calls}
    (runs : DataRuns c radio path frame calls) (carrying : Carrying c.toDataPath) :
    Carrying path ∧ (buffer path = buffer c.toDataPath ∧ regained calls = 0 ∨
      buffer path = (buffer c.toDataPath).take ∧ regained calls = 1 ∧ c.pending.isSome) := by
  cases runs with
  | refused => exact ⟨carrying,.inl ⟨rfl,rfl⟩⟩
  | @silent _ control offered => exact ⟨stageCarrying control carrying,.inl ⟨stageBuffer _ control,rfl⟩⟩
  | @noted received control offered =>
    exact ⟨stageCarrying control carrying,.inl ⟨stageBuffer _ control,rfl⟩⟩
  | @heard received control header payload offered read staged acknowledged outstanding stages earlier acks =>
    have before : buffer (note staged received.transmitted) = buffer c.toDataPath := by
      rw [stages]
      exact stageBuffer _ control
    have pending : (note staged received.transmitted).pending = c.pending := congrArg Buffer.head before
    have noted : Carrying (note staged received.transmitted) := by
      rw [stages]
      exact stageCarrying control carrying
    obtain ⟨kept,cases⟩ := acknowledgeBuffer c.handle header outstanding noted
    rw [← acks] at kept cases
    obtain ⟨same,kind⟩ := acceptKeeps acknowledged header
    have after : Carrying (accept acknowledged header) := by
      intro acl
      have head : (accept acknowledged header).pending = acknowledged.pending := congrArg Buffer.head same
      rw [head]
      exact kept (kind ▸ acl)
    have sum : ∀ front, regained (front ++ forwarding c.handle acknowledged header payload) = regained front := by
      intro front
      have none := forwardingFree c.handle acknowledged header payload
      unfold regained at none ⊢
      rw [List.filterMap_append,List.sum_append,none]
      rfl
    refine ⟨after,?_⟩
    rw [same,sum]
    obtain ⟨unchanged,silent⟩ | ⟨popped,told,full⟩ := cases
    · exact .inl ⟨unchanged.trans before,by rw [silent]; rfl⟩
    · exact .inr ⟨popped.trans (by rw [before]),by rw [told]; rfl,by rw [← pending]; exact full⟩

/-! The run. -/

structure Balanced (past : List (Input × Observed)) (s : Session) : Prop where
  packed : (buffer s.link.connection.toDataPath).Packed
  carrying : Carrying s.link.connection.toDataPath
  sum : occupied s.link.connection.toDataPath + s.credits = aclCredits
  fifo : queued past = left past ++ held s.link.connection.toDataPath

theorem balancedStart {request endUs now c} (created : ActiveConnection.new request endUs now = some c) :
    Balanced [] ⟨⟨c,false⟩,aclCredits⟩ := by
  unfold ActiveConnection.new ActiveConnection.newFor at created
  split at created
  · cases created
  · cases created
    obtain ⟨packed,empty⟩ := emptyPacked PendingData aclQueueCapacity
    refine ⟨packed,?_,?_,?_⟩
    · intro acl
      cases acl
    · rw [occupiedContents]
      exact congrArg (fun contents => contents.length + aclCredits) empty
    · exact (congrArg (List.map fragment) empty).symm

theorem logged (past : List (Input × Observed)) (input : Input) (o : Observed) :
    queued (past ++ [(input,o)]) = queued past ++ o.queued ∧ left (past ++ [(input,o)]) = left past ++ o.left := by
  simp [queued,left]

theorem roomOfCredit {past s} (h : Balanced past s) (credits : s.credits ≠ 0) :
    (buffer s.link.connection.toDataPath).contents.length < aclQueueCapacity + 1 := by
  have sum := h.sum
  rw [occupiedContents,aclCredits] at sum
  change _ < 4 + 1
  omega

theorem sendsPacket {handle input packet} (sending : sends handle input = some packet) :
    input = .host packet ∧ WellFormed handle packet := by
  unfold sends at sending
  split at sending
  · split at sending
    · rename_i form
      cases sending
      exact ⟨rfl,form⟩
    · cases sending
  · cases sending

/- What the Host's view loses and gains in one call. -/
inductive QueueStep (s : Session) (input : Input) (d : DataPath) (back : Nat) : Prop where
  | kept (unsent : sends s.link.connection.handle input = none)
      (same : buffer d = buffer s.link.connection.toDataPath) (none : back = 0)
  | sent {packet} (sends : sends s.link.connection.handle input = some packet)
      (ok : s.link.connection.queueAcl s.link.connection.handle packet.bytes = .ok d) (none : back = 0)
  | popped (unsent : sends s.link.connection.handle input = none)
      (taken : buffer d = (buffer s.link.connection.toDataPath).take) (one : back = 1)
      (full : s.link.connection.pending.isSome)

theorem queueStep {past s} (h : Balanced past s) (running : s.link.down = false) (input)
    (allowed : (sends s.link.connection.handle input).isSome → s.credits ≠ 0) :
    Carrying (step s.link input).1.connection.toDataPath ∧
      QueueStep s input (step s.link input).1.connection.toDataPath
        (regained (step s.link input).2.calls) := by
  obtain ⟨data,_⟩ := stepData s.link running input
  rw [regainedAcl]
  generalize ((step s.link input).2.exchange.map ExchangeRequest.transmit) = frame at data
  generalize (step s.link input).1.connection.toDataPath = d at data ⊢
  generalize ((step s.link input).2.calls.filter aclCall) = calls at data ⊢
  cases data with
  | kept _ refused =>
    refine ⟨h.carrying,.kept ?_ rfl rfl⟩
    cases sending : sends s.link.connection.handle input with
    | none => rfl
    | some packet =>
      obtain ⟨rfl,form⟩ := sendsPacket sending
      obtain ⟨after,ok,_⟩ := queueStores form h.packed (roomOfCredit h (allowed (by simp [sending])))
      obtain ⟨status,error⟩ := refused packet rfl form.kind
      rw [ok] at error
      cases error
  | @queued packet d acl ok =>
    have form := queueWellFormed acl ok
    have sending : sends s.link.connection.handle (.host packet) = some packet := by simp [sends,form]
    obtain ⟨after,stored,_,_,pending⟩ :=
      queueStores form h.packed (roomOfCredit h (allowed (by simp [sending])))
    rw [ok] at stored
    cases stored
    exact ⟨fun _ => pending,.sent sending ok rfl⟩
  | ran runs =>
    obtain ⟨carrying,same | taken⟩ := runsBuffer runs h.carrying
    · exact ⟨carrying,.kept rfl same.1 same.2⟩
    · exact ⟨carrying,.popped rfl taken.1 taken.2.1 taken.2.2⟩

theorem proceedBalanced {past s} (h : Balanced past s) (running : s.link.down = false) (input : Input)
    (allowed : (sends s.link.connection.handle input).isSome → s.credits ≠ 0) :
    Balanced (past ++ [(input,(proceed s input).2)]) (proceed s input).1 := by
  obtain ⟨queuedLog,leftLog⟩ := logged past input (proceed s input).2
  obtain ⟨carrying,moved⟩ := queueStep h running input allowed
  have sum := h.sum
  have fifo := h.fifo
  rw [occupiedContents] at sum
  cases moved with
  | kept unsent same none =>
    have contents : held (step s.link input).1.connection.toDataPath = held s.link.connection.toDataPath := by
      rw [held,same,held]
    refine ⟨?_,carrying,?_,?_⟩
    · exact same ▸ h.packed
    · simp only [proceed,unsent,none,occupiedContents,same,Option.toList_none,List.length_nil]
      omega
    · rw [queuedLog,leftLog]
      simpa [proceed,unsent,none,contents] using fifo
  | @sent packet sending ok none =>
    have credits := allowed (by simp [sending])
    obtain ⟨_,form⟩ := sendsPacket sending
    obtain ⟨after,stored,packed,grown,_⟩ := queueStores form h.packed (roomOfCredit h credits)
    rw [ok] at stored
    cases stored
    have longer : (buffer (step s.link input).1.connection.toDataPath).contents.length =
        (buffer s.link.connection.toDataPath).contents.length + 1 := by
      simpa [held] using congrArg List.length grown
    refine ⟨packed,carrying,?_,?_⟩
    · simp only [proceed,sending,none,occupiedContents,longer,Option.toList_some,List.length_singleton]
      omega
    · rw [queuedLog,leftLog]
      simp [proceed,sending,none,grown,fifo]
  | popped unsent taken one full =>
    obtain ⟨packed,rest⟩ := takePacked h.packed
    obtain ⟨first,present⟩ := Option.isSome_iff_exists.mp full
    have contents : (buffer s.link.connection.toDataPath).contents =
        first :: (buffer (step s.link input).1.connection.toDataPath).contents := by
      rw [taken,rest]
      simp [buffer,Buffer.contents,present]
    refine ⟨?_,carrying,?_,?_⟩
    · exact taken ▸ packed
    · simp only [contents,List.length_cons] at sum
      simp only [proceed,unsent,one,occupiedContents,Option.toList_none,List.length_nil]
      omega
    · rw [queuedLog,leftLog]
      simp only [held,contents,List.map_cons] at fifo
      simp [proceed,unsent,one,present,held,fifo]

theorem balancedKept {past s} (h : Balanced past s) (input : Input) :
    Balanced (past ++ [(input,(exchange s input).2)]) (exchange s input).1 := by
  unfold exchange
  split
  · obtain ⟨queuedLog,leftLog⟩ := logged past input ⟨⟨[],none,none,0⟩,[],[]⟩
    exact ⟨h.packed,h.carrying,h.sum,by simpa [queuedLog,leftLog] using h.fifo⟩
  · rename_i free
    simp only [not_or,not_and] at free
    exact proceedBalanced h (by simpa using free.1) input free.2

theorem balanced {request endUs now c} (created : ActiveConnection.new request endUs now = some c)
    {past s} (run : History host ⟨⟨c,false⟩,aclCredits⟩ past s) : Balanced past s :=
  historyInvariant (balancedStart created) (fun _ _ input h => balancedKept h input) run

theorem aclCreditsConserved {request endUs now c} (created : ActiveConnection.new request endUs now = some c)
    {past s} (run : History host ⟨⟨c,false⟩,aclCredits⟩ past s) :
    occupied s.link.connection.toDataPath + s.credits = aclCredits ∧
    (∃ free, s.link.connection.queuedAcl.cells =
      s.link.connection.queuedAcl.contents.map some ++ List.replicate free none) ∧
    (s.link.connection.pending = none →
      s.link.connection.queuedAcl.cells = List.replicate aclQueueCapacity none) ∧
    (∀ packet, WellFormed s.link.connection.handle packet → s.credits ≠ 0 →
      ∃ after, s.link.connection.queueAcl s.link.connection.handle packet.bytes = .ok after ∧
        held after = held s.link.connection.toDataPath ++ [fragmentOf packet]) ∧
    queued past = left past ++ held s.link.connection.toDataPath := by
  have h := balanced created run
  obtain ⟨free,dense⟩ := h.packed.dense
  refine ⟨h.sum,⟨free,dense⟩,?_,?_,h.fifo⟩
  · intro idle
    have empty := h.packed.led idle
    have count := packedLength dense
    rw [empty] at dense count
    have cells : s.link.connection.queuedAcl.cells = List.replicate free none := dense
    rw [cells,← count,List.length_nil,Nat.zero_add]
  · intro packet form credits
    obtain ⟨after,ok,_,grown,_⟩ := queueStores form h.packed (roomOfCredit h credits)
    exact ⟨after,ok,grown⟩

/- Six packets from a Host with five credits: the last one stays with the Host. -/
def sixPackets : List Input :=
  (List.range 6).map fun n => .host ⟨.aclData,[0x01,0x10,0x01,0x00,UInt8.ofNat n]⟩

theorem aclCreditsConservedSix :
    (run host ⟨⟨sampleConnection,false⟩,aclCredits⟩ sixPackets).2.credits = 0 ∧
      occupied (run host ⟨⟨sampleConnection,false⟩,aclCredits⟩ sixPackets).2.link.connection.toDataPath +
        (run host ⟨⟨sampleConnection,false⟩,aclCredits⟩ sixPackets).2.credits = aclCredits :=
  ⟨by decide +kernel,(aclCreditsConserved sampleCreated (runHistory host _ sixPackets)).1⟩

end Ch58xHal.AclQueue
