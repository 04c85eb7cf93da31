import Ch58xHal.RadioSafety

/-! The operations of the radio as wholes. -/
namespace Ch58xHal.RadioExchange
open Routines Triples TurnLoops RadioChip RadioOperations RadioSafety OrderedEvidence ChannelSelection
open Advertising (Error)

section Common
variable {pre : Chip → Prop} {fail : Error → Chip → Prop} {course : Course} {chip : Chip}

/- The octets arrive one by one; their number is settled before the first. -/
theorem mapLength {α β : Type} {m : α → Operation β} (each : ∀ a, Triple pre (m a) (fun _ => pre) fail)
    (items : List α) : Triple pre (items.mapM m) (fun out chip => out.length = items.length ∧ pre chip) fail := by
  induction items with
  | nil =>
    rw [List.mapM_nil]
    exact pureTriple fun _ before => ⟨rfl,before⟩
  | cons a rest ih =>
    rw [List.mapM_cons]
    refine bindTriple (each a) fun b => bindTriple ih fun out => pureTriple fun chip ⟨same,before⟩ => ⟨?_,before⟩
    rw [List.length_cons,List.length_cons,same]

theorem dmaByteTriple (index : Nat) : Triple (fun _ => True) (readDmaByte index) (fun _ _ => True) fail :=
  fun _ _ => trivial

theorem receiveBufferQuiet : Quiet (modify fun chip => { chip with rxBuffer := Vector.replicate rfDmaBufferLen 0xff }) :=
  fun _ _ => modifyTriple fun _ doing => doesChange doing rfl rfl rfl rfl rfl rfl rfl ⟨fun _ _ => rfl,rfl,rfl,rfl,rfl⟩

def octetsOf (indices : List Nat) (octets : List UInt8) : List (Entry → Prop) :=
  List.zipWith (fun index octet => Octet index (· = octet)) indices octets

def showsAll (course : Course) (demands : List (Entry → Prop)) : Course :=
  { course with demands := course.demands ++ demands }

theorem showsFewer {demands : List (Entry → Prop)} (doing : Doing (showsAll course demands) chip) : Doing course chip := by
  obtain ⟨moments,clock,tx,response,⟨more,log,shown,sent⟩,settings,clean⟩ := doing
  exact ⟨moments,clock,tx,response,⟨more,log,shownFewer shown (List.sublist_append_left _ _),sent⟩,settings,clean⟩

theorem octetsShow (course : Course) (indices : List Nat) :
    Triple (Doing course) (indices.mapM readDmaByte)
      (fun octets => Doing (showsAll course (octetsOf indices octets))) fail := by
  induction indices generalizing course with
  | nil =>
    have none : showsAll course (octetsOf [] []) = course := by
      unfold showsAll octetsOf
      rw [List.zipWith_nil_left,List.append_nil]
    exact pureTriple fun chip doing => none.symm ▸ doing
  | cons index indices ih =>
    rw [List.mapM_cons]
    refine bindTriple (octetShows course index) fun octet => ?_
    refine beforeTriple ?_ fun chip shown => shown (· = octet) rfl
    refine bindTriple (ih (course.shows (Octet index (· = octet)))) fun octets => pureTriple fun chip doing => ?_
    have joined : showsAll course (octetsOf (index :: indices) (octet :: octets)) =
        showsAll (course.shows (Octet index (· = octet))) (octetsOf indices octets) := by
      unfold showsAll octetsOf Course.shows
      rw [List.zipWith_cons_cons,List.append_cons]
    exact joined.symm ▸ doing

/- A copied packet is the octets that were read, each in its place. -/
def packetOf (payload : List UInt8) : List (Entry → Prop) := octetsOf (List.range payload.length) payload

theorem copyShows (course : Course) (room : Nat) (advertising : Bool) :
    Triple (Doing course) (copyReceivedPacket room advertising)
      (fun payload => Doing (showsAll course (packetOf payload))) fail := by
  have nothing : ∀ chip, Doing course chip → Doing (showsAll course (packetOf [])) chip := fun chip doing => by
    unfold showsAll packetOf octetsOf
    rw [List.zipWith_nil_right,List.append_nil]
    exact doing
  refine quietThen (dmaByteQuiet 1) fun length => ?_
  dsimp only
  generalize (if advertising = true then (length &&& 0x3f).toNat else length.toNat) = payloadLen
  cases classifyReceivedLength advertising payloadLen with
  | physicalDmaOverflow =>
    exact quietThen (fun _ _ => modifyTriple fun _ doing => doesChange doing rfl rfl rfl rfl rfl rfl rfl
      ⟨fun _ _ => rfl,rfl,rfl,rfl,rfl⟩) fun _ =>
      pureTriple nothing
  | unsupportedCapability =>
    exact quietThen (fun _ _ => modifyTriple fun _ doing => doesChange doing rfl rfl rfl rfl rfl rfl rfl
      ⟨fun _ _ => rfl,rfl,rfl,rfl,rfl⟩) fun _ =>
      pureTriple nothing
  | accepted wireLen =>
    refine iteTriple (fun _ => pureTriple nothing) fun _ => ?_
    have counted : Triple (fun _ => True) ((List.range wireLen).mapM readDmaByte) _ fail := mapLength dmaByteTriple _
    refine weakenTriple (bothTriple (octetsShow course (List.range wireLen)) counted)
      (fun _ doing => ⟨doing,trivial⟩) (fun payload chip both => ?_) fun _ _ failed => failed
    obtain ⟨doing,length,_⟩ := both
    rw [List.length_range] at length
    unfold packetOf
    rw [length]
    exact doing

/- What the second look at the CRC flag has shown. -/
def Looked (course : Course) (since : Nat) (good : Bool) (chip : Chip) : Prop :=
  Doing course chip ∧ (good = true → Doing (course.shows (Unbroken course.start.moments since)) chip)

theorem alsoQuiet {α : Type} {m : Operation α} (quiet : Quiet m) {c c' : Course} {p : Prop} :
    Triple (fun chip => Doing c chip ∧ (p → Doing c' chip)) m (fun _ chip => Doing c chip ∧ (p → Doing c' chip)) fail := by
  intro chip both
  have kept := quiet c (fun _ _ => False) chip both.1
  have shown := fun holds => quiet c' (fun _ _ => False) chip (both.2 holds)
  rcases ran : result m chip with ⟨outcome,after⟩
  rw [ran] at kept shown
  cases outcome with
  | error e => exact kept.elim
  | ok a => exact ⟨kept,shown⟩

theorem crcOkShows {since : Nat} (launched : course.launched = some since) :
    Triple (Doing course) crcOk (fun good => Looked course since good) fail :=
  bindTriple (crcShows launched) fun _ => pureTriple fun _ ⟨doing,shown⟩ => ⟨doing,fun good => shown (of_decide_eq_true good)⟩

theorem acceptedLength {advertising : Bool} {payloadLen wireLen : Nat}
    (accepted : classifyReceivedLength advertising payloadLen = .accepted wireLen) :
    2 ≤ wireLen ∧ wireLen ≤ if advertising then maxLegacyAdvWireLen else maxDataWireLen := by
  unfold classifyReceivedLength at accepted
  dsimp only at accepted
  generalize (if advertising then maxLegacyAdvWireLen else maxDataWireLen) = longest at accepted ⊢
  split at accepted
  · cases accepted
  · split at accepted
    · cases accepted
    · rename_i within
      cases accepted
      exact ⟨Nat.le_add_right 2 payloadLen,Nat.le_of_not_lt within⟩

/- What is accepted is a header and its payload, and has room. -/
theorem copyBounds (room : Nat) (advertising : Bool) :
    Triple (fun _ => True) (copyReceivedPacket room advertising) (fun payload _ => payload ≠ [] →
      2 ≤ payload.length ∧ payload.length ≤ room ∧
        payload.length ≤ if advertising then maxLegacyAdvWireLen else maxDataWireLen) fail := by
  refine bindTriple (dmaByteTriple 1) fun length => ?_
  dsimp only
  generalize (if advertising = true then (length &&& 0x3f).toNat else length.toNat) = payloadLen
  have counted : ∀ f : Chip → Chip, Triple (fun _ => True) (modify f : Operation Unit) (fun _ _ => True) fail :=
    fun _ => modifyTriple fun _ _ => trivial
  rcases classified : classifyReceivedLength advertising payloadLen with wireLen | _ | _
  · obtain ⟨two,longest⟩ := acceptedLength classified
    refine iteTriple (fun _ => pureTriple fun _ _ absent => absurd rfl absent) fun fits => ?_
    refine afterTriple (mapLength dmaByteTriple _) fun payload _ ⟨length,_⟩ _ => ?_
    rw [length,List.length_range]
    exact ⟨two,Nat.le_of_not_lt fits,longest⟩
  · exact bindTriple (counted _) fun _ => pureTriple fun _ _ absent => absurd rfl absent
  · exact bindTriple (counted _) fun _ => pureTriple fun _ _ absent => absurd rfl absent

/- What is known of a packet that was copied after the second look. -/
def Copied (course : Course) (since : Nat) (good : Bool) (payload : List UInt8) (chip : Chip) : Prop :=
  Doing course chip ∧
    (good = true → Doing (showsAll (course.shows (Unbroken course.start.moments since)) (packetOf payload)) chip)

theorem copies (room : Nat) (advertising : Bool) {since : Nat} {good : Bool} :
    Triple (Looked course since good) (copyReceivedPacket room advertising) (fun payload chip => (payload ≠ [] →
      2 ≤ payload.length ∧ payload.length ≤ room ∧
        payload.length ≤ if advertising then maxLegacyAdvWireLen else maxDataWireLen) ∧
      Copied course since good payload chip) fail := by
  cases good with
  | false =>
    refine weakenTriple (bothTriple (copyBounds room advertising) (copyQuiet room advertising course fail))
      (fun _ looked => ⟨trivial,looked.1⟩) (fun payload chip ⟨bounds,doing⟩ => ⟨bounds,doing,fun absent => ?_⟩)
      fun _ _ failed => failed
    exact absurd absent Bool.false_ne_true
  | true =>
    exact weakenTriple (bothTriple (copyBounds room advertising) (copyShows _ room advertising))
      (fun _ looked => ⟨trivial,looked.2 rfl⟩)
      (fun payload chip ⟨bounds,doing⟩ => ⟨bounds,showsLess (showsFewer doing),fun _ => doing⟩) fun _ _ failed => failed

theorem copiedQuiet {α : Type} {m : Operation α} (quiet : Quiet m) {since : Nat} {good : Bool} {payload : List UInt8} :
    Triple (Copied course since good payload) m (fun _ => Copied course since good payload) fail := alsoQuiet quiet

theorem copiedAlso {α : Type} {m : Operation α} (quiet : Quiet m) {ok : α → Chip → Prop}
    (also : Triple (fun _ => True) m ok fail) {since : Nat} {good : Bool} {payload : List UInt8} :
    Triple (Copied course since good payload) m (fun a chip => ok a chip ∧ Copied course since good payload chip) fail :=
  beforeTriple (bothTriple also (copiedQuiet quiet)) fun _ copied => ⟨trivial,copied⟩

/- The log of an operation, once its packet is known to be intact. -/
theorem copiedLog {since : Nat} {payload : List UInt8} (copied : Copied course since true payload chip) {more : List Entry}
    (log : chip.log = course.start.log ++ more) :
    InOrder (course.demands ++ ([Unbroken course.start.moments since] ++ packetOf payload)) more := by
  obtain ⟨more',log',shown,_⟩ := (copied.2 rfl).log
  have same : more = more' := List.append_cancel_left (log.symm.trans log')
  rw [same,← List.append_assoc]
  exact shown

def staged (layout : Layout) (packet : List UInt8) (start : Chip) : Course where
  start := start
  waited := 0
  tx := encodeTransmitBuffer packet
  response := start.responseBuffer
  launched := none
  demands := [Wrote lleTxBuffer layout.tx]
  sent := 0
  begun := 0

def ReadyFor (packet : List UInt8) (start : Chip) : Prop :=
  start.digitalInitialized ∧ start.frontendCalibrated ∧ 2 ≤ packet.length ∧ packet.length ≤ rfDmaBufferLen

/- A refused packet leaves everything as it was. -/
theorem stages (layout : Layout) (channel : Channel) (packet : List UInt8) (start : Chip)
    (refused : ∀ e, fail e start) :
    Triple (fun chip => chip = start) (stageTransmit layout channel packet)
      (fun _ chip => ReadyFor packet start ∧ Doing (staged layout packet start) chip) fail := by
  have refuses : ∀ e s, s = start → fail e s := fun e _ same => same ▸ refused e
  refine getTriple fun chip same => ?_
  subst same
  refine rejectTriple (fun s _ => refuses .hardware s) fun usable => ?_
  refine rejectTriple (fun s _ => refuses .invalidPacket s) fun sized => ?_
  have able : ReadyFor packet chip := by
    unfold ReadyFor
    grind
  have filled : Triple (fun s => s = chip) (modify fun chip => { chip with txBuffer := encodeTransmitBuffer packet })
      (fun _ => Doing { staged layout packet chip with demands := [] }) fail := by
    refine modifyTriple fun s same => ?_
    subst same
    exact ⟨rfl,⟨0,le_refl 0,rfl,rfl⟩,rfl,rfl,⟨[],(List.append_nil _).symm,nothingDemanded [],⟨rfl,rfl⟩⟩,
      ⟨fun _ _ => rfl,rfl,rfl,rfl,rfl⟩,fun since launched => nomatch launched⟩
  exact bindTriple filled fun _ => quietThen (setChannelQuiet channel) fun _ =>
    afterTriple (writeShows _ (elsewhere (by decide))) fun _ _ doing => ⟨able,doing⟩

end Common

/-! The exchange of a connection event. -/

section Exchange
variable {fail : Error → Chip → Prop} {course : Course} {since : Nat}

/- What must have been seen before the response goes. -/
def releasedCourse (course : Course) (since : Nat) : Course :=
  (((course.shows (Saw lleStatus lleStatusRxToTx)).shows (Octet 1 (·.toNat ≤ connectionRxMaxWirePayloadLen))).shows
    (Unbroken course.start.moments since)).sends

def exchangeCourse (course : Course) (since : Nat) (s : Exchanging) : Course :=
  if s.transmitted then (releasedCourse course since).shows (Saw lleStatus lleStatusRxComplete)
  else if s.turnaround then releasedCourse course since else course

theorem exchangeKeeps (course : Course) (since : Nat) (s : Exchanging) :
    (exchangeCourse course since s).launched = course.launched ∧ (exchangeCourse course since s).start = course.start ∧
      (exchangeCourse course since s).waited = course.waited ∧
      ∀ k, exchangeCourse (course.waiting k) since s = (exchangeCourse course since s).waiting k := by
  unfold exchangeCourse
  split
  · exact ⟨rfl,rfl,rfl,fun _ => rfl⟩
  · split <;> exact ⟨rfl,rfl,rfl,fun _ => rfl⟩

theorem exchangeAdds (course : Course) (since : Nat) (s : Exchanging) :
    course.demands.Sublist (exchangeCourse course since s).demands := by
  have released : course.demands.Sublist (releasedCourse course since).demands :=
    (List.sublist_append_left _ _).trans ((List.sublist_append_left _ _).trans
      ((List.sublist_append_left _ _).trans (List.sublist_append_left _ _)))
  unfold exchangeCourse
  split
  · exact released.trans (List.sublist_append_left _ _)
  · split
    · exact released
    · exact List.Sublist.refl _

theorem exchangeStage (course : Course) (since : Nat) (s : Exchanging) :
    exchangeCourse course since s = course ∧ s.transmitted = false ∨
      exchangeCourse course since s = releasedCourse course since ∧ s.transmitted = false ∨
      exchangeCourse course since s = (releasedCourse course since).shows (Saw lleStatus lleStatusRxComplete) := by
  unfold exchangeCourse
  split
  · exact .inr (.inr rfl)
  · rename_i waiting
    rw [Bool.not_eq_true] at waiting
    split
    · exact .inr (.inl ⟨rfl,waiting⟩)
    · exact .inl ⟨rfl,waiting⟩

theorem releases (channel : Channel) (transmitLen : Nat) (length : UInt8) :
    Triple (Doing course) (releaseStaged channel transmitLen length) (fun _ => Doing course.sends) fail := by
  refine quietThen (writeQuiet (elsewhere (by decide))) fun _ => quietThen (writeQuiet (elsewhere (by decide))) fun _ =>
    quietThen (writeQuiet (elsewhere (by decide))) fun _ => quietThen (modifyQuiet fun _ => elsewhere (by decide)) fun _ =>
    quietThen (transmitPhyQuiet transmitLen) fun _ => quietThen (synthQuiet channel false) fun _ =>
    quietThen (modifyQuiet fun _ => elsewhere (by decide)) fun _ => quietThen analogQuiet fun _ => ?_
  exact bindTriple (writeSends course) fun _ => modifyQuiet (fun _ => elsewhere (by decide)) course.sends fail

/- One turn keeps to the evidence it has; the loop goes on only while nothing is transmitted. -/
theorem oneTurn (launched : course.launched = some since) (channel : Channel) (transmitLen receiveDeadline : Nat)
    {s : Exchanging} (waiting : s.transmitted = false) :
    Triple (Doing (exchangeCourse course since s)) (exchangeTurn channel transmitLen receiveDeadline s)
      (fun turned chip => (turned.2 = true → turned.1.transmitted = false) ∧
        Doing (exchangeCourse course since turned.1) chip) fail := by
  refine bindTriple (readShows _ lleStatus) fun status => ?_
  refine iteTriple (fun ⟨up,facing⟩ => ?_) fun _ => iteTriple (fun ⟨turned,up⟩ => ?_) fun _ => ?_
  · have here : exchangeCourse course since s = course := by
      unfold exchangeCourse
      rw [waiting,facing]
      rfl
    rw [here]
    refine beforeTriple ?_ fun _ seen => seen.2 lleStatusRxToTx up
    refine bindTriple (octetShows _ 1) fun length => ?_
    by_cases fits : length.toNat ≤ connectionRxMaxWirePayloadLen
    · refine beforeTriple ?_ fun _ read => read (·.toNat ≤ connectionRxMaxWirePayloadLen) fits
      refine quietThen nowQuiet fun timestampUs => bindTriple (crcShows launched) fun bbStatus =>
        iteTriple (fun _ => ?_) fun good => ?_
      · refine pureTriple fun chip doing => ⟨fun _ => waiting,?_⟩
        unfold exchangeCourse
        dsimp only
        rw [waiting,facing]
        exact showsLess (showsLess doing.1)
      · have intact : bbStatus &&& crcError = 0 := by
          by_contra failed
          exact good (.inl failed)
        refine beforeTriple ?_ fun _ seen => seen.2 intact
        refine bindTriple (releases channel transmitLen length) fun _ => pureTriple fun chip doing => ⟨fun _ => waiting,?_⟩
        unfold exchangeCourse
        dsimp only
        rw [waiting]
        exact doing
    · refine beforeTriple ?_ fun _ read => showsLess (read (fun _ => True) trivial)
      refine quietThen nowQuiet fun timestampUs => quietThen (readQuiet bbInterruptStatus) fun bbStatus =>
        iteTriple (fun _ => ?_) fun good => absurd (.inr (Nat.lt_of_not_le fits)) good
      refine pureTriple fun chip doing => ⟨fun _ => waiting,?_⟩
      unfold exchangeCourse
      dsimp only
      rw [waiting,facing]
      exact showsLess doing
  · have here : exchangeCourse course since s = releasedCourse course since := by
      unfold exchangeCourse
      rw [waiting,turned]
      rfl
    rw [here]
    refine beforeTriple ?_ fun _ seen => seen.2 lleStatusRxComplete up
    exact quietThen (writeQuiet (elsewhere (by decide))) fun _ => pureTriple fun chip doing =>
      ⟨fun absent => absurd absent Bool.false_ne_true,doing⟩
  · refine beforeTriple ?_ fun _ seen => seen.1
    refine quietThen (readQuiet lleOperationCountdown) fun _ => iteTriple (fun _ => ?_) fun _ => iteTriple (fun _ => ?_) fun _ => ?_
    · exact pureTriple fun _ doing => ⟨fun _ => waiting,doing⟩
    · exact pureTriple fun _ doing => ⟨fun _ => waiting,doing⟩
    · exact quietThen nowQuiet fun _ => pureTriple fun _ doing => ⟨fun _ => waiting,doing⟩

/- The loop is on its way, or over. -/
def Waiting (course : Course) (since : Nat) (s : Exchanging) (chip : Chip) : Prop :=
  s.transmitted = false ∧ Doing (exchangeCourse course since s) chip

theorem loops (launched : course.launched = some since) (channel : Channel) (transmitLen receiveDeadline turns : Nat)
    (s : Exchanging) :
    Triple (Waiting course since s) (exchangeLoop channel transmitLen receiveDeadline turns s)
      (Reached (Waiting course since) fun s => Doing (exchangeCourse course since s)) fail := by
  have each : ∀ s, Triple (Waiting course since s)
      (clockedPass (fun _ => receiveDeadline + 1000) (exchangeTurn channel transmitLen receiveDeadline) s)
      (fun turned chip => (turned.2 = true → Waiting course since turned.1 chip) ∧
        (turned.2 = false → Doing (exchangeCourse course since turned.1) chip)) fail := by
    refine fun s => assumeTriple fun waiting => quietThen nowQuiet fun time => iteTriple (fun _ => ?_) fun _ => ?_
    · exact afterTriple (oneTurn launched channel transmitLen receiveDeadline waiting) fun turned _ ⟨on,doing⟩ =>
        ⟨fun again => ⟨on again,doing⟩,fun _ => doing⟩
    · exact pureTriple fun _ doing => ⟨fun absent => absurd absent Bool.false_ne_true,fun _ => doing⟩
  exact loopTriple each turns s

theorem loopOver (launched : course.launched = some since) (fresh : course.waited = 0) (runs : RunsOn course.start)
    (channel : Channel) (transmitLen receiveDeadline : Nat) (s : Exchanging) {chip : Chip}
    (waiting : Waiting course since s chip) :
    ∃ turns, (result (exchangeLoop channel transmitLen receiveDeadline turns s) chip).1 ≠ .ok none := by
  refine clockedLoopEnds (fun _ => receiveDeadline + 1000) (fun _ => 0) runs
    (fun s chip waiting => ?_) (fun s k => ?_) s waiting
  · have start := (exchangeKeeps course since s).2.1
    exact ⟨start ▸ doingWaited waiting.2,waiting.1,doesElapse waiting.2⟩
  · rintro chip ⟨⟨waiting,doing⟩,late⟩
    obtain ⟨_,start,waited,commutes⟩ := exchangeKeeps course since s
    have here : Doing (exchangeCourse (course.waiting k) since s) chip := by
      rw [commutes]
      exact doingLater doing (start ▸ late)
    have on : (course.waiting k).launched = some since := launched
    refine afterTriple (oneTurn on channel transmitLen receiveDeadline waiting) ?_ chip here
    rintro turned after ⟨again,doing⟩ goes
    obtain ⟨_,start,waited,commutes⟩ := exchangeKeeps course since turned.1
    rw [commutes] at doing
    obtain ⟨doing,grown⟩ := doingEarlier doing (by rw [waited,fresh]; exact Nat.zero_le k)
    exact ⟨⟨again goes,doing⟩,start ▸ grown,.inr ⟨rfl,rfl⟩⟩

/-! A whole exchange. -/

def exchangedCourse (layout : Layout) (transmit : List UInt8) (start : Chip) (since : Nat) (s : Exchanging) : Course :=
  exchangeCourse ((staged layout transmit start).launches 1 since) since s

def ExchangeFailed (layout : Layout) (transmit : List UInt8) (start chip : Chip) : Prop :=
  chip = start ∨ ShutDown chip ∧ ∃ since s, Doing (exchangedCourse layout transmit start since s) chip

theorem arms (layout : Layout) (channel : Channel) (deadline timeout : Nat) (transmit : List UInt8) (room : Nat)
    (start : Chip) :
    Triple (fun chip => chip = start) (armExchange layout channel deadline timeout transmit room)
      (fun _ chip => ReadyFor transmit start ∧
        ∃ since, Doing ((staged layout transmit start).launches 1 since) chip) fun _ chip => chip = start := by
  refine rejectTriple (fun _ _ same => same) fun _ => ?_
  refine bindTriple (stages layout channel transmit start fun _ => rfl) fun _ => assumeTriple fun able => ?_
  refine quietThen receiveBufferQuiet fun _ => quietThen (writeQuiet (elsewhere (by decide))) fun _ =>
    quietThen (setReceiveChannelQuiet channel) fun _ => ?_
  refine quietThen (commonQuiet (by decide)) fun _ => quietThen (modifyQuiet fun _ => elsewhere (by decide)) fun _ =>
    quietThen (writeQuiet (elsewhere (by decide))) fun _ => bindTriple (clearBbQuiet rfl) fun _ => ?_
  refine quietThen receivePhyQuiet fun _ => quietThen (captureCountdownQuiet _) fun _ =>
    quietThen (writeQuiet (elsewhere (by decide))) fun _ => bindTriple (writeLaunches _ (.inl rfl)) fun _ => ?_
  exact existsTriple fun since => quietThen nowQuiet fun _ => pureTriple fun _ doing => ⟨able,since,doing⟩

/- What the result of an exchange says of its course. -/
def Told (course : Course) (since : Nat) (s : Exchanging) (room : Nat) (r : ExchangeResult) (chip : Chip) : Prop :=
  ShutDown chip ∧ r.transmitted = s.transmitted ∧
    Copied (exchangeCourse course since s) since r.received.crcOk r.received.payload chip ∧
    2 ≤ r.received.payload.length ∧ r.received.payload.length ≤ room ∧ r.received.payload.length ≤ maxDataWireLen

theorem concludes (launched : course.launched = some since) (room : Nat) (s : Exchanging) :
    Triple (Doing (exchangeCourse course since s)) (concludeExchange room s) (Told course since s room)
      fun _ chip => ShutDown chip ∧ Doing (exchangeCourse course since s) chip := by
  refine bindTriple (crcOkShows ((exchangeKeeps course since s).1.trans launched)) fun good => ?_
  refine bindTriple (copies room false) fun payload => assumeTriple fun bounds => ?_
  refine bindTriple (copiedQuiet rssiQuiet) fun rssiDbm => ?_
  refine bindTriple (copiedAlso shutDownQuiet shutsDown) fun _ => ?_
  cases s.timestampUs with
  | none => exact throwTriple fun chip ⟨shut,copied⟩ => ⟨shut,copied.1⟩
  | some timestampUs =>
    refine rejectTriple (fun chip _ ⟨shut,copied⟩ => ⟨shut,copied.1⟩) fun long => pureTriple fun chip ⟨shut,copied⟩ => ?_
    exact ⟨shut,rfl,copied,bounds fun empty => by simp [empty] at long⟩

theorem exchanges (layout : Layout) (turns : Nat) (channel : Channel) (deadline timeout : Nat)
    (transmit : List UInt8) (room : Nat) (start : Chip) :
    Triple (fun chip => chip = start) (exchange layout turns channel deadline timeout transmit room)
      (fun outcome chip => ReadyFor transmit start ∧ ∃ since s,
        Doing (exchangedCourse layout transmit start since s) chip ∧
        ∀ r, outcome = some r → Told ((staged layout transmit start).launches 1 since) since s room r chip)
      fun _ => ExchangeFailed layout transmit start := by
  refine bindTriple (weakenTriple (arms layout channel deadline timeout transmit room start) (fun _ same => same)
    (fun _ _ armed => armed) fun _ _ same => .inl same) fun receiveDeadline => ?_
  refine assumeTriple fun able => existsTriple fun since => ?_
  refine bindTriple (beforeTriple (loops rfl channel transmit.length receiveDeadline turns ⟨none,false,false⟩)
    fun _ doing => ⟨rfl,doing⟩) fun finished => ?_
  cases finished with
  | none => 
    rintro chip (⟨_,s,_,doing⟩ | ⟨s,absent,_⟩)
    · exact ⟨able,since,s,doing,fun _ absent => (nomatch absent)⟩
    · cases absent
  | some f =>
    rintro chip (⟨absent,_⟩ | ⟨s,same,doing⟩)
    · cases absent
    cases same
    refine bindTriple (weakenTriple (concludes rfl room f) (fun _ doing => doing) (fun _ _ told => told)
      fun _ _ ⟨shut,doing⟩ => .inr ⟨shut,since,f,doing⟩) (fun r => ?_) chip doing
    exact pureTriple fun chip told => ⟨able,since,f,told.2.2.1.1,fun r' same => Option.some.inj same ▸ told⟩

/- The way in which an exchange may have ended, read off its outcome. -/
theorem exchangeCases (layout : Layout) (turns : Nat) (channel : Channel) (deadline timeout : Nat)
    (transmit : List UInt8) (room : Nat) (start : Chip) :
    (result (exchange layout turns channel deadline timeout transmit room) start).2 = start ∨
      ∃ since s, Doing (exchangedCourse layout transmit start since s)
        (result (exchange layout turns channel deadline timeout transmit room) start).2 := by
  have post := exchanges layout turns channel deadline timeout transmit room start start rfl
  rcases ran : result (exchange layout turns channel deadline timeout transmit room) start with ⟨outcome,after⟩
  rw [ran] at post
  cases outcome with
  | error e => exact post.imp_right And.right
  | ok finished =>
    obtain ⟨_,since,s,doing,_⟩ := post
    exact .inr ⟨since,s,doing⟩

/- Unless it is still waiting, the radio is untouched or shut down. -/
theorem exchangeRests (layout : Layout) (turns : Nat) (channel : Channel) (deadline timeout : Nat)
    (transmit : List UInt8) (room : Nat) (start : Chip)
    (ended : (result (exchange layout turns channel deadline timeout transmit room) start).1 ≠ .ok none) :
    (result (exchange layout turns channel deadline timeout transmit room) start).2 = start ∨
      ShutDown (result (exchange layout turns channel deadline timeout transmit room) start).2 := by
  have post := exchanges layout turns channel deadline timeout transmit room start start rfl
  rcases ran : result (exchange layout turns channel deadline timeout transmit room) start with ⟨outcome,after⟩
  rw [ran] at post ended
  cases outcome with
  | error e => exact post.imp_right And.left
  | ok finished =>
    cases finished with
    | none => exact absurd rfl ended
    | some r =>
      obtain ⟨_,since,s,_,told⟩ := post
      exact .inr (told r rfl).1

theorem exchangedStart (layout : Layout) (transmit : List UInt8) (start : Chip) (since : Nat) (s : Exchanging) :
    (exchangedCourse layout transmit start since s).start = start :=
  (exchangeKeeps ((staged layout transmit start).launches 1 since) since s).2.1

theorem exchangeAfterwards (layout : Layout) (turns : Nat) (channel : Channel) (deadline timeout : Nat)
    (transmit : List UInt8) (room : Nat) (start : Chip) :
    Afterwards start (result (exchange layout turns channel deadline timeout transmit room) start).2 := by
  obtain same | ⟨since,s,doing⟩ := exchangeCases layout turns channel deadline timeout transmit room start
  · rw [same]
    exact afterwardsSame start
  · have after := doingAfterwards doing
    rwa [exchangedStart] at after

/- The staged response goes at most once, and only once the device has asked for it, with a
length that fits and no CRC error since the launch. -/
theorem exchangeAnswersOnEvidence (layout : Layout) (turns : Nat) (channel : Channel) (deadline timeout : Nat)
    (transmit : List UInt8) (room : Nat) (start : Chip) :
    let after := (result (exchange layout turns channel deadline timeout transmit room) start).2
    ∃ more, after.log = start.log ++ more ∧ transmissions more ≤ 1 ∧ (transmissions more = 1 →
      after.txBuffer = encodeTransmitBuffer transmit ∧ ∃ since, InOrder
        [Wrote lleTxBuffer layout.tx,Launched 1 since,Saw lleStatus lleStatusRxToTx,
          Octet 1 (·.toNat ≤ connectionRxMaxWirePayloadLen),Unbroken start.moments since,Wrote lleMode lleModeTx] more) := by
  obtain same | ⟨since,s,doing⟩ := exchangeCases layout turns channel deadline timeout transmit room start
  · rw [same]
    exact ⟨[],(List.append_nil _).symm,Nat.zero_le 1,fun absent => (nomatch absent)⟩
  · generalize (result (exchange layout turns channel deadline timeout transmit room) start).2 = after at doing
    unfold exchangedCourse at doing
    obtain ⟨stage,_⟩ | ⟨stage,_⟩ | stage := exchangeStage ((staged layout transmit start).launches 1 since) since s <;>
      rw [stage] at doing <;> obtain ⟨more,log,shown,sent⟩ := doing.log <;> refine ⟨more,log,?_,?_⟩
    · exact sent.1 ▸ Nat.zero_le 1
    · exact fun one => absurd (sent.1.symm.trans one) Nat.zero_ne_one
    · exact sent.1 ▸ le_refl 1
    · exact fun _ => ⟨doing.tx,since,shown⟩
    · exact sent.1 ▸ le_refl 1
    · exact fun _ => ⟨doing.tx,since,shownFewer shown (List.sublist_append_left _ _)⟩

/- What a result is worth: the frame it was staged with, a transmission that was seen to complete
after its release, and a packet that was read octet by octet. -/
structure Reported (layout : Layout) (transmit : List UInt8) (room : Nat) (start after : Chip) (r : ExchangeResult)
    (more : List Entry) (since : Nat) : Prop where
  log : after.log = start.log ++ more
  bank : after.txBuffer = encodeTransmitBuffer transmit
  sent : r.transmitted = true → InOrder
    [Wrote lleTxBuffer layout.tx,Launched 1 since,Saw lleStatus lleStatusRxToTx,
      Octet 1 (·.toNat ≤ connectionRxMaxWirePayloadLen),Unbroken start.moments since,Wrote lleMode lleModeTx,
      Saw lleStatus lleStatusRxComplete] more
  heard : r.received.crcOk = true →
    InOrder (Launched 1 since :: Unbroken start.moments since :: packetOf r.received.payload) more
  two : 2 ≤ r.received.payload.length
  room : r.received.payload.length ≤ room
  longest : r.received.payload.length ≤ maxDataWireLen

theorem exchangeReported (layout : Layout) (turns : Nat) (channel : Channel) (deadline timeout : Nat)
    (transmit : List UInt8) (room : Nat) (start : Chip) {r : ExchangeResult}
    (ended : (result (exchange layout turns channel deadline timeout transmit room) start).1 = .ok (some r)) :
    ∃ more since, Reported layout transmit room start
      (result (exchange layout turns channel deadline timeout transmit room) start).2 r more since := by
  have post := exchanges layout turns channel deadline timeout transmit room start start rfl
  rcases ran : result (exchange layout turns channel deadline timeout transmit room) start with ⟨outcome,after⟩
  rw [ran] at post ended
  cases ended
  obtain ⟨_,since,s,_,told⟩ := post
  obtain ⟨_,transmitted,copied,bounds⟩ := told r rfl
  have started := (exchangeKeeps ((staged layout transmit start).launches 1 since) since s).2.1
  have adds := exchangeAdds ((staged layout transmit start).launches 1 since) since s
  obtain ⟨more,log,shown,_⟩ := copied.1.log
  have bank : after.txBuffer = encodeTransmitBuffer transmit := by
    rw [copied.1.tx]
    unfold exchangeCourse
    split
    · rfl
    · split <;> rfl
  have logged : after.log = start.log ++ more := by
    rw [log,started]
    rfl
  refine ⟨more,since,logged,bank,fun sent => ?_,fun good => ?_,bounds.1,bounds.2.1,bounds.2.2⟩
  · rw [transmitted] at sent
    obtain ⟨_,waiting⟩ | ⟨_,waiting⟩ | stage := exchangeStage ((staged layout transmit start).launches 1 since) since s
    · exact absurd (waiting.symm.trans sent) Bool.false_ne_true
    · exact absurd (waiting.symm.trans sent) Bool.false_ne_true
    · rw [stage] at shown
      exact shown
  · rw [good] at copied
    have seen := copiedLog copied log
    rw [started] at seen
    have launch : [Launched 1 since].Sublist ((staged layout transmit start).launches 1 since).demands :=
      List.sublist_append_right [Wrote lleTxBuffer layout.tx] _
    exact shownFewer seen ((launch.trans adds).append (List.Sublist.refl _))

/- A result is no more than the registers have shown: a transmission has been seen to complete
after the release, and a packet counts as intact only if no moment since the launch has failed
its CRC; its octets are then those that were read. -/
theorem exchangeReportsTruly (layout : Layout) (turns : Nat) (channel : Channel) (deadline timeout : Nat)
    (transmit : List UInt8) (room : Nat) (start : Chip) (r : ExchangeResult)
    (ended : (result (exchange layout turns channel deadline timeout transmit room) start).1 = .ok (some r)) :
    ∃ more since, (result (exchange layout turns channel deadline timeout transmit room) start).2.log = start.log ++ more ∧
      (r.transmitted = true → InOrder
        [Wrote lleTxBuffer layout.tx,Launched 1 since,Saw lleStatus lleStatusRxToTx,
          Octet 1 (·.toNat ≤ connectionRxMaxWirePayloadLen),Unbroken start.moments since,Wrote lleMode lleModeTx,
          Saw lleStatus lleStatusRxComplete] more) ∧
      (r.received.crcOk = true →
        InOrder (Launched 1 since :: Unbroken start.moments since :: packetOf r.received.payload) more) ∧
      2 ≤ r.received.payload.length ∧ r.received.payload.length ≤ room ∧ r.received.payload.length ≤ maxDataWireLen := by
  obtain ⟨more,since,reported⟩ := exchangeReported layout turns channel deadline timeout transmit room start ended
  exact ⟨more,since,reported.log,reported.sent,reported.heard,reported.two,reported.room,reported.longest⟩

/- An exchange with a device that has heard an empty packet. -/
theorem steadyExchangeReports : ∃ (r : ExchangeResult) (more : List Entry) (since : Nat),
    (result (exchange ⟨0,0,0⟩ 20 ⟨5,by decide⟩ 100000 1000 [1,0] 29)
      (steady (lleStatusRxToTx ||| lleStatusRxComplete) (encodeTransmitBuffer [1,0]))).2.log = [] ++ more ∧
      (r.transmitted = true → InOrder
        [Wrote lleTxBuffer 0,Launched 1 since,Saw lleStatus lleStatusRxToTx,
          Octet 1 (·.toNat ≤ connectionRxMaxWirePayloadLen),
          Unbroken (steady (lleStatusRxToTx ||| lleStatusRxComplete) (encodeTransmitBuffer [1,0])).moments since,
          Wrote lleMode lleModeTx,Saw lleStatus lleStatusRxComplete] more) := by
  obtain ⟨r,ended⟩ := finishesWith (show finishes (result (exchange ⟨0,0,0⟩ 20 ⟨5,by decide⟩ 100000 1000 [1,0] 29)
    (steady (lleStatusRxToTx ||| lleStatusRxComplete) (encodeTransmitBuffer [1,0]))).1 = true by decide +kernel)
  obtain ⟨more,since,log,transmitted,_⟩ := exchangeReportsTruly ⟨0,0,0⟩ 20 ⟨5,by decide⟩ 100000 1000 [1,0] 29
    (steady (lleStatusRxToTx ||| lleStatusRxComplete) (encodeTransmitBuffer [1,0])) r ended
  exact ⟨r,more,since,log,transmitted⟩

theorem exchangeWithin (layout : Layout) (turns : Nat) (channel : Channel) (deadline timeout : Nat)
    (transmit : List UInt8) (room : Nat) :
    exchange layout turns channel deadline timeout transmit room =
      loopWithin (armExchange layout channel deadline timeout transmit room)
        (fun receiveDeadline => clockedPass (fun _ => receiveDeadline + 1000)
          (exchangeTurn channel transmit.length receiveDeadline))
        (fun _ => ⟨none,false,false⟩) (concludeExchange room) turns := by
  unfold exchange loopWithin exchangeLoop
  congr 1
  funext receiveDeadline
  congr 1
  funext finished
  cases finished <;> rfl

/- The exchange always comes to an end, and leaves the radio shut down or untouched. -/
theorem exchangeComesToRest (layout : Layout) (channel : Channel) (deadline timeout : Nat)
    (transmit : List UInt8) (room : Nat) (start : Chip) (runs : RunsOn start) :
    ∃ enough outcome after, (∀ turns, enough ≤ turns →
      result (exchange layout turns channel deadline timeout transmit room) start = (Except.map some outcome,after)) ∧
      (after = start ∨ ShutDown after) := by
  obtain ⟨enough,outcome,after,settled⟩ : ∃ enough outcome after, ∀ turns, enough ≤ turns →
      result (exchange layout turns channel deadline timeout transmit room) start = (Except.map some outcome,after) := by
    simp only [exchangeWithin]
    refine withinEnds start fun receiveDeadline chip armed => ?_
    have ready := arms layout channel deadline timeout transmit room start start rfl
    rw [armed] at ready
    obtain ⟨_,since,doing⟩ := ready
    exact loopOver rfl rfl runs channel transmit.length receiveDeadline ⟨none,false,false⟩ ⟨rfl,doing⟩
  refine ⟨enough,outcome,after,settled,?_⟩
  have rests := exchangeRests layout enough channel deadline timeout transmit room start
  rw [settled enough (le_refl enough)] at rests
  refine rests fun unfinished => ?_
  cases outcome <;> cases unfinished

theorem steadyExchangeComesToRest : ∃ enough outcome after, (∀ turns, enough ≤ turns →
      result (exchange ⟨0,0,0⟩ turns ⟨5,by decide⟩ 100000 1000 [1,0] 29) (steady 0 (encodeTransmitBuffer [1,0])) =
        (Except.map some outcome,after)) ∧
      (after = steady 0 (encodeTransmitBuffer [1,0]) ∨ ShutDown after) :=
  exchangeComesToRest ⟨0,0,0⟩ ⟨5,by decide⟩ 100000 1000 [1,0] 29 (steady 0 (encodeTransmitBuffer [1,0])) (steadyRunsOn 0 _)

end Exchange

end Ch58xHal.RadioExchange
