import Ch58xHal.RadioExchange

/-! The exchange after an advertisement: a scan request for this device is answered once, on the
evidence of its own octets, and whatever happens the radio comes to rest. -/
namespace Ch58xHal.RadioAdvertising
open Routines Triples TurnLoops RadioChip RadioOperations RadioSafety RadioExchange OrderedEvidence ChannelSelection
open Advertising (Error DeviceAddress)
open ConnectIndCodec (isScanRequest)

/-! One turn of the loop. -/

section Listen
variable {fail : Error → Chip → Prop} (layout : Layout) (channel : Channel) (timeout : Nat)
  (transmit scanResponse : List UInt8) (advertiserAddress : Vector UInt8 6) (room : Nat)
  (course : Course) (since : Nat)

def Sized (payload : List UInt8) : Prop :=
  2 ≤ payload.length ∧ payload.length ≤ room ∧ payload.length ≤ maxLegacyAdvWireLen

/- What must have been seen before the scan response goes. -/
def answeredCourse (payload : List UInt8) : Course :=
  ((showsAll (course.shows (Unbroken course.start.moments since)) (packetOf payload)).shows
    (Wrote lleTxBuffer layout.response)).sends

def listenCourse (s : Listening) : Course :=
  match s.responding,s.received with
  | true,some (payload,_,_) => answeredCourse layout course since payload
  | _,_ => course

/- Nothing received yet, or a scan request that is being answered. -/
def Valid (s : Listening) : Prop :=
  (s.responding = false ∧ s.received = none) ∨ ∃ payload timestampUs, s.responding = true ∧
    s.received = some (payload,true,timestampUs) ∧
    isScanRequest payload (ownAddress transmit advertiserAddress) = true ∧ Sized room payload

def phase (s : Listening) : Nat := (if s.armed then 0 else 1) + if s.responding then 0 else 1

def Progress (s t : Listening) : Prop := phase t < phase s ∨ phase t = phase s ∧ t.deadline = s.deadline

/- The same reception, perhaps with the receiver armed. -/
structure Onward (s t : Listening) : Prop where
  responding : t.responding = s.responding
  received : t.received = s.received
  progress : Progress s t

theorem sameOnward (s : Listening) : Onward s s := ⟨rfl,rfl,.inr ⟨rfl,rfl⟩⟩

theorem progressTrans {s t u : Listening} (first : Progress s t) (second : Progress t u) : Progress s u := by
  unfold Progress at *
  omega

theorem onwardTrans {s t u : Listening} (first : Onward s t) (second : Onward t u) : Onward s u :=
  ⟨second.responding.trans first.responding,second.received.trans first.received,
    progressTrans first.progress second.progress⟩

theorem onwardValid {s t : Listening} (on : Onward s t) (valid : Valid transmit advertiserAddress room s) :
    Valid transmit advertiserAddress room t ∧ listenCourse layout course since t = listenCourse layout course since s := by
  unfold Valid listenCourse at *
  rw [on.responding,on.received]
  exact ⟨valid,rfl⟩

variable {course}

theorem arming (status : UInt32) (s : Listening) :
    Triple (Doing course) (armReceive channel timeout status s)
      (fun t chip => Onward s t ∧ Doing course chip) fail := by
  refine iteTriple (fun ⟨idle,_⟩ => ?_) fun _ => pureTriple fun _ doing => ⟨sameOnward s,doing⟩
  refine quietThen (continueQuiet channel) fun _ => quietThen nowQuiet fun _ => pureTriple fun _ doing => ⟨⟨rfl,rfl,?_⟩,doing⟩
  refine .inl ?_
  unfold phase
  dsimp only
  rw [idle]
  simp

theorem noting (pduType length : UInt8) (s : Listening) :
    Triple (Doing course) (noteBuffered pduType length s) (fun t chip => Onward s t ∧ Doing course chip) fail :=
  iteTriple (fun _ => quietThen nowQuiet fun _ => pureTriple fun _ doing => ⟨⟨rfl,rfl,.inr ⟨rfl,rfl⟩⟩,doing⟩)
    fun _ => pureTriple fun _ doing => ⟨sameOnward s,doing⟩

theorem scannedQuiet (pduType : UInt8) (s : Listening) : Quiet (bufferedScan pduType s) := by
  unfold bufferedScan
  cases s.bufferedEnd with
  | none => exact pureQuiet false
  | some finish => exact iteQuiet (bindQuiet nowQuiet fun _ => pureQuiet _) (pureQuiet false)

theorem capturedQuiet : Quiet captured :=
  bindQuiet captureSeenQuiet fun _ => iteQuiet
    (bindQuiet (readQuiet lleStatus) fun _ => iteQuiet (pureQuiet true)
      (bindQuiet (readQuiet lleOperationCountdown) fun _ => pureQuiet _)) (pureQuiet false)

theorem answers (payload : List UInt8) (transmitLen : Nat) (length : UInt8) :
    Triple (Doing (showsAll (course.shows (Unbroken course.start.moments since)) (packetOf payload)))
      (releaseReceiveToTransmit1m channel layout.response transmitLen length)
      (fun _ => Doing (answeredCourse layout course since payload)) fail := by
  refine bindTriple (writeShows _ (elsewhere (by decide))) fun _ => ?_
  refine quietThen (writeQuiet (elsewhere (by decide))) fun _ => quietThen (writeQuiet (elsewhere (by decide))) fun _ =>
    quietThen (modifyQuiet fun _ => elsewhere (by decide)) fun _ => quietThen (synthQuiet channel false) fun _ =>
    quietThen (transmitPhyQuiet transmitLen) fun _ => quietThen (modifyQuiet fun _ => elsewhere (by decide)) fun _ =>
    quietThen analogQuiet fun _ => bindTriple (writeSends _) fun _ => ?_
  exact modifyQuiet (fun _ => elsewhere (by decide)) _ fail

variable (course)

def Heard (s : Listening) (chip : Chip) : Prop :=
  Valid transmit advertiserAddress room s ∧ Doing (listenCourse layout course since s) chip

/- The loop may also stop at a packet that gets no answer. -/
def Stopped (s : Listening) (chip : Chip) : Prop :=
  Heard layout transmit advertiserAddress room course since s chip ∨ ∃ payload good timestampUs,
    s.responding = false ∧ s.received = some (payload,good,timestampUs) ∧ Sized room payload ∧
      Copied course since good payload chip

/- What a turn may come to. -/
def Turned (s : Listening) (turned : Listening × Bool) (chip : Chip) : Prop :=
  Progress s turned.1 ∧
    (turned.2 = true → Heard layout transmit advertiserAddress room course since turned.1 chip) ∧
    (turned.2 = false → Stopped layout transmit advertiserAddress room course since turned.1 chip)

variable {course}

/- The first octet is read again once the rest is copied. -/
theorem firstOctet (payload : List UInt8) {good : Bool} :
    Triple (Copied course since good payload) (firstReread payload)
      (fun first chip => (first ≠ 0xff → payload ≠ []) ∧ Copied course since good payload chip) fail := by
  refine iteTriple (fun long => ?_) fun _ => pureTriple fun _ copied => ⟨fun absent => absurd rfl absent,copied⟩
  refine afterTriple (copiedQuiet (dmaByteQuiet 0)) fun _ _ copied => ⟨fun _ empty => ?_,copied⟩
  rw [empty] at long
  exact absurd long (by decide)

theorem classifies (launched : course.launched = some since) (length : UInt8) {s : Listening}
    (idle : s.responding = false) :
    Triple (Doing course) (classifyRequest layout channel transmit scanResponse advertiserAddress room length s)
      (fun out chip => (out = none → Doing course chip) ∧
        ∀ turned, out = some turned → Turned layout transmit advertiserAddress room course since s turned chip) fail := by
  have nothing : ∀ chip, Doing course chip → ((none : Option (Listening × Bool)) = none → Doing course chip) ∧
      ∀ turned, none = some turned → Turned layout transmit advertiserAddress room course since s turned chip :=
    fun chip doing => ⟨fun _ => doing,fun _ absent => (nomatch absent)⟩
  -- a packet that gets no answer stops the loop
  have stops : ∀ payload good timestampUs chip, Sized room payload → Copied course since good payload chip →
      ((some ({ s with received := some (payload,good,timestampUs) },false) : Option (Listening × Bool)) = none →
        Doing course chip) ∧ ∀ turned, some ({ s with received := some (payload,good,timestampUs) },false) = some turned →
        Turned layout transmit advertiserAddress room course since s turned chip := by
    intro payload good timestampUs chip sized copied
    refine ⟨fun absent => (nomatch absent),fun turned same => ?_⟩
    cases same
    exact ⟨.inr ⟨rfl,rfl⟩,fun absent => absurd absent (Bool.false_ne_true),
      fun _ => .inr ⟨payload,good,timestampUs,idle,rfl,sized,copied⟩⟩
  refine bindTriple (crcOkShows launched) fun good => bindTriple (copies room true) fun payload => assumeTriple fun bounds => ?_
  refine bindTriple (firstOctet since payload) fun first => assumeTriple fun some_ => ?_
  refine iteTriple (fun present => ?_) fun _ => pureTriple fun chip copied => nothing chip copied.1
  refine bindTriple (copiedQuiet nowQuiet) fun timestampUs => iteTriple (fun ⟨intact,request⟩ => ?_) fun _ => ?_
  · subst intact
    refine bindTriple (beforeTriple (answers layout channel since payload scanResponse.length length)
      fun chip copied => copied.2 rfl) fun _ => quietThen nowQuiet fun _ => ?_
    refine pureTriple fun chip doing => ⟨fun absent => (nomatch absent),fun turned same => ?_⟩
    cases same
    refine ⟨.inl ?_,fun _ => ⟨.inr ⟨payload,timestampUs,rfl,rfl,request,bounds (some_ present)⟩,doing⟩,
      fun absent => (nomatch absent)⟩
    unfold phase
    dsimp only
    rw [idle]
    simp
  · exact pureTriple fun chip copied => stops payload good timestampUs chip (bounds (some_ present)) copied

/- A turn that found nothing to classify. -/
theorem nothingFound {s t : Listening} (on : Onward s t) (valid : Valid transmit advertiserAddress room s) (status : UInt32)
    {chip : Chip} (doing : Doing (listenCourse layout course since s) chip) :
    Turned layout transmit advertiserAddress room course since s (finishResponse status t) chip := by
  obtain ⟨valid,same⟩ := onwardValid layout transmit advertiserAddress room course since on valid
  have heard : Heard layout transmit advertiserAddress room course since t chip := ⟨valid,same ▸ doing⟩
  exact ⟨on.progress,fun _ => heard,fun _ => .inl heard⟩

/- One turn keeps to the evidence it has. -/
theorem listens (launched : course.launched = some since) (s : Listening) :
    Triple (Heard layout transmit advertiserAddress room course since s)
      (listenTurn layout channel timeout transmit scanResponse advertiserAddress room s)
      (Turned layout transmit advertiserAddress room course since s) fail := by
  refine assumeTriple fun valid => ?_
  refine quietThen (readQuiet lleStatus) fun status => ?_
  refine bindTriple (arming channel timeout status s) fun armed => assumeTriple fun first => ?_
  refine quietThen (dmaByteQuiet 0) fun pduOctet => quietThen (dmaByteQuiet 1) fun lengthOctet => ?_
  refine bindTriple (noting _ _ armed) fun noted => assumeTriple fun second => ?_
  refine quietThen (scannedQuiet _ noted) fun scanned => quietThen capturedQuiet fun captured => ?_
  have on := onwardTrans first second
  refine iteTriple (fun ⟨_,idle,_⟩ => ?_) fun _ => pureTriple fun chip doing =>
    nothingFound layout transmit advertiserAddress room since on valid status doing
  have here : listenCourse layout course since s = course := by
    unfold listenCourse
    rw [← on.responding,idle]
  refine bindTriple (beforeTriple (classifies layout channel transmit scanResponse advertiserAddress room since launched
    _ idle) fun chip doing => here ▸ doing) fun out => ?_
  cases out with
  | none => exact pureTriple fun chip post =>
      nothingFound layout transmit advertiserAddress room since on valid status (here.symm ▸ post.1 rfl)
  | some turned =>
    refine pureTriple fun chip post => ?_
    obtain ⟨progress,again,stop⟩ := post.2 turned rfl
    exact ⟨progressTrans on.progress progress,again,stop⟩

theorem listenLoops (launched : course.launched = some since) (turns : Nat) (s : Listening) :
    Triple (Heard layout transmit advertiserAddress room course since s)
      (listenLoop layout channel timeout transmit scanResponse advertiserAddress room turns s)
      (Reached (Heard layout transmit advertiserAddress room course since)
        (Stopped layout transmit advertiserAddress room course since)) fail := by
  refine loopTriple (fun s => ?_) turns s
  have read : Triple (Heard layout transmit advertiserAddress room course since s) now
      (fun _ => Heard layout transmit advertiserAddress room course since s) fail :=
    assumeTriple fun valid => afterTriple (nowQuiet _ fail) fun _ _ doing => ⟨valid,doing⟩
  refine bindTriple read fun time => ?_
  refine iteTriple (fun _ => ?_) fun _ => ?_
  · exact afterTriple (listens layout channel timeout transmit scanResponse advertiserAddress room since launched s)
      fun _ _ post => post.2
  · exact pureTriple fun _ heard => ⟨fun absent => absurd absent Bool.false_ne_true,fun _ => .inl heard⟩

theorem listenKeeps (course : Course) (s : Listening) :
    (listenCourse layout course since s).launched = course.launched ∧
      (listenCourse layout course since s).start = course.start ∧
      (listenCourse layout course since s).waited = course.waited ∧
      ∀ k, listenCourse layout (course.waiting k) since s = (listenCourse layout course since s).waiting k := by
  unfold listenCourse
  split <;> exact ⟨rfl,rfl,rfl,fun _ => rfl⟩

theorem listenOver (launched : course.launched = some since) (fresh : course.waited = 0) (runs : RunsOn course.start)
    (s : Listening) {chip : Chip} (heard : Heard layout transmit advertiserAddress room course since s chip) :
    ∃ turns, (result (listenLoop layout channel timeout transmit scanResponse advertiserAddress room turns s) chip).1 ≠
      .ok none := by
  refine clockedLoopEnds Listening.deadline phase runs (fun s chip heard => ?_) (fun s k => ?_) s heard
  · have start := (listenKeeps layout since course s).2.1
    exact ⟨start ▸ doingWaited heard.2,heard.1,doesElapse heard.2⟩
  · rintro chip ⟨⟨valid,doing⟩,late⟩
    obtain ⟨_,start,_,commutes⟩ := listenKeeps layout since course s
    have here : Heard layout transmit advertiserAddress room (course.waiting k) since s chip := by
      refine ⟨valid,?_⟩
      rw [commutes]
      exact doingLater doing (start ▸ late)
    have on : (course.waiting k).launched = some since := launched
    refine afterTriple (listens layout channel timeout transmit scanResponse advertiserAddress room since on s) ?_ chip here
    rintro turned after ⟨progress,again,_⟩ goes
    obtain ⟨valid,doing⟩ := again goes
    obtain ⟨_,start,waited,commutes⟩ := listenKeeps layout since course turned.1
    rw [commutes] at doing
    obtain ⟨doing,grown⟩ := doingEarlier doing (by rw [waited,fresh]; exact Nat.zero_le k)
    exact ⟨⟨valid,doing⟩,start ▸ grown,progress⟩

end Listen

/-! A whole exchange. -/

section Whole
variable {fail : Error → Chip → Prop} (layout : Layout) (channel : Channel) (timeout : Nat)
  (transmit scanResponse : List UInt8) (advertiserAddress : Vector UInt8 6) (room : Nat) (start : Chip)

/- The advertisement and the scan response are staged, and the advertisement goes. -/
def advertisedCourse : Course where
  start := start
  waited := 0
  tx := encodeTransmitBuffer transmit
  response := encodeTransmitBuffer scanResponse
  launched := none
  demands := [Wrote lleTxBuffer layout.tx,Wrote lleMode lleModeTx]
  sent := 1
  begun := 0

/- Nothing has been started since, and the settings are as they were. -/
def Unlaunched (start chip : Chip) : Prop :=
  Afterwards start chip ∧ ∃ more, chip.log = start.log ++ more ∧ launches more = 0 ∧ transmissions more ≤ 1

theorem unlaunchedSame (start : Chip) : Unlaunched start start :=
  ⟨afterwardsSame start,[],(List.append_nil _).symm,rfl,Nat.zero_le 1⟩

theorem notLaunched {course : Course} (none : course.begun = 0 ∧ course.sent ≤ 1) {chip : Chip}
    (doing : Doing course chip) : Unlaunched course.start chip := by
  obtain ⟨more,log,_,sent,begun⟩ := doing.log
  exact ⟨doingAfterwards doing,more,log,begun.trans none.1,sent ▸ none.2⟩

theorem settles {course : Course} (polls : Nat) :
    Triple (Doing course) (pollSettle polls) (fun _ => Doing course) fun _ => Doing course := by
  induction polls with
  | zero => exact throwTriple fun _ doing => doing
  | succ polls ih =>
    exact bindTriple (readQuiet lleOperationCountdown course _) fun _ =>
      iteTriple (fun _ => pureTriple fun _ doing => doing) fun _ => ih

theorem settleWait {course : Course} (none : course.begun = 0 ∧ course.sent ≤ 1) :
    Triple (Doing course) waitForSettleCountdown (fun _ => Doing course) fun _ => Unlaunched course.start :=
  weakenTriple (settles maxOperationPolls) (fun _ doing => doing) (fun _ _ doing => doing)
    fun _ _ doing => notLaunched none doing

theorem startsTransmit {course : Course} :
    Triple (Doing course) startTransmitOperation (fun _ chip => ∃ since, Doing (course.launches 2 since) chip) fail :=
  quietThen (modifyQuiet fun _ => elsewhere (by decide)) fun _ =>
    quietThen (modifyQuiet fun _ => elsewhere (by decide)) fun _ => writeLaunches course (.inr rfl)

theorem preparesTransmit {course : Course} :
    Triple (Doing course) (prepareCommonOperation lleModeTx) (fun _ => Doing course.sends) fail :=
  quietThen (configHighQuiet _) fun _ => quietThen (modifyQuiet fun _ => elsewhere (by decide)) fun _ =>
    quietThen (bbModeQuiet _) fun _ => quietThen analogQuiet fun _ => writeSends course

theorem stagesResponse {course : Course} (none : course.begun = 0 ∧ course.sent ≤ 1) :
    Triple (Doing course) (stageResponse layout scanResponse)
      (fun _ => Doing { course with response := encodeTransmitBuffer scanResponse }) fun _ => Unlaunched course.start := by
  have filled : ∀ bank, Triple (Doing course) (modify fun chip => { chip with responseBuffer := bank })
      (fun _ => Doing { course with response := bank }) fun (_ : Error) => Unlaunched course.start := fun bank =>
    modifyTriple fun _ doing => ⟨doing.moments,doing.clock,doing.tx,rfl,doing.log,
      settledTrans doing.settings ⟨fun _ _ => rfl,rfl,rfl,rfl,rfl⟩,doing.clean⟩
  exact rejectTriple (fun _ _ doing => notLaunched none doing) fun _ =>
    bindTriple (filled (encodeTransmitBuffer scanResponse)) fun _ => pureTriple fun _ doing => doing

theorem armsAdvertising :
    Triple (fun chip => chip = start) (armAdvertising layout channel transmit scanResponse)
      (fun _ chip => ReadyFor transmit start ∧
        ∃ since, Doing ((advertisedCourse layout transmit scanResponse start).launches 2 since) chip)
      fun _ => Unlaunched start := by
  refine bindTriple (stages layout channel transmit start fun _ => unlaunchedSame start) fun _ =>
    assumeTriple fun able => ?_
  have quiet : (staged layout transmit start).begun = 0 ∧ (staged layout transmit start).sent ≤ 1 := ⟨rfl,Nat.zero_le 1⟩
  refine bindTriple (stagesResponse layout scanResponse quiet) fun _ => ?_
  refine quietThen receiveBufferQuiet fun _ => quietThen (writeQuiet (elsewhere (by decide))) fun _ => ?_
  refine bindTriple preparesTransmit fun _ => quietThen (modifyQuiet fun _ => elsewhere (by decide)) fun _ =>
    quietThen (writeQuiet (elsewhere (by decide))) fun _ => bindTriple (clearBbQuiet rfl) fun _ => ?_
  refine quietThen (writeQuiet (elsewhere (by decide))) fun _ =>
    bindTriple (settleWait ⟨rfl,le_refl 1⟩) fun _ => ?_
  refine quietThen (transmitPhyQuiet _) fun _ => quietThen (captureCountdownQuiet _) fun _ =>
    quietThen (storeSeenQuiet false) fun _ => bindTriple startsTransmit fun _ => ?_
  exact existsTriple fun since => quietThen nowQuiet fun _ => pureTriple fun _ doing => ⟨able,since,doing⟩

theorem stoppedQuiet {α : Type} {m : Operation α} (quiet : Quiet m) (course : Course) (since : Nat) (s : Listening) :
    Triple (Stopped layout transmit advertiserAddress room course since s) m
      (fun _ => Stopped layout transmit advertiserAddress room course since s) fail := by
  rintro chip (⟨valid,doing⟩ | ⟨payload,good,timestampUs,idle,received,sized,copied⟩)
  · exact afterTriple (quiet _ fail) (fun _ _ doing => .inl ⟨valid,doing⟩) chip doing
  · exact afterTriple (copiedQuiet quiet)
      (fun _ _ copied => .inr ⟨payload,good,timestampUs,idle,received,sized,copied⟩) chip copied

theorem concludesAdvertising (course : Course) (since : Nat) (s : Listening) :
    Triple (Stopped layout transmit advertiserAddress room course since s) (concludeAdvertising s)
      (fun r chip => ShutDown chip ∧ s.received = some (r.payload,r.crcOk,r.timestampUs) ∧
        Stopped layout transmit advertiserAddress room course since s chip)
      fun _ chip => ShutDown chip ∧ Stopped layout transmit advertiserAddress room course since s chip := by
  refine bindTriple (stoppedQuiet layout transmit advertiserAddress room rssiQuiet course since s) fun rssiDbm => ?_
  refine bindTriple (beforeTriple (bothTriple shutsDown
    (stoppedQuiet layout transmit advertiserAddress room shutDownQuiet course since s))
    fun _ stopped => ⟨trivial,stopped⟩) fun _ => ?_
  cases s.received with
  | none => exact throwTriple fun _ both => both
  | some received => exact pureTriple fun chip ⟨shut,stopped⟩ => ⟨shut,rfl,stopped⟩

/- What the exchange of one advertisement has made of the log. -/
structure Advertised (s : Listening) (since : Nat) (chip : Chip) (more : List Entry) : Prop where
  log : chip.log = start.log ++ more
  once : launches more = 1
  silent : s.responding = false → transmissions more = 1
  answered : s.responding = true → transmissions more = 2 ∧ chip.responseBuffer = encodeTransmitBuffer scanResponse ∧
    ∃ payload timestampUs, s.received = some (payload,true,timestampUs) ∧
      isScanRequest payload (ownAddress transmit advertiserAddress) = true ∧ InOrder
        ([Wrote lleTxBuffer layout.tx,Wrote lleMode lleModeTx,Launched 2 since,Unbroken start.moments since] ++
          packetOf payload ++ [Wrote lleTxBuffer layout.response,Wrote lleMode lleModeTx]) more

theorem heardLog {since : Nat} {s : Listening} {chip : Chip}
    (heard : Heard layout transmit advertiserAddress room
      ((advertisedCourse layout transmit scanResponse start).launches 2 since) since s chip) :
    ∃ more, Advertised layout transmit scanResponse advertiserAddress start s since chip more := by
  obtain ⟨⟨idle,_⟩ | ⟨payload,timestampUs,responding,received,request,_⟩,doing⟩ := heard <;>
    unfold listenCourse at doing
  · rw [idle] at doing
    obtain ⟨more,log,_,sent,begun⟩ := doing.log
    exact ⟨more,log,begun,fun _ => sent,fun absent => absurd (idle.symm.trans absent) Bool.false_ne_true⟩
  · rw [responding,received] at doing
    obtain ⟨more,log,shown,sent,begun⟩ := doing.log
    refine ⟨more,log,begun,fun absent => absurd (absent.symm.trans responding) Bool.false_ne_true,
      fun _ => ⟨sent,doing.response,payload,timestampUs,received,request,?_⟩⟩
    show InOrder (_ ++ ([Wrote lleTxBuffer layout.response] ++ [Wrote lleMode lleModeTx])) more
    rw [← List.append_assoc]
    exact shown

theorem stoppedLog {since : Nat} {s : Listening} {chip : Chip}
    (stopped : Stopped layout transmit advertiserAddress room
      ((advertisedCourse layout transmit scanResponse start).launches 2 since) since s chip) :
    ∃ more, Advertised layout transmit scanResponse advertiserAddress start s since chip more := by
  obtain heard | ⟨_,_,_,idle,_,_,doing,_⟩ := stopped
  · exact heardLog layout transmit scanResponse advertiserAddress room start heard
  · obtain ⟨more,log,_,sent,begun⟩ := doing.log
    exact ⟨more,log,begun,fun _ => sent,fun absent => absurd (idle.symm.trans absent) Bool.false_ne_true⟩

/- An exchange failed before anything was launched, or is somewhere in its loop, or is over. -/
def Ended (outcome : Except Error (Option ReceivedPacket)) (chip : Chip) : Prop :=
  (∃ e, outcome = .error e ∧ Unlaunched start chip) ∨ ∃ since s,
    (outcome = .ok none ∧ Heard layout transmit advertiserAddress room
      ((advertisedCourse layout transmit scanResponse start).launches 2 since) since s chip) ∨
    Stopped layout transmit advertiserAddress room
      ((advertisedCourse layout transmit scanResponse start).launches 2 since) since s chip ∧ ShutDown chip ∧
      ∀ r, outcome = .ok (some r) → s.received = some (r.payload,r.crcOk,r.timestampUs)

theorem advertises (turns : Nat) :
    Triple (fun chip => chip = start)
      (advertisingExchange layout channel timeout transmit scanResponse advertiserAddress room turns)
      (fun outcome => Ended layout transmit scanResponse advertiserAddress room start (.ok outcome))
      fun e => Ended layout transmit scanResponse advertiserAddress room start (.error e) := by
  refine bindTriple (weakenTriple (armsAdvertising layout channel transmit scanResponse start) (fun _ same => same)
    (fun _ _ armed => armed) fun e _ idle => .inl ⟨e,rfl,idle⟩) fun deadline => ?_
  refine assumeTriple fun _ => existsTriple fun since => ?_
  refine bindTriple (beforeTriple (listenLoops layout channel timeout transmit scanResponse advertiserAddress room since
    rfl turns ⟨deadline,false,false,none,none⟩) fun _ doing => ⟨.inl ⟨rfl,rfl⟩,doing⟩) fun finished => ?_
  cases finished with
  | none =>
    rintro chip (⟨_,s,heard⟩ | ⟨s,absent,_⟩)
    · exact .inr ⟨since,s,.inl ⟨rfl,heard⟩⟩
    · cases absent
  | some f =>
    rintro chip (⟨absent,_⟩ | ⟨s,same,stopped⟩)
    · cases absent
    cases same
    refine bindTriple (weakenTriple (concludesAdvertising layout transmit advertiserAddress room _ since f)
      (fun _ stopped => stopped) (fun _ _ told => told) fun e _ ⟨shut,stopped⟩ =>
        .inr ⟨since,f,.inr ⟨stopped,shut,fun _ absent => (nomatch absent)⟩⟩) (fun r => ?_) chip stopped
    refine pureTriple fun chip ⟨shut,received,stopped⟩ => .inr ⟨since,f,.inr ⟨stopped,shut,fun r' same => ?_⟩⟩
    cases same
    exact received

theorem advertisingAfterwards (turns : Nat) : Afterwards start
    (result (advertisingExchange layout channel timeout transmit scanResponse advertiserAddress room turns) start).2 := by
  have heard : ∀ since s chip, Heard layout transmit advertiserAddress room
      ((advertisedCourse layout transmit scanResponse start).launches 2 since) since s chip → Afterwards start chip := by
    intro since s chip heard
    have began := (listenKeeps layout since ((advertisedCourse layout transmit scanResponse start).launches 2 since) s).2.1
    have after := doingAfterwards heard.2
    rwa [began] at after
  have ended := tripleOutcome (advertises layout channel timeout transmit scanResponse advertiserAddress room start turns) rfl
  obtain ⟨_,_,after,_⟩ | ⟨since,s,⟨_,waiting⟩ | ⟨stopped,_⟩⟩ := ended
  · exact after
  · exact heard since s _ waiting
  · obtain waiting | ⟨_,_,_,_,_,_,doing,_⟩ := stopped
    · exact heard since s _ waiting
    · exact doingAfterwards doing

/- A finished exchange has shut the radio down. -/
theorem advertisingRests (turns : Nat) {r : ReceivedPacket}
    (finished : (result (advertisingExchange layout channel timeout transmit scanResponse advertiserAddress room turns)
      start).1 = .ok (some r)) :
    ShutDown (result (advertisingExchange layout channel timeout transmit scanResponse advertiserAddress room turns)
      start).2 := by
  have ended := tripleOutcome (advertises layout channel timeout transmit scanResponse advertiserAddress room start turns) rfl
  rw [finished] at ended
  obtain ⟨_,absent,_⟩ | ⟨since,s,⟨absent,_⟩ | ⟨_,shut,_⟩⟩ := ended
  · cases absent
  · cases absent
  · exact shut

/- A scan response goes at most once, and only for a packet that was read octet by octet as a scan
request for this device, with no CRC error since the launch. -/
theorem scanAnsweredOnEvidence (turns : Nat) :
    let after : Chip := (result (advertisingExchange layout channel timeout transmit scanResponse advertiserAddress room turns)
      start).2
    ∃ more, after.log = start.log ++ more ∧ launches more ≤ 1 ∧ transmissions more ≤ 2 ∧ (transmissions more = 2 →
      after.responseBuffer = encodeTransmitBuffer scanResponse ∧ ∃ payload since,
        isScanRequest payload (ownAddress transmit advertiserAddress) = true ∧ InOrder
          ([Wrote lleTxBuffer layout.tx,Wrote lleMode lleModeTx,Launched 2 since,Unbroken start.moments since] ++
            packetOf payload ++ [Wrote lleTxBuffer layout.response,Wrote lleMode lleModeTx]) more) := by
  have ended := tripleOutcome (advertises layout channel timeout transmit scanResponse advertiserAddress room start turns) rfl
  have known : ∀ s since chip more, Advertised layout transmit scanResponse advertiserAddress start s since chip more →
      launches more ≤ 1 ∧ transmissions more ≤ 2 ∧ (transmissions more = 2 →
        chip.responseBuffer = encodeTransmitBuffer scanResponse ∧ ∃ payload since,
          isScanRequest payload (ownAddress transmit advertiserAddress) = true ∧ InOrder
            ([Wrote lleTxBuffer layout.tx,Wrote lleMode lleModeTx,Launched 2 since,Unbroken start.moments since] ++
              packetOf payload ++ [Wrote lleTxBuffer layout.response,Wrote lleMode lleModeTx]) more) := by
    intro s since chip more done
    cases responding : s.responding with
    | false =>
      have one := done.silent responding
      exact ⟨done.once.le,one ▸ Nat.le_succ 1,fun two => absurd (one.symm.trans two) (by decide)⟩
    | true =>
      obtain ⟨two,bank,payload,_,_,request,shown⟩ := done.answered responding
      exact ⟨done.once.le,two.le,fun _ => ⟨bank,payload,since,request,shown⟩⟩
  obtain ⟨_,_,_,more,log,none,few⟩ | ⟨since,s,⟨_,heard⟩ | ⟨stopped,_⟩⟩ := ended
  · exact ⟨more,log,none ▸ Nat.zero_le 1,Nat.le_succ_of_le few,fun two => absurd two (Nat.ne_of_lt (Nat.lt_succ_of_le few))⟩
  · obtain ⟨more,done⟩ := heardLog layout transmit scanResponse advertiserAddress room start heard
    exact ⟨more,done.log,known s since _ more done⟩
  · obtain ⟨more,done⟩ := stoppedLog layout transmit scanResponse advertiserAddress room start stopped
    exact ⟨more,done.log,known s since _ more done⟩

/- What a finished exchange is worth. -/
structure Returned (r : ReceivedPacket) (after : Chip) (more : List Entry) (since : Nat) : Prop where
  log : after.log = start.log ++ more
  answered : transmissions more = 2 → r.crcOk = true ∧
    isScanRequest r.payload (ownAddress transmit advertiserAddress) = true
  heard : r.crcOk = true → InOrder (Launched 2 since :: Unbroken start.moments since :: packetOf r.payload) more
  sized : Sized room r.payload

theorem exchangeReturned (turns : Nat) {r : ReceivedPacket}
    (finished : (result (advertisingExchange layout channel timeout transmit scanResponse advertiserAddress room turns)
      start).1 = .ok (some r)) :
    ∃ more since, Returned transmit advertiserAddress room start r
      (result (advertisingExchange layout channel timeout transmit scanResponse advertiserAddress room turns) start).2
      more since := by
  have ended := tripleOutcome (advertises layout channel timeout transmit scanResponse advertiserAddress room start turns) rfl
  rw [finished] at ended
  obtain ⟨_,absent,_⟩ | ⟨since,s,⟨absent,_⟩ | ⟨stopped,_,returned⟩⟩ := ended
  · cases absent
  · cases absent
  have received := returned r rfl
  obtain heard | ⟨payload,good,timestampUs,idle,kept,sized,copied⟩ := stopped
  · obtain ⟨more,done⟩ := heardLog layout transmit scanResponse advertiserAddress room start heard
    obtain ⟨_,silent⟩ | ⟨payload,timestampUs,responding,kept,_,sized⟩ := heard.1
    · rw [silent] at received
      cases received
    obtain ⟨_,_,payload',_,kept',request,shown⟩ := done.answered responding
    have same := Option.some.inj (received.symm.trans kept)
    have same' := Option.some.inj (received.symm.trans kept')
    have packet : r.payload = payload := congrArg Prod.fst same
    have packet' : r.payload = payload' := congrArg Prod.fst same'
    have good : r.crcOk = true := congrArg (·.2.1) same
    refine ⟨more,since,done.log,fun _ => ⟨good,packet' ▸ request⟩,fun _ => ?_,packet ▸ sized⟩
    rw [packet']
    refine shownFewer shown (List.Sublist.trans ?_ (List.sublist_append_left _ _))
    exact List.sublist_append_right [Wrote lleTxBuffer layout.tx,Wrote lleMode lleModeTx] _
  · rw [received] at kept
    cases kept
    obtain ⟨more,log,_,sent,_⟩ := copied.1.log
    have one : transmissions more = 1 := sent
    refine ⟨more,since,log,fun two => absurd (one.symm.trans two) (by decide),fun good => ?_,sized⟩
    rw [good] at copied
    exact shownFewer (copiedLog copied log)
      (List.sublist_append_right [Wrote lleTxBuffer layout.tx,Wrote lleMode lleModeTx] _)

/- What a finished exchange returns: never more than the buffer holds, answered only if it is an
intact scan request for this device, and intact only if no moment since the launch has failed its
CRC; its octets are then those that were read. -/
theorem advertisingReportsTruly (turns : Nat) (r : ReceivedPacket)
    (finished : (result (advertisingExchange layout channel timeout transmit scanResponse advertiserAddress room turns)
      start).1 = .ok (some r)) :
    ∃ more since, (result (advertisingExchange layout channel timeout transmit scanResponse advertiserAddress room turns)
        start).2.log = start.log ++ more ∧
      (transmissions more = 2 → r.crcOk = true ∧
        isScanRequest r.payload (ownAddress transmit advertiserAddress) = true) ∧
      (r.crcOk = true → InOrder (Launched 2 since :: Unbroken start.moments since :: packetOf r.payload) more) ∧
      2 ≤ r.payload.length ∧ r.payload.length ≤ room ∧ r.payload.length ≤ maxLegacyAdvWireLen := by
  obtain ⟨more,since,returned⟩ := exchangeReturned layout channel timeout transmit scanResponse advertiserAddress room start
    turns finished
  exact ⟨more,since,returned.log,returned.answered,returned.heard,returned.sized⟩

/- An advertisement to which the device has heard a scan request. -/
theorem steadyScanReports : ∃ (r : ReceivedPacket) (more : List Entry),
    (result (advertisingExchange ⟨0,0,0⟩ ⟨37,by decide⟩ 0 [0x40,0] [0x44,0] (Vector.replicate 6 1) 39 20)
      (steady (lleStatusTxToRx ||| lleStatusRxToTx ||| lleStatusTxComplete)
        (encodeTransmitBuffer [0x83,12,2,2,2,2,2,2,1,1,1,1,1,1]))).2.log = [] ++ more ∧
      (transmissions more = 2 → r.crcOk = true ∧
        isScanRequest r.payload (ownAddress [0x40,0] (Vector.replicate 6 1)) = true) := by
  obtain ⟨r,ended⟩ := finishesWith (show finishes (result
    (advertisingExchange ⟨0,0,0⟩ ⟨37,by decide⟩ 0 [0x40,0] [0x44,0] (Vector.replicate 6 1) 39 20)
    (steady (lleStatusTxToRx ||| lleStatusRxToTx ||| lleStatusTxComplete)
      (encodeTransmitBuffer [0x83,12,2,2,2,2,2,2,1,1,1,1,1,1]))).1 = true by decide +kernel)
  obtain ⟨more,_,log,answered,_⟩ := advertisingReportsTruly ⟨0,0,0⟩ ⟨37,by decide⟩ 0 [0x40,0] [0x44,0]
    (Vector.replicate 6 1) 39 (steady (lleStatusTxToRx ||| lleStatusRxToTx ||| lleStatusTxComplete)
      (encodeTransmitBuffer [0x83,12,2,2,2,2,2,2,1,1,1,1,1,1])) 20 r ended
  exact ⟨r,more,log,answered⟩

theorem advertisingWithin (turns : Nat) :
    advertisingExchange layout channel timeout transmit scanResponse advertiserAddress room turns =
      loopWithin (armAdvertising layout channel transmit scanResponse)
        (fun _ => clockedPass Listening.deadline
          (listenTurn layout channel timeout transmit scanResponse advertiserAddress room))
        (fun deadline => ⟨deadline,false,false,none,none⟩) concludeAdvertising turns := by
  unfold advertisingExchange loopWithin listenLoop
  congr 1
  funext deadline
  congr 1
  funext finished
  cases finished <;> rfl

/- The exchange always comes to an end, with the radio shut down unless nothing was launched. -/
theorem advertisingComesToRest (runs : RunsOn start) : ∃ enough outcome after, (∀ turns, enough ≤ turns →
      result (advertisingExchange layout channel timeout transmit scanResponse advertiserAddress room turns) start =
        (Except.map some outcome,after)) ∧
      (ShutDown after ∨ ∃ more, after.log = start.log ++ more ∧ launches more = 0) := by
  obtain ⟨enough,outcome,after,settled⟩ : ∃ enough outcome after, ∀ turns, enough ≤ turns →
      result (advertisingExchange layout channel timeout transmit scanResponse advertiserAddress room turns) start =
        (Except.map some outcome,after) := by
    simp only [advertisingWithin]
    refine withinEnds start fun deadline chip armed => ?_
    have ready := armsAdvertising layout channel transmit scanResponse start start rfl
    rw [armed] at ready
    obtain ⟨_,since,doing⟩ := ready
    exact listenOver layout channel timeout transmit scanResponse advertiserAddress room since rfl rfl runs _
      ⟨.inl ⟨rfl,rfl⟩,doing⟩
  refine ⟨enough,outcome,after,settled,?_⟩
  have ended := tripleOutcome
    (advertises layout channel timeout transmit scanResponse advertiserAddress room start enough) rfl
  rw [settled enough (le_refl enough)] at ended
  obtain ⟨_,_,_,more,log,none,_⟩ | ⟨_,_,⟨absent,_⟩ | ⟨_,shut,_⟩⟩ := ended
  · exact .inr ⟨more,log,none⟩
  · cases outcome <;> cases absent
  · exact .inl shut

end Whole

theorem steadyScanComesToRest : ∃ enough outcome after, (∀ turns, enough ≤ turns →
      result (advertisingExchange ⟨0,0,0⟩ ⟨37,by decide⟩ 0 [0x40,0] [0x44,0] (Vector.replicate 6 1) 39 turns)
        (steady 0 (encodeTransmitBuffer [])) = (Except.map some outcome,after)) ∧
      (ShutDown after ∨ ∃ more, after.log = (steady 0 (encodeTransmitBuffer [])).log ++ more ∧ launches more = 0) :=
  advertisingComesToRest ⟨0,0,0⟩ ⟨37,by decide⟩ 0 [0x40,0] [0x44,0] (Vector.replicate 6 1) 39
    (steady 0 (encodeTransmitBuffer [])) (steadyRunsOn 0 _)

end Ch58xHal.RadioAdvertising
