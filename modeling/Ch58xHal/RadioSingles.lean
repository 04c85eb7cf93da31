import Ch58xHal.RadioAdvertising

/-! A single transmission and a single reception. -/
namespace Ch58xHal.RadioSingles
open Routines Triples RadioChip RadioOperations RadioSafety RadioExchange RadioAdvertising OrderedEvidence ChannelSelection
open Advertising (Error)

variable {fail : Error → Chip → Prop} {course : Course} {chip : Chip}

theorem shutElapse (shut : ShutDown chip) : ShutDown (elapse chip) := by
  have ended := elapses chip
  refine ⟨ended.rxCaptureCountdown.trans shut.capture,(ended.held lleMode rfl).trans shut.lle,?_,?_⟩
  · rw [ended.held analogEnable08 rfl]
    exact shut.analog
  · rw [ended.held bbConfig rfl]
    exact shut.baseband

/-! Transmission. -/

/- A wait that succeeds has seen one of the flags it waits for. -/
theorem waits (course : Course) (mask : UInt32) (polls : Nat) :
    Triple (Doing course) (pollOperation mask polls) (fun _ => Doing (course.shows (Saw lleStatus mask)))
      fun _ => Doing course := by
  induction polls with
  | zero => exact throwTriple fun _ doing => doing
  | succ polls ih =>
    refine bindTriple (readShows course lleStatus) fun status => ?_
    refine iteTriple (fun up => pureTriple fun _ seen => seen.2 mask up) fun _ => ?_
    refine beforeTriple ?_ fun _ seen => seen.1
    exact quietThen (readQuiet lleOperationCountdown) fun _ => iteTriple (fun _ => throwTriple fun _ doing => doing) fun _ => ih

def transmittedCourse (layout : Layout) (packet : List UInt8) (start : Chip) (since : Nat) : Course :=
  (staged layout packet start).sends.launches 2 since

/- Every exit: refused, never launched, or shut down; done only if the device said so. -/
def Transmitted (layout : Layout) (packet : List UInt8) (start : Chip) (outcome : Except Error Unit) (chip : Chip) : Prop :=
  ((∃ e, outcome = .error e) ∧ Unlaunched start chip) ∨ ShutDown chip ∧ ∃ since,
    Doing (transmittedCourse layout packet start since) chip ∧ (outcome = .ok () →
      Doing ((transmittedCourse layout packet start since).shows (Saw lleStatus lleStatusTxComplete)) chip)

theorem transmits (layout : Layout) (channel : Channel) (packet : List UInt8) (start : Chip) :
    Triple (fun chip => chip = start) (transmitBlocking layout channel packet)
      (fun _ => Transmitted layout packet start (.ok ())) fun e => Transmitted layout packet start (.error e) := by
  have refused : ∀ e, Transmitted layout packet start (.error e) start :=
    fun e => .inl ⟨⟨e,rfl⟩,unlaunchedSame start⟩
  refine bindTriple (stages layout channel packet start refused) fun _ => assumeTriple fun able => ?_
  refine bindTriple preparesTransmit fun _ => quietThen (modifyQuiet fun _ => elsewhere (by decide)) fun _ =>
    quietThen (writeQuiet (elsewhere (by decide))) fun _ => bindTriple (clearBbQuiet rfl) fun _ => ?_
  refine quietThen (writeQuiet (elsewhere (by decide))) fun _ => ?_
  refine bindTriple (weakenTriple (settleWait ⟨rfl,le_refl 1⟩) (fun _ doing => doing) (fun _ _ doing => doing)
    fun e _ idle => .inl ⟨⟨e,rfl⟩,idle⟩) fun _ => ?_
  refine quietThen (transmitPhyQuiet _) fun _ => bindTriple startsTransmit fun _ => existsTriple fun since => ?_
  have waited : Triple (Doing (transmittedCourse layout packet start since))
      (tryCatch (waitForOperation lleStatusTxComplete >>= fun _ => pure (Except.ok ())) fun error => pure (.error error))
      (fun waited chip => Doing (transmittedCourse layout packet start since) chip ∧ (waited = .ok () →
        Doing ((transmittedCourse layout packet start since).shows (Saw lleStatus lleStatusTxComplete)) chip))
      fun e => Transmitted layout packet start (.error e) := by
    refine catchTriple (bindTriple (waits _ lleStatusTxComplete maxOperationPolls) fun _ =>
      pureTriple fun _ seen => ⟨showsLess seen,fun _ => seen⟩) fun e => pureTriple fun _ doing => ⟨doing,?_⟩
    exact fun absent => (nomatch absent)
  refine bindTriple waited fun waited => ?_
  refine bindTriple (beforeTriple (bothTriple shutsDown (alsoQuiet shutDownQuiet)) fun _ both => ⟨trivial,both⟩) fun _ => ?_
  cases waited with
  | ok done => exact pureTriple fun _ ⟨shut,doing,seen⟩ => .inr ⟨shut,since,doing,fun _ => seen rfl⟩
  | error e => exact throwTriple fun _ ⟨shut,doing,_⟩ => .inr ⟨shut,since,doing,fun absent => (nomatch absent)⟩

/- A transmission sends only the staged packet, at most once; it counts as done only when the
device has said so, and nothing that was launched is left running. -/
theorem transmissionIsTrueAndShut (layout : Layout) (channel : Channel) (packet : List UInt8) (start : Chip) :
    let ran := result (transmitBlocking layout channel packet) start
    ∃ more, ran.2.log = start.log ++ more ∧ transmissions more ≤ 1 ∧
      ((launches more = 0 ∧ ∃ e, ran.1 = .error e) ∨
        launches more = 1 ∧ ShutDown ran.2 ∧ ran.2.txBuffer = encodeTransmitBuffer packet ∧ (ran.1 = .ok () →
          ∃ since, InOrder [Wrote lleTxBuffer layout.tx,Wrote lleMode lleModeTx,Launched 2 since,
            Saw lleStatus lleStatusTxComplete] more)) := by
  obtain ⟨failed,_,more,log,none,few⟩ | ⟨shut,since,doing,told⟩ :=
    tripleOutcome (transmits layout channel packet start) rfl
  · exact ⟨more,log,few,.inl ⟨none,failed⟩⟩
  obtain ⟨more,log,_,sent,begun⟩ := doing.log
  refine ⟨more,log,sent.le,.inr ⟨begun,shut,doing.tx,fun ended => ⟨since,?_⟩⟩⟩
  obtain ⟨more',log',shown,_⟩ := (told ended).log
  have same : more = more' := List.append_cancel_left (log.symm.trans log')
  exact same ▸ shown

/-! Reception. -/

/- The poll acknowledges the capture, and leaves the CRC flag to the consumer of the packet. -/
theorem captureQuiet (started : Bool) : Quiet (serveCapture started) := by
  have spared : ∀ status : UInt32, Harmless bbInterruptStatus (captureAck status) := by
    intro status
    refine ⟨⟨fun same => absurd same (by decide),fun same => absurd same (by decide)⟩,fun _ => ?_,by decide⟩
    unfold captureAck
    rw [UInt32.and_assoc]
    exact UInt32.and_zero
  exact bindQuiet (readQuiet bbInterruptStatus) fun status => iteQuiet
    (bindQuiet (writeQuiet (spared status)) fun _ => bindQuiet (writeQuiet (elsewhere (by decide))) fun _ =>
      bindQuiet (writeQuiet (elsewhere (by decide))) fun _ => pureQuiet true) (pureQuiet started)

theorem polls (course : Course) (deadline polls : Nat) (started : Bool) :
    Triple (Doing course) (pollReceive deadline polls started) (fun _ => Doing course) fun _ => Doing course := by
  induction polls generalizing started with
  | zero => exact throwTriple fun _ doing => doing
  | succ polls ih =>
    refine quietThen (captureQuiet started) fun started => ?_
    have complete : Quiet (receiveComplete started) :=
      iteQuiet (bindQuiet (readQuiet lleStatus) fun _ => pureQuiet _) (pureQuiet false)
    have ended : Quiet (windowOver deadline started) := iteQuiet (pureQuiet false) (bindQuiet nowQuiet fun _ => pureQuiet _)
    refine quietThen complete fun _ => iteTriple (fun _ => pureTriple fun _ doing => doing) fun _ => ?_
    refine quietThen (readQuiet lleOperationCountdown) fun _ => iteTriple (fun _ => throwTriple fun _ doing => doing) fun _ => ?_
    exact quietThen ended fun _ => iteTriple (fun _ => throwTriple fun _ doing => doing) fun _ => ih started

def receivedCourse (start : Chip) (since : Nat) : Course where
  start := start
  waited := 0
  tx := start.txBuffer
  response := start.responseBuffer
  launched := some since
  demands := [Launched 1 since]
  sent := 0
  begun := 1

/- At rest, and the capture interrupt is on again. -/
def Restored (chip : Chip) : Prop := ShutDown chip ∧ chip.interruptEnabled = true

theorem restoredElapse (restored : Restored chip) : Restored (elapse chip) :=
  ⟨shutElapse restored.1,(elapses chip).interruptEnabled.trans restored.2⟩

def Received (room : Nat) (start : Chip) (outcome : Except Error ReceivedPacket) (chip : Chip) : Prop :=
  ((∃ e, outcome = .error e) ∧ chip = start) ∨ Restored chip ∧ ∃ since, Doing (receivedCourse start since) chip ∧
    ∀ r, outcome = .ok r → Copied (receivedCourse start since) since r.crcOk r.payload chip ∧
      2 ≤ r.payload.length ∧ r.payload.length ≤ room ∧ r.payload.length ≤ maxLegacyAdvWireLen

theorem receives (layout : Layout) (channel : Channel) (timeout room : Nat) (start : Chip) :
    Triple (fun chip => chip = start) (receiveBlocking layout channel timeout room)
      (fun r => Received room start (.ok r)) fun e => Received room start (.error e) := by
  have refused : ∀ e s, s = start → Received room start (.error e) s := fun e _ same => .inl ⟨⟨e,rfl⟩,same⟩
  refine getTriple fun chip same => ?_
  subst same
  refine rejectTriple (fun s _ => refused .hardware s) fun usable => ?_
  refine rejectTriple (fun s _ => refused .invalidPacket s) fun sized => ?_
  have begin : Triple (fun s => s = chip) (modify fun chip => { chip with rxBuffer := Vector.replicate rfDmaBufferLen 0xff })
      (fun _ => Doing ⟨chip,0,chip.txBuffer,chip.responseBuffer,none,[],0,0⟩) fun e => Received room chip (.error e) := by
    refine modifyTriple fun s same => ?_
    subst same
    exact ⟨rfl,⟨0,le_refl 0,rfl,rfl⟩,rfl,rfl,⟨[],(List.append_nil _).symm,nothingDemanded [],⟨rfl,rfl⟩⟩,
      ⟨fun _ _ => rfl,rfl,rfl,rfl,rfl⟩,fun since launched => nomatch launched⟩
  refine bindTriple begin fun _ => quietThen (writeQuiet (elsewhere (by decide))) fun _ => ?_
  refine quietThen (setReceiveChannelQuiet channel) fun _ => quietThen (modifyQuiet fun _ => elsewhere (by decide)) fun _ =>
    quietThen (writeQuiet (elsewhere (by decide))) fun _ => bindTriple (clearBbQuiet rfl) fun _ => ?_
  refine quietThen receivePhyQuiet fun _ => quietThen (interruptQuiet false) fun _ =>
    quietThen (writeQuiet (elsewhere (by decide))) fun _ => quietThen prepareReceiveQuiet fun _ => ?_
  refine quietThen nowQuiet fun begun => bindTriple (writeLaunches _ (.inl rfl)) fun _ => existsTriple fun since => ?_
  have waited : Triple (Doing (receivedCourse chip since))
      (tryCatch (waitForPolledReceiveOperation (begun + timeout) >>= fun _ => pure (Except.ok ()))
        fun error => pure (.error error))
      (fun _ => Doing (receivedCourse chip since)) fun e => Received room chip (.error e) :=
    catchTriple (bindTriple (polls _ _ maxOperationPolls false) fun _ => pureTriple fun _ doing => doing)
      fun e => pureTriple fun _ doing => doing
  refine bindTriple waited fun waited => bindTriple (crcOkShows rfl) fun good => ?_
  refine bindTriple (copies room _) fun payload => assumeTriple fun bounds => ?_
  refine bindTriple (copiedQuiet rssiQuiet) fun rssiDbm => ?_
  refine bindTriple (copiedAlso shutDownQuiet shutsDown) fun _ => ?_
  have enabled : Triple ShutDown (enableInterrupt true) (fun _ => Restored) fun e => Received room chip (.error e) :=
    modifyTriple fun s shut => ⟨⟨(shutElapse shut).capture,(shutElapse shut).lle,(shutElapse shut).analog,
      (shutElapse shut).baseband⟩,rfl⟩
  refine bindTriple (bothTriple enabled (copiedQuiet (interruptQuiet true))) fun _ => ?_
  cases waited with
  | error e => exact throwTriple fun s ⟨restored,copied⟩ => .inr ⟨restored,since,copied.1,fun _ absent => (nomatch absent)⟩
  | ok _ =>
    refine rejectTriple (fun s _ ⟨restored,copied⟩ => .inr ⟨restored,since,copied.1,fun _ absent => (nomatch absent)⟩)
      fun some_ => ?_
    have stamped : Triple Restored now (fun _ => Restored) fun e => Received room chip (.error e) :=
      fun s restored => restoredElapse restored
    refine bindTriple (bothTriple stamped (copiedQuiet nowQuiet)) fun timestampUs => pureTriple fun s ⟨restored,copied⟩ => ?_
    refine .inr ⟨restored,since,copied.1,fun r same => ?_⟩
    cases same
    obtain ⟨two,fits,longest⟩ := bounds fun empty => some_ (by rw [empty]; rfl)
    refine ⟨copied,two,fits,Nat.le_trans longest ?_⟩
    split <;> decide

/- A call that is refused leaves the radio untouched. Any other reception transmits nothing, is intact
only if no moment since the launch has failed its CRC and then the octets that were read, and leaves the
radio shut down with the capture interrupt on again. -/
theorem receptionIsTrueAndRestored (layout : Layout) (channel : Channel) (timeout room : Nat) (start : Chip) :
    let ran := result (receiveBlocking layout channel timeout room) start
    (∃ e, ran.1 = .error e) ∧ ran.2 = start ∨
      Restored ran.2 ∧ ∃ more, ran.2.log = start.log ++ more ∧ transmissions more = 0 ∧ launches more = 1 ∧
        ∀ r, ran.1 = .ok r → (r.crcOk = true → ∃ since,
            InOrder (Launched 1 since :: Unbroken start.moments since :: packetOf r.payload) more) ∧
          2 ≤ r.payload.length ∧ r.payload.length ≤ room ∧ r.payload.length ≤ maxLegacyAdvWireLen := by
  obtain same | ⟨restored,since,doing,told⟩ := tripleOutcome (receives layout channel timeout room start) rfl
  · exact .inl same
  obtain ⟨more,log,_,sent,begun⟩ := doing.log
  refine .inr ⟨restored,more,log,sent,begun,fun r ended => ?_⟩
  obtain ⟨copied,bounds⟩ := told r ended
  refine ⟨fun good => ⟨since,?_⟩,bounds⟩
  rw [good] at copied
  exact copiedLog copied log

end Ch58xHal.RadioSingles
