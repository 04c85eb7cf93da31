import Ch58xHal.RfFrontEnd
import Ch58xHal.HostCommands

/-! Any run of the radio's operations since it was made: nothing goes on the air before the die
has been measured, and the registers stay what the radio says of them. -/
namespace Ch58xHal.RadioRun
open Routines Triples RadioChip RadioOperations RadioSafety RadioExchange RadioAdvertising RadioSingles RfFrontEnd
open OrderedEvidence ChannelSelection
open Advertising (Error)
open RfCalibration (buildTable tableWords)

inductive Call where
  | setAccessAddress (accessAddress : UInt32)
  | setCrcInit (crcInit : UInt32)
  | initDigital
  | bringUp
  | transmit (channel : Channel) (packet : List UInt8)
  | receive (channel : Channel) (timeout room : Nat)
  | exchange (turns : Nat) (channel : Channel) (deadline timeout : Nat) (transmit : List UInt8) (room : Nat)
  | advertise (turns : Nat) (channel : Channel) (timeout : Nat) (transmit scanResponse : List UInt8)
      (advertiserAddress : Vector UInt8 6) (room : Nat)
  -- the device goes on while nothing is called
  | idle

def perform (layout : Layout) : Call → Operation Unit
  | .setAccessAddress accessAddress => setAccessAddress accessAddress
  | .setCrcInit crcInit => setCrcInit crcInit
  | .initDigital => initDigital layout
  | .bringUp => initializeRadio layout
  | .transmit channel packet => transmitBlocking layout channel packet
  | .receive channel timeout room => do let _ ← receiveBlocking layout channel timeout room
  | .exchange turns channel deadline timeout transmit room => do
    let _ ← exchange layout turns channel deadline timeout transmit room
  | .advertise turns channel timeout transmit scanResponse advertiserAddress room => do
    let _ ← advertisingExchange layout channel timeout transmit scanResponse advertiserAddress room turns
  | .idle => modify elapse

-- `Radio::new`, on whatever the registers hold
def newRadio (device : Chip) : Chip :=
  { device with
    physicalDmaOverflows := 0
    unsupportedPacketLengths := 0
    accessAddress := ConnectIndCodec.advAccessAddress
    crcInit := HostCommands.advCrcInit
    digitalInitialized := false
    frontendCalibrated := false
    log := [] }

/- A call that fails leaves what it has done so far. -/
def run (layout : Layout) (calls : List Call) (chip : Chip) : Chip :=
  calls.foldl (fun chip call => (result (perform layout call) chip).2) chip

def Starts (entry : Entry) : Prop :=
  entry.2 = .write lleMode lleModeTx ∨ entry.2 = .write lleCommand 1 ∨ entry.2 = .write lleCommand 2

/- The die has been measured at the three frequencies, and they were apart. -/
def Measured (log : List Entry) : Prop := ∃ ms, ¬Degenerate ms ∧ InOrder (evidence ms) log

structure Trusted (chip : Chip) : Prop where
  masked : chip.crcInit &&& 0x00ffffff = chip.crcInit
  mirrored : chip.digitalInitialized = true → Mirrored chip
  tuned : chip.frontendCalibrated = true → chip.digitalInitialized = true ∧ ∃ ms table, InOrder (evidence ms) chip.log ∧
    buildTable ms.mhz2401 ms.mhz2440 ms.mhz2480 = some (.ok table) ∧
    ∀ i < tableWords, ∃ old, chip.words (tuneTable i) = tableWord table.words old i
  earned : ∀ before entry after, chip.log = before ++ entry :: after → Starts entry → Measured before

theorem newTrusted (device : Chip) : Trusted (newRadio device) := by
  have masked : HostCommands.advCrcInit &&& 0x00ffffff = HostCommands.advCrcInit := by decide
  refine ⟨masked,fun absent => (nomatch absent),fun absent => (nomatch absent),fun before entry after split _ => ?_⟩
  have empty : [] = before ++ entry :: after := split
  simp at empty

/-! What one call keeps. -/

section Steps
variable {start after : Chip} {more : List Entry}

theorem startsCounted {entry : Entry} (starts : Starts entry) (member : entry ∈ more) :
    0 < transmissions more ∨ 0 < launches more := by
  rcases starts with tx | command
  · exact .inl (List.countP_pos_iff.mpr ⟨entry,member,decide_eq_true tx⟩)
  · exact .inr (List.countP_pos_iff.mpr ⟨entry,member,decide_eq_true command⟩)

/- More of the log starts nothing, or comes after a measurement. -/
theorem earnedMore (log : after.log = start.log ++ more)
    (able : Measured start.log ∨ (transmissions more = 0 ∧ launches more = 0))
    (earned : ∀ before entry rest, start.log = before ++ entry :: rest → Starts entry → Measured before) :
    ∀ before entry rest, after.log = before ++ entry :: rest → Starts entry → Measured before := by
  intro before entry rest split starts
  have later : ∀ c, before = start.log ++ c → entry ∈ more → Measured before := by
    rintro c rfl member
    rcases able with ⟨ms,sound,shown⟩ | ⟨silent,idle⟩
    · exact ⟨ms,sound,shownLater shown c⟩
    · rcases startsCounted starts member with sent | begun
      · exact absurd silent (Nat.ne_of_gt sent)
      · exact absurd idle (Nat.ne_of_gt begun)
  obtain ⟨c,early,rejoined⟩ | ⟨c,longer,rejoined⟩ := List.append_eq_append_iff.mp (log.symm.trans split)
  · exact later c early (rejoined ▸ List.mem_append_right c List.mem_cons_self)
  · cases c with
    | nil =>
      rw [List.append_nil] at longer
      have whole : entry :: rest = more := rejoined
      exact later [] (by rw [longer,List.append_nil]) (whole ▸ List.mem_cons_self)
    | cons first c =>
      obtain ⟨rfl,_⟩ := List.cons.inj rejoined
      exact earned before entry c longer starts

theorem tunedMeasured (trusted : Trusted start) (calibrated : start.frontendCalibrated = true) : Measured start.log := by
  obtain ⟨_,ms,table,shown,built,_⟩ := trusted.tuned calibrated
  exact ⟨ms,builtSound built,shown⟩

/- The settings are as they were, and what is new in the log needs a calibration. -/
def Kept (start after : Chip) : Prop :=
  Settled start after ∧ ∃ more, after.log = start.log ++ more ∧
    (start.frontendCalibrated = true ∨ (transmissions more = 0 ∧ launches more = 0))

theorem keptSame (start : Chip) : Kept start start :=
  ⟨⟨fun _ _ => rfl,rfl,rfl,rfl,rfl⟩,[],(List.append_nil _).symm,.inr ⟨rfl,rfl⟩⟩

theorem afterwardsKept (calibrated : start.frontendCalibrated = true) (afterwards : Afterwards start after) :
    Kept start after := by
  obtain ⟨more,log⟩ := afterwards.log
  exact ⟨afterwards.settings,more,log,.inl calibrated⟩

theorem keptTrusted (trusted : Trusted start) (kept : Kept start after) : Trusted after := by
  obtain ⟨settled,more,log,able⟩ := kept
  refine ⟨?_,fun digital => ?_,fun calibrated => ?_,earnedMore log (able.imp_left (tunedMeasured trusted)) trusted.earned⟩
  · rw [settled.crcInit]
    exact trusted.masked
  · rw [settled.digitalInitialized] at digital
    obtain ⟨address,seed⟩ := trusted.mirrored digital
    refine ⟨?_,?_⟩
    · rw [settled.words _ (by decide),settled.accessAddress,address]
    · rw [settled.words _ (by decide),settled.crcInit,seed]
  · rw [settled.frontendCalibrated] at calibrated
    obtain ⟨digital,ms,table,shown,built,words⟩ := trusted.tuned calibrated
    refine ⟨settled.digitalInitialized.trans digital,ms,table,log ▸ shownLater shown more,built,fun i inside => ?_⟩
    rw [settled.words _ (tableHeld inside)]
    exact words i inside

/-! The operations on the air. -/

theorem stageRefuses (layout : Layout) (channel : Channel) (packet : List UInt8)
    (uncalibrated : start.frontendCalibrated = false) :
    Triple (fun chip => chip = start) (stageTransmit layout channel packet) (fun _ _ => False) fun _ => Kept start := by
  refine afterTriple (stages layout channel packet start fun _ => keptSame start) fun _ _ ⟨able,_⟩ => ?_
  exact absurd (able.2.1.symm.trans uncalibrated) (by decide)

theorem neverTriple {α : Type} {m : Operation α} {ok : α → Chip → Prop} {fail : Error → Chip → Prop} :
    Triple (fun _ => False) m ok fail := fun _ absurd => absurd.elim

theorem transmitKept (layout : Layout) (channel : Channel) (packet : List UInt8) (start : Chip) :
    Triple (fun chip => chip = start) (transmitBlocking layout channel packet) (fun _ => Kept start) fun _ => Kept start := by
  cases calibrated : start.frontendCalibrated with
  | false => exact bindTriple (stageRefuses layout channel packet calibrated) fun _ => neverTriple
  | true =>
    have kept : ∀ outcome chip, Transmitted layout packet start outcome chip → Kept start chip := by
      rintro outcome chip (⟨_,afterwards,_⟩ | ⟨_,since,doing,_⟩)
      · exact afterwardsKept calibrated afterwards
      · exact afterwardsKept calibrated (doingAfterwards doing)
    exact weakenTriple (transmits layout channel packet start) (fun _ same => same) (fun _ => kept _) fun _ => kept _

theorem receiveKept (layout : Layout) (channel : Channel) (timeout room : Nat) (start : Chip) :
    Triple (fun chip => chip = start) (receiveBlocking layout channel timeout room) (fun _ => Kept start)
      fun _ => Kept start := by
  cases calibrated : start.frontendCalibrated with
  | false =>
    refine getTriple fun chip same => ?_
    subst same
    exact rejectTriple (fun s _ same => same ▸ keptSame chip) fun usable => absurd (.inr calibrated) usable
  | true =>
    have kept : ∀ outcome chip, Received room start outcome chip → Kept start chip := by
      rintro outcome chip (⟨_,same⟩ | ⟨_,since,doing,_⟩)
      · exact same ▸ keptSame start
      · exact afterwardsKept calibrated (doingAfterwards doing)
    exact weakenTriple (receives layout channel timeout room start) (fun _ same => same) (fun _ => kept _) fun _ => kept _

theorem exchangeKept (layout : Layout) (turns : Nat) (channel : Channel) (deadline timeout : Nat) (transmit : List UInt8)
    (room : Nat) (start : Chip) :
    Triple (fun chip => chip = start) (exchange layout turns channel deadline timeout transmit room) (fun _ => Kept start)
      fun _ => Kept start := by
  cases calibrated : start.frontendCalibrated with
  | false =>
    refine bindTriple (weakenTriple (arms layout channel deadline timeout transmit room start) (fun _ same => same)
      (fun _ _ ⟨able,_⟩ => ?_) fun _ _ same => same ▸ keptSame start) fun _ => neverTriple
    exact absurd (able.2.1.symm.trans calibrated) (by decide)
  | true =>
    exact stateTriple (afterwardsKept calibrated
      (exchangeAfterwards layout turns channel deadline timeout transmit room start))

theorem advertiseKept (layout : Layout) (turns : Nat) (channel : Channel) (timeout : Nat)
    (transmit scanResponse : List UInt8) (advertiserAddress : Vector UInt8 6) (room : Nat) (start : Chip) :
    Triple (fun chip => chip = start)
      (advertisingExchange layout channel timeout transmit scanResponse advertiserAddress room turns)
      (fun _ => Kept start) fun _ => Kept start := by
  cases calibrated : start.frontendCalibrated with
  | false =>
    have refused : Triple (fun chip => chip = start) (armAdvertising layout channel transmit scanResponse)
        (fun _ _ => False) fun _ => Kept start :=
      bindTriple (stageRefuses layout channel transmit calibrated) fun _ => neverTriple
    exact bindTriple refused fun _ => neverTriple
  | true =>
    exact stateTriple (afterwardsKept calibrated
      (advertisingAfterwards layout channel timeout transmit scanResponse advertiserAddress room start turns))

/-! The settings. -/

/- All that the settings hold at the start is known. -/
def known (start : Chip) : Progress :=
  ⟨start,fieldsOf start,[],fun address value => address ∈ settingRegisters → value = start.words address⟩

theorem knownBegins (start : Chip) : BringUp ((known start).table (tableOf start)) start :=
  ⟨⟨[],(List.append_nil _).symm,nothingDemanded [],⟨rfl,rfl⟩⟩,rfl,
    fun _ _ => ⟨fun _ => rfl,fun _ _ same => same ▸ rfl⟩⟩

theorem broughtLog {progress : Progress} (bring : BringUp progress after) (same : progress.start = start) :
    ∃ more, after.log = start.log ++ more ∧ transmissions more = 0 ∧ launches more = 0 := by
  obtain ⟨more,log,_,counts⟩ := bring.noted
  exact ⟨more,same ▸ log,counts⟩

/- A setting changes nothing but itself, in its field and in its register. -/
theorem settingTrusted {progress : Progress} (trusted : Trusted start) (same : progress.start = start)
    (digital : progress.fields.digitalInitialized = start.digitalInitialized)
    (calibrated : progress.fields.frontendCalibrated = start.frontendCalibrated)
    (masked : progress.fields.crcInit &&& 0x00ffffff = progress.fields.crcInit)
    (mirrors : start.digitalInitialized = true → Mirrors progress)
    (bring : BringUp (progress.table (tableOf start)) after) : Trusted after := by
  obtain ⟨more,log,silent,idle⟩ := broughtLog bring same
  refine ⟨?_,fun on => ?_,fun done => ?_,earnedMore log (.inr ⟨silent,idle⟩) trusted.earned⟩
  · rw [show after.crcInit = progress.fields.crcInit from congrArg Fields.crcInit bring.fields]
    exact masked
  · have before : start.digitalInitialized = true :=
      digital.symm.trans ((congrArg Fields.digitalInitialized bring.fields).symm.trans on)
    obtain ⟨address,seed⟩ := mirrors before
    refine ⟨?_,?_⟩
    · exact (address _ (bring.facts bbTxAccessAddress rfl).1).trans (congrArg Fields.accessAddress bring.fields).symm
    · exact (seed _ (bring.facts bbTxCrcInit rfl).1).trans (congrArg Fields.crcInit bring.fields).symm
  · have before : start.frontendCalibrated = true :=
      calibrated.symm.trans ((congrArg Fields.frontendCalibrated bring.fields).symm.trans done)
    obtain ⟨on,ms,table,shown,built,words⟩ := trusted.tuned before
    refine ⟨(congrArg Fields.digitalInitialized bring.fields).trans (digital.trans on),ms,table,log ▸ shownLater shown more,
      built,fun i inside => ?_⟩
    have same := (bring.facts (tuneTable i) (settingsHeld _ (tableHeld inside))).2 i inside rfl
    rw [same]
    exact words i inside

theorem addressTrusted (trusted : Trusted start) (accessAddress : UInt32) :
    Triple (fun chip => chip = start) (setAccessAddress accessAddress) (fun _ => Trusted) fun _ => Trusted := by
  refine weakenTriple (setsAddress (known start) (tableOf start) accessAddress) (fun _ same => same ▸ knownBegins start)
    (fun _ chip bring => ?_) fun _ _ failed => failed
  refine settingTrusted trusted rfl rfl rfl trusted.masked (fun digital => ⟨fun _ same => same,fun value holds => ?_⟩) bring
  have register : value = start.words bbTxCrcInit := holds (by decide)
  exact register.trans (trusted.mirrored digital).seed

theorem masks (value : UInt32) : value &&& 0x00ffffff &&& 0x00ffffff = value &&& 0x00ffffff := by
  rw [UInt32.and_assoc,UInt32.and_self]

theorem seedTrusted (trusted : Trusted start) (crcInit : UInt32) :
    Triple (fun chip => chip = start) (setCrcInit crcInit) (fun _ => Trusted) fun _ => Trusted := by
  refine weakenTriple (setsCrcInit (known start) (tableOf start) crcInit) (fun _ same => same ▸ knownBegins start)
    (fun _ chip bring => ?_) fun _ _ failed => failed
  refine settingTrusted trusted rfl rfl rfl ?_ (fun digital => ⟨fun value holds => ?_,fun _ same => same⟩) bring
  · exact masks crcInit
  · have register : value = start.words bbTxAccessAddress := holds (by decide)
    exact register.trans (trusted.mirrored digital).address

/-! Bringing up the radio. -/

theorem digitalTrusted (layout : Layout) (trusted : Trusted start) :
    Triple (fun chip => chip = start) (initDigital layout) (fun _ => Trusted) fun _ => Trusted := by
  have brings : Triple (BringUp ((begun start).table (tableOf start))) (initDigital layout)
      (fun _ => BringUp ((brought start).table (tableOf start))) fun _ => Trusted :=
    quietFirst (lleQuiet layout) (tableSettings (begunSettings start) (tableOf start)) fun _ =>
      bindTriple (setsBaseband (begunSettings start)) fun _ => goesDigital
  refine weakenTriple brings (fun _ same => same ▸ begins start) (fun _ chip bring => ?_) fun _ _ failed => failed
  obtain ⟨more,log,silent,idle⟩ := broughtLog bring rfl
  obtain ⟨address,seed⟩ := broughtMirrors start
  refine ⟨?_,fun _ => ⟨?_,?_⟩,fun done => ?_,earnedMore log (.inr ⟨silent,idle⟩) trusted.earned⟩
  · rw [show chip.crcInit = start.crcInit &&& 0x00ffffff from congrArg Fields.crcInit bring.fields]
    exact masks start.crcInit
  · exact (address _ (bring.facts bbTxAccessAddress rfl).1).trans (congrArg Fields.accessAddress bring.fields).symm
  · exact (seed _ (bring.facts bbTxCrcInit rfl).1).trans (congrArg Fields.crcInit bring.fields).symm
  · exact absurd ((congrArg Fields.frontendCalibrated bring.fields).symm.trans done) Bool.false_ne_true

theorem bringUpTrusted (layout : Layout) (trusted : Trusted start) :
    Triple (fun chip => chip = start) (initializeRadio layout) (fun _ => Trusted) fun _ => Trusted := by
  refine weakenTriple (bringsUp layout start) (fun _ same => same) (fun _ chip up => ?_) fun _ chip down => ?_
  · obtain ⟨ms,table,built,bring⟩ := up
    obtain ⟨more,log,shown,silent,idle⟩ := bring.noted
    refine ⟨?_,fun _ => restsMirrored (doneMirrors (broughtMirrors start) ms) bring,fun _ => ?_,
      earnedMore log (.inr ⟨silent,idle⟩) trusted.earned⟩
    · rw [show chip.crcInit = start.crcInit &&& 0x00ffffff from congrArg Fields.crcInit bring.fields]
      exact masks start.crcInit
    · exact ⟨congrArg Fields.digitalInitialized bring.fields,ms,table,log ▸ shownAfter start.log shown,built,
        fun i inside => ⟨tableOf start i,restsTable bring inside⟩⟩
  · obtain ⟨demands,bring,_⟩ := down
    obtain ⟨more,log,silent,idle⟩ := broughtLog bring rfl
    have mirrors : Mirrors { brought start with demands := demands } := broughtMirrors start
    refine ⟨?_,fun _ => restsMirrored mirrors bring,fun done => ?_,earnedMore log (.inr ⟨silent,idle⟩) trusted.earned⟩
    · rw [show chip.crcInit = start.crcInit &&& 0x00ffffff from congrArg Fields.crcInit bring.fields]
      exact masks start.crcInit
    · exact absurd ((congrArg Fields.frontendCalibrated bring.fields).symm.trans done) Bool.false_ne_true

end Steps

/-! Runs. -/

theorem performTrusted (layout : Layout) (call : Call) {chip : Chip} (trusted : Trusted chip) :
    Trusted (result (perform layout call) chip).2 := by
  have kept : ∀ {α : Type} {m : Operation α}, Triple (fun s => s = chip) m (fun _ => Kept chip) (fun _ => Kept chip) →
      Triple (fun s => s = chip) m (fun _ => Trusted) fun _ => Trusted := fun triple =>
    weakenTriple triple (fun _ same => same) (fun _ _ kept => keptTrusted trusted kept) fun _ _ kept => keptTrusted trusted kept
  have only : ∀ {α : Type} {m : Operation α}, Triple (fun s => s = chip) m (fun _ => Trusted) (fun _ => Trusted) →
      Triple (fun s => s = chip) (m >>= fun _ => pure ()) (fun _ => Trusted) fun _ => Trusted := fun triple =>
    bindTriple triple fun _ => pureTriple fun _ trusted => trusted
  suffices always : Triple (fun s => s = chip) (perform layout call) (fun _ after => Trusted after ∧ True) fun _ => Trusted from
    (tripleAlways always rfl).1
  suffices triple : Triple (fun s => s = chip) (perform layout call) (fun _ => Trusted) fun _ => Trusted from
    afterTriple triple fun _ _ trusted => ⟨trusted,trivial⟩
  cases call with
  | setAccessAddress accessAddress => exact addressTrusted trusted accessAddress
  | setCrcInit crcInit => exact seedTrusted trusted crcInit
  | initDigital => exact digitalTrusted layout trusted
  | bringUp => exact bringUpTrusted layout trusted
  | transmit channel packet => exact kept (transmitKept layout channel packet chip)
  | receive channel timeout room => exact only (kept (receiveKept layout channel timeout room chip))
  | exchange turns channel deadline timeout transmit room =>
    exact only (kept (exchangeKept layout turns channel deadline timeout transmit room chip))
  | advertise turns channel timeout transmit scanResponse advertiserAddress room =>
    exact only (kept (advertiseKept layout turns channel timeout transmit scanResponse advertiserAddress room chip))
  | idle =>
    refine modifyTriple fun s same => ?_
    subst same
    exact keptTrusted trusted ⟨settledElapse s,[],by rw [(elapses s).log,List.append_nil],.inr ⟨rfl,rfl⟩⟩

theorem runTrusted (layout : Layout) (calls : List Call) {chip : Chip} (trusted : Trusted chip) :
    Trusted (run layout calls chip) := by
  induction calls generalizing chip with
  | nil => exact trusted
  | cons call rest ih => exact ih (performTrusted layout call trusted)

/- Whatever is called, in whatever order and on whatever device: nothing is launched or sent
before the die has been measured, a radio that counts as calibrated has the table built from its
measurements, and one that is initialized has its address and seed in their registers. -/
theorem everyRunIsTrusted (layout : Layout) (device : Chip) (calls : List Call) :
    Trusted (run layout calls (newRadio device)) := runTrusted layout calls (newTrusted device)

end Ch58xHal.RadioRun
