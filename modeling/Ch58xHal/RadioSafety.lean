import Ch58xHal.OrderedEvidence
import Ch58xHal.RadioOperations

/-! What an operation of the radio can do, whatever the device does between its accesses: the
response goes out on evidence only, no CRC error is overlooked, and the radio is shut down. -/
namespace Ch58xHal.RadioSafety
open Routines Triples TurnLoops DeviceRegisters OrderedEvidence RadioChip RadioOperations ChannelSelection
open Advertising (Error)

/-! One moment. -/

def failsCrc (moment : Moment) : Prop := (moment.activity.raised bbInterruptStatus ||| moment.late) &&& crcError ≠ 0

/- What a moment leaves alone, and that a CRC error raised in it stays up. -/
structure Elapsed (before after : Chip) : Prop where
  held : ∀ address, kind address = .held → after.words address = before.words address
  txBuffer : after.txBuffer = before.txBuffer
  responseBuffer : after.responseBuffer = before.responseBuffer
  rxCaptureCountdown : after.rxCaptureCountdown = before.rxCaptureCountdown
  interruptEnabled : after.interruptEnabled = before.interruptEnabled
  accessAddress : after.accessAddress = before.accessAddress
  crcInit : after.crcInit = before.crcInit
  digitalInitialized : after.digitalInitialized = before.digitalInitialized
  frontendCalibrated : after.frontendCalibrated = before.frontendCalibrated
  moments : after.moments = before.moments
  elapsed : after.elapsed = before.elapsed + 1
  clockUs : after.clockUs = before.clockUs + (before.moments before.elapsed).us
  log : after.log = before.log
  crc : after.words bbInterruptStatus &&& crcError = 0 →
    before.words bbInterruptStatus &&& crcError = 0 ∧ ¬failsCrc (before.moments before.elapsed)

theorem flagsNotHeld {address : Nat} (held : kind address = .held) :
    address ≠ lleStatus ∧ address ≠ bbInterruptStatus ∧ address ≠ lleOperationCountdown := by
  refine ⟨?_,?_,?_⟩ <;> rintro rfl <;> cases held

/- The capture interrupt keeps to its own flags. -/
theorem captureKeeps (chip : Chip) : ∃ words seen, blebCapture chip = {chip with words := words,captureSeen := seen} ∧
    (∀ address, kind address = .held → words address = chip.words address) ∧
    words bbInterruptStatus &&& crcError = chip.words bbInterruptStatus &&& crcError := by
  have spared : captureAck (chip.words bbInterruptStatus) &&& crcError = 0 := by
    unfold captureAck
    rw [UInt32.and_assoc]
    exact UInt32.and_zero
  have acknowledged : ∀ address, kind address = .held →
      store kind bbInterruptStatus (captureAck (chip.words bbInterruptStatus)) chip.words address =
        chip.words address := fun address held => otherStored (flagsNotHeld held).2.1
  have kept : store kind bbInterruptStatus (captureAck (chip.words bbInterruptStatus)) chip.words bbInterruptStatus &&&
      crcError = chip.words bbInterruptStatus &&& crcError := flagStored rfl spared
  unfold blebCapture
  dsimp only
  split
  · split
    · refine ⟨_,_,rfl,fun address held => ?_,?_⟩
      · obtain ⟨status,_,countdown⟩ := flagsNotHeld held
        rw [otherStored countdown,otherStored status,acknowledged address held]
      · rw [otherStored (by decide),otherStored (by decide),kept]
    · exact ⟨_,_,rfl,acknowledged,kept⟩
  · exact ⟨_,_,rfl,fun _ _ => rfl,rfl⟩

theorem elapses (chip : Chip) : Elapsed chip (elapse chip) := by
  have settled : ∀ address, kind address = .held →
      settle kind (chip.moments chip.elapsed).activity chip.words address = chip.words address :=
    fun _ held => heldSettles held _
  have raised : settle kind (chip.moments chip.elapsed).activity chip.words bbInterruptStatus &&& crcError = 0 ↔
      chip.words bbInterruptStatus &&& crcError = 0 ∧
        (chip.moments chip.elapsed).activity.raised bbInterruptStatus &&& crcError = 0 := flagSettles rfl _
  unfold elapse
  dsimp only
  generalize here : chip.moments chip.elapsed = moment at settled raised ⊢
  -- a flag that is down after the moment was down before it and not raised, early or late
  have quiet : ∀ word, word &&& crcError = settle kind moment.activity chip.words bbInterruptStatus &&& crcError →
      (word ||| moment.late) &&& crcError = 0 →
      chip.words bbInterruptStatus &&& crcError = 0 ∧ ¬failsCrc moment := by
    intro word same down
    rw [andOr,UInt32.or_eq_zero_iff,same,raised] at down
    obtain ⟨⟨before,early⟩,late⟩ := down
    refine ⟨before,fun failed => failed ?_⟩
    rw [andOr,early,late]
    rfl
  have spared : ∀ word : UInt32, word &&& 0x190 &&& crcError = 0 := fun word => by
    rw [UInt32.and_assoc]
    exact UInt32.and_zero
  split
  · obtain ⟨words,seen,same,held,crc⟩ := captureKeeps (settleMoment moment chip)
    rw [same]
    refine ⟨fun address free => ?_,rfl,rfl,rfl,rfl,rfl,rfl,rfl,rfl,rfl,rfl,here ▸ rfl,rfl,fun down => here ▸ ?_⟩
    · obtain ⟨_,status,_⟩ := flagsNotHeld free
      show store kind bbInterruptStatus _ (Function.update words bbInterruptStatus _) address = _
      rw [otherStored status,Function.update_of_ne status,held address free]
      exact settled address free
    · refine quiet (words bbInterruptStatus) crc ?_
      rw [← down]
      show _ = store kind bbInterruptStatus _ (Function.update words bbInterruptStatus _) bbInterruptStatus &&& crcError
      rw [flagStored rfl (spared _),Function.update_self]
      rfl
  · refine ⟨fun address free => ?_,rfl,rfl,rfl,rfl,rfl,rfl,rfl,rfl,rfl,rfl,here ▸ rfl,rfl,fun down => here ▸ ?_⟩
    · obtain ⟨_,status,_⟩ := flagsNotHeld free
      unfold raiseLate
      dsimp only
      rw [Function.update_of_ne status]
      exact settled address free
    · refine quiet _ rfl ?_
      rw [← down]
      show _ = (raiseLate moment.late (settleMoment moment chip)).words bbInterruptStatus &&& crcError
      unfold raiseLate
      dsimp only
      rw [Function.update_self]
      rfl

/-! What an operation has done so far. -/

abbrev Entry := Nat × Access

def Saw (address : Nat) (flags : UInt32) (entry : Entry) : Prop :=
  ∃ value, entry.2 = .read address value ∧ value &&& flags ≠ 0

def Octet (index : Nat) (meets : UInt8 → Prop) (entry : Entry) : Prop :=
  ∃ octet, entry.2 = .octet index octet ∧ meets octet

def Wrote (address : Nat) (value : UInt32) (entry : Entry) : Prop := entry.2 = .write address value

def Launched (command : UInt32) (since : Nat) (entry : Entry) : Prop := entry = (since,.write lleCommand command)

def NoCrcError (entry : Entry) : Prop := ∃ value, entry.2 = .read bbInterruptStatus value ∧ value &&& crcError = 0

/- The status was read without a CRC error, and none has come up since the launch. -/
def Unbroken (moments : Nat → Moment) (since : Nat) (entry : Entry) : Prop :=
  NoCrcError entry ∧ ∀ k, since ≤ k → k < entry.1 → ¬failsCrc (moments k)

def transmissions (log : List Entry) : Nat := log.countP fun entry => entry.2 = .write lleMode lleModeTx

def launches (log : List Entry) : Nat :=
  log.countP fun entry => entry.2 = .write lleCommand 1 ∨ entry.2 = .write lleCommand 2

/- How often an access was made that starts something. -/
def Counts (sent begun : Nat) (log : List Entry) : Prop := transmissions log = sent ∧ launches log = begun

theorem countsAppend {sent begun sent' begun' : Nat} {log more : List Entry} (first : Counts sent begun log)
    (second : Counts sent' begun' more) : Counts (sent + sent') (begun + begun') (log ++ more) := by
  obtain ⟨rfl,rfl⟩ := first
  obtain ⟨rfl,rfl⟩ := second
  exact ⟨List.countP_append,List.countP_append⟩

/- The time after so many moments. -/
def timeAt (start : Chip) : Nat → Nat
  | 0 => start.clockUs
  | k+1 => timeAt start k + (start.moments (start.elapsed + k)).us

theorem timeGoesOn (start : Chip) {k j : Nat} (later : k ≤ j) : timeAt start k ≤ timeAt start j := by
  induction later with
  | refl => exact le_refl _
  | step _ ih => exact Nat.le_trans ih (Nat.le_add_right _ _)

structure Course where
  start : Chip
  waited : Nat
  tx : Bank
  response : Bank
  launched : Option Nat
  demands : List (Entry → Prop)
  sent : Nat
  begun : Nat

def Course.shows (course : Course) (demand : Entry → Prop) : Course :=
  { course with demands := course.demands ++ [demand] }

def Clean (launched : Option Nat) (chip : Chip) : Prop :=
  ∀ since, launched = some since → chip.words bbInterruptStatus &&& crcError = 0 →
    ∀ k, since ≤ k → k < chip.elapsed → ¬failsCrc (chip.moments k)

/- What the log shows since the start. -/
def Noted (start : Chip) (demands : List (Entry → Prop)) (sent begun : Nat) (chip : Chip) : Prop :=
  ∃ more, chip.log = start.log ++ more ∧ InOrder demands more ∧ Counts sent begun more

theorem notedSame {start chip changed : Chip} {demands : List (Entry → Prop)} {sent begun : Nat}
    (noted : Noted start demands sent begun chip) (log : changed.log = chip.log) :
    Noted start demands sent begun changed := by
  unfold Noted
  rw [log]
  exact noted

/- The same settings, in the radio and in its registers. -/
structure Settled (before after : Chip) : Prop where
  words : ∀ address ∈ settingRegisters, after.words address = before.words address
  accessAddress : after.accessAddress = before.accessAddress
  crcInit : after.crcInit = before.crcInit
  digitalInitialized : after.digitalInitialized = before.digitalInitialized
  frontendCalibrated : after.frontendCalibrated = before.frontendCalibrated

theorem settingsHeld : ∀ address ∈ settingRegisters, kind address = .held := by decide

theorem settledTrans {first second third : Chip} (one : Settled first second) (two : Settled second third) :
    Settled first third :=
  ⟨fun address setting => (two.words address setting).trans (one.words address setting),
    two.accessAddress.trans one.accessAddress,two.crcInit.trans one.crcInit,
    two.digitalInitialized.trans one.digitalInitialized,two.frontendCalibrated.trans one.frontendCalibrated⟩

theorem settledElapse (chip : Chip) : Settled chip (elapse chip) := by
  have ended := elapses chip
  exact ⟨fun address setting => ended.held address (settingsHeld address setting),ended.accessAddress,ended.crcInit,
    ended.digitalInitialized,ended.frontendCalibrated⟩

structure Doing (course : Course) (chip : Chip) : Prop where
  moments : chip.moments = course.start.moments
  clock : ∃ k, course.waited ≤ k ∧ chip.elapsed = course.start.elapsed + k ∧ chip.clockUs = timeAt course.start k
  tx : chip.txBuffer = course.tx
  response : chip.responseBuffer = course.response
  log : Noted course.start course.demands course.sent course.begun chip
  settings : Settled course.start chip
  clean : Clean course.launched chip

variable {course : Course} {chip : Chip} {address : Nat} {value : UInt32}

theorem doesElapse (doing : Doing course chip) : Doing course (elapse chip) := by
  have ended := elapses chip
  obtain ⟨k,waited,elapsed,clock⟩ := doing.clock
  have later : ∃ k, course.waited ≤ k ∧ (elapse chip).elapsed = course.start.elapsed + k ∧
      (elapse chip).clockUs = timeAt course.start k := by
    refine ⟨k + 1,Nat.le_succ_of_le waited,?_,?_⟩
    · rw [ended.elapsed,elapsed,Nat.add_assoc]
    · rw [ended.clockUs,clock,doing.moments,elapsed,timeAt]
  refine ⟨ended.moments.trans doing.moments,later,ended.txBuffer.trans doing.tx,ended.responseBuffer.trans doing.response,
    notedSame doing.log ended.log,settledTrans doing.settings (settledElapse chip),fun since launched down k after before => ?_⟩
  obtain ⟨down,quiet⟩ := ended.crc down
  rw [ended.moments]
  rw [ended.elapsed] at before
  obtain earlier | rfl := Nat.lt_succ_iff_lt_or_eq.mp before
  · exact doing.clean since launched down k after earlier
  · exact quiet

def Course.waiting (course : Course) (k : Nat) : Course := { course with waited := k }

theorem doingLater (doing : Doing course chip) {k : Nat} (late : course.start.elapsed + k ≤ chip.elapsed) :
    Doing (course.waiting k) chip := by
  obtain ⟨j,_,elapsed,clock⟩ := doing.clock
  exact ⟨doing.moments,⟨j,Nat.le_of_add_le_add_left (elapsed ▸ late),elapsed,clock⟩,doing.tx,doing.response,
    doing.log,doing.settings,doing.clean⟩

theorem doingEarlier {k : Nat} (doing : Doing (course.waiting k) chip) (less : course.waited ≤ k) :
    Doing course chip ∧ course.start.elapsed + k ≤ chip.elapsed := by
  obtain ⟨j,waited,elapsed,clock⟩ := doing.clock
  exact ⟨⟨doing.moments,⟨j,Nat.le_trans less waited,elapsed,clock⟩,doing.tx,doing.response,doing.log,doing.settings,doing.clean⟩,
    elapsed ▸ Nat.add_le_add_left waited _⟩

/- The same settings, and the CRC flag as it was. -/
structure Alike (before after : Nat → UInt32) : Prop where
  crc : after bbInterruptStatus &&& crcError = before bbInterruptStatus &&& crcError
  settings : ∀ address ∈ settingRegisters, after address = before address

theorem alike (words : Nat → UInt32) : Alike words words := ⟨rfl,fun _ _ => rfl⟩

theorem storedAlike {address : Nat} {value : UInt32} (apart : address ∉ settingRegisters)
    (spared : address = bbInterruptStatus → value &&& crcError = 0) (words : Nat → UInt32) :
    Alike words (store kind address value words) := by
  refine ⟨?_,fun other setting => otherStored fun same => apart (same ▸ setting)⟩
  by_cases same : bbInterruptStatus = address
  · rw [← same]
    exact flagStored rfl (spared same.symm)
  · rw [otherStored same]

/- One more entry, which may meet one more demand. -/
theorem notes {start : Chip} {demands demands' : List (Entry → Prop)} {sent begun sent' begun' : Nat} {entry : Entry}
    (noted : Noted start demands sent begun chip) (counted : Counts sent' begun' [entry])
    (shown : ∀ more, InOrder demands more → InOrder demands' (more ++ [entry])) {changed : Chip}
    (log : changed.log = chip.log ++ [entry]) : Noted start demands' (sent + sent') (begun + begun') changed := by
  obtain ⟨more,before,seen,counts⟩ := noted
  exact ⟨more ++ [entry],by rw [log,before,List.append_assoc],shown more seen,countsAppend counts counted⟩

theorem accessed (doing : Doing course chip) {entry : Entry} {sent begun : Nat} (counted : Counts sent begun [entry])
    {demands : List (Entry → Prop)} (shown : ∀ more, InOrder course.demands more → InOrder demands (more ++ [entry]))
    {words : Nat → UInt32} (same : Alike chip.words words) :
    Doing { course with demands := demands,sent := course.sent + sent,begun := course.begun + begun }
      { chip with words := words,log := chip.log ++ [entry] } := by
  exact ⟨doing.moments,doing.clock,doing.tx,doing.response,notes doing.log counted shown rfl,
    settledTrans doing.settings ⟨same.settings,rfl,rfl,rfl,rfl⟩,
    fun since launched down => doing.clean since launched (same.crc ▸ down)⟩

theorem doesAccess (doing : Doing course chip) {entry : Entry} (none : Counts 0 0 [entry]) {words : Nat → UInt32}
    (same : Alike chip.words words) : Doing course { chip with words := words,log := chip.log ++ [entry] } :=
  accessed doing none (fun _ before => shownLater before [entry]) same

theorem accessShows (doing : Doing course chip) (demand : Entry → Prop) {entry : Entry} (none : Counts 0 0 [entry])
    (meets : demand entry) {words : Nat → UInt32}
    (same : Alike chip.words words) : Doing (course.shows demand) { chip with words := words,log := chip.log ++ [entry] } :=
  accessed doing none (fun _ before => shownNext before demand meets) same

/-! Accesses that neither transmit nor hide a CRC error. -/

def Quiet {α : Type} (m : Operation α) : Prop :=
  ∀ course (fail : Error → Chip → Prop), Triple (Doing course) m (fun _ => Doing course) fail

section Quiet
variable {α β : Type}

theorem pureQuiet (a : α) : Quiet (pure a) := fun _ _ => pureTriple fun _ doing => doing

theorem bindQuiet {m : Operation α} {f : α → Operation β} (first : Quiet m) (rest : ∀ a, Quiet (f a)) :
    Quiet (m >>= f) := fun course fail => bindTriple (first course fail) fun a => rest a course fail

theorem iteQuiet {condition : Prop} [Decidable condition] {m n : Operation α} (yes : Quiet m) (no : Quiet n) :
    Quiet (if condition then m else n) := by
  split
  · exact yes
  · exact no

theorem quietThen {m : Operation α} {f : α → Operation β} {ok : β → Chip → Prop} {fail : Error → Chip → Prop}
    (quiet : Quiet m) (rest : ∀ a, Triple (Doing course) (f a) ok fail) : Triple (Doing course) (m >>= f) ok fail :=
  bindTriple (quiet course fail) rest

theorem getQuiet : Quiet get := fun _ _ _ doing => doing

theorem elapseQuiet : Quiet (modify elapse) := fun _ _ => modifyTriple fun _ doing => doesElapse doing

/- A read of a register: one more moment, then the value and its entry. -/
theorem readTriple {pre : Chip → Prop} {ok : UInt32 → Chip → Prop} {fail : Error → Chip → Prop}
    (holds : ∀ chip, pre chip → ok ((elapse chip).words address) { elapse chip with
      log := (elapse chip).log ++ [((elapse chip).elapsed,.read address ((elapse chip).words address))] }) :
    Triple pre (readRegister address) ok fail := holds

theorem readQuiet (address : Nat) : Quiet (readRegister address) := fun _ _ =>
  readTriple fun _ doing => doesAccess (doesElapse doing) ⟨rfl,rfl⟩ (alike _)

/- A write that starts nothing. -/
structure Inert (address : Nat) (value : UInt32) : Prop where
  transmits : address = lleMode → value ≠ lleModeTx
  starts : address = lleCommand → value ≠ 1 ∧ value ≠ 2

/- A write that starts nothing, does not acknowledge a CRC error and is no setting. -/
structure Harmless (address : Nat) (value : UInt32) : Prop extends Inert address value where
  crc : address = bbInterruptStatus → value &&& crcError = 0
  settings : address ∉ settingRegisters

theorem elsewhere (apart : address ∉ lleMode :: lleCommand :: bbInterruptStatus :: settingRegisters) :
    Harmless address value := by
  simp only [List.mem_cons,not_or] at apart
  exact ⟨⟨fun same => absurd same apart.1,fun same => absurd same apart.2.1⟩,fun same => absurd same apart.2.2.1,
    apart.2.2.2⟩

theorem inertCounts (inert : Inert address value) {k : Nat} : Counts 0 0 [(k,Access.write address value)] := by
  constructor <;> refine List.countP_eq_zero.mpr fun entry member => ?_ <;>
    rw [List.mem_singleton.mp member,decide_eq_true_iff]
  · intro same
    injection same with mode tx
    exact inert.transmits mode tx
  · rintro (same | same) <;> injection same with command begins
    · exact (inert.starts command).1 begins
    · exact (inert.starts command).2 begins

/- The bits that a shutdown clears in the mode are up when it transmits. -/
theorem narrower {mask : UInt32} (lost : lleModeTx &&& mask ≠ lleModeTx) (word : UInt32) : Inert lleMode (word &&& mask) := by
  refine ⟨fun _ same => lost ?_,fun same => absurd same (by decide)⟩
  rw [← same,UInt32.and_assoc,UInt32.and_self]

/- The command that stops is none of those that start. -/
theorem stops (word : UInt32) : Inert lleCommand (word ||| 0x08) := by
  have up : ∀ command : UInt32, command &&& 0x08 = 0 → word ||| 0x08 ≠ command := by
    rintro _ down rfl
    rw [andOr,UInt32.or_eq_zero_iff] at down
    exact absurd down.2 (by decide)
  exact ⟨fun same => absurd same (by decide),fun _ => ⟨up 1 (by decide),up 2 (by decide)⟩⟩

theorem harmlessStored (harmless : Harmless address value) (words : Nat → UInt32) :
    Alike words (store kind address value words) := storedAlike harmless.settings harmless.crc words

theorem writeQuiet (harmless : Harmless address value) : Quiet (writeRegister address value) := fun _ _ =>
  modifyTriple fun chip doing => doesAccess (doesElapse doing) (inertCounts harmless.toInert)
    (harmlessStored harmless (elapse chip).words)

theorem modifyQuiet {f : UInt32 → UInt32} (harmless : ∀ word, Harmless address (f word)) :
    Quiet (modifyRegister address f) :=
  bindQuiet (readQuiet address) fun word => writeQuiet (harmless word)

theorem configHighQuiet (value : UInt32) : Quiet (writeLleConfigHigh value) := fun _ _ =>
  modifyTriple fun chip doing => by
    have high : Harmless (lleBase + 0x06) value := elsewhere (by decide)
    have config : Harmless lleConfig ((elapse chip).words lleConfig &&& 0xffff ||| value <<< (16 : UInt32)) :=
      elsewhere (by decide)
    exact doesAccess (doesElapse doing) (inertCounts high.toInert) (harmlessStored config (elapse chip).words)

/- What is no access leaves all of this alone. -/
theorem doesChange (doing : Doing course chip) {changed : Chip} (moments : changed.moments = chip.moments)
    (tx : changed.txBuffer = chip.txBuffer) (response : changed.responseBuffer = chip.responseBuffer)
    (log : changed.log = chip.log) (words : changed.words = chip.words) (elapsed : changed.elapsed = chip.elapsed)
    (clock : changed.clockUs = chip.clockUs) (settings : Settled chip changed) : Doing course changed := by
  refine ⟨moments.trans doing.moments,elapsed ▸ clock ▸ doing.clock,tx.trans doing.tx,response.trans doing.response,
    notedSame doing.log log,settledTrans doing.settings settings,?_⟩
  intro since launched down
  rw [words] at down
  rw [moments,elapsed]
  exact doing.clean since launched down

theorem captureCountdownQuiet (countdown : UInt32) : Quiet (storeCaptureCountdown countdown) := fun _ _ =>
  modifyTriple fun _ doing => doesChange (doesElapse doing) rfl rfl rfl rfl rfl rfl rfl ⟨fun _ _ => rfl,rfl,rfl,rfl,rfl⟩

theorem storeSeenQuiet (seen : Bool) : Quiet (storeCaptureSeen seen) := fun _ _ =>
  modifyTriple fun _ doing => doesChange (doesElapse doing) rfl rfl rfl rfl rfl rfl rfl ⟨fun _ _ => rfl,rfl,rfl,rfl,rfl⟩

theorem interruptQuiet (enabled : Bool) : Quiet (enableInterrupt enabled) := fun _ _ =>
  modifyTriple fun _ doing => doesChange (doesElapse doing) rfl rfl rfl rfl rfl rfl rfl ⟨fun _ _ => rfl,rfl,rfl,rfl,rfl⟩

/- An octet of the packet, read like a register. -/
theorem octetTriple {index : Nat} {pre : Chip → Prop} {ok : UInt8 → Chip → Prop} {fail : Error → Chip → Prop}
    (holds : ∀ chip, pre chip → ok ((elapse chip).rxBuffer.toList.getD index 0) { elapse chip with
      log := (elapse chip).log ++ [((elapse chip).elapsed,.octet index ((elapse chip).rxBuffer.toList.getD index 0))] }) :
    Triple pre (readDmaByte index) ok fail := holds

theorem dmaByteQuiet (index : Nat) : Quiet (readDmaByte index) := fun _ _ =>
  octetTriple fun _ doing => doesAccess (doesElapse doing) ⟨rfl,rfl⟩ (alike _)

theorem nowQuiet : Quiet now := bindQuiet elapseQuiet fun _ => bindQuiet getQuiet fun _ => pureQuiet _

theorem captureSeenQuiet : Quiet loadCaptureSeen :=
  bindQuiet elapseQuiet fun _ => bindQuiet getQuiet fun _ => pureQuiet _

theorem mapQuiet {m : α → Operation β} (each : ∀ a, Quiet (m a)) (items : List α) : Quiet (items.mapM m) := by
  induction items with
  | nil =>
    rw [List.mapM_nil]
    exact pureQuiet []
  | cons a rest ih =>
    rw [List.mapM_cons]
    exact bindQuiet (each a) fun _ => bindQuiet ih fun _ => pureQuiet _

end Quiet

/-! Preparing an operation. -/

section Preparing

theorem synthQuiet (channel : Channel) (receive : Bool) : Quiet (configureSynth channel receive) :=
  bindQuiet (modifyQuiet fun _ => elsewhere (by decide)) fun _ => modifyQuiet fun _ => elsewhere (by decide)

theorem setBbChannelQuiet (channel : Channel) : Quiet (setBbChannel channel) :=
  modifyQuiet fun _ => elsewhere (by decide)

theorem setChannelQuiet (channel : Channel) : Quiet (setChannel channel) :=
  bindQuiet (setBbChannelQuiet channel) fun _ => synthQuiet channel false

theorem setReceiveChannelQuiet (channel : Channel) : Quiet (setReceiveChannel channel) :=
  bindQuiet (setBbChannelQuiet channel) fun _ => bindQuiet (synthQuiet channel true) fun _ =>
    modifyQuiet fun _ => elsewhere (by decide)

theorem bbModeQuiet (mode : UInt32) : Quiet (setBbMode mode) := modifyQuiet fun _ => elsewhere (by decide)

theorem analogQuiet : Quiet enableAnalog := modifyQuiet fun _ => elsewhere (by decide)

theorem lleModeQuiet {mode : UInt32} (other : mode ≠ lleModeTx) : Quiet (writeRegister lleMode mode) :=
  writeQuiet ⟨⟨fun _ => other,fun same => absurd same (by decide)⟩,fun same => absurd same (by decide),by decide⟩

theorem transmitPhyQuiet (packetLen : Nat) : Quiet (configureTransmitPhy1m packetLen) :=
  bindQuiet (modifyQuiet fun _ => elsewhere (by decide)) fun _ =>
    bindQuiet (modifyQuiet fun _ => elsewhere (by decide)) fun _ =>
      bindQuiet (writeQuiet (elsewhere (by decide))) fun _ => writeQuiet (elsewhere (by decide))

theorem receivePhyQuiet : Quiet configureReceivePhy1m :=
  bindQuiet (modifyQuiet fun _ => elsewhere (by decide)) fun _ => modifyQuiet fun _ => elsewhere (by decide)

theorem commonQuiet {mode : UInt32} (other : mode ≠ lleModeTx) : Quiet (prepareCommonOperation mode) :=
  bindQuiet (configHighQuiet _) fun _ => bindQuiet (modifyQuiet fun _ => elsewhere (by decide)) fun _ =>
    bindQuiet (bbModeQuiet _) fun _ => bindQuiet analogQuiet fun _ => lleModeQuiet other

theorem prepareReceiveQuiet : Quiet prepareReceiveOperation :=
  bindQuiet (configHighQuiet 1) fun _ => bindQuiet (bbModeQuiet _) fun _ => bindQuiet analogQuiet fun _ =>
    lleModeQuiet (by decide)

theorem continueQuiet (channel : Channel) : Quiet (continueTxToRx1m channel) :=
  bindQuiet (writeQuiet (elsewhere (by decide))) fun _ =>
    bindQuiet (modifyQuiet fun _ => elsewhere (by decide)) fun _ => bindQuiet (synthQuiet channel true) fun _ =>
      bindQuiet receivePhyQuiet fun _ => bindQuiet (writeQuiet (elsewhere (by decide))) fun _ =>
        writeQuiet (elsewhere (by decide))

theorem copyQuiet (room : Nat) (advertising : Bool) : Quiet (copyReceivedPacket room advertising) := by
  refine bindQuiet (dmaByteQuiet 1) fun length => ?_
  dsimp only
  cases classifyReceivedLength advertising (if advertising = true then (length &&& 0x3f).toNat else length.toNat) with
  | physicalDmaOverflow =>
    exact bindQuiet (fun _ _ => modifyTriple fun _ doing => doesChange doing rfl rfl rfl rfl rfl rfl rfl
      ⟨fun _ _ => rfl,rfl,rfl,rfl,rfl⟩) fun _ => pureQuiet []
  | unsupportedCapability =>
    exact bindQuiet (fun _ _ => modifyTriple fun _ doing => doesChange doing rfl rfl rfl rfl rfl rfl rfl
      ⟨fun _ _ => rfl,rfl,rfl,rfl,rfl⟩) fun _ => pureQuiet []
  | accepted wireLen => exact iteQuiet (pureQuiet []) (mapQuiet dmaByteQuiet _)

theorem rssiQuiet : Quiet readRssi := bindQuiet (readQuiet bbRssiStatus) fun _ => pureQuiet _

theorem shutDownQuiet : Quiet shutDownOperation :=
  bindQuiet (captureCountdownQuiet 0) fun _ =>
    bindQuiet (modifyQuiet fun word => ⟨narrower (by decide) word,fun same => absurd same (by decide),by decide⟩) fun _ =>
    bindQuiet (modifyQuiet fun word => ⟨narrower (by decide) word,fun same => absurd same (by decide),by decide⟩) fun _ =>
    bindQuiet (modifyQuiet fun word => ⟨stops word,fun same => absurd same (by decide),by decide⟩) fun _ =>
    bindQuiet (bbModeQuiet _) fun _ => bindQuiet (modifyQuiet fun _ => elsewhere (by decide)) fun _ =>
      lleModeQuiet (by decide)

end Preparing

/-! The accesses that count. -/

section Shown
variable {fail : Error → Chip → Prop}

theorem readShows (course : Course) (address : Nat) :
    Triple (Doing course) (readRegister address) (fun value chip => Doing course chip ∧
      ∀ flags, value &&& flags ≠ 0 → Doing (course.shows (Saw address flags)) chip) fail :=
  readTriple fun _ doing => ⟨doesAccess (doesElapse doing) ⟨rfl,rfl⟩ (alike _),
    fun flags up => accessShows (doesElapse doing) (Saw address flags) ⟨rfl,rfl⟩ ⟨_,rfl,up⟩ (alike _)⟩

/- A status without the flag tells of every moment since the launch. -/
theorem crcShows {since : Nat} (launched : course.launched = some since) :
    Triple (Doing course) (readRegister bbInterruptStatus) (fun value chip => Doing course chip ∧
      (value &&& crcError = 0 → Doing (course.shows (Unbroken course.start.moments since)) chip)) fail := by
  refine readTriple fun chip doing => ⟨doesAccess (doesElapse doing) ⟨rfl,rfl⟩ (alike _),fun down => ?_⟩
  have now := doesElapse doing
  refine accessShows now (Unbroken course.start.moments since) ⟨rfl,rfl⟩ ⟨⟨_,rfl,down⟩,?_⟩ (alike _)
  rw [← now.moments]
  exact now.clean since launched down

theorem writeShows (course : Course) (harmless : Harmless address value) :
    Triple (Doing course) (writeRegister address value) (fun _ => Doing (course.shows (Wrote address value))) fail :=
  modifyTriple fun chip doing => accessShows (doesElapse doing) (Wrote address value)
    (inertCounts harmless.toInert) rfl (harmlessStored harmless (elapse chip).words)

def Course.sends (course : Course) : Course := { course.shows (Wrote lleMode lleModeTx) with sent := course.sent + 1 }

theorem writeSends (course : Course) :
    Triple (Doing course) (writeRegister lleMode lleModeTx) (fun _ => Doing course.sends) fail := by
  refine modifyTriple fun chip doing => ?_
  have apart : lleMode ∉ settingRegisters := by decide
  have counted : ∀ k, Counts 1 0 [(k,Access.write lleMode lleModeTx)] := fun _ => ⟨rfl,rfl⟩
  exact accessed (doesElapse doing) (counted (elapse chip).elapsed)
    (fun more before => shownNext before (Wrote lleMode lleModeTx) rfl)
    (storedAlike apart (fun same => absurd same (by decide)) (elapse chip).words)

def Course.launches (course : Course) (command : UInt32) (since : Nat) : Course :=
  { course.shows (Launched command since) with launched := some since,begun := course.begun + 1 }

theorem writeLaunches (course : Course) {command : UInt32} (begins : command = 1 ∨ command = 2) :
    Triple (Doing course) (writeRegister lleCommand command)
      (fun _ chip => ∃ since, Doing (course.launches command since) chip) fail := by
  refine modifyTriple fun chip doing => ⟨(elapse chip).elapsed,?_⟩
  have counted : Counts 0 1 [((elapse chip).elapsed,Access.write lleCommand command)] := by
    obtain rfl | rfl := begins <;> exact ⟨rfl,rfl⟩
  have same : Alike (elapse chip).words (store kind lleCommand command (elapse chip).words) :=
    storedAlike (by decide) (fun same => absurd same (by decide)) (elapse chip).words
  have shown := accessed (doesElapse doing) counted
    (fun more before => shownNext before (Launched command (elapse chip).elapsed) rfl) same
  refine ⟨shown.moments,shown.clock,shown.tx,shown.response,shown.log,shown.settings,fun since launched _ k after before => ?_⟩
  cases launched
  exact absurd before (Nat.not_lt_of_le after)

theorem octetShows (course : Course) (index : Nat) :
    Triple (Doing course) (readDmaByte index)
      (fun octet chip => ∀ meets : UInt8 → Prop, meets octet → Doing (course.shows (Octet index meets)) chip) fail :=
  octetTriple fun _ doing meets good => accessShows (doesElapse doing) (Octet index meets) ⟨rfl,rfl⟩ ⟨_,rfl,good⟩ (alike _)

theorem showsLess {demand : Entry → Prop} (doing : Doing (course.shows demand) chip) : Doing course chip := by
  obtain ⟨moments,clock,tx,response,⟨more,log,shown,sent⟩,settings,clean⟩ := doing
  exact ⟨moments,clock,tx,response,⟨more,log,shownFewer shown (List.sublist_append_left _ _),sent⟩,settings,clean⟩

/- Before the launch a CRC error means nothing yet. -/
theorem clearBbQuiet (idle : course.launched = none) :
    Triple (Doing course) clearBbInterruptStatus (fun _ => Doing course) fail := by
  refine bindTriple (readQuiet bbInterruptStatus course fail) fun observed => modifyTriple fun chip doing => ?_
  obtain ⟨moments,clock,tx,response,⟨more,log,shown,counts⟩,settings,_⟩ := doesElapse doing
  have none : Counts 0 0 [((elapse chip).elapsed,.write bbInterruptStatus (observed &&& bbInterruptStatusMask))] := ⟨rfl,rfl⟩
  refine ⟨moments,clock,tx,response,⟨more ++ [_],?_,shownLater shown _,countsAppend counts none⟩,
    settledTrans settings ⟨fun address setting => ?_,rfl,rfl,rfl,rfl⟩,fun since launched => ?_⟩
  · rw [← List.append_assoc,← log]
  · have apart : address ≠ bbInterruptStatus := by
      rintro rfl
      exact absurd setting (by decide)
    show store kind bbInterruptStatus (observed &&& bbInterruptStatusMask) (elapse chip).words address = _
    exact otherStored apart
  · rw [idle] at launched
    cases launched

end Shown

/-! Registers that keep what was written last. -/

section Shut
variable {fail : Error → Chip → Prop} {countdown : UInt32} {facts : List (Nat × (UInt32 → Prop))}

/- The capture countdown is this, and these registers hold what is said of them. -/
structure Holds (countdown : UInt32) (facts : List (Nat × (UInt32 → Prop))) (chip : Chip) : Prop where
  capture : chip.rxCaptureCountdown = countdown
  words : ∀ fact ∈ facts, kind fact.1 = .held ∧ fact.2 (chip.words fact.1)

theorem holdsElapse (holds : Holds countdown facts chip) : Holds countdown facts (elapse chip) := by
  have ended := elapses chip
  refine ⟨ended.rxCaptureCountdown.trans holds.capture,fun fact member => ?_⟩
  obtain ⟨held,meets⟩ := holds.words fact member
  rw [ended.held fact.1 held]
  exact ⟨held,meets⟩

theorem holdsStored (apart : address ∉ facts.map Prod.fst) (holds : Holds countdown facts chip) {log : List Entry} :
    Holds countdown facts { elapse chip with words := store kind address value (elapse chip).words,log := log } := by
  have now := holdsElapse holds
  refine ⟨now.capture,fun fact member => ?_⟩
  have other : fact.1 ≠ address := fun same => apart (same ▸ List.mem_map_of_mem member)
  show kind fact.1 = .held ∧ fact.2 (store kind address value (elapse chip).words fact.1)
  rw [otherStored other]
  exact now.words fact member

theorem holdsWrite (apart : address ∉ facts.map Prod.fst) :
    Triple (Holds countdown facts) (writeRegister address value) (fun _ => Holds countdown facts) fail :=
  modifyTriple fun _ holds => holdsStored apart holds

theorem holdsWritten (apart : address ∉ facts.map Prod.fst) (held : kind address = .held)
    (fact : UInt32 → Prop) (meets : fact value) :
    Triple (Holds countdown facts) (writeRegister address value) (fun _ => Holds countdown ((address,fact) :: facts)) fail := by
  refine modifyTriple fun chip holds => ?_
  obtain ⟨capture,words⟩ := holdsStored apart holds
  refine ⟨capture,List.forall_mem_cons.mpr ⟨⟨held,?_⟩,words⟩⟩
  show fact (store kind address value (elapse chip).words address)
  rw [heldStored held]
  exact meets

theorem holdsModify (apart : address ∉ facts.map Prod.fst) (f : UInt32 → UInt32) :
    Triple (Holds countdown facts) (modifyRegister address f) (fun _ => Holds countdown facts) fail := by
  have read : Triple (Holds countdown facts) (readRegister address) (fun _ => Holds countdown facts) fail := by
    refine readTriple fun chip holds => ?_
    have now := holdsElapse holds
    exact ⟨now.capture,now.words⟩
  exact bindTriple read fun _ => holdsWrite apart

theorem holdsModified (apart : address ∉ facts.map Prod.fst) (held : kind address = .held)
    {f : UInt32 → UInt32} (fact : UInt32 → Prop) (meets : ∀ word, fact (f word)) :
    Triple (Holds countdown facts) (modifyRegister address f) (fun _ => Holds countdown ((address,fact) :: facts)) fail := by
  have read : Triple (Holds countdown facts) (readRegister address) (fun _ => Holds countdown facts) fail := by
    refine readTriple fun chip holds => ?_
    have now := holdsElapse holds
    exact ⟨now.capture,now.words⟩
  exact bindTriple read fun word => holdsWritten apart held fact (meets word)

structure ShutDown (chip : Chip) : Prop where
  capture : chip.rxCaptureCountdown = 0
  lle : chip.words lleMode = lleModeIdle
  analog : chip.words analogEnable08 &&& 0x00320000 = 0
  baseband : chip.words bbConfig &&& bbModeMask = bbModeIdle

theorem shutsDown {pre : Chip → Prop} : Triple pre shutDownOperation (fun _ => ShutDown) fail := by
  have baseband : ∀ word : UInt32, ((word &&& ~~~bbModeMask) ||| bbModeIdle) &&& bbModeMask = bbModeIdle := by
    intro word
    have cleared : ~~~bbModeMask &&& bbModeMask = 0 := by decide
    rw [andOr,UInt32.and_assoc,cleared,UInt32.and_zero]
    rfl
  have analog : ∀ word : UInt32, word &&& 0xffcdffff &&& 0x00320000 = 0 := by
    intro word
    have cleared : (0xffcdffff : UInt32) &&& 0x00320000 = 0 := by decide
    rw [UInt32.and_assoc,cleared,UInt32.and_zero]
  have disarmed : Triple pre (storeCaptureCountdown 0) (fun _ => Holds 0 []) fail :=
    modifyTriple fun _ _ => ⟨rfl,fun _ absent => absurd absent List.not_mem_nil⟩
  refine bindTriple disarmed fun _ => bindTriple (holdsModify List.not_mem_nil _) fun _ =>
    bindTriple (holdsModify List.not_mem_nil _) fun _ => bindTriple (holdsModify List.not_mem_nil _) fun _ =>
    bindTriple (holdsModified List.not_mem_nil rfl (· &&& bbModeMask = bbModeIdle) baseband) fun _ =>
    bindTriple (holdsModified (by decide) rfl (· &&& 0x00320000 = 0) analog) fun _ =>
    afterTriple (holdsWritten (by decide) rfl (· = lleModeIdle) rfl) fun _ chip holds => ?_
  obtain ⟨capture,words⟩ := holds
  simp only [List.forall_mem_cons] at words
  exact ⟨capture,words.1.2,words.2.1.2,words.2.2.1.2⟩

end Shut

/-! Time. -/

section Time
variable {first second third : Chip} {k j : Nat}

/- The clock of the device goes past every time. -/
def RunsOn (start : Chip) : Prop := ∀ time, ∃ k, time ≤ timeAt start k

/- So many moments have passed since the start, to say it exactly. -/
def Waited (start : Chip) (k : Nat) (chip : Chip) : Prop :=
  chip.elapsed = start.elapsed + k ∧ chip.clockUs = timeAt start k ∧ chip.moments = start.moments

theorem waitedElapse (waited : Waited first k second) : Waited first (k + 1) (elapse second) := by
  obtain ⟨elapsed,clock,moments⟩ := waited
  have ended := elapses second
  refine ⟨?_,?_,ended.moments.trans moments⟩
  · rw [ended.elapsed,elapsed,Nat.add_assoc]
  · rw [ended.clockUs,clock,moments,elapsed,timeAt]

theorem waitedTime (waited : Waited first k second) (j : Nat) : timeAt second j = timeAt first (k + j) := by
  obtain ⟨elapsed,clock,moments⟩ := waited
  induction j with
  | zero => exact clock
  | succ j ih => rw [timeAt,ih,moments,elapsed,Nat.add_assoc first.elapsed,← Nat.add_assoc k,timeAt]

theorem waitedTrans (one : Waited first k second) (two : Waited second j third) : Waited first (k + j) third := by
  obtain ⟨elapsed,clock,moments⟩ := two
  refine ⟨?_,clock.trans (waitedTime one j),moments.trans one.2.2⟩
  rw [elapsed,one.1,Nat.add_assoc]

/- A clock that goes past every time still does so later on. -/
theorem runsOnLater (runs : RunsOn first) (waited : Waited first k second) : RunsOn second := by
  intro time
  obtain ⟨j,past⟩ := runs time
  refine ⟨j,Nat.le_trans past ?_⟩
  rw [waitedTime waited]
  exact timeGoesOn first (Nat.le_add_left j k)

theorem doingWaited (doing : Doing course chip) : ∃ k, Waited course.start k chip := by
  obtain ⟨k,_,elapsed,clock⟩ := doing.clock
  exact ⟨k,elapsed,clock,doing.moments⟩

end Time

/-! What any operation leaves alone. -/

/- The same device with the same settings, some time later, and every access so far still on
record. -/
structure Afterwards (start after : Chip) : Prop where
  moments : after.moments = start.moments
  waited : ∃ k, Waited start k after
  settings : Settled start after
  log : ∃ more, after.log = start.log ++ more

theorem afterwardsSame (start : Chip) : Afterwards start start :=
  ⟨rfl,⟨0,rfl,rfl,rfl⟩,⟨fun _ _ => rfl,rfl,rfl,rfl,rfl⟩,[],(List.append_nil _).symm⟩

theorem afterwardsTrans {first second third : Chip} (one : Afterwards first second) (two : Afterwards second third) :
    Afterwards first third := by
  obtain ⟨front,earlier⟩ := one.log
  obtain ⟨back,later⟩ := two.log
  obtain ⟨k,waited⟩ := one.waited
  obtain ⟨j,longer⟩ := two.waited
  refine ⟨two.moments.trans one.moments,⟨k + j,waitedTrans waited longer⟩,settledTrans one.settings two.settings,
    front ++ back,?_⟩
  rw [later,earlier,List.append_assoc]

theorem afterwardsElapse (chip : Chip) : Afterwards chip (elapse chip) := by
  have ended := elapses chip
  exact ⟨ended.moments,⟨1,waitedElapse ⟨rfl,rfl,rfl⟩⟩,settledElapse chip,[],ended.log.trans (List.append_nil _).symm⟩

theorem doingAfterwards {course : Course} {chip : Chip} (doing : Doing course chip) : Afterwards course.start chip := by
  obtain ⟨more,log,_⟩ := doing.log
  exact ⟨doing.moments,doingWaited doing,doing.settings,more,log⟩

theorem runsOnAfterwards {start after : Chip} (runs : RunsOn start) (afterwards : Afterwards start after) :
    RunsOn after := by
  obtain ⟨_,waited⟩ := afterwards.waited
  exact runsOnLater runs waited

/-! Loops that watch the clock. -/

section Clocked
variable {S : Type} {start : Chip}

/- What is left for such a loop: its phase, and the moments up to a bound for its deadline. -/
def remaining (start : Chip) (bound : Nat → Nat) (deadline phase : S → Nat) (here : S × Chip) : Nat × Nat :=
  (phase here.1,start.elapsed + bound (deadline here.1) - here.2.elapsed)

/- A loop whose deadline is moved only finitely often ends, if each of its turns lets time pass. -/
theorem clockedLoopEnds {going : S → Chip → Prop} (deadline phase : S → Nat) {turn : S → Operation (S × Bool)}
    (runs : RunsOn start)
    (waits : ∀ s chip, going s chip → (∃ k, Waited start k chip) ∧ going s (elapse chip))
    (turns : ∀ s k, Triple (fun chip => going s chip ∧ start.elapsed + k ≤ chip.elapsed) (turn s)
      (fun turned chip => turned.2 = true → going turned.1 chip ∧ start.elapsed + k ≤ chip.elapsed ∧
        (phase turned.1 < phase s ∨ phase turned.1 = phase s ∧ deadline turned.1 = deadline s)) fun _ _ => True)
    (s : S) (begin : going s chip) :
    ∃ turns, (result (repeatTurns (clockedPass deadline turn) turns s) chip).1 ≠ .ok none := by
  choose bound past using runs
  refine loopEnds (InvImage.wf (remaining start bound deadline phase)
    (Prod.instWellFoundedRelation (α := Nat) (β := Nat)).wf) ?_ s chip begin
  intro s chip s' after holds ran
  obtain ⟨⟨k,waited⟩,later⟩ := waits s chip holds
  obtain ⟨elapsed,clock,_⟩ := waitedElapse waited
  unfold clockedPass at ran
  rw [show result (now >>= _) chip = _ from bindOk rfl] at ran
  split at ran
  · rename_i early
    have post := turns s (k + 1) (elapse chip) ⟨later,elapsed.ge⟩
    rw [ran] at post
    obtain ⟨kept,grown,progress⟩ := post rfl
    refine ⟨kept,?_⟩
    have before : timeAt start (k + 1) < deadline s := clock ▸ early
    have within : k + 1 < bound (deadline s) := by
      by_contra late
      exact absurd (timeGoesOn start (Nat.le_of_not_lt late)) (Nat.not_le_of_lt (Nat.lt_of_lt_of_le before (past _)))
    show Prod.Lex _ _ (remaining start bound deadline phase (s',after)) (remaining start bound deadline phase (s,chip))
    obtain phaseLess | ⟨samePhase,sameDeadline⟩ := progress
    · exact .left _ _ phaseLess
    · refine Prod.lex_def.mpr (.inr ⟨samePhase,?_⟩)
      show start.elapsed + bound (deadline s') - after.elapsed < start.elapsed + bound (deadline s) - chip.elapsed
      rw [sameDeadline,waited.1]
      omega
  · cases ran

end Clocked

/-! A device that does the same in every moment: it raises these flags, and this packet is there. -/

def steady (status : UInt32) (received : Bank) : Chip where
  words := fun _ => 0
  txBuffer := Vector.replicate rfDmaBufferLen 0
  responseBuffer := Vector.replicate rfDmaBufferLen 0
  rxBuffer := Vector.replicate rfDmaBufferLen 0
  rxCaptureCountdown := 0
  captureSeen := false
  physicalDmaOverflows := 0
  unsupportedPacketLengths := 0
  interruptEnabled := true
  accessAddress := 0
  crcInit := 0
  digitalInitialized := true
  frontendCalibrated := true
  moments := fun _ => ⟨⟨fun address => if address = lleStatus then status else 0,fun _ => 0⟩,false,0,some received,1⟩
  elapsed := 0
  clockUs := 0
  log := []

theorem steadyRunsOn (status : UInt32) (received : Bank) : RunsOn (steady status received) := by
  have counts : ∀ k, timeAt (steady status received) k = k := by
    intro k
    induction k with
    | zero => rfl
    | succ k ih =>
      rw [timeAt,ih]
      rfl
  exact fun time => ⟨time,(counts time).ge⟩

end Ch58xHal.RadioSafety
