import Ch58xHal.RadioSingles
import Ch58xHal.RfCalibration

/-! The RF front end: its calibration measures the die and fills the tuning table, or leaves the
table alone, and the radio is back at rest on either way out. -/
namespace Ch58xHal.RfFrontEnd
open Routines Triples DeviceRegisters RadioChip RadioOperations RadioSafety RadioExchange OrderedEvidence
open Advertising (Error)
open RfCalibration (Measurement buildTable tableWords)

def tuneCountdown : UInt32 := 0x1f40
def filterCountdown : UInt32 := 0x64
@[irreducible] def maxCalibrationPolls : Nat := 32768

def initializeBaseline : Operation Unit := do
  writeRegister config28 0x480
  modifyRegister config3c fun value => (value &&& ~~~0x06000000) ||| 0x02000000
  modifyRegister config3c fun value => (value &&& ~~~0xe0000000) ||| 0x40000000
  modifyRegister config30 (· ||| 0x00000700)
  modifyRegister config30 (· ||| 0x00007000)
  modifyRegister config30 (· ||| 0x00070000)
  modifyRegister config30 fun value => (value &&& ~~~0x70000000) ||| 0x10000000
  modifyRegister config48 (· &&& ~~~0x00070000)
  modifyRegister config4c (· &&& ~~~0x00000007)
  modifyRegister config4c (· &&& ~~~0x00000070)
  modifyRegister config4c (· &&& ~~~0x00030000)
  modifyRegister config5c (· &&& ~~~0x00070000)
  modifyRegister config5c (· &&& ~~~0x00700000)

def tuneDone : UInt32 := 0x06000000

def pollTune : Nat → Operation Unit
  | 0 => throw .timeout
  | polls+1 => do
    if (← readRegister tuneCo90) &&& tuneDone = tuneDone then pure ()
    else if (← readRegister lleOperationCountdown) = 0 then throw .timeout
    else pollTune polls

def waitTune : Operation Unit := do
  writeRegister lleOperationCountdown tuneCountdown
  pollTune maxCalibrationPolls

def measureCtune (tune : UInt32) : Operation Measurement := do
  modifyRegister control04 (· &&& ~~~0x01)
  modifyRegister config38 fun value => (value &&& 0xfffe00ff) ||| tune
  modifyRegister control04 (· ||| 0x01)
  waitTune
  let co ← readRegister tuneCo90
  let ga ← readRegister tuneGa94
  pure ⟨(co &&& 0x3f).toUInt8,((ga >>> 10) &&& 0x7f).toUInt8⟩

structure Measurements where
  mhz2401 : Measurement
  mhz2440 : Measurement
  mhz2480 : Measurement

def measureAll : Operation Measurements := do
  let mhz2401 ← measureCtune 0x0000bf00
  let mhz2480 ← measureCtune 0x0000e800
  let mhz2440 ← measureCtune 0x0000d400
  let _mhz2522 ← measureCtune 0x0000fc00
  pure ⟨mhz2401,mhz2440,mhz2480⟩

/- The last word keeps its upper four bits. -/
def writeTableWord (words : Vector UInt32 tableWords) (index : Nat) : Operation Unit := do
  let value := words.toList.getD index 0
  if index + 1 = tableWords then
    modifyRegister (tuneTable index) fun old => (old &&& 0xf0000000) ||| (value &&& 0x0fffffff)
  else writeRegister (tuneTable index) value

def writeTable (words : Vector UInt32 tableWords) : Operation Unit :=
  forM (List.range tableWords) (writeTableWord words)

-- No table stands for a panic, which the arithmetic of the table never comes to.
def applyMeasurements (m : Measurements) : Operation Unit := do
  modifyRegister config38 fun value =>
    (value &&& 0x80ffffc0) ||| (m.mhz2440.co &&& 0x3f).toUInt32 |||
      ((m.mhz2440.ga &&& 0x7f).toUInt32 <<< (24 : UInt32))
  match buildTable m.mhz2401 m.mhz2440 m.mhz2480 with
  | none => pure ()
  | some (.error _) => throw .hardware
  | some (.ok table) => writeTable table.words

def prepareCtune : Operation Unit := do
  modifyRegister control04 (· &&& ~~~0x100)
  modifyRegister config28 (· &&& ~~~0x1000)
  modifyRegister config2c (· &&& ~~~0x10)
  modifyRegister analogEnable08 (· ||| 0x00020000)
  modifyRegister control04 (· ||| 0x10)

def restoreCtune : Operation Unit := do
  modifyRegister control04 (· &&& ~~~0x11)
  modifyRegister config28 (· ||| 0x1000)
  modifyRegister config2c (· ||| 0x10)

def txCtune : Operation Unit := do
  prepareCtune
  let measurements ← try
      let m ← measureAll
      pure (Except.ok m)
    catch error => pure (.error error)
  restoreCtune
  match measurements with
  | .error error => throw error
  | .ok m => applyMeasurements m

def txFtune : Operation Unit := modifyRegister control04 (· ||| 0x100)

def pollFilter : Nat → Operation Unit
  | 0 => pure ()
  | polls+1 => do
    if (← readRegister filterStatus9c) &&& 0x100 ≠ 0 then pure ()
    else if (← readRegister lleOperationCountdown) = 0 then pure ()
    else pollFilter polls

def rxFilter : Operation Unit := do
  modifyRegister filter50 (· &&& ~~~0x00010000)
  modifyRegister analogEnable08 (· ||| 0x00200000)
  modifyRegister resetControl0c (· ||| 0x10)
  modifyRegister resetControl0c (· &&& ~~~0x10)
  modifyRegister resetControl0c (· ||| 0x10)
  modifyRegister control04 (· ||| 0x1000)
  writeRegister lleOperationCountdown filterCountdown
  pollFilter maxCalibrationPolls
  let status ← readRegister filterStatus9c
  modifyRegister filter50 (· ||| 0x00010000)
  modifyRegister filter50 fun value => (value &&& ~~~0x1f) ||| (status &&& 0x1f)
  modifyRegister analogEnable08 (· &&& ~~~0x00200000)

def rxAdc : Operation Unit := do
  modifyRegister adc58 (· &&& ~~~0x00010000)
  modifyRegister analogEnable08 (· ||| 0x00010000)
  modifyRegister resetControl0c (· &&& ~~~0x100)
  modifyRegister control04 (· &&& ~~~0x00010000)
  modifyRegister resetControl0c (· ||| 0x100)
  modifyRegister control04 (· ||| 0x00010000)

def calibrate : Operation Unit := do
  enableAnalog
  txCtune
  txFtune
  rxFilter
  rxAdc

def leaveCalibration : Operation Unit := modifyRegister analogEnable08 (· &&& 0xffcdffff)

/-! Bringing up the radio. -/

def txPower0Dbm : UInt32 := 0x15
def bbTxPowerMask : UInt32 := 0x7e000000

def timing : List (Nat × UInt32) :=
  [(0x14,0x8c),(0x1c,0x76),(0x24,0x8c),(0x2c,0x6e),(0x34,0x8c),(0x3c,0x6e),(0x44,0x8c),(0x4c,0x76)]

def initLle (layout : Layout) : Operation Unit := do
  writeRegister lleTxBuffer layout.tx
  writeRegister lleRxBuffer layout.rx
  forM timing fun t => writeRegister (lleBase + t.1) t.2
  modifyRegister lleConfig (· &&& ~~~0x1f)
  writeLleConfigHigh 1
  writeRegister (lleBase + 0x54) 0
  writeRegister lleStatus 0xffffffff
  writeRegister lleInterruptEnable 0x001f000f

def setAccessAddress (accessAddress : UInt32) : Operation Unit := do
  modify fun chip => { chip with accessAddress := accessAddress }
  writeRegister bbTxAccessAddress accessAddress

def setCrcInit (crcInit : UInt32) : Operation Unit := do
  modify fun chip => { chip with crcInit := crcInit &&& 0x00ffffff }
  let chip ← get
  writeRegister bbTxCrcInit chip.crcInit

def initBaseband : Operation Unit := do
  modifyRegister bbConfig fun value => ((value ||| ((1 : UInt32) <<< 23)) &&& ~~~bbModeMask) ||| bbModeIdle
  writeRegister bbInterruptStatus 0x3ff
  writeRegister bbInterruptEnable 0x50
  modifyRegister bbTxControl fun value =>
    ((value ||| ((1 : UInt32) <<< 31)) &&& ~~~bbTxPowerMask) ||| (txPower0Dbm <<< (25 : UInt32))
  modifyRegister config5c fun value => (value &&& ~~~0x07000000) ||| 0x01000000
  writeRegister bbConfig3c 0x0002020c
  modifyRegister bbReceiveConfig10 fun value => (value &&& ~~~0x3f) ||| 0x0e
  writeRegister lleMode lleModeIdle
  let chip ← get
  setAccessAddress chip.accessAddress
  setCrcInit chip.crcInit

def initDigital (layout : Layout) : Operation Unit := do
  initLle layout
  initBaseband
  modify fun chip => { chip with digitalInitialized := true,frontendCalibrated := false }

def enterCalibration : Operation Unit := do
  modifyRegister lleMode (· &&& ~~~0x700)
  modifyRegister lleCommand (· ||| 0x08)
  modifyRegister bbConfig (· ||| ((1 : UInt32) <<< 7))
  setBbMode bbModeActive
  writeRegister lleMode lleModeCalibration

/- Back to idle, also after a failed calibration. -/
def exitCalibration : Operation Unit := do
  setBbMode bbModeIdle
  writeRegister lleStatus lleStatusTiming
  leaveCalibration
  writeRegister lleMode lleModeIdle

def initializeRadio (layout : Layout) : Operation Unit := do
  initLle layout
  initializeBaseline
  initBaseband
  modify fun chip => { chip with digitalInitialized := true,frontendCalibrated := false }
  enterCalibration
  let outcome ← try
      calibrate
      pure (Except.ok ())
    catch error => pure (.error error)
  exitCalibration
  match outcome with
  | .error error => throw error
  | .ok () => do
    modify fun chip => { chip with frontendCalibrated := true }
    enableInterrupt true

/-! What a stretch of bringing up the radio has done since its start. -/

section BringUp
variable {fail : Error → Chip → Prop} {chip : Chip} {address : Nat} {value : UInt32} {α β : Type}

structure Fields where
  accessAddress : UInt32
  crcInit : UInt32
  digitalInitialized : Bool
  frontendCalibrated : Bool

def fieldsOf (chip : Chip) : Fields :=
  ⟨chip.accessAddress,chip.crcInit,chip.digitalInitialized,chip.frontendCalibrated⟩

structure Progress where
  start : Chip
  fields : Fields
  demands : List (Entry → Prop)
  facts : Nat → UInt32 → Prop

variable {progress : Progress}

/- Nothing was launched, and the registers that keep what was written hold what is said of them. -/
structure BringUp (progress : Progress) (chip : Chip) : Prop where
  noted : Noted progress.start progress.demands 0 0 chip
  fields : fieldsOf chip = progress.fields
  facts : ∀ address, kind address = .held → progress.facts address (chip.words address)

def Progress.shows (progress : Progress) (demand : Entry → Prop) : Progress :=
  { progress with demands := progress.demands ++ [demand] }

def Progress.sets (progress : Progress) (address : Nat) (fact : UInt32 → Prop) : Progress :=
  { progress with facts := Function.update progress.facts address fact }

/- Only of the settings is anything said. -/
def OfSettings (progress : Progress) : Prop := ∀ address ∉ settingRegisters, ∀ value, progress.facts address value

theorem setsSetting (settings : OfSettings progress) (setting : address ∈ settingRegisters) (fact : UInt32 → Prop) :
    OfSettings (progress.sets address fact) := by
  intro other apart value
  have different : other ≠ address := fun same => apart (same ▸ setting)
  show Function.update progress.facts address fact other value
  rw [Function.update_of_ne different]
  exact settings other apart value

theorem bringElapse (bring : BringUp progress chip) : BringUp progress (elapse chip) := by
  have ended := elapses chip
  refine ⟨notedSame bring.noted ended.log,?_,fun address held => ?_⟩
  · rw [← bring.fields,fieldsOf,ended.accessAddress,ended.crcInit,ended.digitalInitialized,ended.frontendCalibrated]
    rfl
  · rw [ended.held address held]
    exact bring.facts address held

theorem bringFewer {demands : List (Entry → Prop)} (bring : BringUp progress chip)
    (fewer : demands.Sublist progress.demands) : BringUp { progress with demands := demands } chip := by
  obtain ⟨⟨more,log,shown,counts⟩,fields,facts⟩ := bring
  exact ⟨⟨more,log,shownFewer shown fewer,counts⟩,fields,facts⟩

theorem notedTrans {first second third : Chip} {demands : List (Entry → Prop)}
    (one : Noted first demands 0 0 second) (two : Noted second [] 0 0 third) : Noted first demands 0 0 third := by
  obtain ⟨more,log,shown,counts⟩ := one
  obtain ⟨after,later,_,none⟩ := two
  exact ⟨more ++ after,by rw [later,log,List.append_assoc],shownLater shown after,countsAppend counts none⟩

/- Just begun: what the rules for quiet accesses start from. -/
def fresh (start : Chip) : Course := ⟨start,0,start.txBuffer,start.responseBuffer,none,[],0,0⟩

theorem freshDoing (start : Chip) : Doing (fresh start) start :=
  ⟨rfl,⟨0,le_refl 0,rfl,rfl⟩,rfl,rfl,⟨[],(List.append_nil _).symm,nothingDemanded [],⟨rfl,rfl⟩⟩,
    ⟨fun _ _ => rfl,rfl,rfl,rfl,rfl⟩,fun _ launched => nomatch launched⟩

/- The quiet accesses leave the settings alone. -/
theorem quietBrings {m : Operation α} (quiet : Quiet m) (settings : OfSettings progress) :
    Triple (BringUp progress) m (fun _ => BringUp progress) fail := by
  intro chip bring
  have post := quiet (fresh chip) (fun _ _ => False) chip (freshDoing chip)
  rcases ran : result m chip with ⟨outcome,after⟩
  rw [ran] at post
  cases outcome with
  | error e => exact post.elim
  | ok a =>
    refine ⟨notedTrans bring.noted post.log,?_,fun address held => ?_⟩
    · rw [← bring.fields,fieldsOf,post.settings.accessAddress,post.settings.crcInit,
        post.settings.digitalInitialized,post.settings.frontendCalibrated]
      rfl
    · by_cases setting : address ∈ settingRegisters
      · rw [post.settings.words address setting]
        exact bring.facts address held
      · exact settings address setting _

theorem quietFirst {m : Operation α} {f : α → Operation β} {ok : β → Chip → Prop} (quiet : Quiet m)
    (settings : OfSettings progress) (rest : ∀ a, Triple (BringUp progress) (f a) ok fail) :
    Triple (BringUp progress) (m >>= f) ok fail := bindTriple (quietBrings quiet settings) rest

/- A read tells what its register holds, and may meet one more demand. -/
theorem readBrings (progress : Progress) (address : Nat) :
    Triple (BringUp progress) (readRegister address) (fun value chip => BringUp progress chip ∧
      (kind address = .held → progress.facts address value) ∧
      ∀ demand : Entry → Prop, (∀ k, demand (k,.read address value)) → BringUp (progress.shows demand) chip) fail := by
  refine readTriple fun chip bring => ?_
  have now := bringElapse bring
  have none : ∀ value, Counts 0 0 [((elapse chip).elapsed,Access.read address value)] := fun _ => ⟨rfl,rfl⟩
  refine ⟨⟨?_,now.fields,now.facts⟩,now.facts address,fun demand meets => ⟨?_,now.fields,now.facts⟩⟩
  · exact notes now.noted (none _) (fun _ before => shownLater before _) rfl
  · exact notes now.noted (none _) (fun _ before => shownNext before demand (meets _)) rfl

/- A write settles what is said of its register, and may meet one more demand. -/
theorem writeBrings (inert : Inert address value) (fact : UInt32 → Prop) (meets : kind address = .held → fact value) :
    Triple (BringUp progress) (writeRegister address value) (fun _ chip => BringUp (progress.sets address fact) chip ∧
      ∀ demand : Entry → Prop, (∀ k, demand (k,.write address value)) →
        BringUp ((progress.sets address fact).shows demand) chip) fail := by
  refine modifyTriple fun chip bring => ?_
  have now := bringElapse bring
  have settled : ∀ other, kind other = .held →
      (progress.sets address fact).facts other (store kind address value (elapse chip).words other) := by
    intro other held
    show Function.update progress.facts address fact other _
    by_cases same : other = address
    · subst same
      rw [Function.update_self,heldStored held]
      exact meets held
    · rw [Function.update_of_ne same,otherStored same]
      exact now.facts other held
  refine ⟨⟨?_,now.fields,settled⟩,fun demand met => ⟨?_,now.fields,settled⟩⟩
  · exact notes now.noted (inertCounts inert) (fun _ before => shownLater before _) rfl
  · exact notes now.noted (inertCounts inert) (fun _ before => shownNext before demand (met _)) rfl

theorem modifyBrings {f : UInt32 → UInt32} (inert : ∀ word, Inert address (f word)) (held : kind address = .held)
    (fact : UInt32 → Prop) (meets : ∀ word, progress.facts address word → fact (f word)) :
    Triple (BringUp progress) (modifyRegister address f) (fun _ => BringUp (progress.sets address fact)) fail := by
  refine bindTriple (readBrings progress address) fun word => ?_
  rintro chip ⟨bring,known,_⟩
  have written : Triple (BringUp progress) (writeRegister address (f word))
      (fun _ => BringUp (progress.sets address fact)) fail :=
    afterTriple (writeBrings (inert word) fact fun _ => meets word (known held)) fun _ _ post => post.1
  exact written chip bring

/- A write to a register of which it says nothing wrong. -/
theorem writeSpares (inert : Inert address value) (meets : kind address = .held → progress.facts address value) :
    Triple (BringUp progress) (writeRegister address value) (fun _ chip => BringUp progress chip ∧
      ∀ demand : Entry → Prop, (∀ k, demand (k,.write address value)) → BringUp (progress.shows demand) chip) fail := by
  have same : progress.sets address (progress.facts address) = progress := by
    unfold Progress.sets
    rw [Function.update_eq_self]
  have written : Triple (BringUp progress) (writeRegister address value)
      (fun _ chip => BringUp (progress.sets address (progress.facts address)) chip ∧
        ∀ demand : Entry → Prop, (∀ k, demand (k,.write address value)) →
          BringUp ((progress.sets address (progress.facts address)).shows demand) chip) fail :=
    writeBrings inert (progress.facts address) meets
  rw [same] at written
  exact written

/- A flag register holds nothing that is said. -/
theorem flagsSpare (flags : kind address ≠ .held) (inert : Inert address value) :
    Triple (BringUp progress) (writeRegister address value) (fun _ => BringUp progress) fail :=
  afterTriple (writeSpares inert fun held => absurd held flags) fun _ _ post => post.1

end BringUp

/-! The measurements. -/

section Measuring
variable {fail : Error → Chip → Prop} {progress : Progress} {chip : Chip}

def Tuned (tune : UInt32) (entry : Entry) : Prop :=
  ∃ value, entry.2 = .write config38 value ∧ value &&& 0x0001ff00 = tune

def TuneReady (entry : Entry) : Prop := ∃ value, entry.2 = .read tuneCo90 value ∧ value &&& tuneDone = tuneDone

def Coarse (co : UInt8) (entry : Entry) : Prop := ∃ value, entry.2 = .read tuneCo90 value ∧ co = (value &&& 0x3f).toUInt8

def Fine (ga : UInt8) (entry : Entry) : Prop :=
  ∃ value, entry.2 = .read tuneGa94 value ∧ ga = ((value >>> 10) &&& 0x7f).toUInt8

/- The synthesizer was set to the frequency, was ready, and then showed this. -/
def measured (tune : UInt32) (m : Measurement) : List (Entry → Prop) := [Tuned tune,TuneReady,Coarse m.co,Fine m.ga]

def Progress.measures (progress : Progress) (tune : UInt32) (m : Measurement) : Progress :=
  { progress with demands := progress.demands ++ measured tune m }

def TimedOut (progress : Progress) (e : Error) (chip : Chip) : Prop :=
  e = .timeout ∧ BringUp { progress with demands := [] } chip

theorem timedOut (bring : BringUp progress chip) : TimedOut progress .timeout chip :=
  ⟨rfl,bringFewer bring (List.nil_sublist _)⟩

theorem showsSettings (settings : OfSettings progress) (demand : Entry → Prop) : OfSettings (progress.shows demand) := settings

theorem measuresSettings (settings : OfSettings progress) (tune : UInt32) (m : Measurement) :
    OfSettings (progress.measures tune m) := settings

theorem pollsTune (settings : OfSettings progress) (polls : Nat) :
    Triple (BringUp progress) (pollTune polls) (fun _ => BringUp (progress.shows TuneReady)) (TimedOut progress) := by
  induction polls with
  | zero => exact throwTriple fun _ bring => timedOut bring
  | succ polls ih =>
    refine bindTriple (readBrings progress tuneCo90) fun co => iteTriple (fun ready => ?_) fun _ => ?_
    · exact pureTriple fun _ ⟨_,_,seen⟩ => seen TuneReady fun _ => ⟨co,rfl,ready⟩
    · refine beforeTriple ?_ fun _ post => post.1
      exact quietFirst (readQuiet lleOperationCountdown) settings fun _ =>
        iteTriple (fun _ => throwTriple fun _ bring => timedOut bring) fun _ => ih

theorem waitsTune (settings : OfSettings progress) :
    Triple (BringUp progress) waitTune (fun _ => BringUp (progress.shows TuneReady)) (TimedOut progress) :=
  quietFirst (writeQuiet (elsewhere (by decide))) settings fun _ => pollsTune settings maxCalibrationPolls

theorem measuresOne (settings : OfSettings progress) {tune : UInt32} (inside : tune &&& 0x0001ff00 = tune) :
    Triple (BringUp progress) (measureCtune tune) (fun m => BringUp (progress.measures tune m)) (TimedOut progress) := by
  have tuned : ∀ word : UInt32, ((word &&& 0xfffe00ff) ||| tune) &&& 0x0001ff00 = tune := by
    intro word
    have cleared : (0xfffe00ff : UInt32) &&& 0x0001ff00 = 0 := by decide
    rw [andOr,UInt32.and_assoc,cleared,UInt32.and_zero,UInt32.zero_or,inside]
  refine quietFirst (modifyQuiet fun _ => elsewhere (by decide)) settings fun _ => ?_
  have switched : Triple (BringUp progress) (modifyRegister config38 fun value => (value &&& 0xfffe00ff) ||| tune)
      (fun _ => BringUp (progress.shows (Tuned tune))) (TimedOut progress) :=
    quietFirst (readQuiet config38) settings fun word =>
      afterTriple (writeSpares (elsewhere (by decide)).toInert fun _ => settings config38 (by decide) _)
        fun _ _ post => post.2 (Tuned tune) fun _ => ⟨_,rfl,tuned word⟩
  refine bindTriple switched fun _ => quietFirst (modifyQuiet fun _ => elsewhere (by decide)) settings fun _ => ?_
  refine bindTriple (waitsTune (showsSettings settings (Tuned tune))) fun _ => ?_
  refine bindTriple (readBrings _ tuneCo90) fun co => ?_
  refine beforeTriple ?_ fun _ ⟨_,_,seen⟩ => seen (Coarse (co &&& 0x3f).toUInt8) fun _ => ⟨co,rfl,rfl⟩
  refine bindTriple (readBrings _ tuneGa94) fun ga => pureTriple fun chip ⟨_,_,seen⟩ => ?_
  have shown := seen (Fine ((ga >>> 10) &&& 0x7f).toUInt8) fun _ => ⟨ga,rfl,rfl⟩
  unfold Progress.shows at shown
  simp only [List.append_assoc,List.cons_append,List.nil_append] at shown
  exact shown

/- All of them, in their order; what is measured at 2522 MHz is not used. -/
def evidence (ms : Measurements) : List (Entry → Prop) :=
  measured 0x0000bf00 ms.mhz2401 ++ measured 0x0000e800 ms.mhz2480 ++ measured 0x0000d400 ms.mhz2440

def Progress.calibrates (progress : Progress) (ms : Measurements) : Progress :=
  { progress with demands := progress.demands ++ evidence ms }

theorem measuresAll (settings : OfSettings progress) :
    Triple (BringUp progress) measureAll (fun ms => BringUp (progress.calibrates ms)) (TimedOut progress) := by
  refine bindTriple (measuresOne settings (by decide)) fun mhz2401 => ?_
  have one := measuresSettings settings 0x0000bf00 mhz2401
  refine bindTriple (measuresOne one (by decide)) fun mhz2480 => ?_
  have two := measuresSettings one 0x0000e800 mhz2480
  refine bindTriple (measuresOne two (by decide)) fun mhz2440 => ?_
  have three := measuresSettings two 0x0000d400 mhz2440
  refine bindTriple (measuresOne three (by decide)) fun _ => pureTriple fun chip bring => ?_
  have fewer := bringFewer bring (List.sublist_append_left _ _)
  unfold Progress.measures at fewer
  simp only [List.append_assoc] at fewer
  unfold Progress.calibrates evidence
  simp only [List.append_assoc]
  exact fewer

end Measuring

/-! The table. -/

section Table
variable {fail : Error → Chip → Prop} {progress : Progress} {chip : Chip} {contents : Nat → UInt32}

/- What is written to a word of the table that held the old one. -/
def tableWord (words : Vector UInt32 tableWords) (old : UInt32) (index : Nat) : UInt32 :=
  if index + 1 = tableWords then (old &&& 0xf0000000) ||| (words.toList.getD index 0 &&& 0x0fffffff)
  else words.toList.getD index 0

def Progress.table (progress : Progress) (contents : Nat → UInt32) : Progress :=
  { progress with
    facts := fun address value =>
      progress.facts address value ∧ ∀ i < tableWords, address = tuneTable i → value = contents i }

theorem tableInjective {i j : Nat} (same : tuneTable i = tuneTable j) : i = j := by
  unfold tuneTable at same
  omega

theorem tableHeld {i : Nat} (inside : i < tableWords) : tuneTable i ∈ settingRegisters :=
  List.mem_cons_of_mem _ (List.mem_cons_of_mem _ (List.mem_map_of_mem (List.mem_range.mpr inside)))

theorem tableSettings (settings : OfSettings progress) (contents : Nat → UInt32) : OfSettings (progress.table contents) :=
  fun address apart value => ⟨settings address apart value,fun _ inside same => absurd (same ▸ tableHeld inside) apart⟩

theorem bringWeaker {less : Progress} (bring : BringUp progress chip) (same : { progress with facts := less.facts } = less)
    (weaker : ∀ address value, progress.facts address value → less.facts address value) : BringUp less chip := by
  rw [← same]
  exact ⟨bring.noted,bring.fields,fun address held => weaker address _ (bring.facts address held)⟩

/- Of the table nothing but its contents is said. -/
def OffTable (progress : Progress) : Prop := ∀ i value, progress.facts (tuneTable i) value

theorem setsWord (off : OffTable progress) {i : Nat} {word : UInt32}
    (bring : BringUp ((progress.table contents).sets (tuneTable i) (· = word)) chip) :
    BringUp (progress.table (Function.update contents i word)) chip := by
  refine bringWeaker bring rfl fun address value holds => ?_
  by_cases here : address = tuneTable i
  · subst here
    have written : value = word := by
      simpa only [Progress.sets,Function.update_self] using holds
    refine ⟨off i value,fun j _ same => ?_⟩
    rw [← tableInjective same,Function.update_self]
    exact written
  · simp only [Progress.sets,Function.update_of_ne here] at holds
    refine ⟨holds.1,fun j within same => ?_⟩
    have other : j ≠ i := fun equal => here (equal ▸ same)
    rw [Function.update_of_ne other]
    exact holds.2 j within same

/- One word of the table, whichever way it is written. -/
theorem writesWord (off : OffTable progress) (words : Vector UInt32 tableWords) {i : Nat} (inside : i < tableWords) :
    Triple (BringUp (progress.table contents)) (writeTableWord words i)
      (fun _ => BringUp (progress.table (Function.update contents i (tableWord words (contents i) i)))) fail := by
  have held : kind (tuneTable i) = .held := settingsHeld _ (tableHeld inside)
  have inert : ∀ value, Inert (tuneTable i) value := by
    intro value
    have setting := tableHeld inside
    refine ⟨fun same => absurd (same ▸ setting) (by decide),fun same => absurd (same ▸ setting) (by decide)⟩
  unfold writeTableWord tableWord
  dsimp only
  split
  · refine afterTriple (modifyBrings (fun _ => inert _) held (· = _) fun word known => ?_)
      fun _ _ bring => setsWord off bring
    rw [known.2 i inside rfl]
  · exact afterTriple (writeBrings (inert _) (· = _) fun _ => rfl) fun _ _ post => setsWord off post.1

/- With these words of the table still to write. -/
def TableUpTo (progress : Progress) (contents : Nat → UInt32) (words : Vector UInt32 tableWords) (rest : List Nat)
    (chip : Chip) : Prop :=
  rest.Nodup ∧ (∀ i ∈ rest, i < tableWords) ∧
    BringUp (progress.table fun i => if i ∈ rest then contents i else tableWord words (contents i) i) chip

theorem writesNext (off : OffTable progress) (words : Vector UInt32 tableWords) (i : Nat) (rest : List Nat) :
    Triple (TableUpTo progress contents words (i :: rest)) (writeTableWord words i)
      (fun _ => TableUpTo progress contents words rest) fail := by
  rintro chip ⟨once,within,bring⟩
  obtain ⟨fresh,once⟩ := List.nodup_cons.mp once
  obtain ⟨inside,within⟩ := List.forall_mem_cons.mp within
  refine weakenTriple (writesWord off words inside) (fun _ bring => bring) (fun _ chip bring => ⟨once,within,?_⟩)
    (fun _ _ failed => failed) chip bring
  refine bringWeaker bring rfl fun address value holds => ⟨holds.1,fun j short same => ?_⟩
  rw [holds.2 j short same]
  by_cases here : j = i
  · subst here
    simp [Function.update_self,fresh]
  · rw [Function.update_of_ne here]
    simp [here]

theorem writesTable (off : OffTable progress) (words : Vector UInt32 tableWords) :
    Triple (BringUp (progress.table contents)) (writeTable words)
      (fun _ => BringUp (progress.table fun i => tableWord words (contents i) i)) fail := by
  refine weakenTriple (forTriple (TableUpTo progress contents words) (writesNext off words) (List.range tableWords))
    (fun chip bring => ?_) (fun _ chip ended => ?_) fun _ _ failed => failed
  · refine ⟨List.nodup_range,fun i member => List.mem_range.mp member,?_⟩
    refine bringWeaker bring rfl fun address value holds => ⟨holds.1,fun j short same => ?_⟩
    exact (holds.2 j short same).trans (if_pos (List.mem_range.mpr short)).symm
  · refine bringWeaker ended.2.2 rfl fun address value holds => ⟨holds.1,fun j short same => ?_⟩
    exact (holds.2 j short same).trans (if_neg List.not_mem_nil)

end Table

/-! The calibration. -/

section Calibrating
variable {fail : Error → Chip → Prop} {progress : Progress} {chip : Chip} {contents : Nat → UInt32} {α : Type}

/- The table is filled from what was measured. -/
def Calibrated (progress : Progress) (contents : Nat → UInt32) (chip : Chip) : Prop :=
  ∃ ms table, buildTable ms.mhz2401 ms.mhz2440 ms.mhz2480 = some (.ok table) ∧
    BringUp ((progress.calibrates ms).table fun i => tableWord table.words (contents i) i) chip

def Degenerate (ms : Measurements) : Prop := ms.mhz2401.co = ms.mhz2440.co ∨ ms.mhz2440.co = ms.mhz2480.co

/- A failure leaves the table alone. -/
def Uncalibrated (progress : Progress) (contents : Nat → UInt32) (e : Error) (chip : Chip) : Prop :=
  TimedOut (progress.table contents) e chip ∨
    e = .hardware ∧ ∃ ms, Degenerate ms ∧ BringUp ((progress.calibrates ms).table contents) chip

theorem degenerateFails {ms : Measurements} (degenerate : Degenerate ms) :
    buildTable ms.mhz2401 ms.mhz2440 ms.mhz2480 = some (.error .degenerateCoarseRange) := by
  have zero : (ms.mhz2401.co.toNat : Int) - ms.mhz2440.co.toNat = 0 ∨ (ms.mhz2440.co.toNat : Int) - ms.mhz2480.co.toNat = 0 := by
    rcases degenerate with same | same <;> simp [same]
  unfold buildTable
  rw [(RfCalibration.deltaFits ms.mhz2401.co ms.mhz2440.co).1,(RfCalibration.deltaFits ms.mhz2440.co ms.mhz2480.co).1]
  exact if_pos zero

theorem builds {ms : Measurements} (sound : ¬Degenerate ms) :
    ∃ table, buildTable ms.mhz2401 ms.mhz2440 ms.mhz2480 = some (.ok table) := by
  obtain ⟨coarse,fine⟩ := not_or.mp sound
  obtain ⟨table,built,_⟩ := RfCalibration.tableFilled ms.mhz2401 ms.mhz2440 ms.mhz2480 coarse fine
  exact ⟨table,built⟩

theorem builtSound {ms : Measurements} {table : RfCalibration.Table}
    (built : buildTable ms.mhz2401 ms.mhz2440 ms.mhz2480 = some (.ok table)) : ¬Degenerate ms := by
  intro degenerate
  rw [degenerateFails degenerate] at built
  cases built

theorem prepareQuiet : Quiet prepareCtune :=
  bindQuiet (modifyQuiet fun _ => elsewhere (by decide)) fun _ =>
    bindQuiet (modifyQuiet fun _ => elsewhere (by decide)) fun _ =>
      bindQuiet (modifyQuiet fun _ => elsewhere (by decide)) fun _ =>
        bindQuiet (modifyQuiet fun _ => elsewhere (by decide)) fun _ => modifyQuiet fun _ => elsewhere (by decide)

theorem restoreQuiet : Quiet restoreCtune :=
  bindQuiet (modifyQuiet fun _ => elsewhere (by decide)) fun _ =>
    bindQuiet (modifyQuiet fun _ => elsewhere (by decide)) fun _ => modifyQuiet fun _ => elsewhere (by decide)

theorem calibratesSettings (settings : OfSettings progress) (ms : Measurements) :
    OfSettings ((progress.calibrates ms).table contents) := tableSettings settings contents

theorem calibratesOff (off : OffTable progress) (ms : Measurements) : OffTable (progress.calibrates ms) := off

theorem applies (settings : OfSettings progress) (off : OffTable progress) (ms : Measurements) :
    Triple (BringUp ((progress.calibrates ms).table contents)) (applyMeasurements ms)
      (fun _ => Calibrated progress contents) (Uncalibrated progress contents) := by
  refine quietFirst (modifyQuiet fun _ => elsewhere (by decide)) (calibratesSettings settings ms) fun _ => ?_
  by_cases degenerate : Degenerate ms
  · rw [degenerateFails degenerate]
    exact throwTriple fun _ bring => .inr ⟨rfl,ms,degenerate,bring⟩
  · obtain ⟨table,built⟩ := builds degenerate
    rw [built]
    exact afterTriple (writesTable (calibratesOff off ms) table.words) fun _ _ bring => ⟨ms,table,built,bring⟩

/- What the measurements have come to, before it is known in the code. -/
def Tried (progress : Progress) : Except Error Measurements → Chip → Prop
  | .ok ms => BringUp (progress.calibrates ms)
  | .error e => TimedOut progress e

theorem tunes (settings : OfSettings progress) (off : OffTable progress) :
    Triple (BringUp (progress.table contents)) txCtune (fun _ => Calibrated progress contents)
      (Uncalibrated progress contents) := by
  have still : OfSettings (progress.table contents) := tableSettings settings contents
  have tried : Triple (BringUp (progress.table contents))
      (tryCatch (measureAll >>= fun m => pure (Except.ok m)) fun error => pure (.error error))
      (Tried (progress.table contents)) (Uncalibrated progress contents) :=
    catchTriple (bindTriple (measuresAll still) fun _ => pureTriple fun _ bring => bring) fun _ =>
      pureTriple fun _ failed => failed
  refine quietFirst prepareQuiet still fun _ => bindTriple tried fun measurements => ?_
  cases measurements with
  | ok ms => exact quietFirst restoreQuiet (calibratesSettings settings ms) fun _ => applies settings off ms
  | error e =>
    refine assumeTriple fun timeout => quietFirst restoreQuiet still fun _ => throwTriple fun _ bring => ?_
    exact .inl ⟨timeout,bring⟩

theorem calibratedQuiet {m : Operation α} (quiet : Quiet m) (settings : OfSettings progress) :
    Triple (Calibrated progress contents) m (fun _ => Calibrated progress contents) fail := by
  refine existsTriple fun ms => existsTriple fun table => assumeTriple fun built => ?_
  exact afterTriple (quietBrings quiet (calibratesSettings settings ms)) fun _ _ bring => ⟨ms,table,built,bring⟩

theorem filterPollQuiet (polls : Nat) : Quiet (pollFilter polls) := by
  induction polls with
  | zero => exact pureQuiet ()
  | succ polls ih =>
    exact bindQuiet (readQuiet filterStatus9c) fun _ => iteQuiet (pureQuiet ())
      (bindQuiet (readQuiet lleOperationCountdown) fun _ => iteQuiet (pureQuiet ()) ih)

theorem filterQuiet : Quiet rxFilter :=
  bindQuiet (modifyQuiet fun _ => elsewhere (by decide)) fun _ => bindQuiet (modifyQuiet fun _ => elsewhere (by decide)) fun _ =>
    bindQuiet (modifyQuiet fun _ => elsewhere (by decide)) fun _ => bindQuiet (modifyQuiet fun _ => elsewhere (by decide)) fun _ =>
    bindQuiet (modifyQuiet fun _ => elsewhere (by decide)) fun _ => bindQuiet (modifyQuiet fun _ => elsewhere (by decide)) fun _ =>
    bindQuiet (writeQuiet (elsewhere (by decide))) fun _ => bindQuiet (filterPollQuiet maxCalibrationPolls) fun _ =>
    bindQuiet (readQuiet filterStatus9c) fun _ => bindQuiet (modifyQuiet fun _ => elsewhere (by decide)) fun _ =>
    bindQuiet (modifyQuiet fun _ => elsewhere (by decide)) fun _ => modifyQuiet fun _ => elsewhere (by decide)

theorem adcQuiet : Quiet rxAdc :=
  bindQuiet (modifyQuiet fun _ => elsewhere (by decide)) fun _ => bindQuiet (modifyQuiet fun _ => elsewhere (by decide)) fun _ =>
    bindQuiet (modifyQuiet fun _ => elsewhere (by decide)) fun _ => bindQuiet (modifyQuiet fun _ => elsewhere (by decide)) fun _ =>
    bindQuiet (modifyQuiet fun _ => elsewhere (by decide)) fun _ => modifyQuiet fun _ => elsewhere (by decide)

theorem calibrates (settings : OfSettings progress) (off : OffTable progress) :
    Triple (BringUp (progress.table contents)) calibrate (fun _ => Calibrated progress contents)
      (Uncalibrated progress contents) :=
  quietFirst analogQuiet (tableSettings settings contents) fun _ => bindTriple (tunes settings off) fun _ =>
    bindTriple (calibratedQuiet (modifyQuiet fun _ => elsewhere (by decide)) settings) fun _ =>
      bindTriple (calibratedQuiet filterQuiet settings) fun _ => calibratedQuiet adcQuiet settings

end Calibrating

/-! The whole of it. -/

section Whole
variable {fail : Error → Chip → Prop} {progress : Progress} {chip : Chip} {contents : Nat → UInt32} {α : Type}

theorem setsTable {address : Nat} {fact : UInt32 → Prop} (apart : ∀ i, address ≠ tuneTable i)
    (bring : BringUp ((progress.table contents).sets address fact) chip) :
    BringUp ((progress.sets address fact).table contents) chip := by
  refine bringWeaker bring rfl fun other value holds => ?_
  by_cases here : other = address
  · subst here
    refine ⟨?_,fun i _ same => absurd same (apart i)⟩
    show Function.update progress.facts other fact other value
    rw [Function.update_self]
    simpa only [Progress.sets,Function.update_self] using holds
  · simp only [Progress.sets,Function.update_of_ne here] at holds
    refine ⟨?_,holds.2⟩
    show Function.update progress.facts address fact other value
    rw [Function.update_of_ne here]
    exact holds.1

def Progress.addressed (progress : Progress) (accessAddress : UInt32) : Progress :=
  { progress.sets bbTxAccessAddress (· = accessAddress) with
    fields := { progress.fields with accessAddress := accessAddress } }

def Progress.seeded (progress : Progress) (crcInit : UInt32) : Progress :=
  { progress.sets bbTxCrcInit (· = crcInit &&& 0x00ffffff) with
    fields := { progress.fields with crcInit := crcInit &&& 0x00ffffff } }

def Progress.digital (progress : Progress) : Progress :=
  { progress with fields := { progress.fields with digitalInitialized := true,frontendCalibrated := false } }

/- The radio's own copies, before the registers have them. -/
def Progress.named (progress : Progress) (accessAddress : UInt32) : Progress :=
  { progress with fields := { progress.fields with accessAddress := accessAddress } }

def Progress.sown (progress : Progress) (crcInit : UInt32) : Progress :=
  { progress with fields := { progress.fields with crcInit := crcInit &&& 0x00ffffff } }

theorem setsAddress (progress : Progress) (contents : Nat → UInt32) (accessAddress : UInt32) :
    Triple (BringUp (progress.table contents)) (setAccessAddress accessAddress)
      (fun _ => BringUp ((progress.addressed accessAddress).table contents)) fail := by
  have field : Triple (BringUp (progress.table contents)) (modify fun chip => { chip with accessAddress := accessAddress })
      (fun _ => BringUp ((progress.named accessAddress).table contents)) fail :=
    modifyTriple fun chip ⟨noted,fields,facts⟩ => ⟨noted,by
      show fieldsOf { chip with accessAddress := accessAddress } = _
      show _ = { progress.fields with accessAddress := accessAddress }
      rw [← show fieldsOf chip = progress.fields from fields]
      rfl,facts⟩
  refine bindTriple field fun _ => ?_
  have inert : Inert bbTxAccessAddress accessAddress :=
    ⟨fun same => absurd same (by decide),fun same => absurd same (by decide)⟩
  refine afterTriple (writeBrings inert (· = accessAddress) fun _ => rfl) fun _ _ post => ?_
  refine setsTable (fun i same => ?_) post.1
  simp only [bbTxAccessAddress,bbBase,tuneTable,rfendBase] at same
  omega

theorem setsCrcInit (progress : Progress) (contents : Nat → UInt32) (crcInit : UInt32) :
    Triple (BringUp (progress.table contents)) (setCrcInit crcInit)
      (fun _ => BringUp ((progress.seeded crcInit).table contents)) fail := by
  have field : Triple (BringUp (progress.table contents))
      (modify fun chip => { chip with crcInit := crcInit &&& 0x00ffffff })
      (fun _ => BringUp ((progress.sown crcInit).table contents)) fail :=
    modifyTriple fun chip ⟨noted,fields,facts⟩ => ⟨noted,by
      show _ = { progress.fields with crcInit := crcInit &&& 0x00ffffff }
      rw [← show fieldsOf chip = progress.fields from fields]
      rfl,facts⟩
  refine bindTriple field fun _ => getTriple fun chip bring => ?_
  have masked : chip.crcInit = crcInit &&& 0x00ffffff := congrArg Fields.crcInit bring.fields
  rw [masked]
  refine beforeTriple ?_ fun _ same => same ▸ bring
  have inert : Inert bbTxCrcInit (crcInit &&& 0x00ffffff) :=
    ⟨fun same => absurd same (by decide),fun same => absurd same (by decide)⟩
  refine afterTriple (writeBrings inert (· = crcInit &&& 0x00ffffff) fun _ => rfl) fun _ _ post => ?_
  refine setsTable (fun i same => ?_) post.1
  simp only [bbTxCrcInit,bbBase,tuneTable,rfendBase] at same
  omega

theorem forQuiet {m : α → Operation PUnit} {items : List α} (each : ∀ a ∈ items, Quiet (m a)) : Quiet (forM items m) := by
  induction items with
  | nil => exact pureQuiet PUnit.unit
  | cons a rest ih =>
    rw [List.forM_cons]
    obtain ⟨first,others⟩ := List.forall_mem_cons.mp each
    exact bindQuiet first fun _ => ih others

theorem lleQuiet (layout : Layout) : Quiet (initLle layout) := by
  have apart : ∀ t ∈ timing, lleBase + t.1 ∉ lleMode :: lleCommand :: bbInterruptStatus :: settingRegisters := by decide
  exact bindQuiet (writeQuiet (elsewhere (by decide))) fun _ => bindQuiet (writeQuiet (elsewhere (by decide))) fun _ =>
    bindQuiet (forQuiet fun t member => writeQuiet (elsewhere (apart t member))) fun _ =>
    bindQuiet (modifyQuiet fun _ => elsewhere (by decide)) fun _ => bindQuiet (configHighQuiet 1) fun _ =>
    bindQuiet (writeQuiet (elsewhere (by decide))) fun _ => bindQuiet (writeQuiet (elsewhere (by decide))) fun _ =>
      writeQuiet (elsewhere (by decide))

theorem baselineQuiet : Quiet initializeBaseline :=
  bindQuiet (writeQuiet (elsewhere (by decide))) fun _ => bindQuiet (modifyQuiet fun _ => elsewhere (by decide)) fun _ =>
    bindQuiet (modifyQuiet fun _ => elsewhere (by decide)) fun _ => bindQuiet (modifyQuiet fun _ => elsewhere (by decide)) fun _ =>
    bindQuiet (modifyQuiet fun _ => elsewhere (by decide)) fun _ => bindQuiet (modifyQuiet fun _ => elsewhere (by decide)) fun _ =>
    bindQuiet (modifyQuiet fun _ => elsewhere (by decide)) fun _ => bindQuiet (modifyQuiet fun _ => elsewhere (by decide)) fun _ =>
    bindQuiet (modifyQuiet fun _ => elsewhere (by decide)) fun _ => bindQuiet (modifyQuiet fun _ => elsewhere (by decide)) fun _ =>
    bindQuiet (modifyQuiet fun _ => elsewhere (by decide)) fun _ => bindQuiet (modifyQuiet fun _ => elsewhere (by decide)) fun _ =>
      modifyQuiet fun _ => elsewhere (by decide)

/- The address and the CRC seed of the radio, in its registers. -/
def Progress.mirrored (progress : Progress) : Progress :=
  (progress.addressed progress.fields.accessAddress).seeded progress.fields.crcInit

theorem setsBaseband (settings : OfSettings progress) :
    Triple (BringUp (progress.table contents)) initBaseband
      (fun _ => BringUp (progress.mirrored.table contents)) fail := by
  have still := tableSettings settings contents
  refine quietFirst (modifyQuiet fun _ => elsewhere (by decide)) still fun _ => ?_
  -- the status word is acknowledged whole, the CRC flag with the others
  have inert : Inert bbInterruptStatus 0x3ff := ⟨fun same => absurd same (by decide),fun same => absurd same (by decide)⟩
  refine bindTriple (flagsSpare (by decide) inert) fun _ => quietFirst (writeQuiet (elsewhere (by decide))) still fun _ => ?_
  refine quietFirst (modifyQuiet fun _ => elsewhere (by decide)) still fun _ =>
    quietFirst (modifyQuiet fun _ => elsewhere (by decide)) still fun _ =>
    quietFirst (writeQuiet (elsewhere (by decide))) still fun _ =>
    quietFirst (modifyQuiet fun _ => elsewhere (by decide)) still fun _ =>
    quietFirst (lleModeQuiet (by decide)) still fun _ => getTriple fun chip bring => ?_
  have address : chip.accessAddress = progress.fields.accessAddress := congrArg Fields.accessAddress bring.fields
  have seed : chip.crcInit = progress.fields.crcInit := congrArg Fields.crcInit bring.fields
  rw [address,seed]
  refine beforeTriple ?_ fun _ same => same ▸ bring
  exact bindTriple (setsAddress progress contents _) fun _ => setsCrcInit _ contents _

theorem goesDigital : Triple (BringUp progress)
    (modify fun chip => { chip with digitalInitialized := true,frontendCalibrated := false })
    (fun _ => BringUp progress.digital) fail :=
  modifyTriple fun chip ⟨noted,fields,facts⟩ => ⟨noted,by
    show _ = { progress.fields with digitalInitialized := true,frontendCalibrated := false }
    rw [← fields]
    rfl,facts⟩

theorem enterQuiet : Quiet enterCalibration := by
  refine bindQuiet (modifyQuiet fun word => ⟨narrower (by decide) word,fun same => absurd same (by decide),by decide⟩) fun _ =>
    bindQuiet (modifyQuiet fun word => ⟨stops word,fun same => absurd same (by decide),by decide⟩) fun _ => ?_
  exact bindQuiet (modifyQuiet fun _ => elsewhere (by decide)) fun _ => bindQuiet (bbModeQuiet _) fun _ =>
    lleModeQuiet (by decide)

/- The link layer engine idles, the baseband idles, and the analog parts are off. -/
structure Resting (chip : Chip) : Prop where
  lle : chip.words lleMode = lleModeIdle
  analog : chip.words analogEnable08 &&& 0x00320000 = 0
  baseband : chip.words bbConfig &&& bbModeMask = bbModeIdle

def Progress.rests (progress : Progress) : Progress :=
  ((progress.sets bbConfig (· &&& bbModeMask = bbModeIdle)).sets analogEnable08 (· &&& 0x00320000 = 0)).sets
    lleMode (· = lleModeIdle)

theorem exits : Triple (BringUp progress) exitCalibration (fun _ => BringUp progress.rests) fail := by
  have baseband : ∀ word : UInt32, ((word &&& ~~~bbModeMask) ||| bbModeIdle) &&& bbModeMask = bbModeIdle := by
    intro word
    have cleared : ~~~bbModeMask &&& bbModeMask = 0 := by decide
    rw [andOr,UInt32.and_assoc,cleared,UInt32.and_zero]
    rfl
  have analog : ∀ word : UInt32, word &&& 0xffcdffff &&& 0x00320000 = 0 := by
    intro word
    have cleared : (0xffcdffff : UInt32) &&& 0x00320000 = 0 := by decide
    rw [UInt32.and_assoc,cleared,UInt32.and_zero]
  refine bindTriple (modifyBrings (fun _ => (elsewhere (by decide)).toInert) rfl (· &&& bbModeMask = bbModeIdle)
    fun word _ => baseband word) fun _ => ?_
  refine bindTriple (flagsSpare (by decide) (elsewhere (by decide)).toInert) fun _ => ?_
  refine bindTriple (modifyBrings (fun _ => (elsewhere (by decide)).toInert) rfl (· &&& 0x00320000 = 0)
    fun word _ => analog word) fun _ => ?_
  exact afterTriple (writeBrings ⟨fun _ => by decide,fun same => absurd same (by decide)⟩ (· = lleModeIdle) fun _ => rfl)
    fun _ _ post => post.1

theorem restsFacts {address : Nat} (apart : address ∉ [bbConfig,analogEnable08,lleMode]) :
    progress.rests.facts address = progress.facts address := by
  simp only [List.mem_cons,List.not_mem_nil,or_false,not_or] at apart
  simp only [Progress.rests,Progress.sets,Function.update_of_ne apart.1,Function.update_of_ne apart.2.1,
    Function.update_of_ne apart.2.2]

theorem restsResting (bring : BringUp progress.rests chip) : Resting chip :=
  ⟨bring.facts lleMode rfl,bring.facts analogEnable08 rfl,bring.facts bbConfig rfl⟩

theorem restsTable (bring : BringUp (progress.table contents).rests chip) {i : Nat} (inside : i < tableWords) :
    chip.words (tuneTable i) = contents i := by
  have setting := tableHeld inside
  have apart : ∀ address ∈ settingRegisters, address ∉ [bbConfig,analogEnable08,lleMode] := by decide
  have known := bring.facts (tuneTable i) (settingsHeld _ setting)
  rw [restsFacts (apart _ setting)] at known
  exact known.2 i inside rfl

/- The registers hold what the radio was last told. -/
structure Mirrored (chip : Chip) : Prop where
  address : chip.words bbTxAccessAddress = chip.accessAddress
  seed : chip.words bbTxCrcInit = chip.crcInit

def Progress.done (progress : Progress) : Progress :=
  { progress with fields := { progress.fields with frontendCalibrated := true } }

def Mirrors (progress : Progress) : Prop :=
  (∀ value, progress.facts bbTxAccessAddress value → value = progress.fields.accessAddress) ∧
    ∀ value, progress.facts bbTxCrcInit value → value = progress.fields.crcInit

theorem restsMirrored (mirrors : Mirrors progress) (bring : BringUp (progress.table contents).rests chip) : Mirrored chip := by
  have address := bring.facts bbTxAccessAddress rfl
  have seed := bring.facts bbTxCrcInit rfl
  rw [restsFacts (by decide)] at address seed
  exact ⟨(mirrors.1 _ address.1).trans (congrArg Fields.accessAddress bring.fields).symm,
    (mirrors.2 _ seed.1).trans (congrArg Fields.crcInit bring.fields).symm⟩

theorem doneMirrors (mirrors : Mirrors progress) (ms : Measurements) : Mirrors (progress.calibrates ms).done := mirrors

def begun (start : Chip) : Progress := ⟨start,fieldsOf start,[],fun _ _ => True⟩

def tableOf (chip : Chip) (i : Nat) : UInt32 := chip.words (tuneTable i)

theorem begins (start : Chip) : BringUp ((begun start).table (tableOf start)) start :=
  ⟨⟨[],(List.append_nil _).symm,nothingDemanded [],⟨rfl,rfl⟩⟩,rfl,fun _ _ => ⟨trivial,fun _ _ same => same ▸ rfl⟩⟩

theorem begunSettings (start : Chip) : OfSettings (begun start) := fun _ _ _ => trivial

def brought (start : Chip) : Progress := (begun start).mirrored.digital

theorem broughtSettings (start : Chip) : OfSettings (brought start) :=
  setsSetting (setsSetting (begunSettings start) (by decide) _) (by decide) _

theorem broughtOff (start : Chip) : OffTable (brought start) := by
  intro i value
  have address : tuneTable i ≠ bbTxAccessAddress := by
    simp only [bbTxAccessAddress,bbBase,tuneTable,rfendBase]
    omega
  have seed : tuneTable i ≠ bbTxCrcInit := by
    simp only [bbTxCrcInit,bbBase,tuneTable,rfendBase]
    omega
  simp only [brought,Progress.digital,Progress.mirrored,Progress.seeded,Progress.addressed,Progress.sets,
    Function.update_of_ne seed,Function.update_of_ne address]
  trivial

theorem broughtMirrors (start : Chip) : Mirrors (brought start) := ⟨fun _ same => same,fun _ same => same⟩

/- How the calibration has come out, before the radio is back at rest. -/
def Came (start : Chip) : Except Error Unit → Chip → Prop
  | .ok _ => Calibrated (brought start) (tableOf start)
  | .error e => Uncalibrated (brought start) (tableOf start) e

theorem marksDone : Triple (BringUp progress) (modify fun chip => { chip with frontendCalibrated := true })
    (fun _ => BringUp progress.done) fail :=
  modifyTriple fun chip ⟨noted,fields,facts⟩ => ⟨noted,by
    show _ = { progress.fields with frontendCalibrated := true }
    rw [← fields]
    rfl,facts⟩

theorem interruptBrings {enabled : Bool} :
    Triple (BringUp progress) (enableInterrupt enabled) (fun _ => BringUp progress) fail := by
  refine modifyTriple fun chip bring => ?_
  obtain ⟨noted,fields,facts⟩ := bringElapse bring
  exact ⟨noted,fields,facts⟩

/- The radio is up: measured, tuned and at rest. -/
def Up (start chip : Chip) : Prop :=
  ∃ ms table, buildTable ms.mhz2401 ms.mhz2440 ms.mhz2480 = some (.ok table) ∧
    BringUp (((brought start).calibrates ms).done.table fun i => tableWord table.words (tableOf start i) i).rests chip

/- The radio is not up: at rest, with its table as it was. -/
def Down (start : Chip) (e : Error) (chip : Chip) : Prop :=
  ∃ demands, BringUp ({ brought start with demands := demands }.table (tableOf start)).rests chip ∧
    (e = .timeout ∨ e = .hardware ∧ ∃ ms, Degenerate ms ∧ demands = evidence ms)

theorem bringsUp (layout : Layout) (start : Chip) :
    Triple (fun chip => chip = start) (initializeRadio layout) (fun _ => Up start) (Down start) := by
  refine beforeTriple ?_ fun chip same => show BringUp ((begun start).table (tableOf start)) chip from same ▸ begins start
  have settings := tableSettings (begunSettings start) (tableOf start)
  refine quietFirst (lleQuiet layout) settings fun _ => quietFirst baselineQuiet settings fun _ =>
    bindTriple (setsBaseband (begunSettings start)) fun _ => bindTriple goesDigital fun _ => ?_
  have still := tableSettings (broughtSettings start) (tableOf start)
  have came : Triple (BringUp ((brought start).table (tableOf start)))
      (tryCatch (calibrate >>= fun _ => pure (Except.ok ())) fun error => pure (.error error)) (Came start) (Down start) :=
    catchTriple (bindTriple (calibrates (broughtSettings start) (broughtOff start)) fun _ => pureTriple fun _ done => done)
      fun _ => pureTriple fun _ failed => failed
  refine quietFirst enterQuiet still fun _ => bindTriple came fun outcome => ?_
  cases outcome with
  | ok done =>
    refine existsTriple fun ms => existsTriple fun table => assumeTriple fun built => bindTriple exits fun _ => ?_
    refine bindTriple marksDone fun _ => afterTriple interruptBrings fun _ chip bring => ?_
    exact ⟨ms,table,built,bring⟩
  | error e =>
    have failed : ∀ demands, (e = .timeout ∨ e = .hardware ∧ ∃ ms, Degenerate ms ∧ demands = evidence ms) →
        Triple (BringUp ({ brought start with demands := demands }.table (tableOf start)))
          (exitCalibration >>= fun _ => (throw e : Operation Unit)) (fun _ => Up start) (Down start) := fun demands cause =>
      bindTriple exits fun _ => throwTriple fun _ bring => ⟨demands,bring,cause⟩
    rintro chip (⟨timeout,bring⟩ | ⟨hardware,ms,degenerate,bring⟩)
    · exact failed [] (.inl timeout) chip bring
    · exact failed (evidence ms) (.inr ⟨hardware,ms,degenerate,rfl⟩) chip bring

/- Bringing up the radio launches and transmits nothing, and leaves it at rest on every way out.
It succeeds only if the table is filled from what was measured on this die, and a failure leaves
the table as it was. -/
theorem bringUpIsMeasuredAndAtRest (layout : Layout) (start : Chip) :
    let ran := result (initializeRadio layout) start
    ∃ more, ran.2.log = start.log ++ more ∧ transmissions more = 0 ∧ launches more = 0 ∧
      Resting ran.2 ∧ Mirrored ran.2 ∧ ran.2.digitalInitialized = true ∧
      (ran.1 = .ok () → ran.2.frontendCalibrated = true ∧ ∃ ms table, InOrder (evidence ms) more ∧
        buildTable ms.mhz2401 ms.mhz2440 ms.mhz2480 = some (.ok table) ∧
        ∀ i < tableWords, ran.2.words (tuneTable i) = tableWord table.words (start.words (tuneTable i)) i) ∧
      ∀ e, ran.1 = .error e → ran.2.frontendCalibrated = false ∧
        (∀ i < tableWords, ran.2.words (tuneTable i) = start.words (tuneTable i)) ∧
        (e = .timeout ∨ e = .hardware ∧ ∃ ms, Degenerate ms ∧ InOrder (evidence ms) more) := by
  have post := bringsUp layout start start rfl
  rcases ran : result (initializeRadio layout) start with ⟨e | done,after⟩ <;> rw [ran] at post
  · obtain ⟨demands,bring,cause⟩ := post
    obtain ⟨more,log,shown,sent,begun⟩ := bring.noted
    have mirrors : Mirrors { brought start with demands := demands } := broughtMirrors start
    refine ⟨more,log,sent,begun,restsResting bring,restsMirrored mirrors bring,
      congrArg Fields.digitalInitialized bring.fields,fun absent => (nomatch absent),fun e' same => ?_⟩
    cases same
    refine ⟨congrArg Fields.frontendCalibrated bring.fields,fun i inside => restsTable bring inside,?_⟩
    exact cause.imp_right fun ⟨hardware,ms,degenerate,demanded⟩ => ⟨hardware,ms,degenerate,demanded ▸ shown⟩
  · obtain ⟨ms,table,built,bring⟩ := post
    obtain ⟨more,log,shown,sent,begun⟩ := bring.noted
    refine ⟨more,log,sent,begun,restsResting bring,restsMirrored (doneMirrors (broughtMirrors start) ms) bring,
      congrArg Fields.digitalInitialized bring.fields,fun _ => ?_,fun _ absent => (nomatch absent)⟩
    exact ⟨congrArg Fields.frontendCalibrated bring.fields,ms,table,shown,built,fun i inside => restsTable bring inside⟩

end Whole

end Ch58xHal.RfFrontEnd
