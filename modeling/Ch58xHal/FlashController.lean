import Ch58xHal.Triples

/-! The transactions with the flash controller. The hardware decides what every read of the
busy flag and of the data register returns; a write to the configuration takes effect only
while the safe access sequence has just been given. -/
namespace Ch58xHal.FlashController
open Routines Triples

inductive Error where
  | outOfBounds | notAligned | timeout | program
  deriving DecidableEq, Repr

def maxStatusPolls : Nat := 0x80000

def cmdWriteEnable : UInt8 := 0x06
def cmdReadStatus : UInt8 := 0x05
def cmdDataRead : UInt8 := 0x0b
def cmdPageProgram : UInt8 := 0x02
def cmdErase256 : UInt8 := 0x81
def cmdControllerReset : UInt8 := 0xff

/- The traffic on the two flash registers. -/
inductive Access where
  | poll (busy : Bool)
  | control (byte : UInt8)
  | input (byte : UInt8)
  | output (byte : UInt8)
  deriving DecidableEq, Repr

/- `safeAccess` is the last two writes to its register, `status` and `received` what the
following reads of the control and the data register return; `traffic` is a log for the proofs. -/
structure Bus where
  safeAccess : UInt8 × UInt8
  globalConfig : UInt8
  flashCtrl : UInt8
  status : Nat → UInt8
  received : Nat → UInt8
  traffic : List Access

def writeSafeAccess (byte : UInt8) : Routine Error Bus Unit :=
  modify fun bus => { bus with safeAccess := (bus.safeAccess.2,byte) }

def readGlobalConfig : Routine Error Bus UInt8 := do
  let bus ← get
  pure bus.globalConfig

def writeGlobalConfig (byte : UInt8) : Routine Error Bus Unit :=
  modify fun bus => if bus.safeAccess = (0x57,0xa8) then { bus with globalConfig := byte } else bus

def pollFlashCtrl : Routine Error Bus Bool := do
  let bus ← get
  let busy := decide (bus.status 0 &&& 0x80 ≠ 0)
  set { bus with status := fun k => bus.status (k + 1), traffic := bus.traffic ++ [Access.poll busy] }
  pure busy

def writeFlashCtrl (byte : UInt8) : Routine Error Bus Unit :=
  modify fun bus => { bus with flashCtrl := byte, traffic := bus.traffic ++ [.control byte] }

def readFlashData : Routine Error Bus UInt8 := do
  let bus ← get
  set { bus with received := fun k => bus.received (k + 1), traffic := bus.traffic ++ [Access.input (bus.received 0)] }
  pure (bus.received 0)

def writeFlashData (byte : UInt8) : Routine Error Bus Unit :=
  modify fun bus => { bus with traffic := bus.traffic ++ [.output byte] }

def pollInterface : Nat → Routine Error Bus Bool
  | 0 => pure false
  | polls+1 => do
    if ← pollFlashCtrl then pollInterface polls else pure true

def ramWaitInterface : Routine Error Bus Bool := pollInterface maxStatusPolls

def ramBegin (command : UInt8) : Routine Error Bus Unit := do
  writeFlashCtrl 0
  writeFlashCtrl 5
  writeFlashData command

def ramOutput (byte : UInt8) : Routine Error Bus Bool := do
  if ← ramWaitInterface then
    writeFlashData byte
    pure true
  else pure false

-- Rust's `&&` of two effects
def andThen (first second : Routine Error Bus Bool) : Routine Error Bus Bool := do
  if ← first then second else pure false

def ramAddress (command : UInt8) (address : UInt32) (readDummy : Bool) : Routine Error Bus Bool := do
  ramBegin command
  if ← andThen (ramOutput (address >>> 16).toUInt8)
      (andThen (ramOutput (address >>> 8).toUInt8) (ramOutput address.toUInt8)) then
    if readDummy then andThen (ramOutput 0) (ramOutput 0) else pure true
  else pure false

def ramEnd : Routine Error Bus Bool := do
  let ready ← ramWaitInterface
  writeFlashCtrl 0
  pure ready

def ramAbort : Routine Error Bus Error := do
  writeFlashCtrl 0
  pure .timeout

def ramConfigure (write : Bool) : Routine Error Bus UInt8 := do
  let original ← readGlobalConfig
  writeSafeAccess 0x57
  writeSafeAccess 0xa8
  writeGlobalConfig (original ||| if write then 0xe0 else 0x20)
  writeSafeAccess 0
  pure original

def ramRestore (original : UInt8) : Routine Error Bus Unit := do
  writeSafeAccess 0x57
  writeSafeAccess 0xa8
  writeGlobalConfig original
  writeSafeAccess 0

def ramFail (original : UInt8) : Routine Error Bus Error := do
  let error ← ramAbort
  ramRestore original
  pure error

-- `if !check { return Err(ram_fail(original)) }`
def orFail (original : UInt8) (check : Routine Error Bus Bool) : Routine Error Bus PUnit := do
  if ← check then pure ()
  else
    let error ← ramFail original
    throw error

def ramPrepare : Routine Error Bus Unit := do
  writeFlashCtrl 4
  ramBegin cmdControllerReset
  if ← ramEnd then pure () else throw .timeout

-- `if ram_prepare().is_err() { ram_restore(original); return Err(Error::Timeout) }`
def prepareOrRestore (original : UInt8) : Routine Error Bus Unit :=
  tryCatch ramPrepare fun _ => do
    ramRestore original
    throw .timeout

def ramReadBytes (address : UInt32) (length : Nat) : Routine Error Bus (List UInt8) := do
  let original ← ramConfigure false
  prepareOrRestore original
  orFail original (ramAddress cmdDataRead address true)
  let output ← (List.range length).foldlM (fun output _ => do
    orFail original ramWaitInterface
    let byte ← readFlashData
    pure (output ++ [byte])) []
  if ← ramEnd then
    ramRestore original
    pure output
  else
    ramRestore original
    throw .timeout

def statusReady (received : UInt8 × UInt8) : Bool := received.2 &&& 1 = 0

def waitReady : Nat → Routine Error Bus Bool
  | 0 => pure false
  | polls+1 => do
    ramBegin cmdReadStatus
    if ← ramWaitInterface then
      let first ← readFlashData
      if ← ramWaitInterface then
        let second ← readFlashData
        if ← ramEnd then
          if statusReady (first,second) then pure true else waitReady polls
        else pure false
      else pure false
    else pure false

def ramWaitReadyActive : Routine Error Bus Bool := waitReady maxStatusPolls

def ramErase (address : UInt32) : Routine Error Bus Unit := do
  let original ← ramConfigure true
  prepareOrRestore original
  ramBegin cmdWriteEnable
  orFail original ramEnd
  orFail original (andThen (ramAddress cmdErase256 address false) ramEnd)
  orFail original ramWaitReadyActive
  ramRestore original

def ramPageProgram (address : UInt32) (data : List UInt8) : Routine Error Bus Unit := do
  let original ← ramConfigure true
  prepareOrRestore original
  ramBegin cmdWriteEnable
  orFail original ramEnd
  orFail original (ramAddress cmdPageProgram address false)
  forM data fun byte => orFail original (ramOutput byte)
  orFail original ramEnd
  orFail original ramWaitReadyActive
  ramRestore original

/-! What the traffic of a transaction shows. -/

def Access.received : Access → Option UInt8
  | .input byte => some byte
  | _ => none

/- Every wait ends with the busy flag clear before the polls run out. -/
inductive Timely : List Access → Prop where
  | none : Timely []
  | wait {traffic busy} (before : Timely traffic) (soon : busy < maxStatusPolls) :
      Timely (traffic ++ (List.replicate busy (.poll true) ++ [.poll false]))
  | control {traffic} (before : Timely traffic) (byte : UInt8) : Timely (traffic ++ [.control byte])
  | input {traffic} (before : Timely traffic) (byte : UInt8) : Timely (traffic ++ [.input byte])
  | output {traffic} (before : Timely traffic) (byte : UInt8) : Timely (traffic ++ [.output byte])

/- Since the start every wait has been in time, and these bytes have been received. -/
def InTime (start : Bus) (inputs : List UInt8) (bus : Bus) : Prop :=
  ∃ more, bus.traffic = start.traffic ++ more ∧ Timely more ∧ more.filterMap Access.received = inputs

/- How every transaction has to leave the registers. -/
structure Closed (config : UInt8) (bus : Bus) : Prop where
  globalConfig : bus.globalConfig = config
  flashCtrl : bus.flashCtrl = 0
  safeAccess : bus.safeAccess.2 = 0

section Registers
variable {start : Bus} {inputs : List UInt8} {fail : Error → Bus → Prop}

theorem inTimeThen {bus : Bus} {traffic : List Access} (held : InTime start inputs bus) {access : Access}
    (grown : traffic = bus.traffic ++ [access]) (timely : ∀ log, Timely log → Timely (log ++ [access])) :
    ∃ more, traffic = start.traffic ++ more ∧ Timely more ∧
      more.filterMap Access.received = inputs ++ access.received.toList := by
  obtain ⟨more,known,good,received⟩ := held
  refine ⟨more ++ [access],by rw [grown,known,List.append_assoc],timely more good,?_⟩
  rw [List.filterMap_append,received]
  cases access <;> rfl

theorem controlTriple (byte : UInt8) : Triple (InTime start inputs) (writeFlashCtrl byte)
    (fun _ bus => InTime start inputs bus ∧ bus.flashCtrl = byte) fail := by
  refine modifyTriple fun bus held => ⟨?_,rfl⟩
  have next := inTimeThen held rfl (fun _ good => good.control byte)
  rwa [show (Access.control byte).received.toList = [] from rfl,List.append_nil] at next

theorem outputTriple (byte : UInt8) : Triple (InTime start inputs) (writeFlashData byte)
    (fun _ => InTime start inputs) fail := by
  refine modifyTriple fun bus held => ?_
  have next := inTimeThen held rfl (fun _ good => good.output byte)
  rwa [show (Access.output byte).received.toList = [] from rfl,List.append_nil] at next

theorem inputTriple : Triple (InTime start inputs) readFlashData
    (fun byte => InTime start (inputs ++ [byte])) fail := by
  intro bus held
  exact inTimeThen held rfl (fun _ good => good.input (bus.received 0))

theorem polled (bus : Bus) : ∃ after, result pollFlashCtrl bus = (.ok (decide (bus.status 0 &&& 0x80 ≠ 0)),after) ∧
    after.traffic = bus.traffic ++ [.poll (decide (bus.status 0 &&& 0x80 ≠ 0))] :=
  ⟨_,rfl,rfl⟩

theorem pollSpec (polls : Nat) (bus : Bus) : ∃ ready after, result (pollInterface polls) bus = (.ok ready,after) ∧
    (ready = true → ∃ busy < polls,
      after.traffic = bus.traffic ++ (List.replicate busy (.poll true) ++ [.poll false])) := by
  induction polls generalizing bus with
  | zero => exact ⟨false,bus,rfl,fun absent => (nomatch absent)⟩
  | succ polls ih =>
    obtain ⟨next,looked,logged⟩ := polled bus
    generalize decide (bus.status 0 &&& 0x80 ≠ 0) = busy at looked logged
    rw [pollInterface,bindOk looked]
    cases busy with
    | false => exact ⟨true,next,rfl,fun _ => ⟨0,Nat.succ_pos _,logged⟩⟩
    | true =>
      obtain ⟨ready,after,waited,traffic⟩ := ih next
      refine ⟨ready,after,waited,fun cleared => ?_⟩
      obtain ⟨more,fewer,grown⟩ := traffic cleared
      refine ⟨more + 1,Nat.succ_lt_succ fewer,?_⟩
      rw [grown,logged,List.replicate_succ,List.append_assoc]
      rfl

/- What is known after a check that has succeeded. -/
def Checked (good : Bus → Prop) (ready : Bool) (bus : Bus) : Prop := ready = true → good bus

theorem waitTriple : Triple (InTime start inputs) ramWaitInterface (Checked (InTime start inputs)) fail := by
  intro bus held
  obtain ⟨ready,after,waited,traffic⟩ := pollSpec maxStatusPolls bus
  rw [ramWaitInterface,waited]
  intro cleared
  obtain ⟨busy,soon,grown⟩ := traffic cleared
  obtain ⟨more,known,good,received⟩ := held
  refine ⟨more ++ (List.replicate busy (.poll true) ++ [.poll false]),?_,good.wait soon,?_⟩
  · rw [grown,known,List.append_assoc]
  · rw [List.filterMap_append,received,List.filterMap_append,List.filterMap_replicate_of_none rfl]
    exact List.append_nil _

/- One check after another. -/
theorem checkTriple {pre mid good : Bus → Prop} {check : Routine Error Bus Bool} {rest : Routine Error Bus Bool}
    (first : Triple pre check (Checked mid) fail) (second : Triple mid rest (Checked good) fail) :
    Triple pre (do if ← check then rest else pure false) (Checked good) fail := by
  refine bindTriple first fun ready => ?_
  cases ready with
  | false => exact pureTriple fun _ _ absent => (nomatch absent)
  | true => exact beforeTriple second fun _ known => known rfl

theorem andThenTriple {pre mid good : Bus → Prop} {check : Routine Error Bus Bool} {rest : Routine Error Bus Bool}
    (first : Triple pre check (Checked mid) fail) (second : Triple mid rest (Checked good) fail) :
    Triple pre (andThen check rest) (Checked good) fail := checkTriple first second

theorem trueTriple {good : Bus → Prop} : Triple good (pure true : Routine Error Bus Bool) (Checked good) fail :=
  pureTriple fun _ held _ => held

theorem beginTriple (command : UInt8) : Triple (InTime start inputs) (ramBegin command)
    (fun _ => InTime start inputs) fail := by
  refine bindTriple (controlTriple 0) fun _ => ?_
  refine bindTriple (beforeTriple (controlTriple 5) fun _ known => known.1) fun _ => ?_
  exact beforeTriple (outputTriple command) fun _ known => known.1

theorem ramOutputTriple (byte : UInt8) : Triple (InTime start inputs) (ramOutput byte)
    (Checked (InTime start inputs)) fail :=
  checkTriple waitTriple (bindTriple (outputTriple byte) fun _ => trueTriple)

theorem addressTriple (command : UInt8) (address : UInt32) (readDummy : Bool) :
    Triple (InTime start inputs) (ramAddress command address readDummy) (Checked (InTime start inputs)) fail := by
  refine bindTriple (beginTriple command) fun _ => ?_
  refine checkTriple (andThenTriple (ramOutputTriple _) (andThenTriple (ramOutputTriple _) (ramOutputTriple _))) ?_
  exact iteTriple (fun _ => andThenTriple (ramOutputTriple 0) (ramOutputTriple 0)) fun _ => trueTriple

theorem controlZero {pre : Bus → Prop} : Triple pre (writeFlashCtrl 0) (fun _ bus => bus.flashCtrl = 0) fail :=
  modifyTriple fun _ _ => rfl

theorem endTriple : Triple (InTime start inputs) ramEnd
    (fun ready bus => bus.flashCtrl = 0 ∧ Checked (InTime start inputs) ready bus) fail := by
  refine bindTriple waitTriple fun ready => ?_
  cases ready with
  | false =>
    refine bindTriple controlZero fun _ => ?_
    exact pureTriple fun _ closed => ⟨closed,fun absent => (nomatch absent)⟩
  | true =>
    refine bindTriple (beforeTriple (controlTriple 0) fun _ known => known rfl) fun _ => ?_
    exact pureTriple fun _ known => ⟨known.2,fun _ => known.1⟩

theorem endChecked : Triple (InTime start inputs) ramEnd
    (Checked fun bus => bus.flashCtrl = 0 ∧ InTime start inputs bus) fail :=
  afterTriple endTriple fun _ _ known ready => ⟨known.1,known.2 ready⟩

/- The last two bytes received are a status read, and it says ready. -/
def Ready (start bus : Bus) : Prop :=
  ∃ earlier first second, InTime start (earlier ++ [first,second]) bus ∧ statusReady (first,second)

theorem waitReadyTriple (polls : Nat) : Triple (InTime start inputs) (waitReady polls)
    (Checked fun bus => bus.flashCtrl = 0 ∧ Ready start bus) fail := by
  induction polls generalizing inputs with
  | zero => exact pureTriple fun _ _ absent => (nomatch absent)
  | succ polls ih =>
    refine bindTriple (beginTriple _) fun _ => ?_
    refine checkTriple waitTriple (bindTriple inputTriple fun first => ?_)
    refine checkTriple waitTriple (bindTriple inputTriple fun second => ?_)
    refine checkTriple endChecked (iteTriple (fun ready => ?_) fun _ => ?_)
    · refine pureTriple fun bus known _ => ⟨known.1,inputs,first,second,?_,ready⟩
      rw [List.append_cons]
      exact known.2
    · exact beforeTriple ih fun _ known => known.2

end Registers

/-! The ways out. -/
section Exits
variable {start : Bus} {inputs : List UInt8} {config : UInt8} {fail : Error → Bus → Prop}

theorem restored (config : UInt8) (bus : Bus) : result (ramRestore config) bus =
    (.ok (),{ bus with safeAccess := (0xa8,0), globalConfig := config }) := rfl

theorem restoreTriple (held : Bus → Prop)
    (kept : ∀ bus, held bus → held { bus with safeAccess := (0xa8,0), globalConfig := config }) :
    Triple (fun bus => bus.flashCtrl = 0 ∧ held bus) (ramRestore config)
      (fun _ bus => Closed config bus ∧ held bus) fail := by
  intro bus known
  rw [restored]
  exact ⟨⟨rfl,known.1,rfl⟩,kept bus known.2⟩

theorem restoreClosed : Triple (fun bus => bus.flashCtrl = 0) (ramRestore config) (fun _ => Closed config) fail :=
  fun _ zero => ⟨rfl,zero,rfl⟩

theorem failTriple {pre : Bus → Prop} : Triple pre (ramFail config) (fun _ => Closed config) fail :=
  fun _ _ => ⟨rfl,rfl,rfl⟩

theorem configureTriple (write : Bool) : Triple (fun bus => bus = start) (ramConfigure write)
    (fun original bus => original = start.globalConfig ∧ InTime start [] bus) fail := by
  rintro bus rfl
  exact ⟨rfl,[],(List.append_nil _).symm,.none,rfl⟩

theorem orFailTriple {pre mid : Bus → Prop} {check : Routine Error Bus Bool}
    (checked : Triple pre check (Checked mid) fun _ => Closed config) :
    Triple pre (orFail config check) (fun _ => mid) fun _ => Closed config := by
  refine bindTriple checked fun ready => ?_
  cases ready with
  | false => exact bindTriple failTriple fun _ => throwTriple fun _ closed => closed
  | true => exact pureTriple fun _ known => known rfl

theorem prepareTriple : Triple (InTime start inputs) ramPrepare
    (fun _ => InTime start inputs) fun _ bus => bus.flashCtrl = 0 := by
  refine bindTriple (controlTriple 4) fun _ => ?_
  refine bindTriple (beforeTriple (beginTriple _) fun _ known => known.1) fun _ => ?_
  refine bindTriple endTriple fun ready => ?_
  cases ready with
  | false => exact throwTriple fun _ known => known.1
  | true => exact pureTriple fun _ known => known.2 rfl

theorem prepareOrRestoreTriple : Triple (InTime start inputs) (prepareOrRestore config)
    (fun _ => InTime start inputs) fun _ => Closed config := by
  refine catchTriple prepareTriple fun _ => ?_
  exact bindTriple restoreClosed fun _ => throwTriple fun _ closed => closed

end Exits

/-! The transactions. -/
section Transactions
variable {start : Bus}

theorem closing {inputs : List UInt8} {fail : Error → Bus → Prop} : Triple
    (fun bus => bus.flashCtrl = 0 ∧ InTime start inputs bus) (ramRestore start.globalConfig)
    (fun _ bus => Closed start.globalConfig bus ∧ InTime start inputs bus) fail :=
  restoreTriple _ fun _ held => held

theorem closingReady {fail : Error → Bus → Prop} : Triple
    (fun bus => bus.flashCtrl = 0 ∧ Ready start bus) (ramRestore start.globalConfig)
    (fun _ bus => Closed start.globalConfig bus ∧ Ready start bus) fail :=
  restoreTriple _ fun _ held => held

theorem readBytesTriple (address : UInt32) (length : Nat) : Triple (fun bus => bus = start)
    (ramReadBytes address length)
    (fun output bus => Closed start.globalConfig bus ∧ InTime start output bus ∧ output.length = length)
    fun _ => Closed start.globalConfig := by
  refine bindTriple (configureTriple false) fun original => assumeTriple fun same => ?_
  subst same
  refine bindTriple prepareOrRestoreTriple fun _ => ?_
  refine bindTriple (orFailTriple (addressTriple _ address true)) fun _ => ?_
  -- the output so far is what has been received, and as long as the loop has gone
  refine bindTriple (beforeTriple (foldTriple
    (fun rest output bus => output.length + rest.length = length ∧ InTime start output bus) (fun a rest output => ?_)
    (List.range length) []) fun _ known => ⟨by simp,known⟩) fun output => ?_
  · refine assumeTriple fun lengths => ?_
    refine bindTriple (orFailTriple waitTriple) fun _ => ?_
    refine bindTriple inputTriple fun byte => pureTriple fun _ known => ⟨?_,known⟩
    rw [List.length_append,List.length_singleton]
    rw [List.length_cons] at lengths
    omega
  · refine assumeTriple fun lengths => ?_
    refine bindTriple endTriple fun ready => ?_
    cases ready with
    | true =>
      refine bindTriple (beforeTriple closing fun _ known => ⟨known.1,known.2 rfl⟩) fun _ => ?_
      exact pureTriple fun _ known => ⟨known.1,known.2,lengths⟩
    | false =>
      refine bindTriple (beforeTriple restoreClosed fun _ known => known.1) fun _ => ?_
      exact throwTriple fun _ closed => closed

/- Both writing transactions open the write access, and wait for the flash before closing it. -/
theorem writeEnabledTriple {ok : Unit → Bus → Prop} {rest : UInt8 → Routine Error Bus Unit}
    (after : Triple (InTime start []) (rest start.globalConfig) ok fun _ => Closed start.globalConfig) :
    Triple (fun bus => bus = start) (do
      let original ← ramConfigure true
      prepareOrRestore original
      ramBegin cmdWriteEnable
      orFail original ramEnd
      rest original) ok fun _ => Closed start.globalConfig := by
  refine bindTriple (configureTriple true) fun original => assumeTriple fun same => ?_
  subst same
  refine bindTriple prepareOrRestoreTriple fun _ => ?_
  refine bindTriple (beginTriple _) fun _ => ?_
  refine bindTriple (orFailTriple endChecked) fun _ => ?_
  exact beforeTriple after fun _ known => known.2

theorem writtenTriple {inputs : List UInt8} : Triple (fun bus => bus.flashCtrl = 0 ∧ InTime start inputs bus)
    (do
      orFail start.globalConfig ramWaitReadyActive
      ramRestore start.globalConfig)
    (fun _ bus => Closed start.globalConfig bus ∧ Ready start bus) fun _ => Closed start.globalConfig := by
  refine bindTriple (beforeTriple (orFailTriple (waitReadyTriple _)) fun _ known => known.2) fun _ => ?_
  exact closingReady

theorem eraseTriple (address : UInt32) : Triple (fun bus => bus = start) (ramErase address)
    (fun _ bus => Closed start.globalConfig bus ∧ Ready start bus) fun _ => Closed start.globalConfig := by
  refine writeEnabledTriple ?_
  refine bindTriple (orFailTriple (andThenTriple (addressTriple _ address false) endChecked)) fun _ => ?_
  exact writtenTriple

theorem pageProgramTriple (address : UInt32) (data : List UInt8) : Triple (fun bus => bus = start)
    (ramPageProgram address data)
    (fun _ bus => Closed start.globalConfig bus ∧ Ready start bus) fun _ => Closed start.globalConfig := by
  refine writeEnabledTriple ?_
  refine bindTriple (orFailTriple (addressTriple _ address false)) fun _ => ?_
  refine bindTriple (forTriple (fun _ => InTime start []) (fun byte _ => orFailTriple (ramOutputTriple byte)) data)
    fun _ => ?_
  refine bindTriple (orFailTriple endChecked) fun _ => ?_
  exact writtenTriple

/- From closed registers back to closed registers. -/
theorem keepsClosed {α : Type} {m : Routine Error Bus α} {good : Bus → α → Bus → Prop}
    (triple : ∀ start, Triple (fun bus => bus = start) m
      (fun a bus => Closed start.globalConfig bus ∧ good start a bus) fun _ => Closed start.globalConfig)
    (config : UInt8) : Triple (Closed config) m (fun _ => Closed config) fun _ => Closed config := by
  intro bus closed
  have same := closed.globalConfig
  subst same
  exact weakenTriple (triple bus) (fun _ here => here) (fun _ _ known => known.1) (fun _ _ known => known) bus rfl

end Transactions

end Ch58xHal.FlashController
