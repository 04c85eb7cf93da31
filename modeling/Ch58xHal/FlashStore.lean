import Ch58xHal.DataFlash
import Ch58xHal.SerialNor

/-! The data flash down to the wire: what the transactions with the controller do to a serial
memory behind it, and any run of reads, writes and erases as operations of a plain store. -/
namespace Ch58xHal.FlashStore
open Routines Triples FlashController DataFlash
open NorMemory (overlay overlayNil overlayAppend programmed erased programmedInside Span)
open SerialNor (Chip Signal Codes At decode wordOf idleDeselects selects shiftsIn shiftsOut nothingDone enables commandDone)

-- Two octets come between the address of a read and its data.
def serialCodes : Codes := ⟨cmdWriteEnable,cmdPageProgram,cmdErase256,cmdDataRead,2⟩

/- The controller selects the memory while its register holds five. -/
def signal : Access → Option Signal
  | .poll _ => none
  | .control byte => some (if byte = 5 then .select else .deselect)
  | .input byte => some (.shiftOut byte)
  | .output byte => some (.shiftIn byte)

section Wire
variable (origin : Chip)

/- The memory after all the traffic there has been. -/
def served (bus : Bus) : Chip := SerialNor.run serialCodes pageSize origin (bus.traffic.filterMap signal)

def Sees (known : Chip → Prop) (bus : Bus) : Prop := known (served origin bus)

variable {origin : Chip} {known next : Chip → Prop} {fail : Error → Bus → Prop} {α : Type}

def shifted (chip : Chip) (s : Signal) : Chip := SerialNor.step serialCodes pageSize chip s

theorem servedMore {bus : Bus} {access : Access} {traffic : List Access} (grown : traffic = bus.traffic ++ [access]) :
    SerialNor.run serialCodes pageSize origin (traffic.filterMap signal) =
      ((signal access).map (shifted (served origin bus))).getD (served origin bus) := by
  rw [grown,List.filterMap_append]
  cases seen : signal access with
  | none => simp [seen,served]
  | some s => simp [seen,served,SerialNor.run,shifted]

theorem quietSees {f : Bus → Bus} (same : ∀ bus, (f bus).traffic = bus.traffic) :
    Triple (Sees origin known) (modify f) (fun _ => Sees origin known) fail := by
  refine modifyTriple fun bus sees => ?_
  unfold Sees served
  rw [same]
  exact sees

theorem controlSees {byte : UInt8} (moves : ∀ chip, known chip → next (shifted chip (if byte = 5 then .select else .deselect))) :
    Triple (Sees origin known) (writeFlashCtrl byte) (fun _ => Sees origin next) fail := by
  refine modifyTriple fun bus sees => ?_
  show next (SerialNor.run _ _ _ ((bus.traffic ++ [Access.control byte]).filterMap signal))
  rw [servedMore rfl]
  exact moves _ sees

theorem outputSees {byte : UInt8} (moves : ∀ chip, known chip → next (shifted chip (.shiftIn byte))) :
    Triple (Sees origin known) (writeFlashData byte) (fun _ => Sees origin next) fail := by
  refine modifyTriple fun bus sees => ?_
  show next (SerialNor.run _ _ _ ((bus.traffic ++ [Access.output byte]).filterMap signal))
  rw [servedMore rfl]
  exact moves _ sees

theorem inputSees {next : UInt8 → Chip → Prop} (moves : ∀ byte chip, known chip → next byte (shifted chip (.shiftOut byte))) :
    Triple (Sees origin known) readFlashData (fun byte => Sees origin (next byte)) fail := by
  intro bus sees
  show next (bus.received 0) (SerialNor.run _ _ _ ((bus.traffic ++ [Access.input (bus.received 0)]).filterMap signal))
  rw [servedMore rfl]
  exact moves _ _ sees

theorem pollSees (polls : Nat) : Triple (Sees origin known) (pollInterface polls) (fun _ => Sees origin known) fail := by
  induction polls with
  | zero => exact pureTriple fun _ sees => sees
  | succ polls ih =>
    have looked : Triple (Sees origin known) pollFlashCtrl (fun _ => Sees origin known) fail := by
      intro bus sees
      show known (SerialNor.run _ _ _ ((bus.traffic ++ [Access.poll _]).filterMap signal))
      rw [servedMore rfl]
      exact sees
    exact bindTriple looked fun busy => iteTriple (fun _ => ih) fun _ => pureTriple fun _ sees => sees

theorem waitSees : Triple (Sees origin known) ramWaitInterface (fun _ => Sees origin known) fail := pollSees maxStatusPolls

/- What is known after a check, and after one that has failed. -/
def Either (origin : Chip) (good bad : Chip → Prop) (ready : Bool) (bus : Bus) : Prop :=
  if ready then Sees origin good bus else Sees origin bad bus

theorem andThenSees {good mid bad : Chip → Prop} {check rest : Routine Error Bus Bool}
    (first : Triple (Sees origin known) check (Either origin mid bad) fail)
    (second : Triple (Sees origin mid) rest (Either origin good bad) fail) :
    Triple (Sees origin known) (do if ← check then rest else pure false) (Either origin good bad) fail := by
  refine bindTriple first fun ready => ?_
  cases ready with
  | true => exact second
  | false => exact pureTriple fun _ sees => sees

theorem trueSees {bad : Chip → Prop} : Triple (Sees origin known) (pure true) (Either origin known bad) fail :=
  pureTriple fun _ sees => sees

theorem restoreSees (config : UInt8) : Triple (Sees origin known) (ramRestore config) (fun _ => Sees origin known) fail := by
  refine bindTriple (quietSees fun _ => rfl) fun _ => bindTriple (quietSees fun _ => rfl) fun _ =>
    bindTriple (quietSees fun bus => ?_) fun _ => quietSees fun _ => rfl
  split <;> rfl

/- Deselecting takes what is known to what is then known. -/
def Deselects (known next : Chip → Prop) : Prop := ∀ chip, known chip → next (shifted chip .deselect)

theorem endSees (deselects : Deselects known next) : Triple (Sees origin known) ramEnd (fun _ => Sees origin next) fail :=
  bindTriple waitSees fun _ => bindTriple (controlSees deselects) fun _ => pureTriple fun _ sees => sees

theorem orFailSees {good bad lost : Chip → Prop} {check : Routine Error Bus Bool} (config : UInt8)
    (checked : Triple (Sees origin known) check (Either origin good bad) fun _ => Sees origin lost)
    (deselects : Deselects bad lost) :
    Triple (Sees origin known) (orFail config check) (fun _ => Sees origin good) fun _ => Sees origin lost := by
  refine bindTriple checked fun ready => ?_
  cases ready with
  | true => exact pureTriple fun _ sees => sees
  | false =>
    have aborts : Triple (Sees origin bad) (ramFail config) (fun _ => Sees origin lost) fun _ => Sees origin lost :=
      bindTriple (bindTriple (controlSees deselects) fun _ => pureTriple fun _ sees => sees) fun _ =>
        bindTriple (restoreSees config) fun _ => pureTriple fun _ sees => sees
    exact bindTriple aborts fun _ => throwTriple fun _ sees => sees

end Wire

/-! The transactions. -/

section Transactions
variable {origin : Chip} {fail : Error → Bus → Prop} {bytes : Nat → UInt8} {armed : Bool} {fact : Prop}
  {octets : List UInt8}

/- Nothing is under way that deselecting would do. -/
def Loose (bytes : Nat → UInt8) (fact : Prop) (chip : Chip) : Prop :=
  ∃ frame, (∀ octets, frame = some octets → decode serialCodes octets = none) ∧ At bytes frame false fact chip

theorem looseDeselects : Deselects (Loose bytes fact) (At bytes none false fact) := by
  rintro chip ⟨frame,harmless,at_⟩
  cases frame with
  | none => exact idleDeselects at_
  | some octets => exact nothingDone at_ (harmless octets rfl)

theorem loose {chip : Chip} (at_ : At bytes (some octets) armed fact chip) (harmless : decode serialCodes octets = none) :
    Loose bytes fact chip :=
  ⟨some octets,fun _ same => Option.some.inj same ▸ harmless,SerialNor.less at_⟩

theorem beginSees (command : UInt8) : Triple (Sees origin (At bytes none armed fact)) (ramBegin command)
    (fun _ => Sees origin (At bytes (some [command]) armed fact)) fail :=
  bindTriple (controlSees fun _ at_ => idleDeselects at_) fun _ => bindTriple (controlSees fun _ at_ => selects at_) fun _ =>
    outputSees fun _ at_ => shiftsIn at_

theorem outputMoves {known next : Chip → Prop} {octet : UInt8}
    (moves : ∀ chip, known chip → next (shifted chip (.shiftIn octet))) :
    Triple (Sees origin known) (ramOutput octet) (Either origin next known) fail := by
  refine bindTriple waitSees fun ready => iteTriple (fun _ => ?_) fun _ => pureTriple fun _ sees => sees
  exact bindTriple (outputSees moves) fun _ => trueSees

theorem ramOutputSees (octet : UInt8) : Triple (Sees origin (At bytes (some octets) armed fact)) (ramOutput octet)
    (Either origin (At bytes (some (octets ++ [octet])) armed fact) (At bytes (some octets) armed fact)) fail :=
  outputMoves fun _ at_ => shiftsIn at_

/- One more octet of a frame that is no command without it. -/
theorem ramOutputLoose (octet : UInt8) (harmless : decode serialCodes octets = none) :
    Triple (Sees origin (At bytes (some octets) armed fact)) (ramOutput octet)
      (Either origin (At bytes (some (octets ++ [octet])) armed fact) (Loose bytes fact)) fail := by
  refine afterTriple (ramOutputSees octet) fun ready _ sees => ?_
  cases ready with
  | true => exact sees
  | false => exact loose sees harmless

def addressed (command : UInt8) (address : UInt32) : List UInt8 :=
  [command,(address >>> 16).toUInt8,(address >>> 8).toUInt8,address.toUInt8]

theorem addressSees (command : UInt8) (address : UInt32) :
    Triple (Sees origin (At bytes none armed fact)) (ramAddress command address false)
      (Either origin (At bytes (some (addressed command address)) armed fact) (Loose bytes fact)) fail := by
  refine bindTriple (beginSees command) fun _ => ?_
  refine andThenSees (andThenSees (ramOutputLoose _ rfl) (andThenSees (ramOutputLoose _ rfl) (ramOutputLoose _ rfl))) ?_
  exact trueSees

theorem prepareSees (config : UInt8) : Triple (Sees origin (At bytes none armed fact)) (prepareOrRestore config)
    (fun _ => Sees origin (At bytes none armed fact)) fun _ => Sees origin (At bytes none armed fact) := by
  have reset : Deselects (At bytes (some [cmdControllerReset]) armed fact) (At bytes none armed fact) :=
    fun _ at_ => nothingDone at_ rfl
  have prepares : Triple (Sees origin (At bytes none armed fact)) ramPrepare
      (fun _ => Sees origin (At bytes none armed fact)) fun _ => Sees origin (At bytes none armed fact) :=
    bindTriple (controlSees fun _ at_ => idleDeselects at_) fun _ => bindTriple (beginSees cmdControllerReset) fun _ =>
      bindTriple (endSees reset) fun _ => iteTriple (fun _ => pureTriple fun _ sees => sees) fun _ => throwTriple fun _ sees => sees
  exact catchTriple prepares fun _ => bindTriple (restoreSees config) fun _ => throwTriple fun _ sees => sees

theorem configureSees (write : Bool) : Triple (Sees origin (At bytes none armed fact)) (ramConfigure write)
    (fun _ => Sees origin (At bytes none armed fact)) fail := by
  refine getTriple fun bus sees => beforeTriple ?_ fun _ same => show Sees origin (At bytes none armed fact) _ from same ▸ sees
  refine bindTriple (quietSees fun _ => rfl) fun _ => bindTriple (quietSees fun _ => rfl) fun _ =>
    bindTriple (quietSees fun bus => ?_) fun _ => bindTriple (quietSees fun _ => rfl) fun _ => pureTriple fun _ sees => sees
  split <;> rfl

theorem idleLoose {chip : Chip} (at_ : At bytes none armed fact chip) : Loose bytes fact chip :=
  ⟨none,fun _ absent => (nomatch absent),SerialNor.less at_⟩

/- A status octet tells nothing of the contents. -/
theorem statusSees : Triple (Sees origin (At bytes (some octets) armed fact)) readFlashData
    (fun _ => Sees origin (At bytes (some octets) armed fact)) fail :=
  inputSees fun _ _ at_ => SerialNor.tells (shiftsOut at_) And.left

theorem waitReadySees (polls : Nat) : Triple (Sees origin (At bytes none false fact)) (waitReady polls)
    (Either origin (At bytes none false fact) (Loose bytes fact)) fail := by
  have status : decode serialCodes [cmdReadStatus] = none := rfl
  have open_ : ∀ bus, Sees origin (At bytes (some [cmdReadStatus]) false fact) bus →
      Either origin (At bytes none false fact) (Loose bytes fact) false bus := fun _ sees => loose sees status
  induction polls with
  | zero => exact pureTriple fun _ sees => idleLoose sees
  | succ polls ih =>
    refine bindTriple (beginSees cmdReadStatus) fun _ => bindTriple waitSees fun _ =>
      iteTriple (fun _ => ?_) fun _ => pureTriple open_
    refine bindTriple statusSees fun first => bindTriple waitSees fun _ =>
      iteTriple (fun _ => ?_) fun _ => pureTriple open_
    refine bindTriple statusSees fun second => bindTriple (endSees fun _ at_ => nothingDone at_ status) fun _ =>
      iteTriple (fun _ => ?_) fun _ => pureTriple fun _ sees => idleLoose sees
    exact iteTriple (fun _ => pureTriple fun _ sees => sees) fun _ => ih

theorem word (address : UInt32) (small : address.toNat < 2^24) :
    wordOf (address >>> 16).toUInt8 (address >>> 8).toUInt8 address.toUInt8 = address.toNat := by
  unfold wordOf
  simp only [UInt32.toNat_toUInt8,UInt32.toNat_shiftRight]
  show address.toNat >>> 16 % 2^8 * 2^16 + address.toNat >>> 8 % 2^8 * 2^8 + address.toNat % 2^8 = _
  rw [Nat.shiftRight_eq_div_pow,Nat.shiftRight_eq_div_pow]
  omega

theorem programFrame (address : UInt32) (small : address.toNat < 2^24) (data : List UInt8) :
    decode serialCodes (addressed cmdPageProgram address ++ data) = some (.program address.toNat data) := by
  have decoded : decode serialCodes (addressed cmdPageProgram address ++ data) = some (.program (wordOf _ _ _) data) :=
    SerialNor.programDecoded (address >>> 16).toUInt8 (address >>> 8).toUInt8 address.toUInt8 data
  rw [decoded,word address small]

theorem eraseFrame (address : UInt32) (small : address.toNat < 2^24) :
    decode serialCodes (addressed cmdErase256 address) = some (.erase address.toNat) := by
  have distinct : serialCodes.erase ≠ serialCodes.program := by decide
  have decoded : decode serialCodes (addressed cmdErase256 address) = some (.erase (wordOf _ _ _)) :=
    SerialNor.eraseDecoded distinct (address >>> 16).toUInt8 (address >>> 8).toUInt8 address.toUInt8
  rw [decoded,word address small]

/- A check that is over with the command done, whichever way it came out. -/
theorem endDone {known next : Chip → Prop} (deselects : Deselects known next) (idle : ∀ chip, next chip → Loose bytes fact chip) :
    Triple (Sees origin known) ramEnd (Either origin next (Loose bytes fact)) fail := by
  refine afterTriple (endSees deselects) fun ready _ sees => ?_
  cases ready with
  | true => exact sees
  | false => exact idle _ sees

/- Both writing transactions tell the memory first that a command will come. -/
theorem enableSees {ok : Unit → Bus → Prop} {lost : Chip → Prop} {rest : UInt8 → Routine Error Bus Unit}
    (same : ∀ chip, At bytes none false fact chip → lost chip)
    (after : ∀ original, Triple (Sees origin (At bytes none true fact)) (rest original) ok fun _ => Sees origin lost) :
    Triple (Sees origin (At bytes none false fact)) (do
      let original ← ramConfigure true
      prepareOrRestore original
      ramBegin cmdWriteEnable
      orFail original ramEnd
      rest original) ok fun _ => Sees origin lost := by
  refine bindTriple (configureSees true) fun original => ?_
  refine bindTriple (weakenTriple (prepareSees original) (fun _ sees => sees) (fun _ _ sees => sees)
    fun _ _ sees => same _ sees) fun _ => ?_
  refine bindTriple (beginSees cmdWriteEnable) fun _ => ?_
  have told : Triple (Sees origin (At bytes (some [cmdWriteEnable]) false fact)) ramEnd
      (Either origin (At bytes none true fact) (Loose bytes fact)) fun _ => Sees origin lost :=
    endDone (fun _ at_ => enables at_) fun _ at_ => idleLoose at_
  exact bindTriple (orFailSees original told fun _ bad => same _ (looseDeselects _ bad)) fun _ => after original

/- A program that fails has done what had been shifted in by then. -/
def Partly (bytes : Nat → UInt8) (address : Nat) (data : List UInt8) (fact : Prop) (chip : Chip) : Prop :=
  ∃ sent, sent <+: data ∧ At (programmed pageSize sent address bytes) none false fact chip

-- whenever the frame ends, what has been shifted in is programmed
theorem programEnds (address : UInt32) (small : address.toNat < 2^24) (sent : List UInt8) :
    Deselects (At bytes (some (addressed cmdPageProgram address ++ sent)) true fact)
      (At (programmed pageSize sent address.toNat bytes) none false fact) :=
  fun _ at_ => commandDone at_ (programFrame address small sent)

/- The frame with these octets still to send. -/
def Sending (origin : Chip) (bytes : Nat → UInt8) (address : UInt32) (data : List UInt8) (fact : Prop)
    (rest : List UInt8) (bus : Bus) : Prop :=
  ∃ sent, data = sent ++ rest ∧ Sees origin (At bytes (some (addressed cmdPageProgram address ++ sent)) true fact) bus

theorem sendsNext (original : UInt8) (address : UInt32) (small : address.toNat < 2^24) (data : List UInt8) (octet : UInt8)
    (rest : List UInt8) :
    Triple (Sending origin bytes address data fact (octet :: rest)) (orFail original (ramOutput octet))
      (fun _ => Sending origin bytes address data fact rest) fun _ => Sees origin (Partly bytes address.toNat data fact) := by
  refine existsTriple fun sent => assumeTriple fun split => ?_
  refine afterTriple (orFailSees original (ramOutputSees octet) fun chip at_ => ?_) fun _ bus sees => ?_
  · exact ⟨sent,split ▸ List.prefix_append sent _,programEnds address small sent chip at_⟩
  · refine ⟨sent ++ [octet],by rw [split,List.append_assoc]; rfl,?_⟩
    rw [← List.append_assoc]
    exact sees

theorem programSees (address : UInt32) (small : address.toNat < 2^24) (data : List UInt8) :
    Triple (Sees origin (At bytes none false fact)) (ramPageProgram address data)
      (fun _ => Sees origin (At (programmed pageSize data address.toNat bytes) none false fact))
      fun _ => Sees origin (Partly bytes address.toNat data fact) := by
  refine enableSees (fun _ at_ => ⟨[],List.nil_prefix,at_⟩) fun original => ?_
  have unsent : ∀ chip, At bytes none false fact chip → Partly bytes address.toNat data fact chip :=
    fun _ at_ => ⟨[],List.nil_prefix,at_⟩
  refine bindTriple (orFailSees original (addressSees cmdPageProgram address) fun _ bad =>
    unsent _ (looseDeselects _ bad)) fun _ => ?_
  refine bindTriple (beforeTriple (forTriple _ (sendsNext original address small data) data) fun bus sees =>
    ⟨[],rfl,by rw [List.append_nil]; exact sees⟩) fun _ => ?_
  refine beforeTriple ?_ fun bus sent => show Sees origin
    (At bytes (some (addressed cmdPageProgram address ++ data)) true fact) bus by
      obtain ⟨all,split,sees⟩ := sent
      rw [List.append_nil] at split
      exact split ▸ sees
  have whole : ∀ chip, At (programmed pageSize data address.toNat bytes) none false fact chip →
      Partly bytes address.toNat data fact chip := fun _ at_ => ⟨data,List.prefix_rfl,at_⟩
  refine bindTriple (orFailSees original (endDone (programEnds address small data) fun _ at_ => idleLoose at_) fun _ bad =>
    whole _ (looseDeselects _ bad)) fun _ => ?_
  refine bindTriple (orFailSees original (waitReadySees maxStatusPolls) fun _ bad => whole _ (looseDeselects _ bad)) fun _ => ?_
  exact restoreSees original

/- An erase that fails has been done or has not. -/
def Perhaps (bytes : Nat → UInt8) (address : Nat) (fact : Prop) (chip : Chip) : Prop :=
  At bytes none false fact chip ∨ At (erased pageSize address bytes) none false fact chip

-- what is left where an erase goes wrong
def Lost (bytes : Nat → UInt8) (address : Nat) (fact : Prop) (chip : Chip) : Prop :=
  Loose bytes fact chip ∨ Loose (erased pageSize address bytes) fact chip

theorem eraseSees (address : UInt32) (small : address.toNat < 2^24) :
    Triple (Sees origin (At bytes none false fact)) (ramErase address)
      (fun _ => Sees origin (At (erased pageSize address.toNat bytes) none false fact))
      fun _ => Sees origin (Perhaps bytes address.toNat fact) := by
  refine enableSees (fun _ at_ => .inl at_) fun original => ?_
  have over_ : Deselects (Lost bytes address.toNat fact) (Perhaps bytes address.toNat fact) := fun chip bad =>
    bad.imp (looseDeselects chip) (looseDeselects chip)
  have done : Deselects (At bytes (some (addressed cmdErase256 address)) true fact)
      (At (erased pageSize address.toNat bytes) none false fact) := fun _ at_ => commandDone at_ (eraseFrame address small)
  have ends : Triple (Sees origin (At bytes (some (addressed cmdErase256 address)) true fact)) ramEnd
      (Either origin (At (erased pageSize address.toNat bytes) none false fact) (Lost bytes address.toNat fact))
      fun _ => Sees origin (Perhaps bytes address.toNat fact) := by
    refine afterTriple (endSees done) fun ready _ sees => ?_
    cases ready with
    | true => exact sees
    | false => exact .inr (idleLoose sees)
  have addresses : Triple (Sees origin (At bytes none true fact)) (ramAddress cmdErase256 address false)
      (Either origin (At bytes (some (addressed cmdErase256 address)) true fact) (Lost bytes address.toNat fact))
      fun _ => Sees origin (Perhaps bytes address.toNat fact) := by
    refine afterTriple (addressSees cmdErase256 address) fun ready _ sees => ?_
    cases ready with
    | true => exact sees
    | false => exact .inl sees
  refine bindTriple (orFailSees original (andThenSees addresses ends) over_) fun _ => ?_
  refine bindTriple (orFailSees original (waitReadySees maxStatusPolls) fun _ bad => .inr (looseDeselects _ bad)) fun _ => ?_
  exact restoreSees original

/- A read that has gone so far. -/
def Reading (bytes : Nat → UInt8) (octets : List UInt8) (answered : Nat) (fact : Prop) (chip : Chip) : Prop :=
  At bytes (some octets) false fact chip ∧ chip.answered = answered

def slice (bytes : Nat → UInt8) (base length : Nat) : List UInt8 := (List.range length).map fun i => bytes (base + i)

def readFrame (address : UInt32) : List UInt8 := addressed cmdDataRead address ++ [0,0]

theorem readHarmless (rest : List UInt8) : decode serialCodes (cmdDataRead :: rest) = none := by
  obtain _ | ⟨high,_ | ⟨mid,_ | ⟨low,data⟩⟩⟩ := rest
  · rfl
  · rfl
  · rfl
  · have notProgram : cmdDataRead ≠ serialCodes.program := by decide
    have notErase : cmdDataRead ≠ serialCodes.erase := by decide
    simp only [decode,notProgram,notErase,if_false,false_and]

theorem readOutput (octet : UInt8) (rest : List UInt8) (answered : Nat) :
    Triple (Sees origin (Reading bytes (cmdDataRead :: rest) answered fact)) (ramOutput octet)
      (Either origin (Reading bytes (cmdDataRead :: (rest ++ [octet])) answered fact) (Loose bytes fact)) fail := by
  have moves : ∀ chip, Reading bytes (cmdDataRead :: rest) answered fact chip →
      Reading bytes (cmdDataRead :: (rest ++ [octet])) answered fact (shifted chip (.shiftIn octet)) :=
    fun _ reading => ⟨shiftsIn reading.1,reading.2⟩
  refine afterTriple (outputMoves moves) fun ready _ sees => ?_
  cases ready with
  | true => exact sees
  | false => exact loose sees.1 (readHarmless rest)

theorem readAddress (address : UInt32) : Triple (Sees origin (At bytes none false fact))
    (ramAddress cmdDataRead address true)
    (Either origin (Reading bytes (readFrame address) 0 fact) (Loose bytes fact)) fail := by
  have begins : Triple (Sees origin (At bytes none false fact)) (ramBegin cmdDataRead)
      (fun _ => Sees origin (Reading bytes [cmdDataRead] 0 fact)) fail := by
    have selected : ∀ chip, At bytes none false fact chip → Reading bytes [] 0 fact (shifted chip .select) :=
      fun _ at_ => ⟨selects at_,rfl⟩
    have told : ∀ chip, Reading bytes [] 0 fact chip → Reading bytes [cmdDataRead] 0 fact (shifted chip (.shiftIn cmdDataRead)) :=
      fun _ reading => ⟨shiftsIn reading.1,reading.2⟩
    exact bindTriple (controlSees fun _ at_ => idleDeselects at_) fun _ =>
      bindTriple (controlSees selected) fun _ => outputSees told
  refine bindTriple begins fun _ => ?_
  refine andThenSees (andThenSees (readOutput _ _ 0) (andThenSees (readOutput _ _ 0) (readOutput _ _ 0))) ?_
  exact andThenSees (readOutput 0 _ 0) (readOutput 0 _ 0)

/- One octet more, and it is the one at its address if the memory has been truthful. -/
theorem readsOctet (address : UInt32) (small : address.toNat < 2^24) (output : List UInt8) :
    Triple (Sees origin (Reading bytes (readFrame address) output.length
        (fact ∧ output = slice bytes address.toNat output.length))) readFlashData
      (fun byte => Sees origin (Reading bytes (readFrame address) (output ++ [byte]).length
        (fact ∧ output ++ [byte] = slice bytes address.toNat (output ++ [byte]).length))) fail := by
  refine inputSees fun byte chip ⟨at_,so⟩ => ⟨SerialNor.tells (shiftsOut at_) fun ⟨⟨before,known⟩,shows⟩ => ⟨before,?_⟩,?_⟩
  · have shown : SerialNor.answer serialCodes chip = some (bytes (address.toNat + output.length)) := by
      have frame := at_.frame
      unfold SerialNor.answer
      rw [frame]
      show (if cmdDataRead = serialCodes.read ∧ [(0 : UInt8),0].length = serialCodes.dummies then _ else none) = _
      rw [if_pos ⟨rfl,rfl⟩,at_.bytes,so,word address small]
    rw [shows _ shown,List.length_append,List.length_singleton,slice,List.range_succ,List.map_append]
    exact congrArg (· ++ [bytes (address.toNat + output.length)]) known
  · rw [List.length_append]
    exact congrArg (· + 1) so

theorem readingDeselects (address : UInt32) {answered : Nat} {more : Prop} :
    Deselects (Reading bytes (readFrame address) answered (fact ∧ more)) (At bytes none false fact) :=
  fun _ ⟨at_,_⟩ => SerialNor.tells (nothingDone at_ (readHarmless _)) And.left

/- A read with so many octets still to come. -/
def ReadUpTo (origin : Chip) (bytes : Nat → UInt8) (address : UInt32) (length : Nat) (fact : Prop) (rest : List Nat)
    (output : List UInt8) (bus : Bus) : Prop :=
  output.length + rest.length = length ∧
  Sees origin (Reading bytes (readFrame address) output.length (fact ∧ output = slice bytes address.toNat output.length)) bus

theorem readsNext (original : UInt8) (address : UInt32) (small : address.toNat < 2^24) (length i : Nat) (rest : List Nat)
    (output : List UInt8) :
    Triple (ReadUpTo origin bytes address length fact (i :: rest) output) (do
      orFail original ramWaitInterface
      let byte ← readFlashData
      pure (output ++ [byte])) (ReadUpTo origin bytes address length fact rest)
      fun _ => Sees origin (At bytes none false fact) := by
  refine assumeTriple fun lengths => ?_
  generalize sofar : Reading bytes (readFrame address) output.length
    (fact ∧ output = slice bytes address.toNat output.length) = reading
  have waits : Triple (Sees origin reading) ramWaitInterface (Either origin reading reading)
      fun _ => Sees origin (At bytes none false fact) :=
    afterTriple waitSees fun ready _ sees => by
      cases ready with
      | true => exact sees
      | false => exact sees
  subst sofar
  refine bindTriple (orFailSees original waits (readingDeselects address)) fun _ =>
    bindTriple (readsOctet address small output) fun byte => ?_
  refine pureTriple fun bus sees => ⟨?_,sees⟩
  rw [List.length_append,List.length_singleton]
  rw [List.length_cons] at lengths
  omega

theorem readSees (address : UInt32) (small : address.toNat < 2^24) (length : Nat) :
    Triple (Sees origin (At bytes none false fact)) (ramReadBytes address length)
      (fun output => Sees origin (At bytes none false (fact ∧ output = slice bytes address.toNat length)))
      fun _ => Sees origin (At bytes none false fact) := by
  refine bindTriple (configureSees false) fun original => bindTriple (prepareSees original) fun _ => ?_
  refine bindTriple (orFailSees original (readAddress address) looseDeselects) fun _ => ?_
  refine bindTriple (beforeTriple (foldTriple (ReadUpTo origin bytes address length fact)
    (readsNext original address small length) (List.range length) []) fun bus sees => ?_) fun output => ?_
  · refine ⟨by simp,SerialNor.tells sees.1 fun holds => ⟨holds,rfl⟩,sees.2⟩
  refine assumeTriple fun lengths => ?_
  rw [List.length_nil,Nat.add_zero] at lengths
  rw [lengths]
  refine bindTriple (endSees fun _ reading => nothingDone reading.1 (readHarmless _)) fun ready => iteTriple (fun _ => ?_) fun _ => ?_
  · exact bindTriple (restoreSees original) fun _ => pureTriple fun _ sees => sees
  · exact bindTriple (restoreSees original) fun _ => throwTriple fun _ sees => SerialNor.tells sees And.left

end Transactions

/-! The whole calls, as operations of a plain store. -/

inductive Call where
  | read (offset : UInt32) (length : Nat)
  | write (offset : UInt32) (data : List UInt8)
  | erase (start finish : UInt32)
  deriving DecidableEq, Repr

def perform : Call → Routine Error Bus (List UInt8)
  | .read offset length => DataFlash.read ramReadBytes offset length
  | .write offset data => do
    DataFlash.write ramPageProgram offset data
    pure []
  | .erase start finish => do
    DataFlash.erase ramErase start finish
    pure []

def wiped (base pages : Nat) (bytes : Nat → UInt8) : Nat → UInt8 :=
  fun a => if base ≤ a ∧ a < base + pages * eraseSize then 0xff else bytes a

/- What a call does to a plain store, and what it answers: a refused call does nothing, and one
that fails on the way has done a first part. What is read counts only for an honest store. -/
def Does (honest : Prop) (bytes : Nat → UInt8) : Call → Except Error (List UInt8) → (Nat → UInt8) → Prop
  | .read offset length,.ok output,after => offset.toNat + length ≤ capacity ∧ after = bytes ∧
    (honest → output = slice bytes (window + offset.toNat) length)
  | .read _ _,.error _,after => after = bytes
  | .write offset data,.ok _,after => offset.toNat + data.length ≤ capacity ∧
    after = overlay data (window + offset.toNat) bytes
  | .write offset data,.error _,after => ∃ sent, sent <+: data ∧
    (capacity < offset.toNat + data.length → sent = []) ∧ after = overlay sent (window + offset.toNat) bytes
  | .erase start finish,.ok _,after => Accepted start finish ∧
    after = wiped (window + start.toNat) ((finish.toNat - start.toNat) / eraseSize) bytes
  | .erase start finish,.error _,after => ∃ pages ≤ (finish.toNat - start.toNat) / eraseSize,
    (¬Accepted start finish → pages = 0) ∧ after = wiped (window + start.toNat) pages bytes

section Calls
variable {origin : Chip} {fact : Prop} {bytes : Nat → UInt8}

/- The memory after a call has done what it does to a store. -/
def Done (origin : Chip) (fact : Prop) (bytes : Nat → UInt8) (call : Call) (outcome : Except Error (List UInt8))
    (bus : Bus) : Prop :=
  ∃ fact' after, (fact' → fact) ∧ Does fact' bytes call outcome after ∧ Sees origin (At after none false fact') bus

theorem readDone (offset : UInt32) (length : Nat) : Triple (Sees origin (At bytes none false fact))
    (perform (.read offset length)) (fun output => Done origin fact bytes (.read offset length) (.ok output))
    fun error => Done origin fact bytes (.read offset length) (.error error) := by
  have same : ∀ error bus, Sees origin (At bytes none false fact) bus →
      Done origin fact bytes (.read offset length) (.error error) bus := fun _ _ sees => ⟨fact,bytes,id,rfl,sees⟩
  simp only [perform]
  unfold DataFlash.read
  split
  · exact throwTriple (same _)
  · rename_i finish fits
    have sum : finish = offset.toNat + length := by
      unfold CheckedArithmetic.unsigned at fits
      split at fits <;> cases fits
      rfl
    refine iteTriple (fun _ => throwTriple (same _)) fun inside => iteTriple (fun empty => ?_) fun more => ?_
    · refine pureTriple fun bus sees => ⟨fact,bytes,id,⟨by omega,rfl,fun _ => ?_⟩,sees⟩
      rw [empty]
      rfl
    · obtain ⟨address,translated,exact_⟩ := physicalExact (σ := Bus) (show offset.toNat < capacity by omega)
      rw [translated,pure_bind]
      have small : address.toNat < 2^24 := by
        unfold window capacity at *
        omega
      refine weakenTriple (readSees address small length) (fun _ sees => sees) (fun output bus sees => ?_) (same ·)
      rw [exact_] at sees
      exact ⟨_,bytes,And.left,⟨by omega,rfl,And.right⟩,sees⟩

/- A write of which these chunks are still to program. -/
def LaidOut (origin : Chip) (bytes : Nat → UInt8) (base : Nat) (data : List UInt8) (fact : Prop)
    (rest : List (UInt32 × List UInt8)) (bus : Bus) : Prop :=
  ∃ first second, data = first ++ second ∧
    Span pageSize scratchSize (base + first.length) (rest.map fun chunk => .program chunk.1.toNat chunk.2) second ∧
    Sees origin (At (overlay first base bytes) none false fact) bus

theorem writeFails {offset : UInt32} {data sent : List UInt8} (inside : offset.toNat + data.length ≤ capacity)
    (first : sent <+: data) (error : Error) {bus : Bus}
    (sees : Sees origin (At (overlay sent (window + offset.toNat) bytes) none false fact) bus) :
    Done origin fact bytes (.write offset data) (.error error) bus :=
  ⟨fact,_,id,⟨sent,first,fun beyond => absurd inside (Nat.not_le.mpr beyond),rfl⟩,sees⟩

theorem laysNext {offset : UInt32} {data : List UInt8} (inside : offset.toNat + data.length ≤ capacity)
    (chunk : UInt32 × List UInt8) (rest : List (UInt32 × List UInt8)) :
    Triple (LaidOut origin bytes (window + offset.toNat) data fact (chunk :: rest)) (ramPageProgram chunk.1 chunk.2)
      (fun _ => LaidOut origin bytes (window + offset.toNat) data fact rest)
      fun error => Done origin fact bytes (.write offset data) (.error error) := by
  obtain ⟨address,chunk⟩ := chunk
  refine existsTriple fun first => existsTriple fun second => assumeTriple fun split => assumeTriple fun span => ?_
  simp only [List.map_cons] at span
  generalize reached : window + offset.toNat + first.length = base at span
  cases span with
  | @cons _ _ _ more _ _ room next =>
    have lengths := congrArg List.length split
    rw [List.length_append,List.length_append] at lengths
    have small : address.toNat < 2^24 := by
      unfold window capacity at *
      omega
    -- a first part of the chunk extends what has been laid out
    have extends_ : ∀ sent, sent <+: chunk →
        programmed pageSize sent address.toNat (overlay first (window + offset.toNat) bytes) =
          overlay (first ++ sent) (window + offset.toNat) bytes := by
      intro sent part
      have shorter := part.length_le
      rw [programmedInside sent _ (by omega),← reached]
      exact overlayAppend ..
    refine weakenTriple (programSees address small chunk) (fun _ sees => sees) (fun _ bus sees => ?_) fun error bus sees => ?_
    · rw [extends_ chunk List.prefix_rfl] at sees
      refine ⟨first ++ chunk,more,by rw [split,List.append_assoc],?_,sees⟩
      rw [List.length_append,← Nat.add_assoc,reached]
      exact next
    · obtain ⟨sent,part,at_⟩ := sees
      rw [extends_ sent part] at at_
      refine writeFails inside ?_ error at_
      rw [split]
      exact (List.prefix_append_right_inj first).mpr (part.trans (List.prefix_append chunk more))

theorem writeDone (offset : UInt32) (data : List UInt8) : Triple (Sees origin (At bytes none false fact))
    (perform (.write offset data)) (fun output => Done origin fact bytes (.write offset data) (.ok output))
    fun error => Done origin fact bytes (.write offset data) (.error error) := by
  simp only [perform]
  by_cases inside : offset.toNat + data.length ≤ capacity
  · obtain ⟨chunks,loop,span⟩ := writeCommands ramPageProgram inside 0
    rw [writeAccepted _ inside,loop]
    rw [Nat.add_zero,List.drop_zero] at span
    refine bindTriple (beforeTriple (forTriple _ (laysNext inside) chunks) fun bus sees => ?_) fun _ => ?_
    · exact ⟨[],data,rfl,span,by rw [overlayNil]; exact sees⟩
    · refine pureTriple fun bus ⟨first,second,split,span,sees⟩ => ?_
      cases span
      rw [List.append_nil] at split
      exact ⟨fact,_,id,⟨inside,rfl⟩,split ▸ sees⟩
  · rw [writeRefused _ (Nat.not_le.mp inside)]
    exact throwTriple fun bus sees => ⟨fact,bytes,id,⟨[],List.nil_prefix,fun _ => rfl,(overlayNil _ _).symm⟩,sees⟩

theorem wipedNone (base : Nat) (bytes : Nat → UInt8) : wiped base 0 bytes = bytes := by
  funext a
  exact if_neg (by omega)

theorem wipedNext {base : Nat} (aligned : base % eraseSize = 0) (pages : Nat) (bytes : Nat → UInt8) :
    erased pageSize (base + pages * eraseSize) (wiped base pages bytes) = wiped base (pages + 1) bytes := by
  have all := fun pages => NorMemory.erasedPages (show 0 < eraseSize by decide) pages aligned bytes
  unfold wiped
  rw [← all,← all,List.range'_concat,List.map_append,List.foldl_append,Nat.mul_comm pages]
  rfl

/- An erase of so many pages of which these are still to clear. -/
def WipedUpTo (origin : Chip) (bytes : Nat → UInt8) (start count : Nat) (fact : Prop) (rest : List Nat) (bus : Bus) :
    Prop :=
  ∃ pages, pages ≤ count ∧ rest = List.range' (start + pages * eraseSize) (count - pages) eraseSize ∧
    Sees origin (At (wiped (window + start) pages bytes) none false fact) bus

theorem eraseFails {start finish : UInt32} (accepted : Accepted start finish) {pages : Nat}
    (fewer : pages ≤ (finish.toNat - start.toNat) / eraseSize) (error : Error) {bus : Bus}
    (sees : Sees origin (At (wiped (window + start.toNat) pages bytes) none false fact) bus) :
    Done origin fact bytes (.erase start finish) (.error error) bus :=
  ⟨fact,_,id,⟨pages,fewer,fun refused => absurd accepted refused,rfl⟩,sees⟩

theorem wipesNext {start finish : UInt32} (accepted : Accepted start finish) (offset : Nat) (rest : List Nat) :
    Triple (WipedUpTo origin bytes start.toNat ((finish.toNat - start.toNat) / eraseSize) fact (offset :: rest))
      (eraseAt ramErase offset)
      (fun _ => WipedUpTo origin bytes start.toNat ((finish.toNat - start.toNat) / eraseSize) fact rest)
      fun error => Done origin fact bytes (.erase start finish) (.error error) := by
  obtain ⟨startAligned,finishAligned,order,room⟩ := id accepted
  have failed := fun {pages} => @eraseFails origin fact bytes start finish accepted pages
  generalize counted : (finish.toNat - start.toNat) / eraseSize = count at failed
  have aligned : (window + start.toNat) % eraseSize = 0 := by
    unfold window eraseSize at *
    omega
  refine existsTriple fun pages => assumeTriple fun fewer => assumeTriple fun left => ?_
  cases more : count - pages with
  | zero =>
    rw [more] at left
    exact absurd left (List.cons_ne_nil _ _)
  | succ after =>
    rw [more,List.range'_succ] at left
    obtain ⟨here,later⟩ := List.cons.inj left
    obtain ⟨address,translated,exact_⟩ := physicalExact (σ := Bus) (show offset < capacity by
      unfold eraseSize at *
      omega)
    have small : address.toNat < 2^24 := by
      unfold window capacity eraseSize at *
      omega
    have place : address.toNat = window + start.toNat + pages * eraseSize := by omega
    have next : erased pageSize address.toNat (wiped (window + start.toNat) pages bytes) =
        wiped (window + start.toNat) (pages + 1) bytes := by rw [place,wipedNext aligned]
    unfold eraseAt
    rw [translated,pure_bind]
    refine weakenTriple (eraseSees address small) (fun _ sees => sees) (fun _ bus sees => ?_) fun error bus sees => ?_
    · rw [next] at sees
      refine ⟨pages + 1,by omega,?_,sees⟩
      rw [later,show count - (pages + 1) = after by omega,Nat.succ_mul,← Nat.add_assoc]
    · rcases sees with before | after
      · exact failed fewer error before
      · rw [next] at after
        exact failed (by omega) error after

theorem eraseDone (start finish : UInt32) : Triple (Sees origin (At bytes none false fact))
    (perform (.erase start finish)) (fun output => Done origin fact bytes (.erase start finish) (.ok output))
    fun error => Done origin fact bytes (.erase start finish) (.error error) := by
  simp only [perform]
  by_cases accepted : Accepted start finish
  · rw [eraseAccepted _ accepted]
    refine bindTriple (beforeTriple (forTriple _ (wipesNext accepted) _) fun bus sees => ?_) fun _ => ?_
    · exact ⟨0,Nat.zero_le _,by rw [Nat.zero_mul,Nat.add_zero,Nat.sub_zero],by rw [wipedNone]; exact sees⟩
    · refine pureTriple fun bus ⟨pages,fewer,none_,sees⟩ => ?_
      have all : (finish.toNat - start.toNat) / eraseSize - pages = 0 := by
        have lengths := congrArg List.length none_
        rw [List.length_range'] at lengths
        exact lengths.symm
      have whole : pages = (finish.toNat - start.toNat) / eraseSize := by omega
      exact ⟨fact,_,id,⟨accepted,rfl⟩,whole ▸ sees⟩
  · obtain ⟨error,refused⟩ := eraseRefused ramErase accepted
    rw [refused]
    exact throwTriple fun bus sees => ⟨fact,bytes,id,⟨0,Nat.zero_le _,fun _ => rfl,(wipedNone _ _).symm⟩,sees⟩

theorem callDone (call : Call) : Triple (Sees origin (At bytes none false fact)) (perform call)
    (fun output => Done origin fact bytes call (.ok output)) fun error => Done origin fact bytes call (.error error) :=
  match call with
  | .read offset length => readDone offset length
  | .write offset data => writeDone offset data
  | .erase start finish => eraseDone start finish

end Calls

/-! Any run of calls. -/

abbrev History := List (Call × Except Error (List UInt8))

def runCalls : Bus → List Call → History × Bus
  | bus,[] => ([],bus)
  | bus,call :: rest =>
    let reached := result (perform call) bus
    let ended := runCalls reached.2 rest
    ((call,reached.1) :: ended.1,ended.2)

/- What has happened to a store, call by call. -/
inductive Story (honest : Prop) (bytes : Nat → UInt8) : History → (Nat → UInt8) → Prop where
  | nil : Story honest bytes [] bytes
  | snoc {history before call outcome after} (sofar : Story honest bytes history before)
      (does : Does honest before call outcome after) : Story honest bytes (history ++ [(call,outcome)]) after

section Runs
variable {honest honest' : Prop} {bytes : Nat → UInt8} {history : History} {before after : Nat → UInt8}
  {call : Call} {outcome : Except Error (List UInt8)}

theorem doesHonest (does : Does honest bytes call outcome after) (follows : honest' → honest) :
    Does honest' bytes call outcome after := by
  cases call with
  | read => cases outcome with
    | error => exact does
    | ok => exact ⟨does.1,does.2.1,fun truthful => does.2.2 (follows truthful)⟩
  | write => cases outcome <;> exact does
  | erase => cases outcome <;> exact does

theorem storyHonest (story : Story honest bytes history after) (follows : honest' → honest) :
    Story honest' bytes history after := by
  induction story with
  | nil => exact .nil
  | snoc _ does ih => exact .snoc ih (doesHonest does follows)

/- Whatever a call does, it does inside the window. -/
theorem doesInside (does : Does honest bytes call outcome after) {a : Nat} (outside : a < window ∨ window + capacity ≤ a) :
    after a = bytes a := by
  have overlaid : ∀ {data : List UInt8} {offset : UInt32}, (data = [] ∨ offset.toNat + data.length ≤ capacity) →
      overlay data (window + offset.toNat) bytes a = bytes a := by
    intro data offset room
    refine if_neg fun inside => ?_
    rcases room with rfl | room
    · exact absurd inside.2 (Nat.not_lt.mpr inside.1)
    · omega
  have erased : ∀ {start finish : UInt32} {pages : Nat}, (pages = 0 ∨ Accepted start finish) →
      pages ≤ (finish.toNat - start.toNat) / eraseSize → wiped (window + start.toNat) pages bytes a = bytes a := by
    intro start finish pages room fewer
    refine if_neg fun inside => ?_
    unfold eraseSize at *
    rcases room with rfl | ⟨_,_,_,room⟩ <;> omega
  cases call with
  | read => cases outcome with
    | error => rw [show after = bytes from does]
    | ok => rw [does.2.1]
  | write offset data => cases outcome with
    | ok =>
      obtain ⟨room,rfl⟩ := does
      exact overlaid (.inr room)
    | error =>
      obtain ⟨sent,part,refused,rfl⟩ := does
      have shorter := part.length_le
      refine overlaid ((Nat.lt_or_ge capacity (offset.toNat + data.length)).imp refused fun room => ?_)
      omega
  | erase start finish => cases outcome with
    | ok =>
      obtain ⟨accepted,rfl⟩ := does
      exact erased (.inr accepted) (Nat.le_refl _)
    | error =>
      obtain ⟨pages,fewer,refused,rfl⟩ := does
      refine erased ?_ fewer
      by_cases accepted : Accepted start finish
      · exact .inr accepted
      · exact .inl (refused accepted)

theorem storyInside (story : Story honest bytes history after) {a : Nat} (outside : a < window ∨ window + capacity ≤ a) :
    after a = bytes a := by
  induction story with
  | nil => rfl
  | snoc _ does ih => exact (doesInside does outside).trans ih

/- The memory behind the bus is a store with this history. -/
def Kept (origin : Chip) (bytes : Nat → UInt8) (history : History) (bus : Bus) : Prop :=
  ∃ fact now, Story fact bytes history now ∧ Sees origin (At now none false fact) bus

theorem callKept {origin : Chip} {bus : Bus} (call : Call) (kept : Kept origin bytes history bus) :
    Kept origin bytes (history ++ [(call,(result (perform call) bus).1)]) (result (perform call) bus).2 := by
  obtain ⟨fact,now,story,sees⟩ := kept
  have done : Done origin fact now call (result (perform call) bus).1 (result (perform call) bus).2 :=
    tripleOutcome (callDone call) sees
  obtain ⟨fact',after,follows,does,sees⟩ := done
  exact ⟨fact',after,.snoc (storyHonest story follows) does,sees⟩

theorem runKept {origin : Chip} (calls : List Call) {bus : Bus} (kept : Kept origin bytes history bus) :
    Kept origin bytes (history ++ (runCalls bus calls).1) (runCalls bus calls).2 := by
  induction calls generalizing history bus with
  | nil =>
    rw [show (runCalls bus []).1 = [] from rfl,List.append_nil]
    exact kept
  | cons call rest ih =>
    have next := ih (callKept call kept)
    rw [List.append_assoc] at next
    exact next

theorem runAnswers (bus : Bus) (calls : List Call) : (runCalls bus calls).1.map Prod.fst = calls := by
  induction calls generalizing bus with
  | nil => rfl
  | cons call rest ih => exact congrArg (call :: ·) (ih _)

/- From a memory nobody has selected and traffic still to come, whatever the controller answers. -/
def fresh (bytes : Nat → UInt8) : Chip := ⟨bytes,false,none,0,true⟩

theorem runsAreStores (bytes : Nat → UInt8) (bus : Bus) (calls : List Call) :
    let ended := runCalls { bus with traffic := [] } calls
    let memory := served (fresh bytes) ended.2
    ended.1.map Prod.fst = calls ∧ memory.frame = none ∧
    Story (memory.truthful = true) bytes ended.1 memory.bytes ∧
    ∀ a, (a < window ∨ window + capacity ≤ a) → memory.bytes a = bytes a := by
  intro ended memory
  have start : Kept (fresh bytes) bytes [] { bus with traffic := [] } :=
    ⟨True,bytes,.nil,⟨rfl,rfl,fun absent => (nomatch absent),fun _ => trivial⟩⟩
  obtain ⟨fact,now,story,sees⟩ := runKept calls start
  have told : Story (memory.truthful = true) bytes ended.1 now := storyHonest story sees.told
  have same : memory.bytes = now := sees.bytes
  refine ⟨runAnswers _ calls,sees.frame,same ▸ told,fun a outside => ?_⟩
  rw [same]
  exact storyInside told outside

end Runs

end Ch58xHal.FlashStore
