import Ch58xHal.ConnectionAir
import Ch58xHal.HostSession
import Ch58xHal.RadioRun

/-! The whole controller on its radio. What it hears comes from the device alone, so each of its runs
is a run of the controller for some answers of the radio, and each new link rests on octets read. -/
namespace Ch58xHal.ControllerAir
open ControlPdu Connection ConnectionEvent ConnectionRun Advertising ConnectIndCodec HostCommands
open ControllerRun hiding Stimulus
open RadioChip RadioSafety OrderedEvidence
open DeviceRegisters (store otherStored)
open RadioExchange (packetOf exchangeAfterwards)
open RadioAdvertising (advertisingAfterwards advertisingRests exchangeReturned)
open RadioSingles (shutElapse)
open ConnectionAir (Station answer answered answerEnds heardOf)
open HostSession (tuned Resets resetTuned handledTuned Attuned actAttuned actRequested startAttuned linkKept)
open Machines (Machine History)
open Routines (result)

def maxLegacyAdvPduLen : Nat := 2 + 6 + 31

def advertisingChannel : Fin 3 → ChannelSelection.Channel
  | 0 => ⟨37,by decide⟩
  | 1 => ⟨38,by decide⟩
  | 2 => ⟨39,by decide⟩

structure Device (ρ : Type) where
  system : System ρ
  chip : Chip
  -- in an exchange that has not come back
  stuck : Bool

inductive Happening where
  | idle (packet : Packet)
  | advertising (now turns : Nat)
  | host (packet : Packet)
  | deadlines (now : Nat)
  | skip (now : Nat) (clock : Nat → Nat)
  | event (clock : EventClock) (turns : Nat)
  -- the device goes on while nothing is called
  | rest

/- `heard` is the device once it has answered. -/
structure Observed where
  taken : Option (ControllerRun.Stimulus × List HostCall)
  before : Chip
  heard : Chip

structure Swept where
  heard : Fin 3 → Option AdvertisingResult
  chip : Chip
  stuck : Bool

def resultOf (r : RadioOperations.ReceivedPacket) : AdvertisingResult := ⟨r.payload,r.crcOk,r.timestampUs⟩

section Machine
variable {ρ : Type} (fillBytes : ρ → ρ × Vector UInt8 8) (layout : RadioOperations.Layout)

def advertiseOn (a : Advertiser) (slot : Fin 3) (pdu scanResponse : List UInt8) (turns : Nat) :
    Operation (Option RadioOperations.ReceivedPacket) :=
  RadioOperations.advertisingExchange layout (advertisingChannel slot) 500 pdu scanResponse a.address.bytes
    maxLegacyAdvPduLen turns

/- `advertising_event` up to the request it accepts. -/
def sweep (a : Advertiser) (turns : Nat) : List (Fin 3) → (Fin 3 → Option AdvertisingResult) → Chip → Swept
  | [],heard,chip => ⟨heard,chip,false⟩
  | slot :: rest,heard,chip =>
    if a.channels.get slot = false ∨ a.enabled = false then sweep a turns rest heard chip
    else match buildAdvInd a.address a.data,buildScanRsp a.address a.scanResponse with
      | .ok pdu,.ok scanResponse =>
        let ran := result (advertiseOn layout a slot pdu scanResponse turns) chip
        match ran.1 with
        | .error _ => sweep a turns rest heard ran.2
        | .ok none => ⟨heard,ran.2,true⟩
        | .ok (some r) =>
          let heard := Function.update heard slot (some (resultOf r))
          if (requestHeard a (resultOf r)).isSome then ⟨heard,ran.2,false⟩ else sweep a turns rest heard ran.2
      | _,_ => ⟨heard,chip,false⟩

def tuning (accessAddress crcInit : UInt32) : List RadioRun.Call := [.setAccessAddress accessAddress,.setCrcInit crcInit]

def advertisingTuning : List RadioRun.Call := tuning advAccessAddress advCrcInit

/- A Reset tunes the radio for advertising, also when it is tuned so already. -/
def commandWrites : HostCall → List RadioRun.Call
  | .handleCommand bytes => if WellFormed bytes ∧ Resets bytes then advertisingTuning else []
  | _ => []

/- How the controller tunes the radio when it takes a stimulus. -/
def writes (s : System ρ) : ControllerRun.Stimulus → List RadioRun.Call
  | .idle packet =>
    if s.link.isNone ∧ packet.kind = .cmd then commandWrites (.handleCommand packet.bytes) else []
  | .advertising heard now =>
    if s.link.isNone ∧ s.runner.advertiser.enabled then
      match advertise s.runner.advertiser heard with
      | none => []
      | some (request,timestampUs) =>
        match ActiveConnection.new request timestampUs now with
        | none => []
        | some c => tuning c.request.accessAddress c.request.crcInit
    else []
  | .linked input =>
    match s.link with
    | none => []
    | some link =>
      let done := ConnectionRun.step link input
      done.2.calls.flatMap commandWrites ++ if done.1.down then advertisingTuning else []

def take (s : Device ρ) (stimulus : ControllerRun.Stimulus) (heard : Chip) : Device ρ × Observed :=
  let done := act fillBytes s.system stimulus
  (⟨done.1,RadioRun.run layout (writes s.system stimulus) heard,false⟩,⟨some (stimulus,done.2),s.chip,heard⟩)

def wait (s : Device ρ) (chip : Chip) (stuck : Bool) : Device ρ × Observed :=
  (⟨s.system,chip,stuck⟩,⟨none,s.chip,chip⟩)

def announce (s : Device ρ) (now turns : Nat) : Device ρ × Observed :=
  if s.system.link.isNone ∧ s.system.runner.advertiser.enabled then
    let swept := sweep layout s.system.runner.advertiser turns (List.finRange 3) (fun _ => none) s.chip
    if swept.stuck then wait s swept.chip true else take fillBytes layout s (.advertising swept.heard now) swept.chip
  else wait s s.chip false

def meet (s : Device ρ) (link : Link) (clock : EventClock) (turns : Nat) : Device ρ × Observed :=
  match answer layout link clock turns s.chip with
  | (none,after) => wait s after true
  | (some received,after) => take fillBytes layout s (.linked (.event clock (received.map heardOf))) after

def proceed (s : Device ρ) (happening : Happening) : Device ρ × Observed :=
  if s.stuck then wait s s.chip true
  else match happening with
    | .idle packet => take fillBytes layout s (.idle packet) s.chip
    | .advertising now turns => announce fillBytes layout s now turns
    | .host packet => take fillBytes layout s (.linked (.host packet)) s.chip
    | .deadlines now => take fillBytes layout s (.linked (.deadlines now)) s.chip
    | .skip now clock => take fillBytes layout s (.linked (.skip now clock)) s.chip
    | .event clock turns =>
      match s.system.link with
      | none => wait s s.chip false
      | some link => meet fillBytes layout s link clock turns
    | .rest => wait s (elapse s.chip) false

def device : Machine (Device ρ) Happening Observed := ⟨proceed fillBytes layout⟩

end Machine

/-! What one step can be. -/

/- The packet was read octet by octet between these two moments, with no CRC error since its launch. -/
def Shown (before after : Chip) (received : AdvertisingResult) : Prop :=
  received.crcOk = true → ∃ front more back since, after.log = before.log ++ front ++ more ++ back ∧
    InOrder (Launched 2 since :: Unbroken before.moments since :: packetOf received.payload) more

/- The radio has been driven through its own operations only. -/
structure Driven (layout : RadioOperations.Layout) (before after : Chip) : Prop where
  afterwards : Afterwards before after
  calls : ∃ calls, after = RadioRun.run layout calls before

section Steps
variable {layout : RadioOperations.Layout} {before middle after : Chip}

theorem drivenSame (chip : Chip) : Driven layout chip chip := ⟨afterwardsSame chip,[],rfl⟩

theorem runAppend (calls more : List RadioRun.Call) (chip : Chip) :
    RadioRun.run layout (calls ++ more) chip = RadioRun.run layout more (RadioRun.run layout calls chip) :=
  List.foldl_append

theorem drivenTrans (first : Driven layout before middle) (second : Driven layout middle after) :
    Driven layout before after := by
  obtain ⟨front,earlier⟩ := first.calls
  obtain ⟨back,later⟩ := second.calls
  refine ⟨afterwardsTrans first.afterwards second.afterwards,front ++ back,?_⟩
  rw [later,earlier,runAppend]

theorem drivenElapse (chip : Chip) : Driven layout chip (elapse chip) := ⟨afterwardsElapse chip,[.idle],rfl⟩

/- A call whose result is not looked at leaves the same device. -/
theorem resultDropped {α : Type} (m : Operation α) (chip : Chip) :
    (result (do let _ ← m) chip).2 = (result m chip).2 := by
  rcases ran : result m chip with ⟨outcome,after⟩
  cases outcome with
  | error e => rw [Routines.bindError ran]
  | ok a =>
    rw [Routines.bindOk ran]
    rfl

theorem drivenAnswer (layout : RadioOperations.Layout) (link : Link) (clock : EventClock) (turns : Nat) (chip : Chip) :
    Driven layout chip (answer layout link clock turns chip).2 := by
  refine ⟨(answered layout link clock turns chip).afterwards,?_⟩
  unfold answer
  split
  · exact ⟨[],rfl⟩
  · rename_i request _
    have dropped := resultDropped (ConnectionAir.takeExchange layout request turns) chip
    refine ⟨[.exchange turns request.channel request.deadline request.timeout request.transmit
      ConnectionAir.maxDataPduWireLen],Eq.trans ?_ dropped.symm⟩
    split <;> rename_i ran <;> rw [ran]

theorem drivenAdvertise (layout : RadioOperations.Layout) (a : Advertiser) (slot : Fin 3)
    (pdu scanResponse : List UInt8) (turns : Nat) (chip : Chip) :
    Driven layout chip (result (advertiseOn layout a slot pdu scanResponse turns) chip).2 :=
  ⟨advertisingAfterwards layout (advertisingChannel slot) 500 pdu scanResponse a.address.bytes maxLegacyAdvPduLen chip
      turns,
    [.advertise turns (advertisingChannel slot) 500 pdu scanResponse a.address.bytes maxLegacyAdvPduLen],
    (resultDropped _ chip).symm⟩

theorem shownWider {start final : Chip} {received : AdvertisingResult} (early : Afterwards start before)
    (late : Afterwards after final) (shown : Shown before after received) : Shown start final received := by
  intro good
  obtain ⟨front,more,back,since,log,order⟩ := shown good
  obtain ⟨first,began⟩ := early.log
  obtain ⟨last,ended⟩ := late.log
  refine ⟨first ++ front,more,back ++ last,since,?_,early.moments ▸ order⟩
  rw [ended,log,began]
  simp only [List.append_assoc]

theorem advertiseShown {a : Advertiser} {slot : Fin 3} {pdu scanResponse : List UInt8} {turns : Nat} {chip : Chip}
    {r : RadioOperations.ReceivedPacket}
    (finished : (result (advertiseOn layout a slot pdu scanResponse turns) chip).1 = .ok (some r)) :
    Shown chip (result (advertiseOn layout a slot pdu scanResponse turns) chip).2 (resultOf r) := by
  intro good
  obtain ⟨more,since,returned⟩ := exchangeReturned layout (advertisingChannel slot) 500 pdu scanResponse
    a.address.bytes maxLegacyAdvPduLen chip turns finished
  refine ⟨[],more,[],since,?_,returned.heard good⟩
  rw [List.append_nil,List.append_nil]
  exact returned.log

theorem heardUpdated {heard : Fin 3 → Option AdvertisingResult} {slot other : Fin 3} {r received : AdvertisingResult}
    (found : Function.update heard slot (some r) other = some received) :
    heard other = some received ∨ received = r := by
  by_cases same : other = slot
  · subst same
    rw [Function.update_self] at found
    exact .inr (Option.some.inj found).symm
  · rw [Function.update_of_ne same] at found
    exact .inl found

/- The channels one after another: what is heard on each of them has been shown on the way. -/
theorem sweepGoes (layout : RadioOperations.Layout) (a : Advertiser) (turns : Nat) (slots : List (Fin 3))
    (heard : Fin 3 → Option AdvertisingResult) (chip : Chip) :
    Driven layout chip (sweep layout a turns slots heard chip).chip ∧
    ∀ slot received, (sweep layout a turns slots heard chip).heard slot = some received →
      heard slot = some received ∨ Shown chip (sweep layout a turns slots heard chip).chip received := by
  induction slots generalizing heard chip with
  | nil => exact ⟨drivenSame chip,fun _ _ found => .inl found⟩
  | cons slot rest ih =>
    unfold sweep
    split
    · exact ih heard chip
    · split
      · rename_i pdu scanResponse _ _
        have driven := drivenAdvertise layout a slot pdu scanResponse turns chip
        dsimp only
        split
        · obtain ⟨later,shows⟩ := ih heard (result (advertiseOn layout a slot pdu scanResponse turns) chip).2
          exact ⟨drivenTrans driven later,fun other received found =>
            (shows other received found).imp_right (shownWider driven.afterwards (afterwardsSame _))⟩
        · exact ⟨driven,fun _ _ found => .inl found⟩
        · rename_i r finished
          have shown := advertiseShown finished
          split
          · refine ⟨driven,fun other received found => ?_⟩
            obtain old | rfl := heardUpdated found
            · exact .inl old
            · exact .inr shown
          · obtain ⟨later,shows⟩ := ih (Function.update heard slot (some (resultOf r)))
              (result (advertiseOn layout a slot pdu scanResponse turns) chip).2
            refine ⟨drivenTrans driven later,fun other received found => ?_⟩
            obtain known | new := shows other received found
            · obtain old | rfl := heardUpdated known
              · exact .inl old
              · exact .inr (shownWider (afterwardsSame chip) later.afterwards shown)
            · exact .inr (shownWider driven.afterwards (afterwardsSame _) new)
      · exact ⟨drivenSame chip,fun _ _ found => .inl found⟩

/- A sweep that stops at a request stops with the radio shut down. -/
theorem sweepRests (layout : RadioOperations.Layout) (a : Advertiser) (turns : Nat) (slots : List (Fin 3))
    (heard : Fin 3 → Option AdvertisingResult) (chip : Chip)
    (unasked : ∀ slot received, heard slot = some received → requestHeard a received = none) :
    (∀ slot received, (sweep layout a turns slots heard chip).heard slot = some received →
      requestHeard a received = none) ∨ ShutDown (sweep layout a turns slots heard chip).chip := by
  induction slots generalizing heard chip with
  | nil => exact .inl unasked
  | cons slot rest ih =>
    unfold sweep
    split
    · exact ih heard chip unasked
    · split
      · rename_i pdu scanResponse _ _
        dsimp only
        split
        · exact ih heard _ unasked
        · exact .inl unasked
        · rename_i r finished
          split
          · exact .inr (advertisingRests layout (advertisingChannel slot) 500 pdu scanResponse a.address.bytes
              maxLegacyAdvPduLen chip turns finished)
          · rename_i declined
            refine ih (Function.update heard slot (some (resultOf r))) _ fun other received found => ?_
            rcases heardUpdated found with old | rfl
            · exact unasked other received old
            · exact Option.not_isSome_iff_eq_none.mp declined
      · exact .inl unasked

theorem unaskedSilent {a : Advertiser} {heard : Fin 3 → Option AdvertisingResult}
    (unasked : ∀ slot received, heard slot = some received → requestHeard a received = none) :
    advertise a heard = none := by
  unfold advertise
  refine List.findSome?_eq_none_iff.mpr fun slot _ => ?_
  split
  · rfl
  · split
    · rfl
    · rename_i received found
      rw [unasked slot received found]
      rfl

/- A call that tunes the radio. -/
def tunes : RadioRun.Call → Bool
  | .setAccessAddress _ => true
  | .setCrcInit _ => true
  | _ => false

/- What tuning the radio leaves of it. -/
structure Retuned (before after : Chip) : Prop where
  waited : ∃ k, Waited before k after
  shut : ShutDown before → ShutDown after

theorem writtenRetuned (chip named : Chip) (moments : named.moments = chip.moments) (elapsed : named.elapsed = chip.elapsed)
    (clock : named.clockUs = chip.clockUs) (countdown : named.rxCaptureCountdown = chip.rxCaptureCountdown)
    (words : named.words = chip.words) {address : Nat} (apart : address ∉ [lleMode,analogEnable08,bbConfig])
    (value : UInt32) :
    Retuned chip { elapse named with
      words := store kind address value (elapse named).words
      log := (elapse named).log ++ [((elapse named).elapsed,.write address value)] } := by
  simp only [List.mem_cons,List.not_mem_nil,or_false,not_or] at apart
  obtain ⟨mode,analog,baseband⟩ := apart
  have same : Waited chip 0 named := ⟨elapsed,clock,moments⟩
  refine ⟨⟨1,waitedElapse same⟩,fun shut => ?_⟩
  have rest : ShutDown (elapse named) :=
    shutElapse ⟨countdown.trans shut.capture,words ▸ shut.lle,words ▸ shut.analog,words ▸ shut.baseband⟩
  exact ⟨rest.capture,(otherStored (Ne.symm mode)).trans rest.lle,
    (congrArg (· &&& 0x00320000) (otherStored (Ne.symm analog))).trans rest.analog,
    (congrArg (· &&& bbModeMask) (otherStored (Ne.symm baseband))).trans rest.baseband⟩

variable (layout) in
theorem runRetuned {calls : List RadioRun.Call} (only : ∀ call ∈ calls, tunes call = true) (chip : Chip) :
    Retuned chip (RadioRun.run layout calls chip) := by
  induction calls generalizing chip with
  | nil => exact ⟨⟨0,rfl,rfl,rfl⟩,id⟩
  | cons call rest ih =>
    obtain ⟨here,later⟩ := List.forall_mem_cons.mp only
    have first : Retuned chip (result (RadioRun.perform layout call) chip).2 := by
      cases call with
      | setAccessAddress accessAddress =>
        have apart : bbTxAccessAddress ∉ [lleMode,analogEnable08,bbConfig] := by decide
        exact writtenRetuned chip { chip with accessAddress := accessAddress } rfl rfl rfl rfl rfl apart accessAddress
      | setCrcInit crcInit =>
        have apart : bbTxCrcInit ∉ [lleMode,analogEnable08,bbConfig] := by decide
        exact writtenRetuned chip { chip with crcInit := crcInit &&& 0x00ffffff } rfl rfl rfl rfl rfl apart _
      | _ => cases here
    have others := ih later (result (RadioRun.perform layout call) chip).2
    obtain ⟨k,waited⟩ := first.waited
    obtain ⟨j,longer⟩ := others.waited
    exact ⟨⟨k + j,waitedTrans waited longer⟩,fun shut => others.shut (first.shut shut)⟩

end Steps

/-! What the controller writes tunes the radio as it holds it. -/

section Writes
variable {ρ : Type} {fillBytes : ρ → ρ × Vector UInt8 8} {layout : RadioOperations.Layout} {r after : Runner ρ}
  {chip : Chip}

structure InTune (r : Runner ρ) (chip : Chip) : Prop where
  accessAddress : chip.accessAddress = r.accessAddress
  crcInit : chip.crcInit = r.crcInit &&& 0x00ffffff

theorem sameTune (same : tuned after = tuned r) (inTune : InTune r chip) : InTune after chip := by
  obtain ⟨address,seed⟩ := Prod.mk.inj same
  exact ⟨inTune.accessAddress.trans address.symm,inTune.crcInit.trans (seed ▸ rfl)⟩

theorem tuningTunes {accessAddress crcInit : UInt32} (same : tuned r = (accessAddress,crcInit)) (chip : Chip) :
    InTune r (RadioRun.run layout (tuning accessAddress crcInit) chip) := by
  obtain ⟨rfl,rfl⟩ := Prod.mk.inj same
  have first := (elapses { chip with accessAddress := r.accessAddress }).accessAddress
  have second := elapses { (result (RfFrontEnd.setAccessAddress r.accessAddress) chip).2 with
    crcInit := r.crcInit &&& 0x00ffffff }
  exact ⟨second.accessAddress.trans first,second.crcInit⟩

theorem commandTunes {bytes : List UInt8} {done} (handled : handleCommand fillBytes r bytes = some done)
    (inTune : InTune r chip) : InTune done.1 (RadioRun.run layout (commandWrites (.handleCommand bytes)) chip) := by
  show InTune done.1 (RadioRun.run layout (if WellFormed bytes ∧ Resets bytes then advertisingTuning else []) chip)
  by_cases reset : WellFormed bytes ∧ Resets bytes
  · rw [if_pos reset]
    exact tuningTunes (resetTuned fillBytes r reset.1 reset.2 handled) chip
  · rw [if_neg reset]
    by_cases other : Resets bytes
    · rw [commandIgnored fillBytes r fun formed => reset ⟨formed,other⟩] at handled
      cases handled
      exact inTune
    · exact sameTune (handledTuned fillBytes r other handled) inTune

theorem performTunes {calls : List HostCall} {done} (performs : perform fillBytes r calls = some done)
    (inTune : InTune r chip) : InTune done.1 (RadioRun.run layout (calls.flatMap commandWrites) chip) := by
  induction calls generalizing r chip done with
  | nil =>
    cases performs
    exact inTune
  | cons call rest ih =>
    rw [List.flatMap_cons,runAppend]
    cases call with
    | handleCommand bytes =>
      obtain ⟨handled,ran,onward⟩ := Option.bind_eq_some_iff.mp performs
      obtain ⟨later,others,same⟩ := Option.bind_eq_some_iff.mp onward
      cases same
      exact (ih others (commandTunes ran inTune) : InTune later.1 _)
    | _ =>
      obtain ⟨later,others,same⟩ := Option.bind_eq_some_iff.mp performs
      cases same
      exact (ih others inTune : InTune later.1 _)

variable (fillBytes layout) in
theorem performedTunes (calls : List HostCall) (inTune : InTune r chip) :
    InTune (performed fillBytes r calls).1 (RadioRun.run layout (calls.flatMap commandWrites) chip) := by
  obtain ⟨done,performs⟩ := performTotal fillBytes r calls
  rw [performed,performs]
  exact performTunes performs inTune

variable (fillBytes layout) in
theorem actTunes {s : System ρ} (stimulus : ControllerRun.Stimulus) (inTune : InTune s.runner chip) :
    InTune (act fillBytes s stimulus).1.runner (RadioRun.run layout (writes s stimulus) chip) := by
  cases stimulus with
  | idle packet =>
    unfold act writes
    by_cases free : s.link.isNone = true
    · unfold idleStep
      cases kind : packet.kind with
      | cmd =>
        simp only [free,kind,and_self,if_true]
        have tunes := performedTunes fillBytes layout [.handleCommand packet.bytes] inTune
        rwa [List.flatMap_singleton] at tunes
      | _ => simpa [free,kind,RadioRun.run] using inTune
    · simpa [free,RadioRun.run] using inTune
  | advertising heard now =>
    unfold act writes
    dsimp only
    split
    · unfold advertisingStep
      cases found : advertise s.runner.advertiser heard with
      | none => exact inTune
      | some heardNow =>
        obtain ⟨request,timestampUs⟩ := heardNow
        dsimp only
        cases ActiveConnection.new request timestampUs now with
        | none => exact inTune
        | some c => exact tuningTunes rfl chip
    · exact inTune
  | linked input =>
    unfold act writes
    cases s.link with
    | none => exact inTune
    | some link =>
      have tunes := performedTunes fillBytes layout (ConnectionRun.step link input).2.calls inTune
      unfold linkedStep
      dsimp only
      rw [runAppend]
      split
      · exact tuningTunes rfl _
      · exact tunes

theorem commandWritesTune (call : HostCall) : ∀ write ∈ commandWrites call, tunes write = true := by
  unfold commandWrites
  split
  · split
    · decide
    · exact fun _ absent => (nomatch absent)
  · exact fun _ absent => (nomatch absent)

theorem writesTune (s : System ρ) (stimulus : ControllerRun.Stimulus) :
    ∀ write ∈ writes s stimulus, tunes write = true := by
  have pair : ∀ accessAddress crcInit, ∀ write ∈ tuning accessAddress crcInit, tunes write = true := by
    intro accessAddress crcInit write member
    simp only [tuning,List.mem_cons,List.not_mem_nil,or_false] at member
    rcases member with rfl | rfl <;> rfl
  have empty : ∀ write ∈ ([] : List RadioRun.Call), tunes write = true := fun _ absent => (nomatch absent)
  cases stimulus with
  | idle packet =>
    simp only [writes]
    split
    · exact commandWritesTune _
    · exact empty
  | advertising heard now =>
    simp only [writes]
    split
    · split
      · exact empty
      · split
        · exact empty
        · exact pair _ _
    · exact empty
  | linked input =>
    simp only [writes]
    split
    · exact empty
    · intro write member
      rcases List.mem_append.mp member with command | release
      · obtain ⟨call,_,own⟩ := List.mem_flatMap.mp command
        exact commandWritesTune call write own
      · split at release
        · exact pair _ _ write release
        · cases release

end Writes

section Run
variable {ρ : Type} {fillBytes : ρ → ρ × Vector UInt8 8} {layout : RadioOperations.Layout}

/- One step: the radio works on its own, or the controller takes what the radio has answered. -/
inductive Goes (fillBytes : ρ → ρ × Vector UInt8 8) (layout : RadioOperations.Layout) (s : Device ρ) :
    Device ρ × Observed → Prop where
  | waits {chip stuck} (driven : Driven layout s.chip chip) : Goes fillBytes layout s (wait s chip stuck)
  | takes {stimulus heard} (driven : Driven layout s.chip heard)
      (hears : ∀ results now, stimulus = .advertising results now → ∀ slot received, results slot = some received →
        Shown s.chip heard received)
      (rests : ∀ results now, stimulus = .advertising results now →
        (advertise s.system.runner.advertiser results).isSome = true → ShutDown heard) :
      Goes fillBytes layout s (take fillBytes layout s stimulus heard)

theorem linkedGoes {s : Device ρ} {heard : Chip} (driven : Driven layout s.chip heard) (input : Input) :
    Goes fillBytes layout s (take fillBytes layout s (.linked input) heard) :=
  .takes driven (fun _ _ other => (nomatch other)) fun _ _ other => (nomatch other)

theorem announceGoes (s : Device ρ) (now turns : Nat) :
    Goes fillBytes layout s (announce fillBytes layout s now turns) := by
  unfold announce
  split
  · obtain ⟨driven,shows⟩ := sweepGoes layout s.system.runner.advertiser turns (List.finRange 3) (fun _ => none) s.chip
    have rests := sweepRests layout s.system.runner.advertiser turns (List.finRange 3) (fun _ => none) s.chip
      fun _ _ absent => (nomatch absent)
    dsimp only
    split
    · exact .waits driven
    · refine .takes driven (fun results now' same slot received found => ?_) fun results now' same accepted => ?_
      · cases same
        obtain absent | shown := shows slot received found
        · cases absent
        · exact shown
      · cases same
        refine rests.resolve_left fun unasked => ?_
        rw [unaskedSilent unasked] at accepted
        cases accepted
  · exact .waits (drivenSame s.chip)

theorem meetGoes (s : Device ρ) (link : Link) (clock : EventClock) (turns : Nat) :
    Goes fillBytes layout s (meet fillBytes layout s link clock turns) := by
  have driven := drivenAnswer layout link clock turns s.chip
  unfold meet
  generalize answer layout link clock turns s.chip = answer at driven
  obtain ⟨outcome,after⟩ := answer
  cases outcome with
  | none => exact .waits driven
  | some received => exact linkedGoes driven _

theorem proceedGoes (fillBytes : ρ → ρ × Vector UInt8 8) (layout : RadioOperations.Layout) (s : Device ρ)
    (happening : Happening) :
    Goes fillBytes layout s (proceed fillBytes layout s happening) := by
  unfold proceed
  split
  · exact .waits (drivenSame s.chip)
  · cases happening with
    | idle packet =>
      exact .takes (drivenSame s.chip) (fun _ _ other => (nomatch other)) fun _ _ other => (nomatch other)
    | advertising now turns => exact announceGoes s now turns
    | host packet => exact linkedGoes (drivenSame s.chip) _
    | deadlines now => exact linkedGoes (drivenSame s.chip) _
    | skip now clock => exact linkedGoes (drivenSame s.chip) _
    | event clock turns =>
      dsimp only
      split
      · exact .waits (drivenSame s.chip)
      · exact meetGoes s _ clock turns
    | rest => exact .waits (drivenElapse s.chip)

/-! Whole runs. -/

/- The radio is driven through its own operations, with the address and the seed the controller holds. -/
structure InStep (layout : RadioOperations.Layout) (first : Chip) (s : Device ρ) : Prop where
  calls : ∃ calls, s.chip = RadioRun.run layout calls first
  accessAddress : s.chip.accessAddress = s.system.runner.accessAddress
  crcInit : s.chip.crcInit = s.system.runner.crcInit &&& 0x00ffffff

theorem goesInStep {first : Chip} {s : Device ρ} {done : Device ρ × Observed} (inStep : InStep layout first s)
    (goes : Goes fillBytes layout s done) : InStep layout first done.1 := by
  have drives : ∀ {chip}, Driven layout s.chip chip → (∃ calls, chip = RadioRun.run layout calls first) ∧
      InTune s.system.runner chip := by
    intro chip driven
    obtain ⟨before,same⟩ := inStep.calls
    obtain ⟨calls,ran⟩ := driven.calls
    refine ⟨⟨before ++ calls,?_⟩,driven.afterwards.settings.accessAddress.trans inStep.accessAddress,
      driven.afterwards.settings.crcInit.trans inStep.crcInit⟩
    rw [ran,same,runAppend]
  cases goes with
  | waits driven =>
    obtain ⟨calls,inTune⟩ := drives driven
    exact ⟨calls,inTune.accessAddress,inTune.crcInit⟩
  | @takes stimulus heard driven hears =>
    obtain ⟨⟨calls,ran⟩,inTune⟩ := drives driven
    have tuned := actTunes fillBytes layout stimulus inTune
    refine ⟨⟨calls ++ writes s.system stimulus,?_⟩,tuned.accessAddress,tuned.crcInit⟩
    rw [runAppend,← ran]
    rfl

/- What the controller takes is a step of its own. -/
theorem goesTaken {s : Device ρ} {done : Device ρ × Observed} (goes : Goes fillBytes layout s done) {first past}
    (run : History (controller fillBytes) first past s.system) :
    History (controller fillBytes) first (past ++ done.2.taken.toList) done.1.system := by
  cases goes with
  | waits driven =>
    show History (controller fillBytes) first (past ++ []) s.system
    rw [List.append_nil]
    exact run
  | takes driven hears => exact run.step _

theorem goesLinked {s : Device ρ} {done : Device ρ × Observed} (goes : Goes fillBytes layout s done) {link : Link}
    (free : s.system.link = none) (linked : done.1.system.link = some link) :
    ∃ received, received.crcOk = true ∧ Shown s.chip done.2.heard received ∧
      parseConnectIndDetailed received.payload s.system.runner.advertiser.address = .ok link.connection.request := by
  cases goes with
  | waits driven => exact absurd (free.symm.trans linked) (by simp)
  | takes driven hears =>
    obtain ⟨_,results,now,slot,received,same,found,_,intact,parsed⟩ := actRequested fillBytes free linked
    exact ⟨received,intact,hears results now same slot received found,parsed⟩

/- Whatever the device does, a run on it is a run of the controller; the radio is driven through its
own operations and tuned as the controller holds it; and a new link goes back to a CONNECT_IND for
this advertiser that was read octet by octet with no CRC error. -/
theorem controllerRestsOnRadio (random : ρ) (chip : Chip) (address : chip.accessAddress = advAccessAddress)
    (seed : chip.crcInit = advCrcInit) {past : List (Happening × Observed)} {s : Device ρ}
    (run : History (device fillBytes layout) ⟨start random,chip,false⟩ past s) :
    History (controller fillBytes) (start random) (past.filterMap fun entry => entry.2.taken) s.system ∧
    InStep layout chip s ∧
    ∀ happening link, s.system.link = none → (proceed fillBytes layout s happening).1.system.link = some link →
      ∃ received, received.crcOk = true ∧ Shown s.chip (proceed fillBytes layout s happening).2.heard received ∧
        parseConnectIndDetailed received.payload s.system.runner.advertiser.address = .ok link.connection.request := by
  have both : History (controller fillBytes) (start random) (past.filterMap fun entry => entry.2.taken) s.system ∧
      InStep layout chip s := by
    refine Machines.historyInvariant
      (I := fun past s => History (controller fillBytes) (start random) (past.filterMap fun entry => entry.2.taken)
        s.system ∧ InStep layout chip s)
      ⟨.start,⟨[],rfl⟩,address,seed.trans (show advCrcInit = advCrcInit &&& 0x00ffffff by decide)⟩ ?_ run
    intro past s happening ⟨before,inStep⟩
    have goes := proceedGoes fillBytes layout s happening
    refine ⟨?_,goesInStep inStep goes⟩
    rw [Machines.filterMapSnoc]
    exact goesTaken goes before
  exact ⟨both.1,both.2,fun happening link free linked =>
    goesLinked (proceedGoes fillBytes layout s happening) free linked⟩

/- A device that hears the same CONNECT_IND whenever it listens, and a Host that starts advertising. -/
def calling : Chip :=
  { steady (lleStatusTxToRx ||| lleStatusRxToTx ||| lleStatusTxComplete ||| lleStatusRxComplete)
      (encodeTransmitBuffer (connectImage sampleInitiator Advertiser.default.address sampleConnect)) with
    accessAddress := advAccessAddress
    crcInit := advCrcInit }

def called : List Happening := [.idle ⟨.cmd,[0x0a,0x20,1,1]⟩,.advertising 1000 20,.rest]

def counting : Nat → Nat × Vector UInt8 8 := fun draws => (draws+1,Vector.replicate 8 0)

theorem calledInStep :
    let done := Machines.run (device counting ⟨0,0,0⟩) ⟨start 0,calling,false⟩ called
    done.2.system.link.isSome = true ∧ InStep ⟨0,0,0⟩ calling done.2 :=
  ⟨by decide +kernel,
    (controllerRestsOnRadio 0 calling rfl rfl (Machines.runHistory (device counting ⟨0,0,0⟩) _ called)).2.1⟩

/-! While a link lasts, the device is a connection on its radio. -/

def stationOf (s : Device ρ) : Option Station := s.system.link.map fun link => ⟨link,s.chip,s.stuck⟩

/- What a happening is to the connection. -/
def during : Happening → Option ConnectionAir.Stimulus
  | .idle _ => none
  | .advertising _ _ => none
  | .host packet => some (.host packet)
  | .deadlines now => some (.deadlines now)
  | .skip now clock => some (.skip now clock)
  | .event clock turns => some (.event clock turns)
  | .rest => some .idle

/- What a step of the device is to the connection: nothing, a step of it, or its last one. -/
inductive Carries (layout : RadioOperations.Layout) (before : Station) (happening : Happening) (after : Device ρ) :
    Prop where
  | aside (other : during happening = none) (same : stationOf after = some before)
  | onward {stimulus} (own : during happening = some stimulus)
      (lives : (ConnectionAir.proceed layout before stimulus).1.link.down = false)
      (same : stationOf after = some (ConnectionAir.proceed layout before stimulus).1)
  | last {stimulus} (own : during happening = some stimulus)
      (ended : (ConnectionAir.proceed layout before stimulus).1.link.down = true) (free : after.system.link = none)

/- As long as the link lives, nothing tunes the radio. -/
theorem liveWrites {s : System ρ} {link : Link} (held : s.link = some link) (running : link.down = false)
    (own : link.connection.handle = connectionHandle) {input : Input}
    (lives : (ConnectionRun.step link input).1.down = false) : writes s (.linked input) = [] := by
  have kept := linkKept (ρ := ρ) (fun random => (random,Vector.replicate 8 0)) s.runner own running rfl input
  have quiet : (ConnectionRun.step link input).2.calls.flatMap commandWrites = [] := by
    refine List.flatMap_eq_nil_iff.mpr fun call member => ?_
    cases call with
    | handleCommand bytes => exact if_neg fun reset => kept.spared lives bytes member reset.2
    | _ => rfl
  simp only [writes,held,quiet,lives,Bool.false_eq_true,if_false,List.append_nil]

theorem takeCarries {s : Device ρ} {link : Link} (held : s.system.link = some link) (running : link.down = false)
    (own : link.connection.handle = connectionHandle) {happening} (stimulus) (same : during happening = some stimulus)
    {input received heard} (call : ConnectionAir.proceed layout ⟨link,s.chip,s.stuck⟩ stimulus =
      ConnectionAir.call ⟨link,s.chip,s.stuck⟩ input received heard) :
    Carries layout ⟨link,s.chip,s.stuck⟩ happening (take fillBytes layout s (.linked input) heard).1 := by
  have done : (act fillBytes s.system (.linked input)).1.link =
      if (ConnectionRun.step link input).1.down then none else some (ConnectionRun.step link input).1 := by
    simp only [act,held,linkedStep]
    split <;> rfl
  cases lives : (ConnectionRun.step link input).1.down with
  | true =>
    rw [lives,if_pos rfl] at done
    exact .last same (call ▸ lives) done
  | false =>
    rw [lives,if_neg Bool.false_ne_true] at done
    refine .onward same (call ▸ lives) ?_
    rw [call,stationOf]
    show Option.map _ (act fillBytes s.system (.linked input)).1.link = _
    rw [done]
    show some (⟨_,RadioRun.run layout (writes s.system (.linked input)) heard,false⟩ : Station) = _
    rw [liveWrites held running own lives]
    rfl

theorem waitStation {s : Device ρ} {link : Link} (held : s.system.link = some link) (chip : Chip) (stuck : Bool) :
    stationOf (wait s chip stuck).1 = some ⟨link,chip,stuck⟩ := by
  show Option.map _ s.system.link = _
  rw [held]
  rfl

/- An exchange that has not come back holds both of them. -/
theorem stuckCarries {s : Device ρ} {link : Link} (held : s.system.link = some link) (running : link.down = false)
    (stuck : s.stuck = true) (happening : Happening) :
    Carries layout ⟨link,s.chip,s.stuck⟩ happening (wait s s.chip true).1 := by
  have stays : ∀ stimulus, ConnectionAir.proceed layout ⟨link,s.chip,s.stuck⟩ stimulus =
      ConnectionAir.still ⟨link,s.chip,s.stuck⟩ s.chip true := fun stimulus => if_pos stuck
  cases own : during happening with
  | none => exact .aside own (stuck ▸ waitStation held s.chip true)
  | some stimulus =>
    refine .onward own ?_ ?_
    · rw [stays]
      exact running
    · rw [stays]
      exact waitStation held s.chip true

theorem meetCarries {s : Device ρ} {link : Link} (held : s.system.link = some link) (running : link.down = false)
    (own : link.connection.handle = connectionHandle) {clock : EventClock} {turns : Nat}
    (met : ConnectionAir.proceed layout ⟨link,s.chip,s.stuck⟩ (.event clock turns) =
      ConnectionAir.meet layout ⟨link,s.chip,s.stuck⟩ clock turns) :
    Carries layout ⟨link,s.chip,s.stuck⟩ (.event clock turns) (meet fillBytes layout s link clock turns).1 := by
  unfold meet
  unfold ConnectionAir.meet at met
  dsimp only at met
  generalize answer layout link clock turns s.chip = answer at met ⊢
  obtain ⟨outcome,after⟩ := answer
  cases outcome with
  | none =>
    refine .onward rfl (met ▸ running) ?_
    rw [met]
    exact waitStation held after true
  | some received => exact takeCarries held running own _ rfl met

variable (fillBytes layout) in
theorem proceedCarries {s : Device ρ} {link : Link} (held : s.system.link = some link) (running : link.down = false)
    (own : link.connection.handle = connectionHandle) (happening : Happening) :
    Carries layout ⟨link,s.chip,s.stuck⟩ happening (proceed fillBytes layout s happening).1 := by
  unfold proceed
  by_cases stuck : s.stuck = true
  · rw [if_pos stuck]
    exact stuckCarries held running stuck happening
  · have free : s.stuck = false := Bool.eq_false_of_not_eq_true stuck
    rw [if_neg stuck]
    cases happening with
    | idle packet =>
      have same : (take fillBytes layout s (.idle packet) s.chip).1 = ⟨s.system,s.chip,false⟩ := by
        simp [take,act,writes,held,RadioRun.run]
      refine .aside rfl ?_
      rw [same,free]
      exact waitStation held s.chip false
    | advertising now turns =>
      refine .aside rfl ?_
      dsimp only
      unfold announce
      rw [if_neg (by rw [held]; simp),free]
      exact waitStation held s.chip false
    | host packet => exact takeCarries held running own (.host packet) rfl (if_neg stuck)
    | deadlines now => exact takeCarries held running own (.deadlines now) rfl (if_neg stuck)
    | skip now clock => exact takeCarries held running own (.skip now clock) rfl (if_neg stuck)
    | event clock turns =>
      rw [held]
      exact meetCarries held running own (if_neg stuck)
    | rest =>
      have idles : ConnectionAir.proceed layout ⟨link,s.chip,s.stuck⟩ .idle =
          ConnectionAir.still ⟨link,s.chip,s.stuck⟩ (elapse s.chip) false := if_neg stuck
      refine .onward rfl (idles ▸ running) ?_
      rw [idles]
      exact waitStation held (elapse s.chip) false

theorem goesAttuned {s : Device ρ} {done : Device ρ × Observed} (goes : Goes fillBytes layout s done)
    (attuned : Attuned s.system) : Attuned done.1.system := by
  cases goes with
  | waits driven => exact attuned
  | takes driven hears rests => exact (actAttuned fillBytes attuned _).1

theorem reachedAttuned {random : ρ} {chip : Chip} {past : List (Happening × Observed)} {s : Device ρ}
    (run : History (device fillBytes layout) ⟨start random,chip,false⟩ past s) : Attuned s.system := by
  have begins : Attuned (⟨start random,chip,false⟩ : Device ρ).system := startAttuned random
  exact Machines.stateInvariant (I := fun s : Device ρ => Attuned s.system) begins
    (fun s happening attuned => goesAttuned (proceedGoes fillBytes layout s happening) attuned) run

/- So its runs with one link, from any reached state, are runs of that connection, for what happened
to it. -/
theorem linkedRun {random : ρ} {chip : Chip} {earlier past : List (Happening × Observed)} {first s : Device ρ}
    (reached : History (device fillBytes layout) ⟨start random,chip,false⟩ earlier first) {before : Station}
    (begins : stationOf first = some before) (run : Machines.Guarded (device fillBytes layout)
      (fun s happening => (proceed fillBytes layout s happening).1.system.link.isSome = true) first past s) :
    ∃ seen after, stationOf s = some after ∧ History (ConnectionAir.station layout) before seen after ∧
      seen.map Prod.fst = past.filterMap fun entry => during entry.1 := by
  suffices all : Attuned s.system ∧ ∃ seen after, stationOf s = some after ∧
      History (ConnectionAir.station layout) before seen after ∧
      seen.map Prod.fst = past.filterMap fun entry => during entry.1 from all.2
  induction run with
  | start => exact ⟨reachedAttuned reached,[],before,begins,.start,rfl⟩
  | @step past s _ happening lasts ih =>
    obtain ⟨attuned,seen,middle,here,history,same⟩ := ih
    refine ⟨goesAttuned (proceedGoes fillBytes layout s happening) attuned,?_⟩
    obtain ⟨link,held,rfl⟩ := Option.map_eq_some_iff.mp here
    obtain ⟨running,own,_⟩ := attuned.held link held
    rw [Machines.filterMapSnoc]
    cases proceedCarries fillBytes layout held running own happening with
    | aside other stays =>
      refine ⟨seen,_,stays,history,?_⟩
      rw [other,same]
      exact (List.append_nil _).symm
    | @onward stimulus own lives onward =>
      refine ⟨_,_,onward,history.step stimulus,?_⟩
      rw [List.map_append,same,own]
      rfl
    | last own ended free =>
      rw [free] at lasts
      cases lasts

/- The device once it has been called. -/
def connected : Device Nat := (Machines.run (device counting ⟨0,0,0⟩) ⟨start 0,calling,false⟩ called).2

/- A stray command is nothing to the connection, a packet of the Host and an event are. -/
theorem linkedRuns :
    ∃ before, stationOf connected = some before ∧ ∃ past s seen after,
      stationOf s = some after ∧ History (device counting ⟨0,0,0⟩) connected past s ∧
      History (ConnectionAir.station ⟨0,0,0⟩) before seen after ∧ seen.length = 2 := by
  have reached : History (device counting ⟨0,0,0⟩) ⟨start 0,calling,false⟩ _ connected :=
    Machines.runHistory (device counting ⟨0,0,0⟩) _ called
  have there : (stationOf connected).isSome = true := by decide +kernel
  obtain ⟨before,begins⟩ := Option.isSome_iff_exists.mp there
  have run : Machines.Guarded (device counting ⟨0,0,0⟩)
      (fun s happening => (proceed counting ⟨0,0,0⟩ s happening).1.system.link.isSome = true) connected _ _ :=
    ((Machines.Guarded.start.step (.idle ⟨.cmd,[0x0a,0x20,1,1]⟩) (by decide +kernel)).step
      (.host ⟨.aclData,[0x01,0x20,0x01,0x00,7]⟩) (by decide +kernel)).step
      (.event ⟨2000,2000,2000,2000⟩ 20) (by decide +kernel)
  obtain ⟨seen,after,here,history,same⟩ := linkedRun reached begins run
  refine ⟨before,begins,_,_,seen,after,here,Machines.guardedHistory run,history,?_⟩
  have length := congrArg List.length same
  rwa [List.length_map] at length

/-! Every event of every link comes back. -/

/- The radio is at rest whenever there is a link that can call it. -/
structure Sound (s : Device ρ) : Prop where
  attuned : Attuned s.system
  runs : RunsOn s.chip
  rests : ∀ station, stationOf s = some station → ConnectionAir.AtRest station

theorem goesRuns {s : Device ρ} {done : Device ρ × Observed} (goes : Goes fillBytes layout s done)
    (runs : RunsOn s.chip) : RunsOn done.1.chip := by
  cases goes with
  | waits driven => exact runsOnAfterwards runs driven.afterwards
  | @takes stimulus heard driven hears rests =>
    obtain ⟨k,waited⟩ := (runRetuned layout (writesTune s.system stimulus) heard).waited
    exact runsOnLater (runsOnAfterwards runs driven.afterwards) waited

/- A link is only created from a request. -/
theorem linkAccepted {s : System ρ} {heard : Fin 3 → Option AdvertisingResult} {now : Nat} {link : Link}
    (free : s.link = none) (linked : (act fillBytes s (.advertising heard now)).1.link = some link) :
    (advertise s.runner.advertiser heard).isSome = true := by
  cases found : advertise s.runner.advertiser heard with
  | some request => rfl
  | none =>
    unfold act advertisingStep at linked
    dsimp only at linked
    rw [found] at linked
    split at linked <;> exact absurd (free.symm.trans linked) (by simp)

/- It begins with the radio shut down after the sweep that heard it. -/
theorem goesShut {s : Device ρ} {done : Device ρ × Observed} (goes : Goes fillBytes layout s done) {link : Link}
    (free : s.system.link = none) (linked : done.1.system.link = some link) : ShutDown done.1.chip := by
  cases goes with
  | waits driven => exact absurd (free.symm.trans linked) (by simp)
  | @takes stimulus heard driven hears rests =>
    obtain ⟨_,results,now,_,_,rfl,_⟩ := actRequested fillBytes free linked
    exact (runRetuned layout (writesTune s.system _) heard).shut
      (rests results now rfl (linkAccepted free linked))

variable (fillBytes layout) in
theorem proceedSound {s : Device ρ} (sound : Sound s) (happening : Happening) :
    Sound (proceed fillBytes layout s happening).1 := by
  have goes := proceedGoes fillBytes layout s happening
  have runs := goesRuns goes sound.runs
  refine ⟨goesAttuned goes sound.attuned,runs,fun after there => ?_⟩
  cases held : s.system.link with
  | none =>
    obtain ⟨link,linked,rfl⟩ := Option.map_eq_some_iff.mp there
    exact ⟨runs,fun _ => goesShut goes held linked⟩
  | some link =>
    obtain ⟨running,own,_⟩ := sound.attuned.held link held
    have rests := sound.rests ⟨link,s.chip,s.stuck⟩ (by rw [stationOf,held]; rfl)
    cases proceedCarries fillBytes layout held running own happening with
    | aside other same =>
      cases same.symm.trans there
      exact rests
    | @onward stimulus own lives same =>
      cases same.symm.trans there
      exact ConnectionAir.proceedRests rests stimulus
    | last own ended free =>
      rw [stationOf,free] at there
      cases there

/- Whatever the device has done before, a link finds the radio shut down between two calls; and on a
device whose clock goes on its next event comes back, with the radio shut down again. -/
theorem linkedEventsComeBack (random : ρ) (chip : Chip) (runs : RunsOn chip)
    {past : List (Happening × Observed)} {s : Device ρ}
    (run : History (device fillBytes layout) ⟨start random,chip,false⟩ past s) {link : Link}
    (held : s.system.link = some link) (free : s.stuck = false) :
    ShutDown s.chip ∧ ∀ clock, ∃ enough after seen, ∀ turns, enough ≤ turns →
      proceed fillBytes layout s (.event clock turns) = (after,seen) ∧ after.stuck = false ∧ ShutDown after.chip := by
  have begins : Sound (⟨start random,chip,false⟩ : Device ρ) :=
    ⟨startAttuned random,runs,fun station absent => by cases absent⟩
  have sound : Sound s := Machines.stateInvariant begins
    (fun _ happening sound => proceedSound fillBytes layout sound happening) run
  have rests := sound.rests ⟨link,s.chip,s.stuck⟩ (by rw [stationOf,held]; rfl)
  refine ⟨rests.shut free,fun clock => ?_⟩
  obtain ⟨enough,received,after,ends⟩ := answerEnds layout link clock sound.runs
  refine ⟨enough,(take fillBytes layout s (.linked (.event clock (received.map heardOf))) after).1,
    (take fillBytes layout s (.linked (.event clock (received.map heardOf))) after).2,fun turns late => ?_⟩
  have here : proceed fillBytes layout s (.event clock turns) =
      take fillBytes layout s (.linked (.event clock (received.map heardOf))) after := by
    unfold proceed
    rw [if_neg (by rw [free]; exact Bool.false_ne_true),held]
    dsimp only
    unfold meet
    rw [ends turns late]
  have worth := answered layout link clock turns s.chip
  rw [ends turns late] at worth
  have shut : ShutDown after := by
    rcases worth.rests nofun with same | shut
    · exact (show after = s.chip from same) ▸ rests.shut free
    · exact shut
  exact ⟨here,rfl,(runRetuned layout (writesTune s.system _) after).shut shut⟩

theorem callingRunsOn : RunsOn calling :=
  runsOnLater (k := 0) (steadyRunsOn _ _ : RunsOn (steady _ _)) ⟨rfl,rfl,rfl⟩

theorem calledComesBack :
    ShutDown connected.chip ∧ ∀ clock, ∃ enough after seen, ∀ turns, enough ≤ turns →
      proceed counting ⟨0,0,0⟩ connected (.event clock turns) = (after,seen) ∧ after.stuck = false ∧
        ShutDown after.chip := by
  have there : connected.system.link.isSome = true := by decide +kernel
  obtain ⟨link,held⟩ := Option.isSome_iff_exists.mp there
  exact linkedEventsComeBack 0 calling callingRunsOn (Machines.runHistory (device counting ⟨0,0,0⟩) _ called) held
    (by decide +kernel)

end Run

end Ch58xHal.ControllerAir
