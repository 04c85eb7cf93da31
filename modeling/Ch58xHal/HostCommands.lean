import Ch58xHal.ConnectIndCodec
import Ch58xHal.ConnectionEvent
import Ch58xHal.LittleEndian

/-! The HCI commands of the idle controller, and the packets that answer a command. Where
the source indexes or unwraps, the model reads with a bound; nothing stands for a panic.
The generator behind LE Rand is a parameter. -/
namespace Ch58xHal.HostCommands
open ControlPdu Connection ConnectionEvent Advertising ConnectIndCodec LittleEndian

def hciUnknownCommand : UInt8 := 0x01
def advCrcInit : UInt32 := 0x555555
def hciPacketCapacity : Nat := 64
def leFeatures : List UInt8 := [0x06,0,0,0,0,0,0,0]

structure AdvertisingParameters where
  intervalUs : Nat
  channels : Vector Bool 3
  deriving DecidableEq, Repr

def AdvertisingParameters.parse (params : List UInt8) : Option (Option AdvertisingParameters) :=
  if params.length ≠ 15 then some none
  else do
    let min := fromLeBytes (← params[0]?) (← params[1]?)
    let max := fromLeBytes (← params[2]?) (← params[3]?)
    let advType ← params[4]?
    let ownAddressType ← params[5]?
    let peerAddressType ← params[6]?
    let channelMap ← params[13]?
    let filterPolicy ← params[14]?
    if ¬(0x20 ≤ min ∧ min ≤ 0x4000) ∨ ¬(min ≤ max ∧ max ≤ 0x4000) ∨ advType ≠ 0 ∨ ownAddressType ≠ 1 ∨
        peerAddressType > 1 ∨ channelMap = 0 ∨ channelMap &&& ~~~7 ≠ 0 ∨ filterPolicy ≠ 0 then some none
    else some (some ⟨min.toNat * 625,
      #v[channelMap &&& 1 != 0,channelMap &&& 2 != 0,channelMap &&& 4 != 0]⟩)

structure Advertiser where
  address : DeviceAddress
  intervalUs : Nat
  channels : Vector Bool 3
  data : AdvertisingData
  scanResponse : AdvertisingData
  enabled : Bool
  deriving DecidableEq, Repr

def Advertiser.default : Advertiser :=
  { address := ⟨#v[0x82,0x58,0x2a,0x01,0x00,0xc0],.random⟩
    intervalUs := 200000
    channels := #v[true,true,true]
    data := .new
    scanResponse := .new
    enabled := false }

/- The runner with the statics its commands touch; the radio's link fields are those that a
reset or a new connection writes. -/
structure Runner (ρ : Type) where
  advertiser : Advertiser
  random : ρ
  accessAddress : UInt32
  crcInit : UInt32
  eventMask : UInt64
  leEventMask : UInt64
  linkConnected : Bool

def Runner.new {ρ : Type} (random : ρ) : Runner ρ :=
  { advertiser := .default
    random := random
    accessAddress := advAccessAddress
    crcInit := advCrcInit
    eventMask := 0xffffffffffffffff
    leEventMask := 0x1f
    linkConnected := false }

/-! The handlers of single commands return what they write with their result. -/

def setRandomAddress (a : Advertiser) (params : List UInt8) : Advertiser × Except UInt8 (List UInt8) :=
  if a.enabled then (a,.error hciCommandDisallowed)
  else if h : params.length = 6 then
    match DeviceAddress.randomStatic ⟨⟨params⟩,h⟩ with
    | .error _ => (a,.error hciInvalidParameters)
    | .ok address => ({a with address := address},.ok [])
  else (a,.error hciInvalidParameters)

def setAdvertisingParameters (a : Advertiser) (params : List UInt8) :
    Option (Advertiser × Except UInt8 (List UInt8)) :=
  if a.enabled then some (a,.error hciCommandDisallowed)
  else do
    match ← AdvertisingParameters.parse params with
    | none => some (a,.error hciInvalidParameters)
    | some parsed => some ({a with intervalUs := parsed.intervalUs,channels := parsed.channels},.ok [])

/- The octets from one index up to another, as a checked slice. -/
def between (bytes : List UInt8) (first last : Nat) : Option (List UInt8) :=
  if first ≤ last ∧ last ≤ bytes.length then some ((bytes.take last).drop first) else none

/- The loop over the announced octets, from a cursor. -/
def copyStructures (bytes : List UInt8) (cursor : Nat) (replacement : AdvertisingData) :
    Option (Except UInt8 AdvertisingData) :=
  if cursor < bytes.length then
    match bytes[cursor]? with
    | none => none
    | some octet =>
      let len := octet.toNat
      if len = 0 then some (.ok replacement)
      else if cursor + len ≥ bytes.length ∨ len < 1 then some (.error hciInvalidParameters)
      else match bytes[cursor+1]?,between bytes (cursor+2) (cursor+1+len) with
        | some adType,some value =>
          match replacement.push adType value with
          | (_,.error _) => some (.error hciInvalidParameters)
          | (grown,.ok _) => copyStructures bytes (cursor + (len + 1)) grown
        | _,_ => none
  else some (.ok replacement)
termination_by bytes.length - cursor

def setAdvertisingData (target : AdvertisingData) (params : List UInt8) :
    Option (AdvertisingData × Except UInt8 (List UInt8)) :=
  if params.length ≠ 32 then some (target,.error hciInvalidParameters)
  else do
    let length ← params[0]?
    if length.toNat > 31 then some (target,.error hciInvalidParameters)
    else
      let bytes ← between params 1 (1 + length.toNat)
      match ← copyStructures bytes 0 .new with
      | .error status => some (target,.error status)
      | .ok replacement => some (replacement,.ok [])

def setAdvertisingEnable (a : Advertiser) (connected : Bool) (params : List UInt8) :
    Option (Advertiser × Except UInt8 (List UInt8)) :=
  if params.length ≠ 1 then some (a,.error hciInvalidParameters)
  else do
    let enable : UInt8 ← params[0]?
    if enable > 1 then some (a,.error hciInvalidParameters)
    else if enable ≠ 0 ∧ connected then some (a,.error hciCommandDisallowed)
    else some ({a with enabled := enable != 0},.ok [])

def conclude (opcode : UInt16) : Except UInt8 (List UInt8) → HostCall
  | .ok returnData => .commandComplete opcode hciSuccess returnData
  | .error status => .commandComplete opcode status []

/- An eight-octet mask; the conversion of any other length panics. -/
def maskOf (params : List UInt8) : Option UInt64 :=
  if params.length = 8 then some (UInt64.ofNat (value params)) else none

section Commands
variable {ρ : Type} (fillBytes : ρ → ρ × Vector UInt8 8)

def dispatch (r : Runner ρ) (opcode : UInt16) (params : List UInt8) : Option (Runner ρ × HostCall) :=
  if opcode = 0x0c03 ∧ params = [] then
    some ({r with
      eventMask := 0xffffffffffffffff
      leEventMask := 0x1f
      advertiser := {r.advertiser with enabled := false}
      accessAddress := advAccessAddress
      crcInit := advCrcInit},conclude opcode (.ok []))
  else if (opcode = 0x0c01 ∨ opcode = 0x2001) ∧ params.length = 8 then do
    let mask ← maskOf params
    some (if opcode = 0x0c01 then {r with eventMask := mask} else {r with leEventMask := mask},
      conclude opcode (.ok []))
  else if opcode = 0x0c31 ∧ params = [0] then some (r,conclude opcode (.ok []))
  else if opcode = 0x1009 ∧ params = [] then some (r,conclude opcode (.ok [0,0,0,0,0,0]))
  else if opcode = 0x2002 ∧ params = [] then some (r,conclude opcode (.ok [0x1b,0x00,UInt8.ofNat aclCredits]))
  else if opcode = 0x2003 ∧ params = [] then some (r,conclude opcode (.ok leFeatures))
  else if opcode = 0x2005 then
    let set := setRandomAddress r.advertiser params
    some ({r with advertiser := set.1},conclude opcode set.2)
  else if opcode = 0x2006 then do
    let set ← setAdvertisingParameters r.advertiser params
    some ({r with advertiser := set.1},conclude opcode set.2)
  else if opcode = 0x2008 then do
    let set ← setAdvertisingData r.advertiser.data params
    some ({r with advertiser := {r.advertiser with data := set.1}},conclude opcode set.2)
  else if opcode = 0x2009 then do
    let set ← setAdvertisingData r.advertiser.scanResponse params
    some ({r with advertiser := {r.advertiser with scanResponse := set.1}},conclude opcode set.2)
  else if opcode = 0x200a then do
    let set ← setAdvertisingEnable r.advertiser r.linkConnected params
    some ({r with advertiser := set.1},conclude opcode set.2)
  else if opcode = 0x200f ∧ params = [] then some (r,conclude opcode (.ok [0]))
  else if opcode = 0x2010 ∧ params = [] then some (r,conclude opcode (.ok []))
  else if opcode = 0x2018 ∧ params = [] then
    let drawn := fillBytes r.random
    some ({r with random := drawn.1},.commandComplete opcode hciSuccess drawn.2.toList)
  else if opcode = 0x2039 then some (r,conclude opcode (.error hciCommandDisallowed))
  else if opcode = 0x200d then some (r,.commandStatus opcode hciCommandDisallowed)
  else if opcode = 0x2013 ∨ opcode = 0x2019 ∨ opcode = 0x2032 then
    some (r,.commandStatus opcode hciCommandDisallowed)
  else some (r,conclude opcode (.error hciUnknownCommand))

def handleCommand (r : Runner ρ) (bytes : List UInt8) : Option (Runner ρ × List HostCall) :=
  if bytes.length < 3 then some (r,[])
  else do
    let announced ← bytes[2]?
    if bytes.length ≠ 3 + announced.toNat then some (r,[])
    else
      let opcode := fromLeBytes (← bytes[0]?) (← bytes[1]?)
      let params ← between bytes 3 bytes.length
      let done ← dispatch fillBytes r opcode params
      some (done.1,[done.2])

end Commands

/- The Event packets of `command_complete` and `command_status`; a return data past the
capacity would panic there. -/
def answerPacket : HostCall → Option (List UInt8)
  | .commandComplete opcode status returnData =>
    if 6 + returnData.length ≤ hciPacketCapacity then
      some ([0x0e,UInt8.ofNat (4 + returnData.length),1] ++ toLeBytes opcode ++ [status] ++ returnData)
    else none
  | .commandStatus opcode status =>
    some ([0x0f,0x04,status,0x01] ++ [opcode.toUInt8,(opcode >>> 8).toUInt8])
  | _ => none

/-! Commands while connected. -/

/- The parameter octets `handle_connected_command` reads, each with its bound. -/
def connectedReads (opcode : UInt16) (params : List UInt8) : Option (List UInt8) :=
  if opcode = 0x0406 ∧ params.length = 3 then [0,1,2].mapM (fun i => params[i]?)
  else if opcode = 0x1405 ∧ params.length = 2 then [0,1].mapM (fun i => params[i]?)
  else if opcode = 0x2013 ∧ params.length = 14 then (List.range 10).mapM (fun i => params[i]?)
  else some []

section Connected
variable {ρ : Type} (fillBytes : ρ → ρ × Vector UInt8 8)

/- What reaches the Host of the calls of a step: a delegated command is handled here. -/
def perform (r : Runner ρ) : List HostCall → Option (Runner ρ × List HostCall)
  | [] => some (r,[])
  | .handleCommand bytes :: rest => do
      let handled ← handleCommand fillBytes r bytes
      let later ← perform handled.1 rest
      some (later.1,handled.2 ++ later.2)
  | call :: rest => do
      let later ← perform r rest
      some (later.1,call :: later.2)

def connectedCommand (r : Runner ρ) (c : ActiveConnection) (bytes : List UInt8) :
    Option (Runner ρ × ActiveConnection × List HostCall × Bool) :=
  if bytes.length < 3 then some (r,c,[],false)
  else do
    let announced ← bytes[2]?
    if bytes.length ≠ 3 + announced.toNat then some (r,c,[],false)
    else
      let opcode := fromLeBytes (← bytes[0]?) (← bytes[1]?)
      let params ← between bytes 3 bytes.length
      let _ ← connectedReads opcode params
      let done := handleConnectedCommand c bytes
      let sent ← perform fillBytes r done.2.1
      some (sent.1,done.1,sent.2,done.2.2)

end Connected

/-! What each handler can do. -/

def ParametersValid (intervalUs : Nat) (channels : Vector Bool 3) : Prop :=
  20000 ≤ intervalUs ∧ intervalUs ≤ 10240000 ∧ ∃ slot : Fin 3, channels.get slot = true

theorem channelEnabled : ∀ map : UInt8, map ≠ 0 → map &&& ~~~7 = 0 →
    (map &&& 1 != 0) = true ∨ (map &&& 2 != 0) = true ∨ (map &&& 4 != 0) = true :=
  DataHeader.forallOctet (by decide +kernel)

theorem parametersParsed (params : List UInt8) :
    ∃ result, AdvertisingParameters.parse params = some result ∧
      ∀ parsed, result = some parsed → ParametersValid parsed.intervalUs parsed.channels := by
  unfold AdvertisingParameters.parse
  by_cases size : params.length ≠ 15
  · exact ⟨none,if_pos size,fun _ wrong => (nomatch wrong)⟩
  · rw [if_neg size]
    match params,not_not.mp size with
    | [p0,p1,p2,p3,p4,p5,p6,p7,p8,p9,p10,p11,p12,p13,p14],_ =>
      simp only [List.getElem?_cons_zero,List.getElem?_cons_succ,Option.bind_eq_bind,Option.bind_some]
      split <;> rename_i guard
      · exact ⟨none,rfl,fun _ wrong => (nomatch wrong)⟩
      · refine ⟨_,rfl,?_⟩
        rintro _ ⟨⟩
        simp only [not_or,not_not,ne_eq] at guard
        obtain ⟨⟨lower,upper⟩,_,_,_,_,some',unused,_⟩ := guard
        have low := UInt16.le_iff_toNat_le.mp lower
        have high := UInt16.le_iff_toNat_le.mp upper
        have small : (0x20 : UInt16).toNat = 32 := by decide
        have large : (0x4000 : UInt16).toNat = 16384 := by decide
        refine ⟨?_,?_,?_⟩
        · dsimp only
          omega
        · dsimp only
          omega
        · rcases channelEnabled p13 some' unused with on | on | on
          · exact ⟨0,on⟩
          · exact ⟨1,on⟩
          · exact ⟨2,on⟩

theorem betweenInside {bytes : List UInt8} {first last : Nat} (ordered : first ≤ last)
    (inside : last ≤ bytes.length) : between bytes first last = some ((bytes.take last).drop first) := by
  rw [between,if_pos ⟨ordered,inside⟩]

/-! One turn of the loop: every read it makes lies inside the announced octets. -/

section Turns
variable {bytes : List UInt8} {cursor : Nat} {replacement : AdvertisingData}

theorem copyPast (past : ¬cursor < bytes.length) :
    copyStructures bytes cursor replacement = some (.ok replacement) := by
  unfold copyStructures
  exact if_neg past

theorem copyEnds (more : cursor < bytes.length) (zero : (bytes[cursor]).toNat = 0) :
    copyStructures bytes cursor replacement = some (.ok replacement) := by
  unfold copyStructures
  rw [if_pos more,List.getElem?_eq_getElem more]
  exact if_pos zero

theorem copyBeyond (more : cursor < bytes.length) (nonzero : (bytes[cursor]).toNat ≠ 0)
    (beyond : bytes.length ≤ cursor + (bytes[cursor]).toNat) :
    copyStructures bytes cursor replacement = some (.error hciInvalidParameters) := by
  unfold copyStructures
  rw [if_pos more,List.getElem?_eq_getElem more]
  dsimp only
  rw [if_neg nonzero,if_pos (Or.inl beyond)]

theorem copyPushes (more : cursor < bytes.length) (nonzero : (bytes[cursor]).toNat ≠ 0)
    (inside : cursor + (bytes[cursor]).toNat < bytes.length) :
    copyStructures bytes cursor replacement =
      match replacement.push bytes[cursor+1]
        ((bytes.take (cursor + 1 + (bytes[cursor]).toNat)).drop (cursor + 2)) with
      | (_,.error _) => some (.error hciInvalidParameters)
      | (grown,.ok _) => copyStructures bytes (cursor + ((bytes[cursor]).toNat + 1)) grown := by
  rw [copyStructures,if_pos more,List.getElem?_eq_getElem more]
  dsimp only
  rw [if_neg nonzero,if_neg (by omega),betweenInside (by omega) (by omega),List.getElem?_eq_getElem (by omega)]

end Turns

theorem copyTotal (bytes : List UInt8) (cursor : Nat) (replacement : AdvertisingData) :
    (∃ copied, copyStructures bytes cursor replacement = some (.ok copied)) ∨
      copyStructures bytes cursor replacement = some (.error hciInvalidParameters) := by
  induction left : bytes.length - cursor using Nat.strongRecOn generalizing cursor replacement with
  | ind left ih =>
    by_cases more : cursor < bytes.length
    · by_cases zero : (bytes[cursor]).toNat = 0
      · exact Or.inl ⟨_,copyEnds more zero⟩
      · by_cases inside : cursor + (bytes[cursor]).toNat < bytes.length
        · rw [copyPushes more zero inside]
          split
          · exact Or.inr rfl
          · exact ih _ (by omega) _ _ rfl
        · exact Or.inr (copyBeyond more zero (Nat.le_of_not_lt inside))
    · exact Or.inl ⟨_,copyPast more⟩

theorem dataSet (target : AdvertisingData) (params : List UInt8) :
    ∃ set, setAdvertisingData target params = some set ∧
      (set.2 = .ok [] ∨ set = (target,.error hciInvalidParameters)) := by
  unfold setAdvertisingData
  by_cases size : params.length ≠ 32
  · exact ⟨_,if_pos size,Or.inr rfl⟩
  · have present : 0 < params.length := by omega
    rw [if_neg size,List.getElem?_eq_getElem present]
    simp only [Option.bind_eq_bind,Option.bind_some]
    by_cases long : (params[0]).toNat > 31
    · exact ⟨_,if_pos long,Or.inr rfl⟩
    · rw [if_neg long,betweenInside (by omega) (by omega),Option.bind_some]
      rcases copyTotal ((params.take (1 + (params[0]).toNat)).drop 1) 0 .new with ⟨copied,done⟩ | failed
      · rw [done]
        exact ⟨_,rfl,Or.inl rfl⟩
      · rw [failed]
        exact ⟨_,rfl,Or.inr rfl⟩

theorem enableSet (a : Advertiser) (connected : Bool) (params : List UInt8) :
    ∃ set, setAdvertisingEnable a connected params = some set ∧
      ((∃ flag, (flag = true → connected = false) ∧ set = ({a with enabled := flag},.ok [])) ∨
        ∃ status, status ≠ hciSuccess ∧ set = (a,.error status)) := by
  unfold setAdvertisingEnable
  by_cases size : params.length ≠ 1
  · exact ⟨_,if_pos size,Or.inr ⟨_,by decide,rfl⟩⟩
  · rw [if_neg size]
    match params,not_not.mp size with
    | [enable],_ =>
      simp only [List.getElem?_cons_zero,Option.bind_eq_bind,Option.bind_some]
      by_cases large : enable > 1
      · exact ⟨_,if_pos large,Or.inr ⟨_,by decide,rfl⟩⟩
      · rw [if_neg large]
        by_cases refused : enable ≠ 0 ∧ connected = true
        · exact ⟨_,if_pos refused,Or.inr ⟨_,by decide,rfl⟩⟩
        · refine ⟨_,if_neg refused,Or.inl ⟨enable != 0,?_,rfl⟩⟩
          intro on
          have nonzero : enable ≠ 0 := by simpa using on
          simpa [nonzero] using refused

theorem addressSet (a : Advertiser) (params : List UInt8) :
    (∃ address, a.enabled = false ∧ DeviceAddress.randomStatic address.bytes = .ok address ∧
      setRandomAddress a params = ({a with address := address},.ok [])) ∨
    ∃ status, status ≠ hciSuccess ∧ setRandomAddress a params = (a,.error status) := by
  unfold setRandomAddress
  by_cases on : a.enabled = true
  · exact Or.inr ⟨_,by decide,if_pos on⟩
  · rw [if_neg on]
    by_cases size : params.length = 6
    · rw [dif_pos size]
      cases made : DeviceAddress.randomStatic ⟨⟨params⟩,size⟩ with
      | error error => exact Or.inr ⟨_,by decide,rfl⟩
      | ok address =>
        have bytes : address.bytes = ⟨⟨params⟩,size⟩ := by
          unfold DeviceAddress.randomStatic at made
          split at made
          · cases made
          · cases made
            rfl
        exact Or.inl ⟨address,by simpa using on,by rw [bytes,made],rfl⟩
    · rw [dif_neg size]
      exact Or.inr ⟨_,by decide,rfl⟩

theorem parametersSet (a : Advertiser) (params : List UInt8) :
    ∃ set, setAdvertisingParameters a params = some set ∧
      ((∃ intervalUs channels, a.enabled = false ∧ ParametersValid intervalUs channels ∧
        set = ({a with intervalUs := intervalUs,channels := channels},.ok [])) ∨
        ∃ status, status ≠ hciSuccess ∧ set = (a,.error status)) := by
  unfold setAdvertisingParameters
  by_cases on : a.enabled = true
  · exact ⟨_,if_pos on,Or.inr ⟨_,by decide,rfl⟩⟩
  · obtain ⟨result,parses,valid⟩ := parametersParsed params
    rw [if_neg on,parses]
    cases result with
    | none => exact ⟨_,rfl,Or.inr ⟨_,by decide,rfl⟩⟩
    | some parsed => exact ⟨_,rfl,Or.inl ⟨_,_,by simpa using on,valid parsed rfl,rfl⟩⟩

/-! One command. -/

section Effects
variable {ρ : Type}

/- Everything a command can write. -/
inductive Change (r : Runner ρ) : Runner ρ → Prop where
  | reset : Change r {r with
      eventMask := 0xffffffffffffffff
      leEventMask := 0x1f
      advertiser := {r.advertiser with enabled := false}
      accessAddress := advAccessAddress
      crcInit := advCrcInit}
  | eventMask (mask : UInt64) : Change r {r with eventMask := mask}
  | leEventMask (mask : UInt64) : Change r {r with leEventMask := mask}
  | address {address : DeviceAddress} (idle : r.advertiser.enabled = false)
      (valid : DeviceAddress.randomStatic address.bytes = .ok address) :
      Change r {r with advertiser := {r.advertiser with address := address}}
  | parameters {intervalUs : Nat} {channels : Vector Bool 3} (idle : r.advertiser.enabled = false)
      (valid : ParametersValid intervalUs channels) :
      Change r {r with advertiser := {r.advertiser with intervalUs := intervalUs,channels := channels}}
  | data (data : AdvertisingData) : Change r {r with advertiser := {r.advertiser with data := data}}
  | scanResponse (data : AdvertisingData) :
      Change r {r with advertiser := {r.advertiser with scanResponse := data}}
  | enable (flag : Bool) (free : flag = true → r.linkConnected = false) :
      Change r {r with advertiser := {r.advertiser with enabled := flag}}
  | random (next : ρ) : Change r {r with random := next}

/- A write is answered with success, and only a success may write. -/
inductive Effect (r : Runner ρ) (opcode : UInt16) : Runner ρ → HostCall → Prop where
  | wrote {after returnData} (change : Change r after) (short : returnData.length ≤ 8) :
      Effect r opcode after (.commandComplete opcode hciSuccess returnData)
  | answered {returnData} (short : returnData.length ≤ 8) :
      Effect r opcode r (.commandComplete opcode hciSuccess returnData)
  | refused {status} (failed : status ≠ hciSuccess) :
      Effect r opcode r (.commandComplete opcode status [])
  | deferred {status} (failed : status ≠ hciSuccess) : Effect r opcode r (.commandStatus opcode status)

variable (fillBytes : ρ → ρ × Vector UInt8 8)

theorem dispatched (r : Runner ρ) (opcode : UInt16) (params : List UInt8) :
    ∃ done, dispatch fillBytes r opcode params = some done ∧ Effect r opcode done.1 done.2 := by
  unfold dispatch
  by_cases reset : opcode = 0x0c03 ∧ params = []
  · exact ⟨_,if_pos reset,.wrote .reset (by decide)⟩
  rw [if_neg reset]
  by_cases mask : (opcode = 0x0c01 ∨ opcode = 0x2001) ∧ params.length = 8
  · rw [if_pos mask,maskOf,if_pos mask.2]
    refine ⟨_,rfl,?_⟩
    dsimp only
    split
    · exact .wrote (.eventMask _) (by decide)
    · exact .wrote (.leEventMask _) (by decide)
  rw [if_neg mask]
  by_cases flow : opcode = 0x0c31 ∧ params = [0]
  · exact ⟨_,if_pos flow,.answered (by decide)⟩
  rw [if_neg flow]
  by_cases identity : opcode = 0x1009 ∧ params = []
  · exact ⟨_,if_pos identity,.answered (by decide)⟩
  rw [if_neg identity]
  by_cases buffer : opcode = 0x2002 ∧ params = []
  · exact ⟨_,if_pos buffer,.answered (by decide)⟩
  rw [if_neg buffer]
  by_cases features : opcode = 0x2003 ∧ params = []
  · exact ⟨_,if_pos features,.answered (by decide)⟩
  rw [if_neg features]
  by_cases address : opcode = 0x2005
  · rw [if_pos address]
    refine ⟨_,rfl,?_⟩
    obtain ⟨address,idle,valid,set⟩ | ⟨status,failed,set⟩ := addressSet r.advertiser params
    · rw [set]
      exact .wrote (.address idle valid) (by decide)
    · rw [set]
      exact .refused failed
  rw [if_neg address]
  by_cases parameters : opcode = 0x2006
  · obtain ⟨set,done,outcome⟩ := parametersSet r.advertiser params
    rw [if_pos parameters,done]
    refine ⟨_,rfl,?_⟩
    obtain ⟨intervalUs,channels,idle,valid,rfl⟩ | ⟨status,failed,rfl⟩ := outcome
    · exact .wrote (.parameters idle valid) (by decide)
    · exact .refused failed
  rw [if_neg parameters]
  by_cases data : opcode = 0x2008
  · obtain ⟨set,done,outcome⟩ := dataSet r.advertiser.data params
    rw [if_pos data,done]
    refine ⟨_,rfl,?_⟩
    rcases outcome with stored | rfl
    · rw [stored]
      exact .wrote (.data set.1) (by decide)
    · exact .refused (by decide)
  rw [if_neg data]
  by_cases scan : opcode = 0x2009
  · obtain ⟨set,done,outcome⟩ := dataSet r.advertiser.scanResponse params
    rw [if_pos scan,done]
    refine ⟨_,rfl,?_⟩
    rcases outcome with stored | rfl
    · rw [stored]
      exact .wrote (.scanResponse set.1) (by decide)
    · exact .refused (by decide)
  rw [if_neg scan]
  by_cases enable : opcode = 0x200a
  · obtain ⟨set,done,outcome⟩ := enableSet r.advertiser r.linkConnected params
    rw [if_pos enable,done]
    refine ⟨_,rfl,?_⟩
    obtain ⟨flag,free,rfl⟩ | ⟨status,failed,rfl⟩ := outcome
    · exact .wrote (.enable flag free) (by decide)
    · exact .refused failed
  rw [if_neg enable]
  by_cases listSize : opcode = 0x200f ∧ params = []
  · exact ⟨_,if_pos listSize,.answered (by decide)⟩
  rw [if_neg listSize]
  by_cases listClear : opcode = 0x2010 ∧ params = []
  · exact ⟨_,if_pos listClear,.answered (by decide)⟩
  rw [if_neg listClear]
  by_cases random : opcode = 0x2018 ∧ params = []
  · exact ⟨_,if_pos random,.wrote (.random _) (Nat.le_of_eq Vector.length_toList)⟩
  rw [if_neg random]
  by_cases extended : opcode = 0x2039
  · exact ⟨_,if_pos extended,.refused (by decide)⟩
  rw [if_neg extended]
  by_cases create : opcode = 0x200d
  · exact ⟨_,if_pos create,.deferred (by decide)⟩
  rw [if_neg create]
  by_cases procedure : opcode = 0x2013 ∨ opcode = 0x2019 ∨ opcode = 0x2032
  · exact ⟨_,if_pos procedure,.deferred (by decide)⟩
  exact ⟨_,if_neg procedure,.refused (by decide)⟩

/- A command whose length octet counts its parameters. -/
def WellFormed (bytes : List UInt8) : Prop := 3 ≤ bytes.length ∧ bytes.length = 3 + (octet bytes 2).toNat
instance (bytes) : Decidable (WellFormed bytes) := by unfold WellFormed; infer_instance

theorem headerReads {bytes : List UInt8} (long : 3 ≤ bytes.length) :
    bytes[0]? = some (octet bytes 0) ∧ bytes[1]? = some (octet bytes 1) ∧
      bytes[2]? = some (octet bytes 2) ∧ between bytes 3 bytes.length = some (bytes.drop 3) := by
  have read : ∀ i < 3, bytes[i]? = some (octet bytes i) := by
    intro i below
    rw [octet,List.getD_eq_getElem?_getD,List.getElem?_eq_getElem (by omega),Option.getD_some]
  refine ⟨read 0 (by omega),read 1 (by omega),read 2 (by omega),?_⟩
  rw [betweenInside long (Nat.le_refl _),List.take_length]

theorem commandDispatched (r : Runner ρ) {bytes : List UInt8} (formed : WellFormed bytes) :
    handleCommand fillBytes r bytes =
      (dispatch fillBytes r (word bytes 0) (bytes.drop 3)).bind fun done => some (done.1,[done.2]) := by
  obtain ⟨long,length⟩ := formed
  obtain ⟨first,second,third,params⟩ := headerReads long
  unfold handleCommand
  rw [if_neg (Nat.not_lt.mpr long),third,Option.bind_eq_bind,Option.bind_some,if_neg (not_not.mpr length),
    first,second,params]
  rfl

theorem commandHandled (r : Runner ρ) {bytes : List UInt8} (formed : WellFormed bytes) :
    ∃ after call, handleCommand fillBytes r bytes = some (after,[call]) ∧
      Effect r (word bytes 0) after call := by
  obtain ⟨done,dispatches,effect⟩ := dispatched fillBytes r (word bytes 0) (bytes.drop 3)
  refine ⟨done.1,done.2,?_,effect⟩
  rw [commandDispatched fillBytes r formed,dispatches]
  rfl

theorem commandIgnored (r : Runner ρ) {bytes : List UInt8} (malformed : ¬WellFormed bytes) :
    handleCommand fillBytes r bytes = some (r,[]) := by
  unfold handleCommand
  by_cases short : bytes.length < 3
  · exact if_pos short
  · obtain ⟨_,_,third,_⟩ := headerReads (Nat.le_of_not_lt short)
    have length : bytes.length ≠ 3 + (octet bytes 2).toNat :=
      fun length => malformed ⟨Nat.le_of_not_lt short,length⟩
    rw [if_neg short,third,Option.bind_eq_bind,Option.bind_some,if_pos length]

/-! Answers to the Host. -/

inductive Answer (opcode : UInt16) : HostCall → UInt8 → Prop where
  | complete {status returnData} (short : returnData.length ≤ 8) :
      Answer opcode (.commandComplete opcode status returnData) status
  | status {status} : Answer opcode (.commandStatus opcode status) status

/- The packet of an answer: its event code, one command credit and the opcode. -/
def Answers (opcode : UInt16) (packet : List UInt8) : Prop :=
  (∃ status returnData, packet = [0x0e,UInt8.ofNat (4 + returnData.length),1] ++ toLeBytes opcode ++
    [status] ++ returnData) ∨
  ∃ status, packet = [0x0f,0x04,status,1] ++ toLeBytes opcode

theorem answerSent {opcode call status} (answer : Answer opcode call status) :
    ∃ packet, answerPacket call = some packet ∧ Answers opcode packet := by
  cases answer with
  | @complete status returnData short =>
    have room : 6 + returnData.length ≤ hciPacketCapacity := by
      unfold hciPacketCapacity
      omega
    exact ⟨_,if_pos room,Or.inl ⟨status,returnData,rfl⟩⟩
  | status => exact ⟨_,rfl,Or.inr ⟨_,rfl⟩⟩

theorem effectAnswer {r after : Runner ρ} {opcode call} (effect : Effect r opcode after call) :
    ∃ status, Answer opcode call status := by
  cases effect with
  | wrote change short => exact ⟨_,.complete short⟩
  | answered short => exact ⟨_,.complete short⟩
  | refused failed => exact ⟨_,.complete (by decide)⟩
  | deferred failed => exact ⟨_,.status⟩

theorem connectedAnswer (c : ActiveConnection) {bytes : List UInt8} (formed : WellFormed bytes) :
    (∃ stop, handleConnectedCommand c bytes = (c,[.handleCommand bytes],stop)) ∨
    ∃ call status, (handleConnectedCommand c bytes).2 = ([call],false) ∧
      Answer (word bytes 0) call status := by
  have shape : ¬(bytes.length < 3 ∨ bytes.length ≠ 3 + (octet bytes 2).toNat) := by
    rintro (short | length)
    · exact absurd formed.1 (Nat.not_le.mpr short)
    · exact length formed.2
  unfold handleConnectedCommand
  rw [if_neg shape]
  dsimp only
  by_cases reset : word bytes 0 = 0x0c03 ∧ bytes.drop 3 = []
  · exact Or.inl ⟨true,if_pos reset⟩
  rw [if_neg reset]
  by_cases disconnect : word bytes 0 = 0x0406 ∧ (bytes.drop 3).length = 3
  · rw [if_pos disconnect]
    right
    split
    · exact ⟨_,_,rfl,.status⟩
    · exact ⟨_,_,rfl,.status⟩
  rw [if_neg disconnect]
  by_cases rssi : word bytes 0 = 0x1405 ∧ (bytes.drop 3).length = 2
  · rw [if_pos rssi]
    right
    split
    · exact ⟨_,_,rfl,.complete (by omega)⟩
    · exact ⟨_,_,rfl,.complete (by simp [toLeBytes])⟩
  rw [if_neg rssi]
  by_cases update : word bytes 0 = 0x2013 ∧ (bytes.drop 3).length = 14
  · rw [if_pos update]
    right
    split
    · exact ⟨_,_,rfl,.status⟩
    · split
      · exact ⟨_,_,rfl,.status⟩
      · split
        · exact ⟨_,_,rfl,.status⟩
        · exact ⟨_,_,rfl,.status⟩
  exact Or.inl ⟨false,if_neg update⟩

theorem connectedReadsInside (opcode : UInt16) (params : List UInt8) :
    ∃ octets, connectedReads opcode params = some octets := by
  unfold connectedReads
  split
  · rename_i disconnect
    match params,disconnect.2 with
    | [p0,p1,p2],_ => exact ⟨_,rfl⟩
  · split
    · rename_i rssi
      match params,rssi.2 with
      | [p0,p1],_ => exact ⟨_,rfl⟩
    · split
      · rename_i update
        match params,update.2 with
        | [p0,p1,p2,p3,p4,p5,p6,p7,p8,p9,p10,p11,p12,p13],_ => exact ⟨_,rfl⟩
      · exact ⟨_,rfl⟩

theorem performAnswer (r : Runner ρ) {opcode call status} (answer : Answer opcode call status) :
    perform fillBytes r [call] = some (r,[call]) := by
  cases answer with
  | complete short => rfl
  | status => rfl

theorem performCommand (r : Runner ρ) {bytes after calls}
    (handled : handleCommand fillBytes r bytes = some (after,calls)) :
    perform fillBytes r [.handleCommand bytes] = some (after,calls) := by
  simp [perform,handled]

theorem connectedHandled (r : Runner ρ) (c : ActiveConnection) {bytes : List UInt8}
    (formed : WellFormed bytes) :
    ∃ after connection call status stop,
      connectedCommand fillBytes r c bytes = some (after,connection,[call],stop) ∧
      Answer (word bytes 0) call status ∧ (after = r ∨ Effect r (word bytes 0) after call) := by
  obtain ⟨first,second,third,params⟩ := headerReads formed.1
  obtain ⟨octets,reads⟩ := connectedReadsInside (word bytes 0) (bytes.drop 3)
  have opening : connectedCommand fillBytes r c bytes =
      (perform fillBytes r (handleConnectedCommand c bytes).2.1).bind fun sent =>
        some (sent.1,(handleConnectedCommand c bytes).1,sent.2,(handleConnectedCommand c bytes).2.2) := by
    unfold connectedCommand
    rw [if_neg (Nat.not_lt.mpr formed.1),third,Option.bind_eq_bind,Option.bind_some,
      if_neg (not_not.mpr formed.2),first,second,params]
    unfold word at reads
    simp only [Option.bind_eq_bind,Option.bind_some,reads]
  rcases connectedAnswer c formed with ⟨stop,delegated⟩ | ⟨call,status,direct,answer⟩
  · obtain ⟨after,call,handled,effect⟩ := commandHandled fillBytes r formed
    obtain ⟨status,answer⟩ := effectAnswer effect
    refine ⟨after,c,call,status,stop,?_,answer,Or.inr effect⟩
    rw [opening,delegated,performCommand fillBytes r handled]
    rfl
  · refine ⟨r,(handleConnectedCommand c bytes).1,call,status,false,?_,answer,Or.inl rfl⟩
    rw [opening,direct,performAnswer fillBytes r answer]
    rfl

theorem commandAnsweredOnce {bytes : List UInt8} (formed : WellFormed bytes) :
    (∀ r : Runner ρ, ∃ after call packet, handleCommand fillBytes r bytes = some (after,[call]) ∧
      answerPacket call = some packet ∧ Answers (word bytes 0) packet) ∧
    ∀ (r : Runner ρ) (c : ActiveConnection), ∃ after connection call packet stop,
      connectedCommand fillBytes r c bytes = some (after,connection,[call],stop) ∧
      answerPacket call = some packet ∧ Answers (word bytes 0) packet := by
  constructor
  · intro r
    obtain ⟨after,call,handled,effect⟩ := commandHandled fillBytes r formed
    obtain ⟨status,answer⟩ := effectAnswer effect
    obtain ⟨packet,sent,answers⟩ := answerSent answer
    exact ⟨after,call,packet,handled,sent,answers⟩
  · intro r c
    obtain ⟨after,connection,call,status,stop,handled,answer,_⟩ := connectedHandled fillBytes r c formed
    obtain ⟨packet,sent,answers⟩ := answerSent answer
    exact ⟨after,connection,call,packet,stop,handled,sent,answers⟩

end Effects

-- LE Set Random Address on the default runner.
theorem randomAddressAnswered :
    WellFormed [0x05,0x20,6,1,2,3,4,5,0xc6] ∧
    ∃ after call packet,
      handleCommand (fun draws : Nat => (draws+1,Vector.replicate 8 0)) (Runner.new 0)
        [0x05,0x20,6,1,2,3,4,5,0xc6] = some (after,[call]) ∧
      answerPacket call = some packet ∧ Answers (word [0x05,0x20,6,1,2,3,4,5,0xc6] 0) packet := by
  have formed : WellFormed [0x05,0x20,6,1,2,3,4,5,0xc6] := by decide
  exact ⟨formed,(commandAnsweredOnce _ formed).1 (Runner.new 0)⟩

end Ch58xHal.HostCommands
