import Ch58xHal.HostSession
import Mathlib.Data.List.ReduceOption

/-! What the Host reads off the transport: every call of a run leaves as one packet that fits and
that says the same again, except for events the Host itself has masked out. -/
namespace Ch58xHal.HostTransport
open ControlPdu Connection ConnectionEvent HostCommands ControllerRun Machines HostSession

inductive Error where
  | packetTooLarge
  | malformedPacket
  deriving DecidableEq, Repr

/- The credit and completion events cannot be masked. -/
def eventEnabled (mask leMask : UInt64) (code : UInt8) (params : List UInt8) : Bool :=
  if code = 0x0e ∨ code = 0x0f ∨ code = 0x13 then true
  else if code = 0 ∨ code > 64 ∨ mask &&& ((1 : UInt64) <<< (code - 1).toUInt64) = 0 then false
  else if code = 0x3e then
    params.head?.any fun subevent => subevent ≠ 0 ∧ subevent ≤ 64 ∧ leMask &&& ((1 : UInt64) <<< (subevent - 1).toUInt64) ≠ 0
  else true

def Packet.fromBytes (kind : PacketKind) (data : List UInt8) : Except Error Packet :=
  if data.length > hciPacketCapacity then .error .packetTooLarge else .ok ⟨kind,data⟩

/- Nothing is sent for an event that is masked out. -/
def event (mask leMask : UInt64) (code : UInt8) (params : List UInt8) : Except Error (Option Packet) :=
  if params.length > hciPacketCapacity - 2 then .error .packetTooLarge
  else if eventEnabled mask leMask code params = false then .ok none
  else .ok (some ⟨.event,[code,UInt8.ofNat params.length] ++ params⟩)

def sendAcl (handleAndFlags : UInt16) (payload : List UInt8) : Except Error (Option Packet) :=
  if payload.length + 4 > hciPacketCapacity then .error .packetTooLarge
  else .ok (some ⟨.aclData,toLeBytes handleAndFlags ++ toLeBytes (UInt16.ofNat payload.length) ++ payload⟩)

def completedAcl (mask leMask : UInt64) (handle count : UInt16) : Except Error (Option Packet) :=
  event mask leMask 0x13 ([1] ++ toLeBytes handle ++ toLeBytes count)

def commandComplete (opcode : UInt16) (status : UInt8) (returnData : List UInt8) : Except Error Packet :=
  Packet.fromBytes .event ([0x0e,UInt8.ofNat (4 + returnData.length),1] ++ toLeBytes opcode ++ [status] ++ returnData)

def commandStatus (opcode : UInt16) (status : UInt8) : Except Error Packet :=
  Packet.fromBytes .event [0x0f,0x04,status,0x01,opcode.toUInt8,(opcode >>> 8).toUInt8]

/- `none` is a call that is lost: one whose error is dropped, or unwrapped, or a command nobody
has handled. -/
def packetOf (mask leMask : UInt64) : HostCall → Option (Option Packet)
  | .event code params => (event mask leMask code params).toOption
  | .completedAcl handle count => (completedAcl mask leMask handle count).toOption
  | .sendAcl handleAndFlags payload => (sendAcl handleAndFlags payload).toOption
  | .commandStatus opcode status => (commandStatus opcode status).toOption.map some
  | .commandComplete opcode status returnData => (commandComplete opcode status returnData).toOption.map some
  | .handleCommand _ => none

/- The Host's reading of a packet. -/
def readEvent (code : UInt8) (params : List UInt8) : Option HostCall :=
  if code = 0x0e then
    match params with
    | 1 :: low :: high :: status :: returnData => some (.commandComplete (fromLeBytes low high) status returnData)
    | _ => none
  else if code = 0x0f then
    match params with
    | [status,1,low,high] => some (.commandStatus (fromLeBytes low high) status)
    | _ => none
  else if code = 0x13 then
    match params with
    | [1,first,second,third,fourth] => some (.completedAcl (fromLeBytes first second) (fromLeBytes third fourth))
    | _ => none
  else some (.event code params)

def readPacket (packet : Packet) : Option HostCall :=
  match packet.kind,packet.bytes with
  | .event,code :: length :: params => if length.toNat = params.length then readEvent code params else none
  | .aclData,low :: high :: first :: second :: payload =>
    if (fromLeBytes first second).toNat = payload.length then some (.sendAcl (fromLeBytes low high) payload) else none
  | _,_ => none

def masked (mask leMask : UInt64) : HostCall → Bool
  | .event code params => !eventEnabled mask leMask code params
  | _ => false

/-! One call. -/

/- A call says the same again to the Host, in one packet that fits, or is masked out. -/
inductive Sent (mask leMask : UInt64) (call : HostCall) : Option Packet → Prop where
  | hidden (masked : masked mask leMask call = true) : Sent mask leMask call none
  | told {packet : Packet} (shown : masked mask leMask call = false) (fits : packet.bytes.length ≤ hciPacketCapacity)
      (read : readPacket packet = some call) : Sent mask leMask call (some packet)

/- The calls a Host follows are all of these. -/
inductive Speakable : HostCall → Prop where
  | event {code params} (kind : code = 0x3e ∨ code = 0x05) (short : params.length ≤ 19) : Speakable (.event code params)
  | completed (handle count) : Speakable (.completedAcl handle count)
  | acl (handleAndFlags) {payload} (short : payload.length ≤ maxDataPduPayload) : Speakable (.sendAcl handleAndFlags payload)
  | status (opcode status) : Speakable (.commandStatus opcode status)
  | complete (opcode status) {returnData} (short : returnData.length ≤ 8) : Speakable (.commandComplete opcode status returnData)

theorem listensSpeakable {session next : Option UInt16} {call : HostCall} (heard : listens session call = some next) :
    Speakable call := by
  cases call with
  | event code params =>
    change hears session code params = some next at heard
    unfold hears at heard
    split_ifs at heard with complete room result room gone room
    · exact .event (.inl complete.1) (by omega)
    · exact .event (.inl result.1) (by omega)
    · exact .event (.inr gone) (by omega)
  | completedAcl handle count => exact .completed handle count
  | sendAcl handleAndFlags payload =>
    simp only [listens] at heard
    split at heard
    · rename_i fits
      exact .acl handleAndFlags fits.2.2.2
    · cases heard
  | commandStatus opcode status => exact .status opcode status
  | commandComplete opcode status returnData =>
    simp only [listens] at heard
    split at heard
    · rename_i short
      exact .complete opcode status short
    · cases heard
  | handleCommand bytes => cases heard

section Calls
variable (mask leMask : UInt64)

theorem eventSent (code : UInt8) {params : List UInt8} (short : params.length ≤ hciPacketCapacity - 2) :
    ∃ packet, event mask leMask code params = .ok packet ∧
      (packet = none ∧ eventEnabled mask leMask code params = false ∨
       packet = some ⟨.event,[code,UInt8.ofNat params.length] ++ params⟩ ∧ eventEnabled mask leMask code params = true) := by
  unfold event
  rw [if_neg (Nat.not_lt.mpr short)]
  cases enabled : eventEnabled mask leMask code params with
  | false => exact ⟨_,if_pos rfl,.inl ⟨rfl,rfl⟩⟩
  | true => exact ⟨_,if_neg (Bool.noConfusion ·),.inr ⟨rfl,rfl⟩⟩

theorem eventRead {code : UInt8} {params : List UInt8} (short : params.length ≤ hciPacketCapacity - 2) :
    readPacket ⟨.event,[code,UInt8.ofNat params.length] ++ params⟩ = readEvent code params := by
  unfold hciPacketCapacity at short
  have length : (UInt8.ofNat params.length).toNat = params.length := by
    rw [UInt8.toNat_ofNat']
    omega
  exact if_pos length

theorem speakableSent {call : HostCall} (speakable : Speakable call) :
    ∃ packet, packetOf mask leMask call = some packet ∧ Sent mask leMask call packet := by
  cases speakable with
  | @event code params kind small =>
    have short : params.length ≤ hciPacketCapacity - 2 := Nat.le_trans small (by decide)
    obtain ⟨packet,sent,cases_⟩ := eventSent mask leMask code short
    refine ⟨packet,by rw [packetOf,sent]; rfl,?_⟩
    rcases cases_ with ⟨rfl,off⟩ | ⟨rfl,on⟩
    · exact .hidden (by rw [masked,off]; rfl)
    · refine .told (by rw [masked,on]; rfl) ?_ ?_
      · unfold hciPacketCapacity
        rw [List.length_append,List.length_cons,List.length_cons,List.length_nil]
        omega
      · rw [eventRead short]
        unfold readEvent
        rcases kind with rfl | rfl <;> rfl
  | completed handle count =>
    have always : eventEnabled mask leMask 0x13 ([1] ++ toLeBytes handle ++ toLeBytes count) = true :=
      if_pos (.inr (.inr rfl))
    have five : ([1] ++ toLeBytes handle ++ toLeBytes count).length ≤ hciPacketCapacity - 2 :=
      show 5 ≤ hciPacketCapacity - 2 by decide
    obtain ⟨packet,sent,cases_⟩ := eventSent mask leMask 0x13 five
    rcases cases_ with ⟨_,off⟩ | ⟨rfl,_⟩
    · rw [always] at off
      cases off
    · refine ⟨_,by rw [packetOf,completedAcl,sent]; rfl,?_⟩
      refine .told rfl (show 7 ≤ hciPacketCapacity by decide) ?_
      rw [eventRead five]
      show some (HostCall.completedAcl _ _) = _
      rw [OctetFields.fromToLeBytes,OctetFields.fromToLeBytes]
  | @acl handleAndFlags payload small =>
    unfold maxDataPduPayload at small
    have room : ¬payload.length + 4 > hciPacketCapacity := by
      unfold hciPacketCapacity
      omega
    refine ⟨_,by rw [packetOf,sendAcl,if_neg room]; rfl,.told rfl ?_ ?_⟩
    · unfold hciPacketCapacity
      simp only [List.length_append,toLeBytes,List.length_cons,List.length_nil]
      omega
    · have length : (UInt16.ofNat payload.length).toNat = payload.length := by
        rw [UInt16.toNat_ofNat']
        omega
      show (if (fromLeBytes _ _).toNat = payload.length then some (HostCall.sendAcl (fromLeBytes _ _) payload) else none) = _
      rw [OctetFields.fromToLeBytes,OctetFields.fromToLeBytes,if_pos length]
  | status opcode status =>
    refine ⟨_,rfl,.told rfl (show 6 ≤ hciPacketCapacity by decide) ?_⟩
    show some (HostCall.commandStatus (fromLeBytes _ _) status) = _
    rw [OctetFields.fromToLeBytes]
  | @complete opcode status returnData small =>
    have room : ¬([0x0e,UInt8.ofNat (4 + returnData.length),1] ++ toLeBytes opcode ++ [status] ++ returnData).length >
        hciPacketCapacity := by
      unfold hciPacketCapacity
      simp only [List.length_append,toLeBytes,List.length_cons,List.length_nil]
      omega
    refine ⟨_,by rw [packetOf,commandComplete,Packet.fromBytes,if_neg room]; rfl,.told rfl (Nat.le_of_not_lt room) ?_⟩
    have length : (UInt8.ofNat (4 + returnData.length)).toNat = returnData.length + 4 := by
      rw [UInt8.toNat_ofNat']
      omega
    show (if _ = returnData.length + 4 then some (HostCall.commandComplete (fromLeBytes _ _) status returnData) else none) = _
    rw [OctetFields.fromToLeBytes,if_pos length]

end Calls

/-! Whole runs. -/

theorem followsSpeakable {session last : Option UInt16} {calls : List HostCall} (heard : follows session calls = some last) :
    ∀ call ∈ calls, Speakable call := by
  induction calls generalizing session with
  | nil => exact fun _ absent => (nomatch absent)
  | cons call rest ih =>
    unfold follows at heard
    rw [List.foldlM_cons] at heard
    obtain ⟨next,first,later⟩ := Option.bind_eq_some_iff.mp heard
    intro other member
    rcases List.mem_cons.mp member with rfl | there
    · exact listensSpeakable first
    · exact ih later other there

/- What masks can hide at all. -/
def maskable : HostCall → Bool
  | .event _ _ => true
  | _ => false

section Runs
variable {ρ : Type} (fillBytes : ρ → ρ × Vector UInt8 8)

def visible (r : Runner ρ) (calls : List HostCall) : List HostCall :=
  calls.filter fun call => !masked r.eventMask r.leEventMask call

def sends (r : Runner ρ) (calls : List HostCall) : Option (List Packet) :=
  (calls.mapM (packetOf r.eventMask r.leEventMask)).map List.reduceOption

/- A command that sets the masks is answered before anything else is said, so the masks are the
ones the step leaves. -/
def transport (s : System ρ) : List Stimulus → Option (List Packet)
  | [] => some []
  | stimulus :: rest => do
    let done := act fillBytes s stimulus
    let first ← sends done.1.runner done.2
    let later ← transport done.1 rest
    some (first ++ later)

def shown (s : System ρ) : List Stimulus → List HostCall
  | [] => []
  | stimulus :: rest =>
    let done := act fillBytes s stimulus
    visible done.1.runner done.2 ++ shown done.1 rest

/- Packets that fit and read back as these calls. -/
structure Reads (packets : List Packet) (calls : List HostCall) : Prop where
  fits : ∀ packet ∈ packets, packet.bytes.length ≤ hciPacketCapacity
  same : packets.map readPacket = calls.map some

theorem readsAppend {first second : List Packet} {calls more : List HostCall} (before : Reads first calls)
    (after : Reads second more) : Reads (first ++ second) (calls ++ more) := by
  refine ⟨fun packet member => (List.mem_append.mp member).elim (before.fits packet) (after.fits packet),?_⟩
  rw [List.map_append,List.map_append,before.same,after.same]

theorem sendsReads (r : Runner ρ) {calls : List HostCall} (speakable : ∀ call ∈ calls, Speakable call) :
    ∃ packets, sends r calls = some packets ∧ Reads packets (visible r calls) := by
  induction calls with
  | nil => exact ⟨[],rfl,fun _ absent => (nomatch absent),rfl⟩
  | cons call rest ih =>
    obtain ⟨later,reached,reads⟩ := ih fun other member => speakable other (List.mem_cons_of_mem _ member)
    obtain ⟨packet,made,sent⟩ := speakableSent r.eventMask r.leEventMask (speakable call List.mem_cons_self)
    obtain ⟨slots,mapped,rfl⟩ := Option.map_eq_some_iff.mp reached
    have all : (call :: rest).mapM (packetOf r.eventMask r.leEventMask) = some (packet :: slots) := by
      rw [List.mapM_cons,made,mapped]
      rfl
    unfold sends visible
    rw [all,List.filter_cons]
    cases sent with
    | hidden masked =>
      rw [masked]
      exact ⟨_,rfl,reads⟩
    | told open_ fits read =>
      rw [open_]
      refine ⟨_,rfl,?_⟩
      have here : Reads [_] [call] := ⟨fun other member => List.mem_singleton.mp member ▸ fits,congrArg (fun read => [read]) read⟩
      exact readsAppend here reads

theorem visibleWhole (r : Runner ρ) (calls : List HostCall) : (visible r calls).Sublist calls ∧
    (visible r calls).filter (fun call => !maskable call) = calls.filter fun call => !maskable call := by
  refine ⟨List.filter_sublist,?_⟩
  unfold visible
  rw [List.filter_filter]
  refine List.filter_congr fun call _ => ?_
  cases call with
  | event code params => rfl
  | _ => rfl

theorem transportReads {s : System ρ} (attuned : Attuned s) (stimuli : List Stimulus) :
    ∃ packets, transport fillBytes s stimuli = some packets ∧ Reads packets (shown fillBytes s stimuli) := by
  induction stimuli generalizing s with
  | nil => exact ⟨[],rfl,fun _ absent => (nomatch absent),rfl⟩
  | cons stimulus rest ih =>
    obtain ⟨next,said⟩ := actAttuned fillBytes attuned stimulus
    obtain ⟨first,sent,reads⟩ := sendsReads (act fillBytes s stimulus).1.runner (followsSpeakable said)
    obtain ⟨later,reached,more⟩ := ih next
    refine ⟨first ++ later,?_,readsAppend reads more⟩
    unfold transport
    dsimp only
    rw [sent,reached]
    rfl

theorem shownWhole (s : System ρ) (stimuli : List Stimulus) :
    let calls := (run (controller fillBytes) s stimuli).1.flatMap fun entry => entry.2
    (shown fillBytes s stimuli).Sublist calls ∧
    (shown fillBytes s stimuli).filter (fun call => !maskable call) = calls.filter fun call => !maskable call := by
  induction stimuli generalizing s with
  | nil => exact ⟨.slnil,rfl⟩
  | cons stimulus rest ih =>
    obtain ⟨part,same⟩ := visibleWhole (act fillBytes s stimulus).1.runner (act fillBytes s stimulus).2
    obtain ⟨later,alike⟩ := ih (act fillBytes s stimulus).1
    have split : (run (controller fillBytes) s (stimulus :: rest)).1.flatMap (fun entry => entry.2) =
      (act fillBytes s stimulus).2 ++
        (run (controller fillBytes) (act fillBytes s stimulus).1 rest).1.flatMap fun entry => entry.2 := rfl
    rw [split]
    unfold shown
    refine ⟨part.append later,?_⟩
    rw [List.filter_append,List.filter_append,same,alike]

theorem hostReadsCalls (random : ρ) (stimuli : List Stimulus) :
    let calls := (run (controller fillBytes) (start random) stimuli).1.flatMap fun entry => entry.2
    ∃ packets, transport fillBytes (start random) stimuli = some packets ∧
      Reads packets (shown fillBytes (start random) stimuli) ∧ (shown fillBytes (start random) stimuli).Sublist calls ∧
      (shown fillBytes (start random) stimuli).filter (fun call => !maskable call) = calls.filter fun call => !maskable call := by
  intro calls
  obtain ⟨packets,sent,reads⟩ := transportReads fillBytes (startAttuned random) stimuli
  obtain ⟨part,whole⟩ := shownWhole fillBytes (start random) stimuli
  exact ⟨packets,sent,reads,part,whole⟩

end Runs

end Ch58xHal.HostTransport
