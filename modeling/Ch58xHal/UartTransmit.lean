import Ch58xHal.Polling

/-! Writing the UART. The line takes one byte after another out of the transmit FIFO, between any
two accesses to the registers as many as it gets done; a byte written to a full FIFO is lost. -/
namespace Ch58xHal.UartTransmit
open Polling

def fifoCapacity : Nat := 8

/- `accesses` is how often the registers have been accessed; `wire` and `lost` are logs for the
proofs. -/
structure Port where
  fifo : List UInt8
  shifting : Option UInt8
  accesses : Nat
  wire : List UInt8
  lost : List UInt8
  deriving DecidableEq, Repr

def idle : Port := ⟨[],none,0,[],[]⟩

/- How many bytes the line gets done before each access. It never stops for good. -/
structure Pace where
  ticks : Nat → Nat
  fair : ∀ k, ∃ j, k ≤ j ∧ 0 < ticks j

def tick (port : Port) : Port :=
  { port with fifo := port.fifo.tail,shifting := port.fifo.head?,wire := port.wire ++ port.shifting.toList }

def passed : Nat → Port → Port
  | 0,port => port
  | ticks+1,port => passed ticks (tick port)

section Registers
variable (pace : Pace)

def access (port : Port) : Port := { passed (pace.ticks port.accesses) port with accesses := port.accesses + 1 }

def readTfc (port : Port) : Nat × Port := ((access pace port).fifo.length,access pace port)

-- `tx_all_emp`
def readLsr (port : Port) : Bool × Port :=
  ((access pace port).fifo.isEmpty && (access pace port).shifting.isNone,access pace port)

def store (byte : UInt8) (port : Port) : Port :=
  if port.fifo.length < fifoCapacity then { port with fifo := port.fifo ++ [byte] }
  else { port with lost := port.lost ++ [byte] }

def writeThr (port : Port) (byte : UInt8) : Port := store byte (access pace port)

end Registers

/-! The operations. A blocking one that is still polling has no result. -/

section Operations
variable (pace : Pace)

def tryWrite (buffer : List UInt8) (port : Port) : Nat × Port :=
  let looked := readTfc pace port
  let available := fifoCapacity - looked.1
  let count := min available buffer.length
  (count,(buffer.take count).foldl (writeThr pace) looked.2)

def isTxIdle (port : Port) : Bool × Port := readLsr pace port

/- Also the `write` and the `write_str` of the traits. -/
def blockingWriteAll (polls : Nat) : List UInt8 → Port → Option Port
  | [],port => some port
  | byte :: rest,port => do
    let room ← poll (readTfc pace) (fun level => decide (level < fifoCapacity)) polls port
    blockingWriteAll polls rest (writeThr pace room byte)

def blockingFlush (polls : Nat) (port : Port) : Option Port := poll (readLsr pace) id polls port

end Operations

/-! The line. -/

/- Everything the UART has taken, in order. -/
def taken (port : Port) : List UInt8 := port.wire ++ port.shifting.toList ++ port.fifo

section Line
variable (pace : Pace)

theorem tickTaken (port : Port) : taken (tick port) = taken port := by
  unfold taken tick
  cases port.fifo <;> simp

/- What the line does by itself. -/
structure Moves (port after : Port) : Prop where
  taken : taken after = taken port
  lost : after.lost = port.lost
  fifo : after.fifo.length ≤ port.fifo.length
  wire : port.wire <+: after.wire

theorem movesRefl (port : Port) : Moves port port := ⟨rfl,rfl,Nat.le_refl _,List.prefix_rfl⟩

theorem movesTrans {port middle after : Port} (first : Moves port middle) (second : Moves middle after) : Moves port after :=
  ⟨second.taken.trans first.taken,second.lost.trans first.lost,Nat.le_trans second.fifo first.fifo,first.wire.trans second.wire⟩

theorem tickMoves (port : Port) : Moves port (tick port) := by
  refine ⟨tickTaken port,rfl,?_,List.prefix_append _ _⟩
  show port.fifo.tail.length ≤ _
  rw [List.length_tail]
  omega

theorem passedMoves (ticks : Nat) (port : Port) : Moves port (passed ticks port) := by
  induction ticks generalizing port with
  | zero => exact movesRefl port
  | succ ticks ih => exact movesTrans (tickMoves port) (ih (tick port))

theorem accessMoves (port : Port) : Moves port (access pace port) :=
  have moved := passedMoves (pace.ticks port.accesses) port
  ⟨moved.taken,moved.lost,moved.fifo,moved.wire⟩

/-! How far the line still has to go. -/

def backlog (port : Port) : Nat := 2 * port.fifo.length + port.shifting.toList.length

theorem tickBacklog (port : Port) : backlog (tick port) ≤ backlog port - 1 := by
  unfold backlog tick
  cases port.fifo with
  | nil => exact Nat.zero_le _
  | cons byte rest =>
    simp only [List.tail_cons,List.head?_cons,Option.toList_some,List.length_cons,List.length_nil]
    omega

theorem passedBacklog (ticks : Nat) (port : Port) : backlog (passed ticks port) ≤ backlog port - ticks := by
  induction ticks generalizing port with
  | zero => exact Nat.le_refl _
  | succ ticks ih =>
    have first := tickBacklog port
    have rest := ih (tick port)
    unfold passed
    omega

theorem emptyBacklog {port : Port} (done : backlog port = 0) : port.fifo = [] ∧ port.shifting = none := by
  unfold backlog at done
  refine ⟨List.length_eq_zero_iff.mp (by omega),?_⟩
  cases shifting : port.shifting with
  | none => rfl
  | some byte =>
    rw [shifting] at done
    simp at done

/- Sooner or later an access finds less to do. -/
theorem draining (port : Port) {P : Port → Prop} (busy : 0 < backlog port)
    (less : ∀ after, backlog after < backlog port → P after) (waits : ∀ after, P (access pace after) → P after) : P port := by
  obtain ⟨j,ahead,moves⟩ := pace.fair port.accesses
  generalize gap : j - port.accesses = distance
  induction distance generalizing port with
  | zero =>
    have here : j = port.accesses := by omega
    refine waits port (less _ ?_)
    have drained := passedBacklog (pace.ticks port.accesses) port
    rw [here] at moves
    show backlog (passed (pace.ticks port.accesses) port) < _
    omega
  | succ distance ih =>
    refine waits port ?_
    have same := passedBacklog (pace.ticks port.accesses) port
    by_cases idle_ : 0 < backlog (access pace port)
    · refine ih (access pace port) idle_ (fun after fewer => less after ?_) ?_ ?_
      · exact Nat.lt_of_lt_of_le fewer (Nat.le_trans same (Nat.sub_le _ _))
      · show port.accesses + 1 ≤ j
        omega
      · show j - (port.accesses + 1) = distance
        omega
    · exact less _ (by omega)

/- So a loop that would end at rest ends. -/
theorem fairEnds {α : Type} {look : Port → α × Port} {stop : α → Bool} {pace : Pace}
    (looks : ∀ port, (look port).2 = access pace port)
    (rest : ∀ port, backlog port = 0 → stop (look port).1 = true) (port : Port) : Ends look stop port := by
  generalize size : backlog port = n
  induction n using Nat.strongRecOn generalizing port with
  | _ n ih =>
    by_cases busy : 0 < backlog port
    · exact draining pace port busy (fun after fewer => ih _ (size ▸ fewer) after rfl) fun after more => .later (looks after ▸ more)
    · exact .seen (rest port (by omega))

theorem restAccess {port : Port} (rest : backlog port = 0) :
    (access pace port).fifo = [] ∧ (access pace port).shifting = none := by
  have same := passedBacklog (pace.ticks port.accesses) port
  exact emptyBacklog (show backlog (passed (pace.ticks port.accesses) port) = 0 by omega)

end Line

/-! The operations on any port. -/

/- What the UART has been given is in it or on the wire. -/
structure Holds (given : List UInt8) (port : Port) : Prop where
  taken : taken port = given
  lost : port.lost = []
  room : port.fifo.length ≤ fifoCapacity

section Operations
variable (pace : Pace) {given : List UInt8} {port : Port}

theorem movesHolds {after : Port} (moves : Moves port after) (holds : Holds given port) : Holds given after :=
  ⟨moves.taken.trans holds.taken,moves.lost.trans holds.lost,Nat.le_trans moves.fifo holds.room⟩

theorem writeHolds (byte : UInt8) (holds : Holds given port) (room : port.fifo.length < fifoCapacity) :
    Holds (given ++ [byte]) (writeThr pace port byte) ∧
      (writeThr pace port byte).fifo.length ≤ port.fifo.length + 1 ∧ port.wire <+: (writeThr pace port byte).wire := by
  have moves := accessMoves pace port
  obtain ⟨taken_,lost,_⟩ := movesHolds moves holds
  have fits : (access pace port).fifo.length < fifoCapacity := Nat.lt_of_le_of_lt moves.fifo room
  have shorter := moves.fifo
  unfold writeThr store
  rw [if_pos fits]
  refine ⟨⟨?_,lost,?_⟩,?_,moves.wire⟩
  · rw [← taken_]
    exact (List.append_assoc ..).symm
  · show ((access pace port).fifo ++ [byte]).length ≤ _
    rw [List.length_append,List.length_singleton]
    omega
  · show ((access pace port).fifo ++ [byte]).length ≤ _
    rw [List.length_append,List.length_singleton]
    omega

theorem writesHold (buffer : List UInt8) (holds : Holds given port) (room : port.fifo.length + buffer.length ≤ fifoCapacity) :
    Holds (given ++ buffer) (buffer.foldl (writeThr pace) port) ∧ port.wire <+: (buffer.foldl (writeThr pace) port).wire := by
  induction buffer generalizing given port with
  | nil =>
    rw [List.append_nil]
    exact ⟨holds,List.prefix_rfl⟩
  | cons byte rest ih =>
    rw [List.length_cons] at room
    obtain ⟨first,fuller,wire⟩ := writeHolds pace byte holds (by omega)
    obtain ⟨all,more⟩ := ih first (by omega)
    rw [List.append_assoc] at all
    exact ⟨all,wire.trans more⟩

theorem tryHolds (buffer : List UInt8) (holds : Holds given port) :
    Holds (given ++ buffer.take (tryWrite pace buffer port).1) (tryWrite pace buffer port).2 ∧
      port.wire <+: (tryWrite pace buffer port).2.wire := by
  have moves := accessMoves pace port
  have looked := movesHolds moves holds
  have room := looked.room
  have fits : (access pace port).fifo.length +
      (buffer.take (min (fifoCapacity - (access pace port).fifo.length) buffer.length)).length ≤ fifoCapacity := by
    rw [List.length_take]
    omega
  obtain ⟨all,wire⟩ := writesHold pace _ looked fits
  exact ⟨all,moves.wire.trans wire⟩

/- Waiting for room ends, with room. -/
theorem roomSettles (holds : Holds given port) : ∃ room,
    Settles (fun polls => poll (readTfc pace) (fun level => decide (level < fifoCapacity)) polls port) room ∧
      Holds given room ∧ room.fifo.length < fifoCapacity ∧ port.wire <+: room.wire := by
  have ends : Ends (readTfc pace) (fun level => decide (level < fifoCapacity)) port :=
    fairEnds (fun _ => rfl) (fun port rest => by
      show decide ((access pace port).fifo.length < fifoCapacity) = true
      rw [(restAccess pace rest).1]
      rfl) port
  obtain ⟨room,enough,settles⟩ := settlesPoll ends
  have kept := pollKeeps (fun after => Holds given after ∧ port.wire <+: after.wire)
    (fun after => after.fifo.length < fifoCapacity)
    (fun after held => ⟨movesHolds (accessMoves pace after) held.1,held.2.trans (accessMoves pace after).wire⟩)
    (fun after _ now => of_decide_eq_true now) ⟨holds,List.prefix_rfl⟩ (settles enough (Nat.le_refl _))
  exact ⟨room,⟨enough,settles⟩,kept.1.1,kept.2,kept.1.2⟩

theorem writeAllSettles (buffer : List UInt8) (holds : Holds given port) : ∃ after,
    Settles (fun polls => blockingWriteAll pace polls buffer port) after ∧ Holds (given ++ buffer) after ∧
      port.wire <+: after.wire := by
  induction buffer generalizing given port with
  | nil =>
    rw [List.append_nil]
    exact ⟨port,settlesAlways port,holds,List.prefix_rfl⟩
  | cons byte rest ih =>
    obtain ⟨room,settles,held,free,wire⟩ := roomSettles pace holds
    obtain ⟨written,_,longer⟩ := writeHolds pace byte held free
    obtain ⟨after,rests,all,more⟩ := ih written
    rw [List.append_assoc] at all
    exact ⟨after,settlesBind settles rests,all,wire.trans (longer.trans more)⟩

theorem flushSettles (holds : Holds given port) : ∃ after,
    Settles (fun polls => blockingFlush pace polls port) after ∧ Holds given after ∧ after.wire = given ∧
      port.wire <+: after.wire := by
  have ends : Ends (readLsr pace) id port := fairEnds (fun _ => rfl) (fun port rest => by
    obtain ⟨fifo,shifting⟩ := restAccess pace rest
    show ((access pace port).fifo.isEmpty && (access pace port).shifting.isNone) = true
    rw [fifo,shifting]
    rfl) port
  obtain ⟨after,enough,settles⟩ := settlesPoll ends
  have kept := pollKeeps (fun after => Holds given after ∧ port.wire <+: after.wire)
    (fun after => after.fifo = [] ∧ after.shifting = none)
    (fun after held => ⟨movesHolds (accessMoves pace after) held.1,held.2.trans (accessMoves pace after).wire⟩)
    (fun after _ now => by
      obtain ⟨fifo,shifting⟩ := Bool.and_eq_true_iff.mp now
      exact ⟨List.isEmpty_iff.mp fifo,Option.isNone_iff_eq_none.mp shifting⟩)
    ⟨holds,List.prefix_rfl⟩ (settles enough (Nat.le_refl _))
  obtain ⟨⟨held,wire⟩,fifo,shifting⟩ := kept
  refine ⟨after,⟨enough,settles⟩,held,?_,wire⟩
  rw [← held.taken,taken,fifo,shifting,List.append_nil]
  exact (List.append_nil _).symm

end Operations

/-! Any run of calls. -/

inductive Call where
  | tryWrite (buffer : List UInt8)
  | writeAll (buffer : List UInt8)
  | flush
  | isTxIdle
  deriving DecidableEq, Repr

inductive Answer where
  | wrote (count : Nat)
  | done
  | idle (flag : Bool)
  deriving DecidableEq, Repr

def perform (pace : Pace) (polls : Nat) : Call → Port → Option (Answer × Port)
  | .tryWrite buffer,port => some (.wrote (tryWrite pace buffer port).1,(tryWrite pace buffer port).2)
  | .writeAll buffer,port => (blockingWriteAll pace polls buffer port).map fun after => (.done,after)
  | .flush,port => (blockingFlush pace polls port).map fun after => (.done,after)
  | .isTxIdle,port => some (.idle (isTxIdle pace port).1,(isTxIdle pace port).2)

abbrev Trace := List (Call × Answer)

def runCalls (pace : Pace) (polls : Nat) : List Call → Port → Option (Trace × Port)
  | [],port => some ([],port)
  | call :: rest,port => do
    let reached ← perform pace polls call port
    let ended ← runCalls pace polls rest reached.2
    some ((call,reached.1) :: ended.1,ended.2)

/- What the caller has been told was taken. -/
def accepted : Call × Answer → List UInt8
  | (.tryWrite buffer,.wrote count) => buffer.take count
  | (.writeAll buffer,_) => buffer
  | _ => []

/- The caller has been told that nothing is left. -/
def emptied : Call × Answer → Bool
  | (.flush,_) => true
  | (.isTxIdle,.idle flag) => flag
  | _ => false

/- Everything taken is under way or on the wire, in order, and nothing else; what was taken before
the caller was told that nothing is left is on the wire. -/
structure Delivered (trace : Trace) (port : Port) : Prop where
  holds : Holds (trace.flatMap accepted) port
  sent : ∀ before entry after, trace = before ++ entry :: after → emptied entry = true →
    before.flatMap accepted <+: port.wire

section Runs
variable (pace : Pace) {trace : Trace} {port : Port}

theorem deliveredNext {call : Call} {answer : Answer} {after : Port} (delivered : Delivered trace port)
    (holds : Holds (trace.flatMap accepted ++ accepted (call,answer)) after) (wire : port.wire <+: after.wire)
    (rest : emptied (call,answer) = true → after.wire = trace.flatMap accepted) :
    Delivered (trace ++ [(call,answer)]) after := by
  refine ⟨?_,fun before entry later split told => ?_⟩
  · rw [List.flatMap_append,List.flatMap_singleton]
    exact holds
  · rcases List.eq_nil_or_concat later with rfl | ⟨more,last,rfl⟩
    · obtain ⟨rfl,same⟩ := List.append_inj' split rfl
      cases same
      exact (rest told).symm ▸ List.prefix_rfl
    · have shorter : trace = before ++ entry :: more := by
        rw [List.concat_eq_append,← List.cons_append,← List.append_assoc] at split
        exact (List.append_inj' split rfl).1
      exact (delivered.sent before entry more shorter told).trans wire

theorem callDelivered (call : Call) (delivered : Delivered trace port) : ∃ answer after,
    Settles (fun polls => perform pace polls call port) (answer,after) ∧ Delivered (trace ++ [(call,answer)]) after := by
  have holds := delivered.holds
  have nothing : ∀ {after : Port}, Holds (trace.flatMap accepted) after → Holds (trace.flatMap accepted ++ []) after := by
    intro after all
    rw [List.append_nil]
    exact all
  have mapped : ∀ {f : Nat → Option Port} {answer : Answer} {after : Port}, Settles f after →
      Settles (fun polls => (f polls).map fun after => (answer,after)) (answer,after) := by
    rintro f answer after ⟨enough,settles⟩
    exact ⟨enough,fun polls many => congrArg (Option.map fun after => (answer,after)) (settles polls many)⟩
  cases call with
  | tryWrite buffer =>
    obtain ⟨all,wire⟩ := tryHolds pace buffer holds
    exact ⟨_,_,settlesAlways _,deliveredNext delivered all wire fun absent => (nomatch absent)⟩
  | writeAll buffer =>
    obtain ⟨after,settles,all,wire⟩ := writeAllSettles pace buffer holds
    exact ⟨.done,after,mapped settles,deliveredNext delivered all wire fun absent => (nomatch absent)⟩
  | flush =>
    obtain ⟨after,settles,all,rest,wire⟩ := flushSettles pace holds
    exact ⟨.done,after,mapped settles,deliveredNext delivered (nothing all) wire fun _ => rest⟩
  | isTxIdle =>
    have moves := accessMoves pace port
    have all := movesHolds moves holds
    refine ⟨_,_,settlesAlways _,deliveredNext delivered (nothing all) moves.wire fun told => ?_⟩
    obtain ⟨fifo,shifting⟩ := Bool.and_eq_true_iff.mp (show (readLsr pace port).1 = true from told)
    have whole := all.taken
    rw [taken,List.isEmpty_iff.mp fifo,Option.isNone_iff_eq_none.mp shifting,List.append_nil] at whole
    exact (List.append_nil _).symm.trans whole

theorem runDelivered (calls : List Call) (delivered : Delivered trace port) : ∃ more after,
    Settles (fun polls => runCalls pace polls calls port) (more,after) ∧ more.map Prod.fst = calls ∧
      Delivered (trace ++ more) after := by
  induction calls generalizing trace port with
  | nil =>
    rw [← List.append_nil trace] at delivered
    exact ⟨[],port,settlesAlways _,rfl,delivered⟩
  | cons call rest ih =>
    obtain ⟨answer,reached,first,next⟩ := callDelivered pace call delivered
    obtain ⟨more,after,settles,known,last⟩ := ih next
    rw [List.append_assoc] at last
    exact ⟨(call,answer) :: more,after,settlesBind first (settlesBind settles (settlesAlways _)),
      congrArg (call :: ·) known,last⟩

theorem everyRunDelivers (calls : List Call) : ∃ trace after,
    Settles (fun polls => runCalls pace polls calls idle) (trace,after) ∧ trace.map Prod.fst = calls ∧
      Delivered trace after := by
  have fresh : Delivered [] idle := by
    refine ⟨⟨rfl,rfl,Nat.zero_le _⟩,fun before entry later split _ => ?_⟩
    exact absurd split.symm (List.append_ne_nil_of_right_ne_nil _ (List.cons_ne_nil _ _))
  exact runDelivered pace calls fresh

end Runs

/- One byte is done before every third access. -/
def thirdAccess : Pace where
  ticks k := if k % 3 = 0 then 1 else 0
  fair k := ⟨3 * k,by omega,by simp⟩

def sampleCalls : List Call := [.tryWrite [1,2,3,4,5,6,7,8,9,10],.writeAll [9,10],.flush,.isTxIdle]

theorem thirdAccessDelivers :
    (runCalls thirdAccess 64 sampleCalls idle).map (fun run => (run.1.map Prod.snd,run.2.wire)) =
      some ([.wrote 8,.done,.done,.idle true],[1,2,3,4,5,6,7,8,9,10]) ∧
    ∃ trace after, Settles (fun polls => runCalls thirdAccess polls sampleCalls idle) (trace,after) ∧
      trace.map Prod.fst = sampleCalls ∧ Delivered trace after :=
  ⟨by decide +kernel,everyRunDelivers thirdAccess sampleCalls⟩

end Ch58xHal.UartTransmit
