import Ch58xHal.Machines
import Ch58xHal.Routines

/-! Reading the UART. The line status shows the flags of the oldest received entry and reading
the receive buffer drops it, while more entries may arrive before any look at the status. -/
namespace Ch58xHal.UartReceive
open Machines Routines

inductive Error where
  | overrun | parity | framing | breakCondition
  deriving DecidableEq, Repr

structure Entry where
  byte : UInt8
  parErr : Bool
  frameErr : Bool
  breakErr : Bool
  deriving DecidableEq, Repr

/- `wire` is what arrives before each of the following looks at the line status; `popped` is a
log for the proofs: what the current call has read from the receive buffer. -/
structure Port where
  fifo : List Entry
  wire : List (List Entry)
  popped : List Entry
  deriving DecidableEq

structure LineStatus where
  overErr : Bool
  parErr : Bool
  frameErr : Bool
  breakErr : Bool
  dataRdy : Bool

def readLsr : Routine Error Port LineStatus := do
  modify fun port => { port with fifo := port.fifo ++ port.wire.headD [], wire := port.wire.tail }
  let port ← get
  match port.fifo with
  | [] => pure ⟨false,false,false,false,false⟩
  -- an overrun belongs to no entry
  | head :: _ => pure ⟨false,head.parErr,head.frameErr,head.breakErr,true⟩

def readRbr : Routine Error Port UInt8 := do
  let port ← get
  match port.fifo with
  | [] => pure 0
  | head :: rest =>
    set { port with fifo := rest, popped := port.popped ++ [head] }
    pure head.byte

def LineStatus.error (status : LineStatus) : Option Error :=
  if status.overErr then some .overrun
  else if status.parErr then some .parity
  else if status.frameErr then some .framing
  else if status.breakErr then some .breakCondition
  else none

def receiveByte : Routine Error Port (Option UInt8) := do
  let status ← readLsr
  match status.error with
  | some error =>
    if status.dataRdy then
      let _ ← readRbr
    throw error
  | none =>
    if status.dataRdy then
      let byte ← readRbr
      pure (some byte)
    else pure none

-- The room left in the buffer, and the bytes stored in it so far.
def readAvailable : Nat → List UInt8 → Routine Error Port (List UInt8)
  | 0,stored => pure stored
  | room+1,stored => do
    match ← receiveByte with
    | some byte => readAvailable room (stored ++ [byte])
    | none => pure stored

def tryRead (size : Nat) : Routine Error Port (List UInt8) := readAvailable size []

-- `none` after so many polls without a byte.
def poll (size : Nat) : Nat → Routine Error Port (Option (List UInt8))
  | 0 => pure none
  | polls+1 => do
    let stored ← readAvailable size []
    if stored.length ≠ 0 then pure (some stored) else poll size polls

/- Also the `read` of the embedded-io trait. One poll more than anything arrives for: a call that is
still polling then never returns. -/
def blockingRead (size : Nat) : Routine Error Port (Option (List UInt8)) := do
  if size = 0 then pure (some [])
  else
    let port ← get
    poll size (port.wire.length + 1)

/-! One look. -/

def Entry.error (entry : Entry) : Option Error :=
  if entry.parErr then some .parity
  else if entry.frameErr then some .framing
  else if entry.breakErr then some .breakCondition
  else none

/- The entries that the next looks find, up to the first that finds none. -/
def found (fifo : List Entry) : List (List Entry) → List Entry
  | [] => fifo
  | arrived :: wire =>
    match fifo ++ arrived with
    | [] => []
    | head :: rest => head :: found rest wire

theorem foundEmpty {fifo : List Entry} {wire : List (List Entry)} (empty : fifo ++ wire.headD [] = []) :
    found fifo wire = [] := by
  cases wire with
  | nil => simpa [found] using empty
  | cons arrived wire =>
    have none : fifo ++ arrived = [] := empty
    rw [found,none]

theorem foundHead {fifo rest : List Entry} {wire : List (List Entry)} {head : Entry}
    (waiting : fifo ++ wire.headD [] = head :: rest) : found fifo wire = head :: found rest wire.tail := by
  cases wire with
  | nil => simpa [found] using waiting
  | cons arrived wire =>
    have some : fifo ++ arrived = head :: rest := waiting
    rw [found,some]
    rfl

def statusOf : List Entry → LineStatus
  | [] => ⟨false,false,false,false,false⟩
  | head :: _ => ⟨false,head.parErr,head.frameErr,head.breakErr,true⟩

theorem lsrLook (port : Port) : result readLsr port =
    (.ok (statusOf (port.fifo ++ port.wire.headD [])),
      ⟨port.fifo ++ port.wire.headD [],port.wire.tail,port.popped⟩) := by
  unfold readLsr
  rw [resultBind]
  simp only [resultModify]
  rw [resultBind]
  simp only [resultGet]
  cases port.fifo ++ port.wire.headD [] <;> rfl

theorem receiveEmpty {port : Port} (empty : port.fifo ++ port.wire.headD [] = []) :
    result receiveByte port = (.ok none,⟨[],port.wire.tail,port.popped⟩) := by
  unfold receiveByte
  rw [bindOk (lsrLook port),empty]
  rfl

theorem receiveHead {port : Port} {head : Entry} {rest : List Entry}
    (waiting : port.fifo ++ port.wire.headD [] = head :: rest) :
    result receiveByte port =
      (match head.error with | some error => .error error | none => .ok (some head.byte),
        ⟨rest,port.wire.tail,port.popped ++ [head]⟩) := by
  have shown : (statusOf (head :: rest)).error = head.error := rfl
  unfold receiveByte
  rw [bindOk (lsrLook port),waiting,shown]
  cases head.error <;> rfl

/-! One pass over the FIFO. What it drops ends with the first bad entry, and the bytes before that
entry are lost with its error. -/

def dropped : List Entry → List Entry
  | [] => []
  | head :: rest => if head.error = none then head :: dropped rest else [head]

def verdict (stored : List UInt8) : List Entry → Except Error (List UInt8)
  | [] => .ok stored
  | head :: rest =>
    match head.error with
    | some error => .error error
    | none => verdict (stored ++ [head.byte]) rest

theorem passExact (room : Nat) (stored : List UInt8) (port : Port) :
    (result (readAvailable room stored) port).1 = verdict stored ((found port.fifo port.wire).take room) ∧
    (result (readAvailable room stored) port).2.popped =
      port.popped ++ dropped ((found port.fifo port.wire).take room) := by
  induction room generalizing stored port with
  | zero => simp [readAvailable,verdict,dropped]
  | succ room ih =>
    rw [readAvailable]
    cases looked : port.fifo ++ port.wire.headD [] with
    | nil =>
      rw [bindOk (receiveEmpty looked),foundEmpty looked]
      simp [verdict,dropped]
    | cons head rest =>
      have next := receiveHead looked
      rw [foundHead looked,List.take_succ_cons,verdict,dropped]
      cases bad : head.error with
      | some error =>
        rw [bad] at next
        rw [bindError next]
        simp
      | none =>
        rw [bad] at next
        rw [bindOk next]
        obtain ⟨outcome,popped⟩ := ih (stored ++ [head.byte]) ⟨rest,port.wire.tail,port.popped ++ [head]⟩
        refine ⟨outcome,popped.trans ?_⟩
        rw [if_pos rfl,List.append_assoc]
        rfl

theorem verdictOk {stored bytes : List UInt8} {entries : List Entry} (read : verdict stored entries = .ok bytes) :
    (∀ entry ∈ entries, entry.error = none) ∧ bytes = stored ++ entries.map Entry.byte ∧
      dropped entries = entries := by
  induction entries generalizing stored with
  | nil =>
    cases read
    exact ⟨fun _ absent => (nomatch absent),(List.append_nil _).symm,rfl⟩
  | cons head rest ih =>
    rw [verdict] at read
    cases bad : head.error with
    | some error => rw [bad] at read; cases read
    | none =>
      rw [bad] at read
      obtain ⟨good,bytes,all⟩ := ih read
      refine ⟨List.forall_mem_cons.mpr ⟨bad,good⟩,bytes.trans ?_,?_⟩
      · rw [List.append_assoc]
        rfl
      · rw [dropped,if_pos bad,all]

theorem verdictError {stored : List UInt8} {entries : List Entry} {error : Error}
    (failed : verdict stored entries = .error error) : ∃ clean bad rest, entries = clean ++ bad :: rest ∧
      (∀ entry ∈ clean, entry.error = none) ∧ bad.error = some error ∧ dropped entries = clean ++ [bad] := by
  induction entries generalizing stored with
  | nil => cases failed
  | cons head rest ih =>
    rw [verdict] at failed
    cases bad : head.error with
    | some error =>
      rw [bad] at failed
      cases failed
      refine ⟨[],head,rest,rfl,fun _ absent => (nomatch absent),bad,?_⟩
      rw [dropped,bad,if_neg (by simp)]
      rfl
    | none =>
      rw [bad] at failed
      obtain ⟨clean,last,others,split,good,blamed,drops⟩ := ih failed
      refine ⟨head :: clean,last,others,by rw [split]; rfl,List.forall_mem_cons.mpr ⟨bad,good⟩,blamed,?_⟩
      rw [dropped,if_pos bad,drops]
      rfl

/-! A blocking read passes over the FIFO until something has arrived. -/

def awaited (fifo : List Entry) (wire : List (List Entry)) : List (List Entry) :=
  if fifo = [] then wire.dropWhile (fun arrived => arrived = []) else wire

theorem pollFound {size polls : Nat} (some : 0 < size) {port : Port} (waiting : found port.fifo port.wire ≠ []) :
    (result (poll size (polls + 1)) port).1 =
      (verdict [] ((found port.fifo port.wire).take size)).map Option.some ∧
    (result (poll size (polls + 1)) port).2.popped =
      port.popped ++ dropped ((found port.fifo port.wire).take size) := by
  obtain ⟨outcome,popped⟩ := passExact size [] port
  rw [poll]
  rcases ran : result (readAvailable size []) port with ⟨read,after⟩
  rw [ran] at outcome popped
  cases read with
  | error error =>
    rw [bindError ran,← outcome]
    exact ⟨rfl,popped⟩
  | ok stored =>
    have bytes := (verdictOk outcome.symm).2.1
    have positive : stored.length ≠ 0 := by
      rw [bytes,List.nil_append,List.length_map]
      intro zero
      rcases List.take_eq_nil_iff.mp (List.length_eq_zero_iff.mp zero) with small | none
      · omega
      · exact waiting none
    rw [bindOk ran,if_pos positive,← outcome]
    exact ⟨rfl,popped⟩

theorem pollEmpty {size polls : Nat} {port : Port} (empty : port.fifo ++ port.wire.headD [] = []) :
    result (poll (size + 1) (polls + 1)) port = result (poll (size + 1) polls) ⟨[],port.wire.tail,port.popped⟩ := by
  have pass : result (readAvailable (size + 1) []) port = (.ok [],⟨[],port.wire.tail,port.popped⟩) := by
    rw [readAvailable,bindOk (receiveEmpty empty)]
    rfl
  rw [poll,bindOk pass]
  rfl

theorem awaitedFound {fifo rest : List Entry} {wire : List (List Entry)} {head : Entry}
    (waiting : fifo ++ wire.headD [] = head :: rest) : awaited fifo wire = wire := by
  unfold awaited
  split
  · rename_i empty
    cases wire with
    | nil => rfl
    | cons arrived wire =>
      have some : arrived ≠ [] := by
        rintro rfl
        rw [empty] at waiting
        cases waiting
      rw [List.dropWhile_cons_of_neg (by simpa using some)]
  · rfl

theorem awaitedEmpty {fifo : List Entry} {wire : List (List Entry)} (empty : fifo ++ wire.headD [] = []) :
    awaited fifo wire = awaited [] wire.tail := by
  obtain ⟨rfl,none⟩ := List.append_eq_nil_iff.mp empty
  unfold awaited
  cases wire with
  | nil => rfl
  | cons arrived wire =>
    rw [if_pos rfl,if_pos rfl,List.dropWhile_cons_of_pos (by simpa using none)]
    rfl

theorem pollExact {size : Nat} (positive : 0 < size) (polls : Nat) (port : Port)
    (enough : port.wire.length < polls ∨ port.fifo = [] ∧ port.wire.length ≤ polls) :
    (result (poll size polls) port).1 =
      (if (found port.fifo (awaited port.fifo port.wire)).take size = [] then .ok none
        else (verdict [] ((found port.fifo (awaited port.fifo port.wire)).take size)).map some) ∧
    (result (poll size polls) port).2.popped =
      port.popped ++ dropped ((found port.fifo (awaited port.fifo port.wire)).take size) := by
  induction polls generalizing port with
  | zero =>
    obtain ⟨fifo,wire,popped⟩ := port
    obtain ⟨rfl,short⟩ := enough.resolve_left (Nat.not_lt_zero _)
    obtain rfl : wire = [] := List.length_eq_zero_iff.mp (Nat.le_zero.mp short)
    simp [poll,awaited,found,dropped]
  | succ polls ih =>
    cases looked : port.fifo ++ port.wire.headD [] with
    | nil =>
      obtain ⟨more,rfl⟩ := Nat.exists_eq_add_one.mpr positive
      have shorter : port.wire.tail.length ≤ polls := by
        rw [List.length_tail]
        omega
      have later := ih ⟨[],port.wire.tail,port.popped⟩ (.inr ⟨rfl,shorter⟩)
      obtain ⟨none,_⟩ := List.append_eq_nil_iff.mp looked
      rw [pollEmpty looked,awaitedEmpty looked,none]
      exact later
    | cons head rest =>
      have waiting : found port.fifo port.wire ≠ [] := by
        rw [foundHead looked]
        exact List.cons_ne_nil _ _
      have nonempty : (found port.fifo port.wire).take size ≠ [] := fun none =>
        (List.take_eq_nil_iff.mp none).elim (fun zero => Nat.ne_of_gt positive zero) waiting
      rw [awaitedFound looked,if_neg nonempty]
      exact pollFound positive waiting

/-! Calls. -/

inductive Call where
  | tryRead (size : Nat)
  | blockingRead (size : Nat)
  deriving DecidableEq, Repr

def Call.size : Call → Nat
  | .tryRead size | .blockingRead size => size

/- What a call answers, what it has dropped from the FIFO, and for the conditions what it finds
there. A blocking read that never returns answers nothing. -/
structure Report where
  outcome : Option (Except Error (List UInt8))
  popped : List Entry
  found : List Entry

def faced (port : Port) : Call → List Entry
  | .tryRead _ => found port.fifo port.wire
  | .blockingRead _ => found port.fifo (awaited port.fifo port.wire)

def serve (port : Port) (call : Call) : Port × Report :=
  let before : Port := { port with popped := [] }
  match call with
  | .tryRead size =>
    let (read,after) := result (tryRead size) before
    (after,⟨some read,after.popped,faced port call⟩)
  | .blockingRead size =>
    match result (blockingRead size) before with
    | (.ok none,after) => (after,⟨none,after.popped,faced port call⟩)
    | (.ok (some stored),after) => (after,⟨some (.ok stored),after.popped,faced port call⟩)
    | (.error error,after) => (after,⟨some (.error error),after.popped,faced port call⟩)

def uart : Machine Port Call Report := ⟨serve⟩

/- What a call may do, in terms of the entries it finds. -/
structure Served (call : Call) (report : Report) : Prop where
  popped : report.popped = dropped (report.found.take call.size)
  outcome : report.outcome = some (verdict [] (report.found.take call.size)) ∨
    report.outcome = none ∧ report.found.take call.size = []

theorem callServed (port : Port) (call : Call) : Served call (serve port call).2 := by
  cases call with
  | tryRead size =>
    obtain ⟨outcome,popped⟩ := passExact size [] { port with popped := [] }
    exact ⟨popped,.inl (congrArg some outcome)⟩
  | blockingRead size =>
    rcases Nat.eq_zero_or_pos size with rfl | positive
    · exact ⟨rfl,.inl rfl⟩
    · obtain ⟨outcome,popped⟩ := pollExact positive (port.wire.length + 1) { port with popped := [] }
        (.inl (Nat.lt_succ_self _))
      have entered : result (blockingRead size) { port with popped := [] } =
          result (poll size (port.wire.length + 1)) { port with popped := [] } := by
        rw [blockingRead,if_neg (Nat.ne_of_gt positive)]
        rfl
      simp only [serve,entered]
      rcases ran : result (poll size (port.wire.length + 1)) { port with popped := [] } with ⟨answer,after⟩
      rw [ran] at outcome popped
      by_cases nothing : (found port.fifo (awaited port.fifo port.wire)).take size = []
      · rw [if_pos nothing] at outcome
        cases outcome
        exact ⟨popped,.inr ⟨rfl,nothing⟩⟩
      · rw [if_neg nothing] at outcome
        cases given : verdict [] ((found port.fifo (awaited port.fifo port.wire)).take size) with
        | ok stored =>
          rw [given] at outcome
          cases outcome
          exact ⟨popped,.inl (congrArg some given.symm)⟩
        | error error =>
          rw [given] at outcome
          cases outcome
          exact ⟨popped,.inl (congrArg some given.symm)⟩

/-! Runs. -/

abbrev Past := List (Call × Report)

def answered (report : Report) : List UInt8 :=
  match report.outcome with
  | some (.ok stored) => stored
  | _ => []

def reported (past : Past) : List UInt8 := past.flatMap fun call => answered call.2

def consumed (past : Past) : List Entry := past.flatMap fun call => call.2.popped

def errorFree (entries : List Entry) : List UInt8 :=
  (entries.filter fun entry => entry.error = none).map Entry.byte

/- A failed call has dropped its bad entry only. -/
def BadOnly (report : Report) : Prop :=
  ∀ error, report.outcome = some (.error error) → ∃ bad, report.popped = [bad] ∧ bad.error = some error

/- Of the entries that fit the buffer, a bad one comes first or not at all. -/
def Spared (size : Nat) (entries : List Entry) : Prop :=
  (∀ entry ∈ entries.take size, entry.error = none) ∨ ∃ bad rest, entries.take size = bad :: rest ∧ bad.error ≠ none

theorem errorFreeGood {entries : List Entry} (good : ∀ entry ∈ entries, entry.error = none) :
    errorFree entries = entries.map Entry.byte := by
  rw [errorFree,List.filter_eq_self.mpr fun entry member => by simpa using good entry member]

theorem errorFreeAppend (first second : List Entry) :
    errorFree (first ++ second) = errorFree first ++ errorFree second := by
  rw [errorFree,List.filter_append,List.map_append]
  rfl

theorem errorFreeBad {bad : Entry} {error : Error} (blamed : bad.error = some error) : errorFree [bad] = [] := by
  simp [errorFree,blamed]

/- A call either reports everything it drops, or drops a bad entry after the good ones before it. -/
theorem servedCases {call : Call} {report : Report} (served : Served call report) :
    ((∀ entry ∈ report.found.take call.size, entry.error = none) ∧ report.popped = report.found.take call.size ∧
      answered report = report.popped.map Entry.byte ∧ ∀ error, report.outcome ≠ some (.error error)) ∨
    ∃ clean bad rest error, report.found.take call.size = clean ++ bad :: rest ∧
      (∀ entry ∈ clean, entry.error = none) ∧ bad.error = some error ∧
      report.popped = clean ++ [bad] ∧ report.outcome = some (.error error) := by
  obtain ⟨popped,outcome⟩ := served
  rcases outcome with some | ⟨none,empty⟩
  · cases given : verdict [] (report.found.take call.size) with
    | ok stored =>
      obtain ⟨good,bytes,all⟩ := verdictOk given
      rw [given] at some
      refine .inl ⟨good,popped.trans all,?_,fun error failed => ?_⟩
      · rw [popped,all,answered,some]
        exact bytes
      · rw [some] at failed
        cases failed
    | error error =>
      obtain ⟨clean,bad,rest,split,good,blamed,drops⟩ := verdictError given
      exact .inr ⟨clean,bad,rest,error,split,good,blamed,popped.trans drops,some.trans (congrArg _ given)⟩
  · have drops : report.popped = [] := by rw [popped,empty]; rfl
    refine .inl ⟨?_,drops.trans empty.symm,?_,fun error failed => ?_⟩
    · rw [empty]
      exact fun _ absent => (nomatch absent)
    · rw [drops,answered,none]
      rfl
    · rw [none] at failed
      cases failed

theorem servedSpared {call : Call} {report : Report} (served : Served call report)
    (spared : Spared call.size report.found) : answered report = errorFree report.popped ∧ BadOnly report := by
  rcases servedCases served with ⟨good,drops,bytes,fine⟩ | ⟨clean,bad,rest,error,split,good,blamed,drops,failed⟩
  · refine ⟨?_,fun error failed => absurd failed (fine error)⟩
    rw [bytes,errorFreeGood (drops ▸ good)]
  · -- the bad entry is the head
    have nothing : clean = [] := by
      rcases spared with all | ⟨first,others,head,wrong⟩
      · have fine := all bad (by rw [split]; exact List.mem_append_right _ List.mem_cons_self)
        rw [blamed] at fine
        cases fine
      · cases clean with
        | nil => rfl
        | cons entry clean =>
          rw [split] at head
          have same : entry = first := (List.cons.inj head).1
          exact absurd (same ▸ good entry List.mem_cons_self) wrong
    rw [nothing,List.nil_append] at drops
    refine ⟨?_,fun other again => ⟨bad,drops,?_⟩⟩
    · rw [answered,failed,drops,errorFreeBad blamed]
    · rw [failed] at again
      cases again
      exact blamed

theorem servedLost {call : Call} {report : Report} (served : Served call report)
    (lost : ¬Spared call.size report.found) : answered report = [] ∧ errorFree report.popped ≠ [] := by
  rcases servedCases served with ⟨good,_⟩ | ⟨clean,bad,rest,error,split,good,blamed,drops,failed⟩
  · exact absurd (.inl good) lost
  · refine ⟨by rw [answered,failed],?_⟩
    rw [drops,errorFreeAppend,errorFreeBad blamed,List.append_nil,errorFreeGood good]
    cases clean with
    | nil => exact absurd (.inr ⟨bad,rest,split,by rw [blamed]; exact Option.some_ne_none _⟩) lost
    | cons entry clean => exact List.cons_ne_nil _ _

theorem everyServed {first port : Port} {past : Past} (h : History uart first past port) :
    ∀ call ∈ past, Served call.1 call.2 := by
  induction h with
  | start => exact fun _ absent => (nomatch absent)
  | @step past s before i ih =>
    intro call member
    rcases List.mem_append.mp member with old | new
    · exact ih call old
    · rw [List.mem_singleton.mp new]
      exact callServed s i

theorem reportedBound {past : Past} (served : ∀ call ∈ past, Served call.1 call.2) :
    (reported past).length ≤ (errorFree (consumed past)).length := by
  induction past with
  | nil => exact Nat.le_refl _
  | cons call rest ih =>
    have later := ih fun other member => served other (List.mem_cons_of_mem _ member)
    have own : (answered call.2).length ≤ (errorFree call.2.popped).length := by
      by_cases spared : Spared call.1.size call.2.found
      · exact Nat.le_of_eq (congrArg List.length (servedSpared (served call List.mem_cons_self) spared).1)
      · rw [(servedLost (served call List.mem_cons_self) spared).1]
        exact Nat.zero_le _
    simp only [reported,consumed,List.flatMap_cons,errorFreeAppend,List.length_append] at later ⊢
    omega

/- A byte that one call lost is never made up for. -/
theorem reportedAll {past : Past} (served : ∀ call ∈ past, Served call.1 call.2) :
    reported past = errorFree (consumed past) ↔ ∀ call ∈ past, Spared call.1.size call.2.found := by
  induction past with
  | nil => exact ⟨fun _ _ absent => (nomatch absent),fun _ => rfl⟩
  | cons call rest ih =>
    have own := served call List.mem_cons_self
    have rests : ∀ other ∈ rest, Served other.1 other.2 := fun other member =>
      served other (List.mem_cons_of_mem _ member)
    have split : reported (call :: rest) = errorFree (consumed (call :: rest)) ↔
        answered call.2 ++ reported rest = errorFree call.2.popped ++ errorFree (consumed rest) := by
      rw [← errorFreeAppend]
      rfl
    rw [split,List.forall_mem_cons,← ih rests]
    by_cases spared : Spared call.1.size call.2.found
    · rw [(servedSpared own spared).1,List.append_cancel_left_eq]
      exact ⟨fun same => ⟨spared,same⟩,fun both => both.2⟩
    · obtain ⟨nothing,lost⟩ := servedLost own spared
      refine ⟨fun same => ?_,fun both => absurd both.1 spared⟩
      have bound := reportedBound rests
      have positive := List.length_pos_iff.mpr lost
      have lengths := congrArg List.length same
      rw [nothing,List.nil_append,List.length_append] at lengths
      omega

theorem readsExact {first port : Port} {past : Past} (h : History uart first past port) :
    (reported past = errorFree (consumed past) ∧ ∀ call ∈ past, BadOnly call.2) ↔
      ∀ call ∈ past, Spared call.1.size call.2.found := by
  have served := everyServed h
  refine ⟨fun lossless => (reportedAll served).mp lossless.1,fun spared => ⟨(reportedAll served).mpr spared,?_⟩⟩
  exact fun call member => (servedSpared (served call member) (spared call member)).2

def goodByte (byte : UInt8) : Entry := ⟨byte,false,false,false⟩
def badByte (byte : UInt8) : Entry := ⟨byte,true,false,false⟩

theorem readsExactRun :
    let ran := run uart ⟨[badByte 7,goodByte 65],[],[]⟩ [.tryRead 4,.blockingRead 4]
    (reported ran.1 = errorFree (consumed ran.1) ∧ ∀ call ∈ ran.1, BadOnly call.2) ↔
      ∀ call ∈ ran.1, Spared call.1.size call.2.found :=
  readsExact (runHistory uart _ _)

/- One read into a buffer of two drops the good byte together with the bad one behind it. -/
theorem goodByteLost :
    let ran := run uart ⟨[goodByte 65,badByte 7],[],[]⟩ [.tryRead 2]
    History uart ⟨[goodByte 65,badByte 7],[],[]⟩ ran.1 ran.2 ∧ consumed ran.1 = [goodByte 65,badByte 7] ∧
      errorFree (consumed ran.1) = [65] ∧ reported ran.1 = [] :=
  ⟨runHistory uart _ _,by decide,by decide,by decide⟩

end Ch58xHal.UartReceive
