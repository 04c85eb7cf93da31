import Ch58xHal.NorMemory

/-! A serial memory: a command is the octets shifted in while the memory is selected, and is done
when it is deselected, however far it has come by then. Nothing here knows the program. -/
namespace Ch58xHal.SerialNor
open NorMemory

inductive Signal where
  | select
  | deselect
  | shiftIn (octet : UInt8)
  | shiftOut (octet : UInt8)
  deriving DecidableEq, Repr

/- The octets that stand for the commands, and how many octets come between address and data. -/
structure Codes where
  enable : UInt8
  program : UInt8
  erase : UInt8
  read : UInt8
  dummies : Nat

def wordOf (high mid low : UInt8) : Nat := high.toNat * 2^16 + mid.toNat * 2^8 + low.toNat

/- `truthful` is a log: whether the memory has shown its contents whenever it was read. -/
structure Chip where
  bytes : Nat → UInt8
  enabled : Bool
  frame : Option (List UInt8)
  answered : Nat
  truthful : Bool

section Chip
variable (codes : Codes) (page : Nat)

def decode : List UInt8 → Option Command
  | code :: high :: mid :: low :: data =>
    if code = codes.program then some (.program (wordOf high mid low) data)
    else if code = codes.erase ∧ data = [] then some (.erase (wordOf high mid low))
    else none
  | _ => none

/- What a command has to be told first is told once. -/
def complete (chip : Chip) : Chip :=
  match chip.frame with
  | none => chip
  | some octets =>
    if octets = [codes.enable] then { chip with enabled := true,frame := none }
    else match decode codes octets with
      | none => { chip with frame := none }
      | some command =>
        if chip.enabled then { chip with bytes := command.apply page chip.bytes,enabled := false,frame := none }
        else { chip with frame := none }

/- The contents from the address on, octet by octet. -/
def answer (chip : Chip) : Option UInt8 :=
  match chip.frame with
  | some (code :: high :: mid :: low :: rest) =>
    if code = codes.read ∧ rest.length = codes.dummies then some (chip.bytes (wordOf high mid low + chip.answered))
    else none
  | _ => none

def step (chip : Chip) : Signal → Chip
  | .select => { chip with frame := some [],answered := 0 }
  | .deselect => complete codes page chip
  | .shiftIn octet => { chip with frame := chip.frame.map (· ++ [octet]) }
  | .shiftOut octet =>
    { chip with
      answered := chip.answered + 1
      truthful := chip.truthful && (answer codes chip).all (· == octet) }

def run (chip : Chip) (signals : List Signal) : Chip := signals.foldl (step codes page) chip

end Chip

variable {codes : Codes} {page : Nat} {chip : Chip}

/- What is known of the memory: its contents, what has been shifted in, whether it has been told
to accept a command, and what follows if it has been truthful. -/
structure At (bytes : Nat → UInt8) (frame : Option (List UInt8)) (armed : Bool) (fact : Prop) (chip : Chip) : Prop where
  bytes : chip.bytes = bytes
  frame : chip.frame = frame
  armed : armed = true → chip.enabled = true
  told : chip.truthful = true → fact

section Rules
variable {bytes : Nat → UInt8} {octets : List UInt8} {octet : UInt8} {armed : Bool} {fact : Prop}

theorem less {frame : Option (List UInt8)} (at_ : At bytes frame armed fact chip) : At bytes frame false fact chip :=
  ⟨at_.bytes,at_.frame,fun absent => (nomatch absent),at_.told⟩

theorem tells {frame : Option (List UInt8)} {fact' : Prop} (at_ : At bytes frame armed fact chip) (follows : fact → fact') :
    At bytes frame armed fact' chip := ⟨at_.bytes,at_.frame,at_.armed,fun truthful => follows (at_.told truthful)⟩

theorem idleDeselects (at_ : At bytes none armed fact chip) : At bytes none armed fact (step codes page chip .deselect) := by
  unfold step complete
  simp only [at_.frame]
  exact at_

theorem selects (at_ : At bytes none armed fact chip) : At bytes (some []) armed fact (step codes page chip .select) :=
  ⟨at_.bytes,rfl,at_.armed,at_.told⟩

theorem shiftsIn (at_ : At bytes (some octets) armed fact chip) :
    At bytes (some (octets ++ [octet])) armed fact (step codes page chip (.shiftIn octet)) :=
  ⟨at_.bytes,by unfold step; simp only [at_.frame,Option.map_some],at_.armed,at_.told⟩

/- What is shifted out is what the memory has to show, if it has been truthful. -/
theorem shiftsOut (at_ : At bytes (some octets) armed fact chip) :
    At bytes (some octets) armed (fact ∧ ∀ shown, answer codes chip = some shown → octet = shown)
      (step codes page chip (.shiftOut octet)) := by
  refine ⟨at_.bytes,at_.frame,at_.armed,fun truthful => ?_⟩
  obtain ⟨before,here⟩ := Bool.and_eq_true_iff.mp truthful
  refine ⟨at_.told before,fun shown answered => ?_⟩
  rw [answered,Option.all_some,beq_iff_eq] at here
  exact here.symm

/- A frame that is no command does nothing. -/
theorem nothingDone (at_ : At bytes (some octets) armed fact chip) (none_ : decode codes octets = none) :
    At bytes none armed fact (step codes page chip .deselect) := by
  unfold step complete
  simp only [at_.frame,none_]
  split
  · exact ⟨at_.bytes,rfl,fun _ => rfl,at_.told⟩
  · exact ⟨at_.bytes,rfl,at_.armed,at_.told⟩

theorem enables (at_ : At bytes (some [codes.enable]) armed fact chip) :
    At bytes none true fact (step codes page chip .deselect) := by
  unfold step complete
  simp only [at_.frame]
  exact ⟨at_.bytes,rfl,fun _ => rfl,at_.told⟩

theorem commandDone {command : Command} (at_ : At bytes (some octets) true fact chip)
    (decoded : decode codes octets = some command) :
    At (command.apply page bytes) none false fact (step codes page chip .deselect) := by
  have other : octets ≠ [codes.enable] := by
    rintro rfl
    cases decoded
  unfold step complete
  simp only [at_.frame,if_neg other,decoded,at_.armed rfl,if_true]
  exact ⟨by rw [at_.bytes],rfl,fun absent => (nomatch absent),at_.told⟩

theorem programDecoded (high mid low : UInt8) (data : List UInt8) :
    decode codes (codes.program :: high :: mid :: low :: data) = some (.program (wordOf high mid low) data) := if_pos rfl

theorem eraseDecoded (distinct : codes.erase ≠ codes.program) (high mid low : UInt8) :
    decode codes [codes.erase,high,mid,low] = some (.erase (wordOf high mid low)) :=
  (if_neg distinct).trans (if_pos ⟨rfl,rfl⟩)

end Rules

end Ch58xHal.SerialNor
