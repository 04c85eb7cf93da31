import Ch58xHal.Routines
import Mathlib.Data.List.GetD
import Mathlib.Logic.Function.Basic

/-! A memory that programming can only clear bits of, page by page, and that erasing a page
sets. The commands come one after another and any of them may fail, which leaves the memory as
it was. Nothing here knows the program. -/
namespace Ch58xHal.NorMemory
open Routines

inductive Command where
  | program (address : Nat) (data : List UInt8)
  | erase (address : Nat)
  deriving DecidableEq, Repr

section Bytes
variable (page : Nat)

-- Past the end of a page comes its start.
def nextInPage (address : Nat) : Nat := address / page * page + (address % page + 1) % page

def programmed : List UInt8 → Nat → (Nat → UInt8) → Nat → UInt8
  | [],_,bytes => bytes
  | byte :: rest,address,bytes =>
    programmed rest (nextInPage page address) (Function.update bytes address (bytes address &&& byte))

def erased (address : Nat) (bytes : Nat → UInt8) : Nat → UInt8 :=
  fun a => if a / page = address / page then 0xff else bytes a

def Command.apply : Command → (Nat → UInt8) → Nat → UInt8
  | .program address data,bytes => programmed page data address bytes
  | .erase address,bytes => erased page address bytes

end Bytes

/- Programming without pages. -/
def overlay (data : List UInt8) (base : Nat) (bytes : Nat → UInt8) : Nat → UInt8 :=
  fun a => if base ≤ a ∧ a < base + data.length then bytes a &&& data.getD (a - base) 0 else bytes a

theorem overlayNil (base : Nat) (bytes : Nat → UInt8) : overlay [] base bytes = bytes := by
  funext a
  exact if_neg fun inside => absurd inside.2 (Nat.not_lt.mpr inside.1)

theorem overlayAppend (first second : List UInt8) (base : Nat) (bytes : Nat → UInt8) :
    overlay second (base + first.length) (overlay first base bytes) = overlay (first ++ second) base bytes := by
  funext a
  simp only [overlay,List.length_append]
  by_cases low : base ≤ a ∧ a < base + first.length
  · rw [if_neg (by omega),if_pos low,if_pos (by omega),List.getD_append _ _ _ _ (by omega)]
  · rw [if_neg low]
    by_cases high : base + first.length ≤ a ∧ a < base + first.length + second.length
    · rw [if_pos high,if_pos (by omega),List.getD_append_right _ _ _ _ (by omega)]
      congr 2
      omega
    · rw [if_neg high,if_neg (by omega)]

/- Inside a page programming does not come around. -/
theorem programmedInside {page : Nat} (data : List UInt8) {address : Nat} (bytes : Nat → UInt8)
    (inside : address % page + data.length ≤ page) :
    programmed page data address bytes = overlay data address bytes := by
  induction data generalizing address bytes with
  | nil => exact (overlayNil _ _).symm
  | cons byte rest ih =>
    rw [List.length_cons] at inside
    have here : Function.update bytes address (bytes address &&& byte) = overlay [byte] address bytes := by
      funext a
      by_cases same : a = address
      · subst same
        simp [overlay]
      · have outside : ¬(address ≤ a ∧ a < address + 1) := by omega
        rw [Function.update_of_ne same]
        exact (if_neg outside).symm
    have joined := overlayAppend [byte] rest address bytes
    rw [programmed,here]
    cases rest with
    | nil => rfl
    | cons more rest =>
      have next : nextInPage page address = address + 1 := by
        rw [List.length_cons] at inside
        have whole := Nat.div_add_mod address page
        rw [nextInPage,Nat.mod_eq_of_lt (show address % page + 1 < page by omega),Nat.mul_comm]
        omega
      have later : (address + 1) % page + (more :: rest).length ≤ page := by
        rw [List.length_cons] at inside ⊢
        rw [← Nat.mod_add_mod,Nat.mod_eq_of_lt (show address % page + 1 < page by omega)]
        omega
      rw [next,ih _ later]
      exact joined

/-! Commands that lay data out from an address on, each inside a page. -/

inductive Span (page limit : Nat) : Nat → List Command → List UInt8 → Prop where
  | nil (base) : Span page limit base [] []
  | cons {base data rest more} (some : data ≠ []) (short : data.length ≤ limit)
      (inside : base % page + data.length ≤ page) (next : Span page limit (base + data.length) rest more) :
      Span page limit base (.program base data :: rest) (data ++ more)

section Span
variable {page limit base : Nat} {commands done rest : List Command} {data : List UInt8}

theorem spanApplied (span : Span page limit base commands data) (bytes : Nat → UInt8) :
    commands.foldl (fun bytes command => command.apply page bytes) bytes = overlay data base bytes := by
  induction span generalizing bytes with
  | nil base => exact (overlayNil _ _).symm
  | cons _ _ inside _ ih =>
    rw [List.foldl_cons,ih,Command.apply,programmedInside _ _ inside]
    exact overlayAppend ..

theorem spanSplit (span : Span page limit base (done ++ rest) data) : ∃ first second, data = first ++ second ∧
    Span page limit base done first ∧ Span page limit (base + first.length) rest second := by
  induction done generalizing base data with
  | nil => exact ⟨[],data,rfl,.nil base,span⟩
  | cons command done ih =>
    cases span with
    | cons some short inside next =>
      obtain ⟨first,second,split,before,after⟩ := ih next
      refine ⟨_ ++ first,second,?_,.cons some short inside before,?_⟩
      · rw [split,List.append_assoc]
      · rw [List.length_append,← Nat.add_assoc]
        exact after

theorem spanEach (span : Span page limit base commands data) : ∀ command ∈ commands,
    ∃ address chunk, command = .program address chunk ∧ chunk ≠ [] ∧ chunk.length ≤ limit ∧
      address % page + chunk.length ≤ page ∧ base ≤ address ∧ address + chunk.length ≤ base + data.length := by
  induction span with
  | nil => exact fun _ absent => (nomatch absent)
  | cons some short inside next ih =>
    intro command member
    rcases List.mem_cons.mp member with here | there
    · refine ⟨_,_,here,some,short,inside,Nat.le_refl _,?_⟩
      rw [List.length_append]
      omega
    · obtain ⟨address,chunk,same,nonempty,small,page,low,high⟩ := ih command there
      refine ⟨address,chunk,same,nonempty,small,page,by omega,?_⟩
      rw [List.length_append]
      omega

end Span

theorem erasedPages {page : Nat} (positive : 0 < page) (pages : Nat) {base : Nat} (aligned : base % page = 0)
    (bytes : Nat → UInt8) :
    ((List.range' base pages page).map Command.erase).foldl (fun bytes command => command.apply page bytes) bytes =
      fun a => if base ≤ a ∧ a < base + pages * page then 0xff else bytes a := by
  induction pages generalizing base bytes with
  | zero =>
    funext a
    exact (if_neg (by omega)).symm
  | succ pages ih =>
    have next : (base + page) % page = 0 := by rw [Nat.add_mod_right,aligned]
    rw [List.range'_succ,List.map_cons,List.foldl_cons,ih next]
    funext a
    have whole : page * (base / page) = base := Nat.mul_div_cancel' (Nat.dvd_of_mod_eq_zero aligned)
    have own : a / page = base / page ↔ base ≤ a ∧ a < base + page := by
      rw [Nat.div_eq_iff positive,Nat.mul_comm (base / page),whole]
      omega
    have more : (pages + 1) * page = pages * page + page := Nat.succ_mul ..
    simp only [Command.apply,erased,own,more]
    generalize pages * page = later
    by_cases here : base ≤ a ∧ a < base + page
    · rw [if_neg (by omega),if_pos here,if_pos (by omega)]
    · by_cases there : base + page ≤ a ∧ a < base + page + later
      · rw [if_pos there,if_pos (by omega)]
      · rw [if_neg there,if_neg here,if_neg (by omega)]

/-! Runs. `faults` is what each of the following commands fails with, if it does. -/

structure Memory (ε : Type) where
  bytes : Nat → UInt8
  faults : Nat → Option ε
  issued : List Command

variable {ε : Type}

def issue (page : Nat) (command : Command) : Routine ε (Memory ε) PUnit := do
  let memory ← get
  let faults := fun k => memory.faults (k + 1)
  let issued := memory.issued ++ [command]
  match memory.faults 0 with
  | some error =>
    set (Memory.mk memory.bytes faults issued)
    throw error
  | none => set (Memory.mk (command.apply page memory.bytes) faults issued)

/- The commands up to the first that fails have been done, and that one has been tried. -/
structure Attempt (page : Nat) (memory : Memory ε) (done rest : List Command) (outcome : Except ε PUnit)
    (after : Memory ε) : Prop where
  bytes : after.bytes = done.foldl (fun bytes command => command.apply page bytes) memory.bytes
  issued : after.issued = memory.issued ++ (done ++ rest.take 1)
  accepted : ∀ k < done.length, memory.faults k = none
  outcome : rest = [] ∧ outcome = .ok ⟨⟩ ∨ ∃ error, rest ≠ [] ∧ memory.faults done.length = some error ∧ outcome = .error error

theorem issuedAll (page : Nat) (commands : List Command) (memory : Memory ε) : ∃ done rest, commands = done ++ rest ∧
    Attempt page memory done rest (result (forM commands (issue page)) memory).1
      (result (forM commands (issue page)) memory).2 := by
  induction commands generalizing memory with
  | nil => exact ⟨[],[],rfl,⟨rfl,(List.append_nil _).symm,fun _ absent => (nomatch absent),.inl ⟨rfl,rfl⟩⟩⟩
  | cons command rest ih =>
    rw [List.forM_cons]
    cases fault : memory.faults 0 with
    | some error =>
      have failed : result (issue page command) memory = (.error error,
          ⟨memory.bytes,fun k => memory.faults (k + 1),memory.issued ++ [command]⟩) := by
        rw [issue,bindOk (resultGet memory)]
        simp only [fault]
        rfl
      rw [bindError failed]
      exact ⟨[],command :: rest,rfl,⟨rfl,rfl,fun _ absent => (nomatch absent),
        .inr ⟨error,List.cons_ne_nil _ _,fault,rfl⟩⟩⟩
    | none =>
      have worked : result (issue page command) memory = (.ok ⟨⟩,
          ⟨command.apply page memory.bytes,fun k => memory.faults (k + 1),memory.issued ++ [command]⟩) := by
        rw [issue,bindOk (resultGet memory)]
        simp only [fault]
        rfl
      rw [bindOk worked]
      obtain ⟨done,left,split,bytes,issued,accepted,outcome⟩ := ih
        ⟨command.apply page memory.bytes,fun k => memory.faults (k + 1),memory.issued ++ [command]⟩
      refine ⟨command :: done,left,by rw [split]; rfl,⟨bytes,?_,?_,outcome⟩⟩
      · rw [issued,List.append_assoc]
        rfl
      · intro k below
        cases k with
        | zero => exact fault
        | succ k => exact accepted k (Nat.lt_of_succ_lt_succ below)

end Ch58xHal.NorMemory
