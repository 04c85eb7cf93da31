import Ch58xHal.CheckedArithmetic
import Ch58xHal.FlashController
import Ch58xHal.NorMemory

/-! The storage window in the data flash. Writing and erasing go through the two flash commands,
which are parameters: the transactions with the controller, or a memory that answers for them. -/
namespace Ch58xHal.DataFlash
open CheckedArithmetic Routines Triples
open FlashController (Error Bus Closed ramErase ramPageProgram)
open NorMemory (Command Memory Span Attempt)

def dataFlashBase : UInt32 := 0x00070000
def dataFlashAlias : UInt32 := 0x00080000
def exposedOffset : UInt32 := 0x00006000
def capacity : Nat := 8 * 1024
def eraseSize : Nat := 256
def pageSize : Nat := 256
def scratchSize : Nat := 32

section Driver
variable {σ : Type} (erasePage : UInt32 → Routine Error σ Unit)
  (programPage : UInt32 → List UInt8 → Routine Error σ Unit)

def physical (offset : Nat) : Routine Error σ UInt32 :=
  if offset ≥ capacity then throw .outOfBounds
  else pure (dataFlashAlias ||| (dataFlashBase + exposedOffset + UInt32.ofNat offset))

def eraseAt (offset : Nat) : Routine Error σ PUnit := do
  let address ← physical offset
  erasePage address

def erase (start finish : UInt32) : Routine Error σ PUnit :=
  if start &&& 255 ≠ 0 ∨ finish &&& 255 ≠ 0 then throw .notAligned
  else if start ≥ finish ∨ finish.toNat > capacity then throw .outOfBounds
  else forM (List.range' start.toNat ((finish.toNat - start.toNat + 255) / 256) 256) (eraseAt erasePage)

def chunkLength (address left : Nat) : Nat := min (min (pageSize - address % pageSize) left) scratchSize

theorem chunkSome (address : Nat) {left : Nat} (some : 0 < left) : 0 < chunkLength address left := by
  unfold chunkLength pageSize scratchSize
  omega

-- Only the copied part of the scratch buffer is programmed.
def writeFrom (start : Nat) (data : List UInt8) (cursor : Nat) : Routine Error σ PUnit :=
  if _more : cursor < data.length then do
    let count := chunkLength (start + cursor) (data.length - cursor)
    let address ← physical (start + cursor)
    programPage address ((data.drop cursor).take count)
    writeFrom start data (cursor + count)
  else pure ⟨⟩
termination_by data.length - cursor
decreasing_by
  have := chunkSome (start + cursor) (show 0 < data.length - cursor by omega)
  omega

def write (offset : UInt32) (data : List UInt8) : Routine Error σ PUnit :=
  match unsigned 32 (offset.toNat + data.length) with
  | none => throw .outOfBounds
  | some finish => if finish > capacity then throw .outOfBounds else writeFrom programPage offset.toNat data 0

def read (readBytes : UInt32 → Nat → Routine Error σ (List UInt8)) (offset : UInt32) (length : Nat) :
    Routine Error σ (List UInt8) :=
  match unsigned 32 (offset.toNat + length) with
  | none => throw .outOfBounds
  | some finish =>
    if finish > capacity then throw .outOfBounds
    else if length = 0 then pure []
    else do
      let address ← physical offset.toNat
      readBytes address length

end Driver

/-! Every offset of the window has an address, and only addresses of the window are used. -/

def window : Nat := 0xf6000

section Commands
variable {σ : Type}

theorem physicalExact {offset : Nat} (inside : offset < capacity) :
    ∃ address : UInt32, (physical offset : Routine Error σ UInt32) = pure address ∧ address.toNat = window + offset := by
  refine ⟨dataFlashAlias ||| (dataFlashBase + exposedOffset + UInt32.ofNat offset),if_neg (Nat.not_le.mpr inside),?_⟩
  unfold capacity at inside
  have sum : (dataFlashBase + exposedOffset + UInt32.ofNat offset).toNat = 0x76000 + offset := by
    rw [UInt32.toNat_add,UInt32.toNat_ofNat']
    show (0x76000 + offset % 2^32) % 2^32 = _
    omega
  have small : 0x76000 + offset < 2^19 := by omega
  rw [UInt32.toNat_or,sum]
  show 1 <<< 19 ||| (0x76000 + offset) = _
  rw [← Nat.shiftLeft_add_eq_or_of_lt small]
  unfold window
  omega

theorem chunkInside (address left : Nat) : address % pageSize + chunkLength address left ≤ pageSize ∧
    chunkLength address left ≤ left ∧ chunkLength address left ≤ scratchSize := by
  have turn := Nat.mod_lt address (show 0 < pageSize by decide)
  unfold chunkLength
  omega

theorem writeCommands (programPage : UInt32 → List UInt8 → Routine Error σ Unit) {start : Nat} {data : List UInt8}
    (fits : start + data.length ≤ capacity) (cursor : Nat) :
    ∃ chunks : List (UInt32 × List UInt8),
      writeFrom programPage start data cursor = forM chunks (fun chunk => programPage chunk.1 chunk.2) ∧
      Span pageSize scratchSize (window + (start + cursor))
        (chunks.map fun chunk => .program chunk.1.toNat chunk.2) (data.drop cursor) := by
  generalize left : data.length - cursor = size
  induction size using Nat.strongRecOn generalizing cursor with
  | _ size ih =>
    rw [writeFrom]
    by_cases more : cursor < data.length
    · have some := chunkSome (start + cursor) (show 0 < data.length - cursor by omega)
      obtain ⟨inside,enough,short⟩ := chunkInside (start + cursor) (data.length - cursor)
      simp only [dif_pos more]
      generalize chunkLength (start + cursor) (data.length - cursor) = count at some inside enough short ⊢
      obtain ⟨address,translated,exact⟩ := physicalExact (σ := σ) (show start + cursor < capacity by omega)
      obtain ⟨chunks,loop,span⟩ := ih _ (show data.length - (cursor + count) < size by omega) (cursor + count) rfl
      have length : ((data.drop cursor).take count).length = count := by
        rw [List.length_take,List.length_drop]
        omega
      refine ⟨(address,(data.drop cursor).take count) :: chunks,?_,?_⟩
      · rw [translated,pure_bind,loop,List.forM_cons]
      · have split : data.drop cursor = (data.drop cursor).take count ++ data.drop (cursor + count) := by
          rw [← List.drop_drop,List.take_append_drop]
        have after : window + (start + cursor) + ((data.drop cursor).take count).length =
            window + (start + (cursor + count)) := by omega
        have page : (window + (start + cursor)) % pageSize = (start + cursor) % pageSize := by
          unfold window pageSize
          omega
        have nonempty : (data.drop cursor).take count ≠ [] := List.ne_nil_of_length_pos (by omega)
        have laid := Span.cons nonempty (by omega) (by omega) (after ▸ span)
        rw [← split] at laid
        rw [List.map_cons,exact]
        exact laid
    · rw [dif_neg more]
      refine ⟨[],rfl,?_⟩
      rw [List.drop_eq_nil_of_le (Nat.not_lt.mp more)]
      exact .nil _

theorem eraseCommands (erasePage : UInt32 → Routine Error σ Unit) (offsets : List Nat)
    (inside : ∀ offset ∈ offsets, offset < capacity) :
    ∃ addresses : List UInt32, forM offsets (eraseAt erasePage) = forM addresses erasePage ∧
      addresses.map UInt32.toNat = offsets.map (window + ·) := by
  induction offsets with
  | nil => exact ⟨[],rfl,rfl⟩
  | cons offset rest ih =>
    obtain ⟨address,translated,exact⟩ := physicalExact (σ := σ) (inside offset List.mem_cons_self)
    obtain ⟨addresses,loop,known⟩ := ih fun other member => inside other (List.mem_cons_of_mem _ member)
    refine ⟨address :: addresses,?_,?_⟩
    · rw [List.forM_cons,List.forM_cons,loop,eraseAt,translated,pure_bind]
    · rw [List.map_cons,List.map_cons,exact,known]

/-! The checks before the first command. -/

theorem writeRefused (programPage : UInt32 → List UInt8 → Routine Error σ Unit) {offset : UInt32} {data : List UInt8}
    (beyond : capacity < offset.toNat + data.length) : write programPage offset data = throw .outOfBounds := by
  unfold write unsigned
  split
  · rfl
  · rename_i finish fits
    split at fits
    · cases fits
      exact if_pos beyond
    · cases fits

theorem writeAccepted (programPage : UInt32 → List UInt8 → Routine Error σ Unit) {offset : UInt32} {data : List UInt8}
    (inside : offset.toNat + data.length ≤ capacity) :
    write programPage offset data = writeFrom programPage offset.toNat data 0 := by
  have fits : offset.toNat + data.length < 2^32 := Nat.lt_of_le_of_lt inside (by decide)
  unfold write
  rw [unsignedFits fits]
  exact if_neg (Nat.not_lt.mpr inside)

def Accepted (start finish : UInt32) : Prop :=
  start.toNat % eraseSize = 0 ∧ finish.toNat % eraseSize = 0 ∧ start.toNat < finish.toNat ∧ finish.toNat ≤ capacity
instance (start finish) : Decidable (Accepted start finish) := by unfold Accepted; infer_instance

theorem lowBits (n : UInt32) : n &&& 255 = 0 ↔ n.toNat % eraseSize = 0 := by
  rw [← UInt32.toNat_inj,UInt32.toNat_and]
  show n.toNat &&& (2^8 - 1) = 0 ↔ _
  rw [Nat.and_two_pow_sub_one_eq_mod]
  rfl

theorem eraseRefused (erasePage : UInt32 → Routine Error σ Unit) {start finish : UInt32}
    (refused : ¬Accepted start finish) : ∃ error, erase erasePage start finish = throw error := by
  unfold erase
  split
  · exact ⟨_,rfl⟩
  · rename_i aligned
    obtain ⟨first,last⟩ := not_or.mp aligned
    have startAligned := (lowBits start).mp (not_not.mp first)
    have finishAligned := (lowBits finish).mp (not_not.mp last)
    split
    · exact ⟨_,rfl⟩
    · rename_i bounds
      obtain ⟨order,room⟩ := not_or.mp bounds
      exact absurd ⟨startAligned,finishAligned,UInt32.not_le.mp order,Nat.not_lt.mp room⟩ refused

theorem eraseAccepted (erasePage : UInt32 → Routine Error σ Unit) {start finish : UInt32}
    (accepted : Accepted start finish) : erase erasePage start finish =
      forM (List.range' start.toNat ((finish.toNat - start.toNat) / eraseSize) eraseSize) (eraseAt erasePage) := by
  obtain ⟨startAligned,finishAligned,order,room⟩ := accepted
  have aligned : ¬(start &&& 255 ≠ 0 ∨ finish &&& 255 ≠ 0) := fun wrong => wrong.elim
    (fun first => first ((lowBits start).mpr startAligned)) (fun last => last ((lowBits finish).mpr finishAligned))
  have bounds : ¬(start ≥ finish ∨ finish.toNat > capacity) := fun wrong => wrong.elim
    (fun reversed => absurd reversed (UInt32.not_le.mpr order)) (fun beyond => absurd room (Nat.not_le.mpr beyond))
  have pages : (finish.toNat - start.toNat + 255) / 256 = (finish.toNat - start.toNat) / eraseSize := by
    unfold eraseSize at *
    omega
  rw [erase,if_neg aligned,if_neg bounds,pages]
  rfl

end Commands

/-! The commands on a memory. -/
section OnMemory

def eraseMemory (address : UInt32) : Routine Error (Memory Error) Unit :=
  NorMemory.issue pageSize (.erase address.toNat)

def programMemory (address : UInt32) (data : List UInt8) : Routine Error (Memory Error) Unit :=
  NorMemory.issue pageSize (.program address.toNat data)

/- A program of at most a scratch buffer, inside one page and inside the window. -/
def InWindow (command : Command) : Prop :=
  ∃ address chunk, command = .program address chunk ∧ 0 < chunk.length ∧ chunk.length ≤ scratchSize ∧
    address / pageSize = (address + chunk.length - 1) / pageSize ∧
    window ≤ address ∧ address + chunk.length ≤ window + capacity

/- The chunks up to the first that fails have been programmed and nothing else has. -/
def Written (memory : Memory Error) (base : Nat) (data : List UInt8) (outcome : Except Error PUnit)
    (after : Memory Error) : Prop :=
  ∃ done rest first second, data = first ++ second ∧
    Span pageSize scratchSize base done first ∧ Span pageSize scratchSize (base + first.length) rest second ∧
    (∀ command ∈ done ++ rest, InWindow command) ∧ Attempt pageSize memory done rest outcome after ∧
    after.bytes = NorMemory.overlay first base memory.bytes

theorem writeWritten (memory : Memory Error) {offset : UInt32} {data : List UInt8}
    (inside : offset.toNat + data.length ≤ capacity) :
    Written memory (window + offset.toNat) data (result (write programMemory offset data) memory).1
      (result (write programMemory offset data) memory).2 := by
  obtain ⟨chunks,loop,span⟩ := writeCommands programMemory inside 0
  have commands : write programMemory offset data =
      forM (chunks.map fun chunk => Command.program chunk.1.toNat chunk.2) (NorMemory.issue pageSize) := by
    rw [writeAccepted _ inside,loop,List.forM_map]
    rfl
  rw [Nat.add_zero,List.drop_zero] at span
  rw [commands]
  generalize chunks.map (fun chunk => Command.program chunk.1.toNat chunk.2) = all at span
  obtain ⟨done,rest,split,attempt⟩ := NorMemory.issuedAll pageSize all memory
  rw [split] at span
  obtain ⟨first,second,data,before,after⟩ := NorMemory.spanSplit span
  refine ⟨done,rest,first,second,data,before,after,fun command member => ?_,attempt,?_⟩
  · obtain ⟨address,chunk,same,some,short,page,low,high⟩ := NorMemory.spanEach span command member
    have positive := List.length_pos_iff.mpr some
    refine ⟨address,chunk,same,positive,short,?_,by omega,by omega⟩
    unfold pageSize at page ⊢
    omega
  · rw [attempt.bytes,NorMemory.spanApplied before]

/- With every chunk programmed, the whole data has been. -/
theorem writtenAll {memory after : Memory Error} {base : Nat} {data : List UInt8} {outcome : Except Error PUnit}
    (written : Written memory base data outcome after) (ok : outcome = .ok ⟨⟩) :
    after.bytes = NorMemory.overlay data base memory.bytes := by
  obtain ⟨done,rest,first,second,split,_,left,_,attempt,bytes⟩ := written
  rcases attempt.outcome with ⟨none,_⟩ | ⟨error,_,_,failed⟩
  · rw [none] at left
    cases left
    rw [bytes,split,List.append_nil]
  · rw [ok] at failed
    cases failed

/- A write that has got past its checks issues a command or has nothing to do. -/
theorem writtenIssues {memory after : Memory Error} {base : Nat} {data : List UInt8} {error : Error}
    (written : Written memory base data (.error error) after) : after.issued ≠ memory.issued := by
  obtain ⟨done,rest,_,_,_,_,_,_,attempt,_⟩ := written
  rcases attempt.outcome with ⟨_,absent⟩ | ⟨_,some,_⟩
  · cases absent
  · intro same
    have none := List.append_right_eq_self.mp (attempt.issued.symm.trans same)
    cases rest with
    | nil => exact some rfl
    | cons command rest => exact absurd (List.append_eq_nil_iff.mp none).2 (List.cons_ne_nil _ _)

def pages (base count : Nat) : List Command := (List.range' base count eraseSize).map .erase

/- The pages up to the first that fails have been erased, each of them once, and nothing else. -/
def Wiped (memory : Memory Error) (base count : Nat) (outcome : Except Error PUnit) (after : Memory Error) : Prop :=
  ∃ erased ≤ count, Attempt pageSize memory (pages base erased) ((pages base count).drop erased) outcome after ∧
    (pages base count).Nodup ∧
    after.bytes = fun a => if base ≤ a ∧ a < base + erased * eraseSize then 0xff else memory.bytes a

theorem pagesTake (base : Nat) {erased count : Nat} (fewer : erased ≤ count) :
    (pages base count).take erased = pages base erased := by
  rw [pages,← List.map_take,List.take_range'_of_length_ge fewer]
  rfl

theorem eraseWiped (memory : Memory Error) {start finish : UInt32} (accepted : Accepted start finish) :
    Wiped memory (window + start.toNat) ((finish.toNat - start.toNat) / eraseSize)
      (result (erase eraseMemory start finish) memory).1 (result (erase eraseMemory start finish) memory).2 := by
  obtain ⟨startAligned,finishAligned,order,room⟩ := id accepted
  obtain ⟨addresses,loop,known⟩ := eraseCommands eraseMemory
    (List.range' start.toNat ((finish.toNat - start.toNat) / eraseSize) eraseSize) (fun offset member => by
      obtain ⟨k,few,rfl⟩ := List.mem_range'.mp member
      unfold eraseSize at *
      omega)
  have listed : addresses.map (fun address => Command.erase address.toNat) =
      pages (window + start.toNat) ((finish.toNat - start.toNat) / eraseSize) := by
    rw [pages,← List.map_add_range',← known,List.map_map]
    rfl
  have commands : erase eraseMemory start finish =
      forM (pages (window + start.toNat) ((finish.toNat - start.toNat) / eraseSize)) (NorMemory.issue pageSize) := by
    rw [eraseAccepted _ accepted,loop,← listed,List.forM_map]
    rfl
  rw [commands]
  generalize (finish.toNat - start.toNat) / eraseSize = count
  obtain ⟨done,rest,split,attempt⟩ := NorMemory.issuedAll pageSize (pages (window + start.toNat) count) memory
  have fewer : done.length ≤ count := by
    have lengths := congrArg List.length split
    rw [pages,List.length_map,List.length_range',List.length_append] at lengths
    omega
  have first : pages (window + start.toNat) done.length = done := by
    rw [← pagesTake _ fewer,split,List.take_left]
  have later : (pages (window + start.toNat) count).drop done.length = rest := by
    rw [split,List.drop_left]
  have aligned : (window + start.toNat) % eraseSize = 0 := by
    unfold window eraseSize at *
    omega
  refine ⟨done.length,fewer,?_,?_,?_⟩
  · rw [first,later]
    exact attempt
  · have addresses : (List.range' (window + start.toNat) count eraseSize).Nodup :=
      List.nodup_range' eraseSize (by decide)
    exact List.Pairwise.map Command.erase (fun _ _ apart same => apart (Command.erase.inj same)) addresses
  · have erased := NorMemory.erasedPages (show 0 < eraseSize by decide) done.length aligned memory.bytes
    rw [attempt.bytes]
    conv => lhs; rw [← first]
    exact erased

theorem wipedAll {memory after : Memory Error} {start finish : UInt32} {outcome : Except Error PUnit}
    (accepted : Accepted start finish)
    (wiped : Wiped memory (window + start.toNat) ((finish.toNat - start.toNat) / eraseSize) outcome after)
    (ok : outcome = .ok ⟨⟩) :
    after.bytes = fun a => if window + start.toNat ≤ a ∧ a < window + finish.toNat then 0xff else memory.bytes a := by
  obtain ⟨erased,fewer,attempt,_,bytes⟩ := wiped
  obtain ⟨startAligned,finishAligned,order,_⟩ := accepted
  rcases attempt.outcome with ⟨none,_⟩ | ⟨error,_,_,failed⟩
  · have all := List.drop_eq_nil_iff.mp none
    rw [pages,List.length_map,List.length_range'] at all
    have whole : window + start.toNat + erased * eraseSize = window + finish.toNat := by
      unfold eraseSize at *
      omega
    rw [bytes,whole]
  · rw [ok] at failed
    cases failed

theorem storageExact (memory : Memory Error) (offset : UInt32) (data : List UInt8) (start finish : UInt32) :
    let written := result (write programMemory offset data) memory
    let wiped := result (erase eraseMemory start finish) memory
    ((written.1 = .error .outOfBounds ∧ written.2.issued = memory.issued) ↔ capacity < offset.toNat + data.length) ∧
    (offset.toNat + data.length ≤ capacity →
      Written memory (window + offset.toNat) data written.1 written.2 ∧
      (written.1 = .ok ⟨⟩ → written.2.bytes = NorMemory.overlay data (window + offset.toNat) memory.bytes)) ∧
    (¬Accepted start finish → ∃ error, wiped = (.error error,memory)) ∧
    (Accepted start finish →
      Wiped memory (window + start.toNat) ((finish.toNat - start.toNat) / eraseSize) wiped.1 wiped.2 ∧
      (wiped.1 = .ok ⟨⟩ → wiped.2.bytes = fun a =>
        if window + start.toNat ≤ a ∧ a < window + finish.toNat then 0xff else memory.bytes a)) := by
  refine ⟨⟨fun refused => ?_,fun beyond => ?_⟩,fun inside => ?_,fun refused => ?_,fun accepted => ?_⟩
  · by_contra inside
    have written := writeWritten memory (Nat.not_lt.mp inside)
    rw [refused.1] at written
    exact writtenIssues written refused.2
  · rw [writeRefused programMemory beyond]
    exact ⟨rfl,rfl⟩
  · exact ⟨writeWritten memory inside,writtenAll (writeWritten memory inside)⟩
  · obtain ⟨error,same⟩ := eraseRefused eraseMemory refused
    exact ⟨error,by rw [same]; rfl⟩
  · exact ⟨eraseWiped memory accepted,wipedAll accepted (eraseWiped memory accepted)⟩

end OnMemory

/-! The commands on the controller: whole calls leave the registers closed, too. -/
section OnBus
variable (config : UInt8)

theorem physicalClosed (offset : Nat) : Triple (Closed config) (physical offset)
    (fun _ => Closed config) fun _ => Closed config :=
  iteTriple (fun _ => throwTriple fun _ closed => closed) fun _ => pureTriple fun _ closed => closed

theorem writeClosed (offset : UInt32) (data : List UInt8) : Triple (Closed config) (write ramPageProgram offset data)
    (fun _ => Closed config) fun _ => Closed config := by
  by_cases inside : offset.toNat + data.length ≤ capacity
  · obtain ⟨chunks,loop,_⟩ := writeCommands ramPageProgram inside 0
    rw [writeAccepted _ inside,loop]
    refine forTriple (fun _ => Closed config) (fun chunk _ => ?_) chunks
    exact FlashController.keepsClosed (fun _ => FlashController.pageProgramTriple chunk.1 chunk.2) config
  · rw [writeRefused _ (Nat.not_le.mp inside)]
    exact throwTriple fun _ closed => closed

theorem eraseClosed (start finish : UInt32) : Triple (Closed config) (erase ramErase start finish)
    (fun _ => Closed config) fun _ => Closed config := by
  by_cases accepted : Accepted start finish
  · rw [eraseAccepted _ accepted]
    refine forTriple (fun _ => Closed config) (fun offset _ => ?_) _
    refine bindTriple (physicalClosed config offset) fun address => ?_
    exact FlashController.keepsClosed (fun _ => FlashController.eraseTriple address) config
  · obtain ⟨error,refused⟩ := eraseRefused ramErase accepted
    rw [refused]
    exact throwTriple fun _ closed => closed

theorem readClosed (offset : UInt32) (length : Nat) :
    Triple (Closed config) (read FlashController.ramReadBytes offset length)
      (fun _ => Closed config) fun _ => Closed config := by
  unfold read
  split
  · exact throwTriple fun _ closed => closed
  · refine iteTriple (fun _ => throwTriple fun _ closed => closed) fun _ => ?_
    refine iteTriple (fun _ => pureTriple fun _ closed => closed) fun _ => ?_
    refine bindTriple (physicalClosed config offset.toNat) fun address => ?_
    exact FlashController.keepsClosed (fun _ => FlashController.readBytesTriple address length) config

end OnBus

end Ch58xHal.DataFlash
