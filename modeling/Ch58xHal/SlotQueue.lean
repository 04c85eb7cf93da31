import Mathlib.Algebra.Order.Ring.Nat
import Mathlib.Data.List.Basic

/-! A FIFO kept as one head cell and an array of optional cells. Insertion takes the
first free cell, removal shifts the array into the head. Packing is what makes the two
compose to a queue; without it insertion order is lost. Nothing here knows the program. -/
namespace Ch58xHal.SlotQueue

variable {α : Type} {n : Nat}

structure Slots (α : Type) (n : Nat) where
  cells : List (Option α)
  size : cells.length = n
  deriving DecidableEq, Repr

def insertCells (x : α) : List (Option α) → Option (List (Option α))
  | [] => none
  | none :: rest => some (some x :: rest)
  | some y :: rest => (insertCells x rest).map (some y :: ·)

theorem insertCellsLength {x : α} {cells after} (ok : insertCells x cells = some after) :
    after.length = cells.length := by
  induction cells generalizing after with
  | nil => cases ok
  | cons cell rest ih =>
    cases cell with
    | none =>
      cases ok
      rfl
    | some y =>
      obtain ⟨tail,found,rfl⟩ := Option.map_eq_some_iff.mp ok
      simp [ih found]

namespace Slots

def empty (α : Type) (n : Nat) : Slots α n := ⟨List.replicate n none,by simp⟩

def insert (s : Slots α n) (x : α) : Option (Slots α n) :=
  match h : insertCells x s.cells with
  | none => none
  | some cells => some ⟨cells,(insertCellsLength h).trans s.size⟩

def first (s : Slots α n) : Option α := s.cells.head?.join

def shift (s : Slots α (n+1)) : Slots α (n+1) :=
  ⟨s.cells.tail ++ [none],by simp [s.size]⟩

def contents (s : Slots α n) : List α := s.cells.filterMap id

end Slots

structure Buffer (α : Type) (n : Nat) where
  head : Option α
  slots : Slots α n
  deriving DecidableEq, Repr

namespace Buffer

def empty (α : Type) (n : Nat) : Buffer α n := ⟨none,Slots.empty α n⟩

def put (b : Buffer α n) (x : α) : Option (Buffer α n) :=
  if b.head.isNone then some {b with head := some x}
  else (b.slots.insert x).map fun slots => {b with slots := slots}

def take (b : Buffer α (n+1)) : Buffer α (n+1) := ⟨b.slots.first,b.slots.shift⟩

def contents (b : Buffer α n) : List α := b.head.toList ++ b.slots.contents

/- The occupied cells are a prefix of the array, and there are none behind a free head. -/
structure Packed (b : Buffer α n) : Prop where
  dense : ∃ free, b.slots.cells = b.slots.contents.map some ++ List.replicate free none
  led : b.head = none → b.slots.contents = []

end Buffer

/-! Packed cells behave as a list. -/

theorem packedLength {s : Slots α n} {free} (dense : s.cells = s.contents.map some ++ List.replicate free none) :
    s.contents.length + free = n := by
  have size := s.size
  rw [dense] at size
  simpa using size

theorem insertFull (xs : List α) (x : α) : insertCells x (xs.map some) = none := by
  induction xs with
  | nil => rfl
  | cons y ys ih => simp [insertCells,ih]

theorem insertDense (xs : List α) (x : α) (free : Nat) :
    insertCells x (xs.map some ++ List.replicate (free+1) none) =
      some ((xs ++ [x]).map some ++ List.replicate free none) := by
  induction xs with
  | nil => rfl
  | cons y ys ih =>
    simp only [List.map_cons,List.cons_append,insertCells,ih,Option.map_some]

theorem contentsDense (xs : List α) (free : Nat) :
    (xs.map some ++ List.replicate free none).filterMap id = xs := by
  rw [List.filterMap_append,List.filterMap_map]
  simp

theorem emptyPacked (α : Type) (n : Nat) : (Buffer.empty α n).Packed ∧ (Buffer.empty α n).contents = [] := by
  have none : (Slots.empty α n).contents = [] := by simp [Slots.contents,Slots.empty]
  have dense : (Slots.empty α n).cells = (Slots.empty α n).contents.map some ++ List.replicate n Option.none := by
    rw [none]
    rfl
  exact ⟨⟨⟨n,dense⟩,fun _ => none⟩,by simp [Buffer.contents,Buffer.empty,none]⟩

/- Insertion into a packed buffer fails only when every cell is taken, and appends. -/
theorem putPacked {b : Buffer α n} (packed : b.Packed) (x : α) (room : b.contents.length < n+1) :
    ∃ after, b.put x = some after ∧ after.Packed ∧ after.contents = b.contents ++ [x] := by
  obtain ⟨⟨free,dense⟩,led⟩ := packed
  unfold Buffer.put
  cases present : b.head with
  | none =>
    have behind := led present
    exact ⟨_,rfl,⟨⟨free,dense⟩,by simp⟩,by simp [Buffer.contents,present,behind]⟩
  | some y =>
    have count := packedLength dense
    simp only [Buffer.contents,present,Option.toList_some,List.length_append,List.length_singleton] at room
    obtain ⟨fewer,rfl⟩ : ∃ fewer, free = fewer+1 := ⟨free-1,by omega⟩
    have put := insertDense b.slots.contents x fewer
    rw [← dense] at put
    obtain ⟨slots,insert,cells⟩ : ∃ slots, b.slots.insert x = some slots ∧
        slots.cells = (b.slots.contents ++ [x]).map some ++ List.replicate fewer none := by
      unfold Slots.insert
      split
      · rename_i failed
        simp [failed] at put
      · rename_i cells found
        have same : some cells = _ := found.symm.trans put
        exact ⟨_,rfl,Option.some.inj same⟩
    have inside : slots.contents = b.slots.contents ++ [x] := by
      rw [Slots.contents,cells,contentsDense]
    have after : slots.cells = slots.contents.map some ++ List.replicate fewer none := by
      rw [cells,inside]
    refine ⟨⟨some y,slots⟩,by simp [insert],⟨⟨fewer,after⟩,by simp⟩,?_⟩
    simp [Buffer.contents,present,inside]

theorem putFull {b : Buffer α n} (packed : b.Packed) (x : α) (full : b.contents.length = n+1) :
    b.put x = none := by
  obtain ⟨⟨free,dense⟩,led⟩ := packed
  have count := packedLength dense
  unfold Buffer.put
  cases present : b.head with
  | none => simp [Buffer.contents,present,led present] at full
  | some y =>
    simp only [Buffer.contents,present,Option.toList_some,List.length_append,List.length_singleton] at full
    obtain rfl : free = 0 := by omega
    have put := insertFull b.slots.contents x
    rw [List.replicate_zero,List.append_nil] at dense
    rw [← dense] at put
    have refused : b.slots.insert x = none := by
      unfold Slots.insert
      split
      · rfl
      · rename_i cells found
        simp [put] at found
    simp [refused]

/- Removal takes the oldest value and moves everything behind it up by one cell. -/
theorem takePacked {b : Buffer α (n+1)} (packed : b.Packed) :
    b.take.Packed ∧ b.take.contents = b.contents.tail := by
  obtain ⟨⟨free,dense⟩,led⟩ := packed
  cases inside : b.slots.contents with
  | nil =>
    have count := packedLength dense
    rw [inside] at dense
    have none : b.slots.first = none := by
      rw [Slots.first,dense]
      cases free <;> rfl
    have cells : b.slots.shift.cells = List.replicate (n+1) Option.none := by
      obtain rfl : free = n+1 := by simpa [inside] using count
      change b.slots.cells.tail ++ [Option.none] = _
      rw [dense,List.map_nil,List.nil_append,List.replicate_succ,List.tail_cons,
        ← List.replicate_succ',List.replicate_succ]
    have empty : b.slots.shift.contents = [] := by
      rw [Slots.contents,cells]
      simp
    refine ⟨⟨⟨n+1,?_⟩,fun _ => empty⟩,?_⟩
    · simp only [Buffer.take,empty]
      exact cells
    · simp only [Buffer.contents,Buffer.take,none,empty,inside,List.append_nil]
      cases b.head <;> rfl
  | cons y ys =>
    rw [inside] at dense
    have head : b.slots.first = some y := by simp [Slots.first,dense]
    have cells : b.slots.shift.cells = ys.map some ++ List.replicate (free+1) none := by
      simp [Slots.shift,dense,List.replicate_succ']
    have rest : b.slots.shift.contents = ys := by
      rw [Slots.contents,cells,contentsDense]
    refine ⟨⟨⟨free+1,?_⟩,fun none => ?_⟩,?_⟩
    · simp only [Buffer.take,rest]
      exact cells
    · simp [Buffer.take,head] at none
    · have led : b.head ≠ none := fun none => by simp [led none] at inside
      obtain ⟨first,present⟩ := Option.ne_none_iff_exists'.mp led
      simp [Buffer.contents,Buffer.take,head,rest,inside,present]

end Ch58xHal.SlotQueue
