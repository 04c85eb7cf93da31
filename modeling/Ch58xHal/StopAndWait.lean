import Mathlib.Algebra.Order.Ring.Nat
import Mathlib.Data.List.Basic

/-! One direction of a stop-and-wait link with a one-bit sequence number. The sender
holds one unit until it learns that the receiver took it; a unit which crossed the
air but whose acknowledgement did not is accepted once and still held. The accepted
list is computed, so a state with a lost or a doubled unit cannot be written down. -/
namespace Ch58xHal.StopAndWait

structure Half (α : Type) where
  acked : List α
  current : Option α
  crossed : Bool
  held : crossed = true → current.isSome = true

variable {α β : Type}

/- Everything the receiver took so far, in order. -/
def Half.accepted (h : Half α) : List α := h.acked ++ if h.crossed then h.current.toList else []

def Half.idle (acked : List α) : Half α := ⟨acked,none,false,by simp⟩

/- The sender commits to one unit until it is acknowledged. -/
def Half.load (h : Half α) (unit : α) : Half α := ⟨h.acked,some unit,false,by simp⟩

/- A copy of the current unit reaches the receiver. -/
def Half.arrive (h : Half α) : Half α := ⟨h.acked,h.current,h.current.isSome,by simp⟩

/- The sender learns the receiver's position. -/
def Half.acknowledge (h : Half α) : Half α :=
  if h.crossed then .idle (h.acked ++ h.current.toList) else h

theorem ackedPrefix (h : Half α) : h.acked <+: h.accepted := List.prefix_append _ _

theorem acceptedPrefix (h : Half α) : h.accepted <+: h.acked ++ h.current.toList := by
  unfold Half.accepted
  split
  · exact List.prefix_rfl
  · simp

@[simp] theorem idleAcked (acked : List α) : (Half.idle acked).acked = acked := rfl
@[simp] theorem idleAccepted (acked : List α) : (Half.idle acked).accepted = acked := by
  simp [Half.idle,Half.accepted]
@[simp] theorem idleCurrent (acked : List α) : (Half.idle acked).current = none := rfl
@[simp] theorem idleCrossed (acked : List α) : (Half.idle acked).crossed = false := rfl

@[simp] theorem loadAcked (h : Half α) (unit : α) : (h.load unit).acked = h.acked := rfl
@[simp] theorem loadCurrent (h : Half α) (unit : α) : (h.load unit).current = some unit := rfl
@[simp] theorem loadCrossed (h : Half α) (unit : α) : (h.load unit).crossed = false := rfl

theorem loadAccepted (h : Half α) (unit : α) (settled : h.crossed = false) :
    (h.load unit).accepted = h.accepted := by
  simp [Half.load,Half.accepted,settled]

@[simp] theorem arriveAcked (h : Half α) : h.arrive.acked = h.acked := rfl
@[simp] theorem arriveCurrent (h : Half α) : h.arrive.current = h.current := rfl
@[simp] theorem arriveCrossed (h : Half α) : h.arrive.crossed = h.current.isSome := rfl

theorem arriveNew (h : Half α) {unit} (current : h.current = some unit) (fresh : h.crossed = false) :
    h.arrive.accepted = h.accepted ++ [unit] := by
  simp [Half.arrive,Half.accepted,current,fresh]

theorem acknowledgeCrossed (h : Half α) (crossed : h.crossed = true) :
    h.acknowledge = .idle h.accepted := by
  simp [Half.acknowledge,Half.accepted,crossed]

end Ch58xHal.StopAndWait
