import Ch58xHal.Machines

/-! A plain FIFO of which at most one unit is on air: its head, or a filler that
carries nothing. A plan is made from what the peer acknowledged and is then either
sent or dropped; only a sent plan can be acknowledged later. -/
namespace Ch58xHal.InFlightQueue
open Machines (Machine)

inductive OnAir where
  | nothing | filler | head
  deriving DecidableEq, Repr

/- `popped` left the queue, `response` is what goes on air (`none`: the filler). -/
structure Plan (α : Type) where
  popped : Option α
  response : Option α
  retry : Bool
  more : Bool
  deriving DecidableEq, Repr

structure Queue (α : Type) where
  unacked : List α
  onAir : OnAir
  planned : Option (Plan α)
  deriving DecidableEq, Repr

inductive Call where
  | select (acknowledged : Bool)
  | complete
  | abort
  deriving DecidableEq, Repr

inductive Answer (α : Type) where
  | plan (p : Plan α)
  | done
  | refused
  deriving DecidableEq, Repr

variable {α : Type}

def fresh (popped : Option α) (unacked : List α) : Plan α :=
  ⟨popped,unacked.head?,false,!unacked.tail.isEmpty⟩

def again (q : Queue α) : Plan α :=
  match q.onAir with
  | .head => ⟨none,q.unacked.head?,true,!q.unacked.tail.isEmpty⟩
  | _ => ⟨none,none,true,!q.unacked.isEmpty⟩

def select (q : Queue α) (acknowledged : Bool) : Queue α × Answer α :=
  if q.planned.isSome then (q,.refused)
  else match q.onAir,acknowledged with
    | .nothing,true => (q,.refused)
    | .nothing,false => let p := fresh none q.unacked; ({q with planned := some p},.plan p)
    | .filler,true => let p := fresh none q.unacked; (⟨q.unacked,.nothing,some p⟩,.plan p)
    | .head,true =>
        let p := fresh q.unacked.head? q.unacked.tail; (⟨q.unacked.tail,.nothing,some p⟩,.plan p)
    | _,false => ({q with planned := some (again q)},.plan (again q))

def complete (q : Queue α) : Queue α × Answer α :=
  match q.planned with
  | none => (q,.refused)
  | some p => (⟨q.unacked,if p.response.isSome then .head else .filler,none⟩,.done)

def abort (q : Queue α) : Queue α × Answer α :=
  match q.planned with
  | none => (q,.refused)
  | some _ => ({q with planned := none},.done)

def machine (α : Type) : Machine (Queue α) Call (Answer α) where
  step q
    | .select acknowledged => select q acknowledged
    | .complete => complete q
    | .abort => abort q

def popped : Answer α → Option α
  | .plan p => p.popped
  | _ => none

/- Nothing is lost and nothing is reordered: what was popped and what is left always
make up the units the queue started with. -/
theorem poppedUnacked {first : Queue α} {past q} (h : Machines.History (machine α) first past q) :
    past.filterMap (fun call => popped call.2) ++ q.unacked = first.unacked := by
  have step : ∀ (q : Queue α) call,
      (popped ((machine α).step q call).2).toList ++ ((machine α).step q call).1.unacked = q.unacked := by
    rintro ⟨unacked,onAir,planned⟩ (ack | _ | _)
    · cases planned <;> cases onAir <;> cases ack <;>
        simp [machine,select,popped,fresh,again]
      -- the one call that pops is the acknowledgement of an on-air head
      cases unacked <;> simp
    · cases planned <;> simp [machine,complete,popped]
    · cases planned <;> simp [machine,abort,popped]
  induction h with
  | start => simp
  | @step past q before call ih =>
    rw [Machines.filterMapSnoc,List.append_assoc,step q call,ih]

/- What is left of the queue once the peer's acknowledgement has been taken in. -/
def left (q : Queue α) (acknowledged : Bool) : List α :=
  if acknowledged = true ∧ q.onAir = .head then q.unacked.tail else q.unacked

theorem otherThanHead {list : List α} (unique : list.Nodup) :
    (!list.tail.isEmpty) = true ↔ ∃ u ∈ list, list.head? ≠ some u := by
  match list,unique with
  | [],_ => simp
  | [a],_ => simp
  | a :: b :: rest,unique =>
    have different : a ≠ b := by
      intro same
      simp [same] at unique
    simp [different]

theorem otherThanFiller (list : List α) :
    (!list.isEmpty) = true ↔ ∃ u ∈ list, (none : Option α) ≠ some u := by
  cases list <;> simp

structure Explains (q : Queue α) (acknowledged : Bool) (p : Plan α) : Prop where
  popped : p.popped = if acknowledged = true ∧ q.onAir = .head then q.unacked.head? else none
  response : p.response =
    if acknowledged = false ∧ q.onAir = .filler then none else (left q acknowledged).head?
  retry : p.retry = true ↔ q.onAir ≠ .nothing ∧ acknowledged = false
  more : p.more = true ↔ ∃ u ∈ left q acknowledged, p.response ≠ some u

theorem selectExplained {q : Queue α} (unique : q.unacked.Nodup) {ack p}
    (ok : (select q ack).2 = .plan p) : Explains q ack p := by
  obtain ⟨unacked,onAir,planned⟩ := q
  have whole := otherThanHead unique
  have rest := otherThanHead unique.tail
  have filler := otherThanFiller unacked
  cases planned with
  | some p' => simp [select] at ok
  | none =>
    cases onAir <;> cases ack
    · obtain rfl : fresh none unacked = p := by simpa [select] using ok
      exact ⟨rfl,rfl,by simp [fresh],whole⟩
    · simp [select] at ok
    · obtain rfl : again ⟨unacked,.filler,none⟩ = p := by simpa [select] using ok
      exact ⟨rfl,rfl,by simp [again],filler⟩
    · obtain rfl : fresh none unacked = p := by simpa [select] using ok
      exact ⟨rfl,rfl,by simp [fresh],whole⟩
    · obtain rfl : again ⟨unacked,.head,none⟩ = p := by simpa [select] using ok
      exact ⟨rfl,rfl,by simp [again],whole⟩
    · obtain rfl : fresh unacked.head? unacked.tail = p := by simpa [select] using ok
      exact ⟨rfl,rfl,by simp [fresh],rest⟩

/- The unit whose acknowledgement is outstanding; the inner `none` is the filler. -/
def airUnit (q : Queue α) : Option (Option α) :=
  match q.onAir with
  | .nothing => none
  | .filler => some none
  | .head => some q.unacked.head?

structure Served (q : Queue α) (acknowledged : Bool) (p : Plan α) (next : Queue α) : Prop where
  planned : next.planned = some p
  kept : p.popped.toList ++ next.unacked = q.unacked
  air : airUnit next = if acknowledged then none else airUnit q
  popped : if acknowledged then airUnit q = some p.popped else p.popped = none
  repeated : ∀ u, airUnit next = some u → p.response = u
  first : p.response.isSome → p.response = next.unacked.head?

theorem selectServed {q : Queue α} (ready : q.planned = none) {ack : Bool}
    (asked : ack = true → q.onAir ≠ .nothing) :
    ∃ p, (select q ack).2 = .plan p ∧ Served q ack p (select q ack).1 := by
  obtain ⟨unacked,onAir,planned⟩ := q
  obtain rfl : planned = none := ready
  have whole : unacked.head?.toList ++ unacked.tail = unacked := by cases unacked <;> simp
  cases onAir <;> cases ack
  · exact ⟨_,rfl,rfl,rfl,rfl,rfl,by simp [select,airUnit],fun _ => rfl⟩
  · exact absurd rfl (asked rfl)
  · exact ⟨_,rfl,rfl,rfl,rfl,rfl,by simp [select,airUnit,again],by simp [again]⟩
  · exact ⟨_,rfl,rfl,rfl,rfl,rfl,by simp [select,airUnit],fun _ => rfl⟩
  · exact ⟨_,rfl,rfl,rfl,rfl,rfl,by simp [select,airUnit,again],fun _ => rfl⟩
  · exact ⟨_,rfl,rfl,whole,rfl,rfl,by simp [select,airUnit],fun _ => rfl⟩

end Ch58xHal.InFlightQueue
