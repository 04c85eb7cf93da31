import Mathlib.Data.List.Forall2

/-! What a log shows in a given order. The entries that meet the demands may have any others
between them. Nothing here knows the program. -/
namespace Ch58xHal.OrderedEvidence

variable {α : Type} {demands demands' : List (α → Prop)} {log more : List α}

def InOrder (demands : List (α → Prop)) (log : List α) : Prop :=
  List.SublistForall₂ (fun demand entry => demand entry) demands log

theorem nothingDemanded (log : List α) : InOrder [] log := .nil

theorem shownLater (shown : InOrder demands log) (more : List α) : InOrder demands (log ++ more) := by
  obtain ⟨met,meets,inside⟩ := List.sublistForall₂_iff.mp shown
  exact List.sublistForall₂_iff.mpr ⟨met,meets,inside.trans (List.sublist_append_left log more)⟩

theorem shownAfter (before : List α) (shown : InOrder demands log) : InOrder demands (before ++ log) := by
  obtain ⟨met,meets,inside⟩ := List.sublistForall₂_iff.mp shown
  exact List.sublistForall₂_iff.mpr ⟨met,meets,inside.trans (List.sublist_append_right before log)⟩

/- One more entry, which meets one more demand. -/
theorem shownNext (shown : InOrder demands log) (demand : α → Prop) {entry : α} (meets : demand entry) :
    InOrder (demands ++ [demand]) (log ++ [entry]) := by
  obtain ⟨met,all,inside⟩ := List.sublistForall₂_iff.mp shown
  exact List.sublistForall₂_iff.mpr ⟨met ++ [entry],List.rel_append all (.cons meets .nil),
    inside.append (List.Sublist.refl _)⟩

/- Less may be asked. -/
theorem shownFewer (shown : InOrder demands log) (fewer : demands'.Sublist demands) : InOrder demands' log := by
  unfold InOrder at shown ⊢
  induction shown generalizing demands' with
  | nil =>
    rw [List.sublist_nil.mp fewer]
    exact .nil
  | cons meets _ ih =>
    cases fewer with
    | cons _ rest => exact .cons_right (ih rest)
    | cons_cons _ rest => exact .cons meets (ih rest)
  | cons_right _ ih => exact .cons_right (ih fewer)

end Ch58xHal.OrderedEvidence
