import Ch58xHal.DataHeader
import Ch58xHal.StopAndWait

/-! How the one-bit SN/NESN pair tracks one direction of a stop-and-wait link: the bits
differ exactly while the receiver has taken a unit whose acknowledgement the sender
has not seen. The Central's direction numbers its PDUs, so its accepted log is a range. -/
namespace Ch58xHal.SequencedLink
open DataHeader StopAndWait

variable {α : Type}

structure Tracks (h : Half α) (transmitSn expectedSn : UInt8) : Prop where
  transmitBit : IsBit transmitSn
  expectedBit : IsBit expectedSn
  crossed : h.crossed = true ↔ expectedSn ≠ transmitSn

theorem tracksEqual {h : Half α} {t e} (tracks : Tracks h t e) (settled : h.crossed = false) : e = t := by
  by_contra different
  simp [tracks.crossed.mpr different] at settled

theorem tracksLoad {h : Half α} {t e} (tracks : Tracks h t e) (settled : h.crossed = false) (unit : α) :
    Tracks (h.load unit) t e := by
  refine ⟨tracks.transmitBit,tracks.expectedBit,?_⟩
  simp [tracksEqual tracks settled]

theorem tracksArrive {h : Half α} {t e} (tracks : Tracks h t e) (settled : h.crossed = false)
    {unit} (current : h.current = some unit) : Tracks h.arrive t (e ^^^ 1) := by
  have same := tracksEqual tracks settled
  refine ⟨tracks.transmitBit,flipIsBit tracks.expectedBit,?_⟩
  have different := flipNe tracks.expectedBit
  rw [same] at different ⊢
  simp [current,different]

theorem tracksAcknowledge {h : Half α} {t e} (tracks : Tracks h t e) (crossed : h.crossed = true) :
    Tracks h.acknowledge (t ^^^ 1) e := by
  have different := tracks.crossed.mp crossed
  have flipped := flipOfNe tracks.transmitBit tracks.expectedBit (Ne.symm different)
  refine ⟨flipIsBit tracks.transmitBit,tracks.expectedBit,?_⟩
  rw [acknowledgeCrossed h crossed]
  simp [flipped]

structure Inward (sent : Nat) (log : List Nat) (transmitSn expectedSn : UInt8) (h : Half Nat) : Prop where
  tracks : Tracks h transmitSn expectedSn
  current : h.current = some sent
  numbers : h.acked = List.range sent
  accepted : h.accepted = log

theorem inwardHeard {sent log t e h} (inward : Inward sent log t e h) :
    ∃ h', Inward sent (log ++ if t = e then [sent] else []) t (if t = e then e ^^^ 1 else e) h' ∧
      h'.crossed = true := by
  cases crossed : h.crossed with
  | true =>
    have different : t ≠ e := Ne.symm (inward.tracks.crossed.mp crossed)
    refine ⟨h,?_,crossed⟩
    simpa [different] using inward
  | false =>
    have same := tracksEqual inward.tracks crossed
    refine ⟨h.arrive,⟨?_,inward.current,inward.numbers,?_⟩,by simp [inward.current]⟩
    · simpa [same] using tracksArrive inward.tracks crossed inward.current
    · rw [arriveNew h inward.current crossed,inward.accepted]
      simp [same]

theorem inwardAcknowledged {sent log t e h} (inward : Inward sent log t e h) (crossed : h.crossed = true) :
    ∃ h', Inward (sent+1) log (t ^^^ 1) e h' := by
  have tracks := tracksAcknowledge inward.tracks crossed
  refine ⟨h.acknowledge.load (sent+1),⟨?_,rfl,?_,?_⟩⟩
  · exact tracksLoad tracks (by simp [acknowledgeCrossed h crossed]) _
  · rw [acknowledgeCrossed h crossed]
    simp [Half.accepted,crossed,inward.numbers,inward.current,List.range_succ]
  · rw [acknowledgeCrossed h crossed,loadAccepted _ _ rfl]
    simp [inward.accepted]

-- The log is every Central PDU number in turn, and the Central lags by at most one.
theorem inwardRange {sent log t e h} (inward : Inward sent log t e h) :
    log = List.range (if t = e then sent else sent+1) := by
  rw [← inward.accepted,Half.accepted,inward.numbers,inward.current]
  cases crossed : h.crossed with
  | true =>
    have different : t ≠ e := Ne.symm (inward.tracks.crossed.mp crossed)
    simp [different,List.range_succ]
  | false => simp [tracksEqual inward.tracks crossed]

end Ch58xHal.SequencedLink
