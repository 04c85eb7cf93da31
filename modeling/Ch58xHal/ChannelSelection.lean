import Ch58xHal.ControlPdu
import Ch58xHal.DataHeader

/-! Channel Selection Algorithm #1. The source's fields are private and only `new`,
`update_map` and `next_channel` write them, so the facts that keep its array reads and
its `unwrap` from panicking are fields here. -/
namespace Ch58xHal.ChannelSelection
open ControlPdu DataHeader

structure Channel where
  index : UInt8
  valid : index ≤ 39
  deriving DecidableEq, Repr

def dataChannels : List UInt8 := (List.range 37).map UInt8.ofNat

def enabled (map : ChannelMap) (channel : UInt8) : Bool :=
  map.toList.getD (channel / 8).toNat 0 &&& ((1 : UInt8) <<< (channel % 8)) != 0

def usedChannels (map : ChannelMap) : List UInt8 := dataChannels.filter (enabled map)

-- The remapping index is the unmapped channel modulo the number of used channels.
def remap (map : ChannelMap) (used : List UInt8) (unmapped : UInt8) : UInt8 :=
  if enabled map unmapped then unmapped else used.getD (unmapped.toNat % used.length) 0

structure ChannelSelection1 where
  map : ChannelMap
  used : List UInt8
  hop : UInt8
  lastUnmapped : UInt8
  mapValid : dataChannelMapIsValid map
  usedExact : used = usedChannels map
  hopRange : 5 ≤ hop ∧ hop ≤ 16
  phase : lastUnmapped < 37
  deriving DecidableEq, Repr

theorem nextUnmapped {a b : UInt8} (ha : a < 37) (hb : b ≤ 16) :
    ((a + b) % 37).toNat = (a.toNat + b.toNat) % 37 := by
  have la : a.toNat < 37 := UInt8.lt_iff_toNat_lt.mp ha
  have lb : b.toNat ≤ 16 := UInt8.le_iff_toNat_le.mp hb
  rw [UInt8.toNat_mod,UInt8.toNat_add]
  have small : (a.toNat + b.toNat) % 2^8 = a.toNat + b.toNat := Nat.mod_eq_of_lt (by omega)
  rw [small]
  rfl

theorem nextUnmappedLt (a : UInt8) : a % 37 < 37 := by
  rw [UInt8.lt_iff_toNat_lt,UInt8.toNat_mod]
  exact Nat.mod_lt _ (by decide)

theorem usedBelow {map : ChannelMap} {channel} (member : channel ∈ usedChannels map) : channel < 37 := by
  have table : ∀ channel ∈ dataChannels, channel < 37 := by decide +kernel
  exact table channel (List.mem_filter.mp member).1

theorem remapBelow (map : ChannelMap) {unmapped : UInt8} (below : unmapped < 37) :
    remap map (usedChannels map) unmapped < 37 := by
  unfold remap
  split
  · exact below
  · cases found : (usedChannels map)[unmapped.toNat % (usedChannels map).length]? with
    | none =>
      rw [List.getD_eq_getElem?_getD,found]
      decide
    | some channel =>
      rw [List.getD_eq_getElem?_getD,found]
      exact usedBelow (List.mem_of_getElem? found)

theorem channelInRange {channel : UInt8} (below : channel < 37) : channel ≤ 39 := by
  rw [UInt8.lt_iff_toNat_lt] at below
  rw [UInt8.le_iff_toNat_le]
  exact Nat.le_of_lt (Nat.lt_of_lt_of_le below (by decide))

namespace ChannelSelection1

def new (map : ChannelMap) (hop : UInt8) : Option ChannelSelection1 :=
  if h : (5 ≤ hop ∧ hop ≤ 16) ∧ dataChannelMapIsValid map then
    some ⟨map,usedChannels map,hop,0,h.2,rfl,h.1,by decide⟩
  else none

def advance (s : ChannelSelection1) : ChannelSelection1 :=
  {s with lastUnmapped := (s.lastUnmapped + s.hop) % 37,phase := nextUnmappedLt _}

def current (s : ChannelSelection1) : Channel :=
  ⟨remap s.map s.used s.lastUnmapped,by
    rw [s.usedExact]
    exact channelInRange (remapBelow s.map s.phase)⟩

def nextChannel (s : ChannelSelection1) : ChannelSelection1 × Channel := (s.advance,s.advance.current)

/- Replaces the map and keeps the hop phase. -/
def updateMap (s : ChannelSelection1) (map : ChannelMap) : Option ChannelSelection1 :=
  if h : dataChannelMapIsValid map then
    some {s with map := map,used := usedChannels map,mapValid := h,usedExact := rfl}
  else none

end ChannelSelection1

theorem updatedMap {s after : ChannelSelection1} {map : ChannelMap} (ok : s.updateMap map = some after) :
    after.map = map ∧ after.hop = s.hop ∧ after.lastUnmapped = s.lastUnmapped := by
  unfold ChannelSelection1.updateMap at ok
  split at ok
  · cases ok
    exact ⟨rfl,rfl,rfl⟩
  · cases ok

/-! No read past the used channels: a valid map enables at least one of them. -/

theorem octetClear : ∀ b : UInt8, (∀ i < 8, b &&& ((1 : UInt8) <<< UInt8.ofNat i) = 0) → b = 0 :=
  forallOctet (by decide +kernel)

theorem lastOctetClear : ∀ b : UInt8, b &&& 0xe0 = 0 →
    (∀ i < 5, b &&& ((1 : UInt8) <<< UInt8.ofNat i) = 0) → b = 0 :=
  forallOctet (by decide +kernel)

theorem usedNonempty {map : ChannelMap} (valid : dataChannelMapIsValid map) : usedChannels map ≠ [] := by
  intro empty
  have off : ∀ n < 37, enabled map (UInt8.ofNat n) = false := by
    intro n below
    have listed : UInt8.ofNat n ∈ dataChannels := List.mem_map_of_mem (List.mem_range.mpr below)
    simpa using List.filter_eq_nil_iff.mp empty _ listed
  have bit : ∀ k < 5, ∀ i < 8, 8*k + i < 37 →
      map.toList.getD k 0 &&& ((1 : UInt8) <<< UInt8.ofNat i) = 0 := by
    intro k hk i hi below
    have clear := off (8*k+i) below
    have place : (UInt8.ofNat (8*k+i) / 8).toNat = k ∧ UInt8.ofNat (8*k+i) % 8 = UInt8.ofNat i := by
      have table : ∀ k < 5, ∀ i < 8, (UInt8.ofNat (8*k+i) / 8).toNat = k ∧
        UInt8.ofNat (8*k+i) % 8 = UInt8.ofNat i := by decide
      exact table k hk i hi
    rw [enabled,place.1,place.2] at clear
    simpa only [bne_eq_false_iff_eq] using clear
  unfold dataChannelMapIsValid at valid
  split at valid <;> rename_i top
  · cases valid
  · have octets : ∀ k < 5, map.toList.getD k 0 = 0 := by
      intro k hk
      by_cases last : k = 4
      · subst last
        have top : map.toList.getD 4 0 &&& 0xe0 = 0 := by simpa using top
        exact lastOctetClear _ top fun i hi => bit 4 hk i (by omega) (by omega)
      · exact octetClear _ fun i hi => bit k hk i hi (by omega)
    have zero : map.toList = [0,0,0,0,0] := by
      have size : map.toList.length = 5 := by simp
      obtain ⟨a,b,c,d,e,shape⟩ : ∃ a b c d e, map.toList = [a,b,c,d,e] := by
        match h : map.toList,size with
        | [a,b,c,d,e],_ => exact ⟨a,b,c,d,e,rfl⟩
      rw [shape] at octets ⊢
      have h0 := octets 0 (by omega)
      have h1 := octets 1 (by omega)
      have h2 := octets 2 (by omega)
      have h3 := octets 3 (by omega)
      have h4 := octets 4 (by omega)
      simp only [List.getD_cons_zero,List.getD_cons_succ] at h0 h1 h2 h3 h4
      rw [h0,h1,h2,h3,h4]
    rw [zero] at valid
    revert valid
    decide

end Ch58xHal.ChannelSelection
