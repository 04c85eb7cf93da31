import Ch58xHal.Advertising
import Ch58xHal.ChannelSelection
import Mathlib.Data.Int.GCD
import Mathlib.Data.List.Induction

/-! The channel selector as the source stores it: a dense table of 37 octets with a length,
filled by a loop over the data channels. Octet arithmetic and indexing panic here where they
would in the source. The selector that keeps the list of used channels is what it refines. -/
namespace Ch58xHal.SelectorTables
open ControlPdu ChannelSelection Machines

structure Selector where
  map : ChannelMap
  used : Vector UInt8 37
  usedLen : UInt8
  hop : UInt8
  lastUnmapped : UInt8
  deriving DecidableEq, Repr

/- The map bit of a channel, as a checked read. -/
def mapBit (map : ChannelMap) (channel : UInt8) : Option Bool :=
  map.toList[(channel / 8).toNat]?.map fun octet => octet &&& ((1 : UInt8) <<< (channel % 8)) != 0

abbrev Table := Vector UInt8 37 × Nat

def fillStep (map : ChannelMap) (table : Option Table) (channel : UInt8) : Option Table := do
  let (used,usedLen) ← table
  if ← mapBit map channel then
    if room : usedLen < 37 then some (used.set usedLen channel room,usedLen + 1) else none
  else some (used,usedLen)

/- The loop that both `new` and `update_map` hold a copy of. -/
def fillTable (map : ChannelMap) : Option Table :=
  dataChannels.foldl (fillStep map) (some (Vector.replicate 37 0,0))

def checkedAdd (a b : UInt8) : Option UInt8 := if a.toNat + b.toNat < 256 then some (a + b) else none

def checkedMod (a b : UInt8) : Option UInt8 := if b = 0 then none else some (a % b)

-- `Channel::new(…).unwrap()`
def channelOf (index : UInt8) : Option Channel := if valid : index ≤ 39 then some ⟨index,valid⟩ else none

namespace Selector

def new (map : ChannelMap) (hop : UInt8) : Option (Except Advertising.Error Selector) :=
  if ¬(5 ≤ hop ∧ hop ≤ 16) ∨ dataChannelMapIsValid map = false then some (.error .invalidPacket)
  else do
    let (used,usedLen) ← fillTable map
    some (.ok ⟨map,used,UInt8.ofNat usedLen,hop,0⟩)

def mapped (s : Selector) (unmapped : UInt8) : Option UInt8 := do
  if ← mapBit s.map unmapped then some unmapped
  else s.used.toList[(← checkedMod unmapped s.usedLen).toNat]?

def nextChannel (s : Selector) : Option (Selector × Channel) := do
  let unmapped ← checkedMod (← checkedAdd s.lastUnmapped s.hop) 37
  let channel ← channelOf (← s.mapped unmapped)
  some ({s with lastUnmapped := unmapped},channel)

def updateMap (s : Selector) (map : ChannelMap) : Option (Except Advertising.Error Selector) :=
  if dataChannelMapIsValid map = false then some (.error .invalidPacket)
  else do
    let (used,usedLen) ← fillTable map
    some (.ok {s with map := map,used := used,usedLen := UInt8.ofNat usedLen})

end Selector

/-! The selector as a machine, and the one with a list of used channels. -/

inductive Call where
  | next
  | update (map : ChannelMap)
  deriving DecidableEq, Repr

inductive Answer where
  | channel (c : Channel)
  | updated
  | refused
  | panicked
  deriving DecidableEq, Repr

def tableStep (s : Selector) : Call → Selector × Answer
  | .next =>
    match s.nextChannel with
    | none => (s,.panicked)
    | some (after,c) => (after,.channel c)
  | .update map =>
    match s.updateMap map with
    | none => (s,.panicked)
    | some (.error _) => (s,.refused)
    | some (.ok after) => (after,.updated)

def tables : Machine Selector Call Answer := ⟨tableStep⟩

def listStep (s : ChannelSelection1) : Call → ChannelSelection1 × Answer
  | .next => (s.nextChannel.1,.channel s.nextChannel.2)
  | .update map =>
    match s.updateMap map with
    | none => (s,.refused)
    | some after => (after,.updated)

def lists : Machine ChannelSelection1 Call Answer := ⟨listStep⟩

/-! The table. -/

theorem mapBitRead (map : ChannelMap) {channel : UInt8} (below : channel < 37) :
    mapBit map channel = some (enabled map channel) := by
  have small : channel.toNat < 37 := UInt8.lt_iff_toNat_lt.mp below
  have inside : (channel / 8).toNat < map.toList.length := by
    rw [UInt8.toNat_div,Vector.length_toList]
    show channel.toNat / 8 < 5
    omega
  rw [mapBit,enabled,List.getElem?_eq_getElem inside,Option.map_some,List.getD_eq_getElem?_getD,
    List.getElem?_eq_getElem inside,Option.getD_some]

/- Induction over the channels looked at so far: the table holds the used ones, then zeros. -/
theorem tableFilled (map : ChannelMap) (channels : List UInt8) (below : ∀ c ∈ channels, c < 37)
    (fits : channels.length ≤ 37) :
    ∃ used : Vector UInt8 37, channels.foldl (fillStep map) (some (Vector.replicate 37 0,0)) =
        some (used,(channels.filter (enabled map)).length) ∧
      used.toList = channels.filter (enabled map) ++
        List.replicate (37 - (channels.filter (enabled map)).length) 0 := by
  induction channels using List.reverseRecOn with
  | nil => exact ⟨_,rfl,by simp [Vector.toList_replicate]⟩
  | append_singleton channels channel ih =>
    rw [List.length_append,List.length_singleton] at fits
    obtain ⟨used,filled,held⟩ := ih (fun c member => below c (List.mem_append_left _ member)) (by omega)
    have bit := mapBitRead map (below channel (by simp))
    have count : (channels.filter (enabled map)).length ≤ channels.length := List.length_filter_le _ _
    rw [List.foldl_append,filled,List.filter_append]
    cases on : enabled map channel with
    | false =>
      refine ⟨used,?_,?_⟩
      · simp [fillStep,bit,on]
      · simpa [on] using held
    | true =>
      have room : (channels.filter (enabled map)).length < 37 := by omega
      refine ⟨used.set _ channel room,?_,?_⟩
      · simp [fillStep,bit,on,room]
      · have cells : 37 - (channels.filter (enabled map)).length =
            (37 - ((channels.filter (enabled map)).length + 1)) + 1 := by omega
        rw [Vector.toList_set,held,cells,List.replicate_succ]
        simp [on]

theorem tableOfMap (map : ChannelMap) :
    ∃ used : Vector UInt8 37, fillTable map = some (used,(usedChannels map).length) ∧
      used.toList = usedChannels map ++ List.replicate (37 - (usedChannels map).length) 0 :=
  tableFilled map dataChannels (by decide +kernel) (by decide)

theorem usedCount (map : ChannelMap) : (usedChannels map).length ≤ 37 :=
  (List.length_filter_le _ _).trans (by decide)

/-! Refinement. -/

structure Holds (s : Selector) (c : ChannelSelection1) : Prop where
  map : s.map = c.map
  used : s.used.toList = c.used ++ List.replicate (37 - c.used.length) 0
  count : s.usedLen = UInt8.ofNat c.used.length
  hop : s.hop = c.hop
  phase : s.lastUnmapped = c.lastUnmapped

theorem newHolds {map hop s} (created : Selector.new map hop = some (.ok s)) :
    ∃ c, ChannelSelection1.new map hop = some c ∧ Holds s c := by
  obtain ⟨used,filled,held⟩ := tableOfMap map
  unfold Selector.new at created
  split at created
  · cases created
  · rename_i valid
    simp only [not_or,not_not,Bool.not_eq_false] at valid
    rw [filled] at created
    cases created
    exact ⟨_,dif_pos valid,rfl,held,rfl,rfl,rfl⟩

/- Nothing panics in `new`: it fails exactly on a bad hop or map. -/
theorem newTotal (map hop) :
    Selector.new map hop = some (.error .invalidPacket) ∨ ∃ s, Selector.new map hop = some (.ok s) ∧
      (5 ≤ hop ∧ hop ≤ 16) ∧ dataChannelMapIsValid map = true := by
  obtain ⟨used,filled,_⟩ := tableOfMap map
  unfold Selector.new
  split
  · exact Or.inl rfl
  · rename_i valid
    simp only [not_or,not_not,Bool.not_eq_false] at valid
    rw [filled]
    exact Or.inr ⟨_,rfl,valid⟩

theorem mappedHolds {s c} (holds : Holds s c) {unmapped : UInt8} (below : unmapped < 37) :
    s.mapped unmapped = some (remap c.map c.used unmapped) := by
  have bit : mapBit s.map unmapped = some (enabled c.map unmapped) := by
    rw [holds.map]
    exact mapBitRead c.map below
  unfold Selector.mapped
  rw [bit,Option.bind_eq_bind,Option.bind_some,remap]
  cases on : enabled c.map unmapped with
  | true => rfl
  | false =>
    have most : c.used.length ≤ 37 := by
      rw [c.usedExact]
      exact usedCount c.map
    have least : 0 < c.used.length := by
      rw [c.usedExact]
      exact List.length_pos_iff.mpr (usedNonempty c.mapValid)
    have size : s.usedLen.toNat = c.used.length := by
      rw [holds.count,UInt8.toNat_ofNat']
      omega
    have nonzero : s.usedLen ≠ 0 := by
      intro zero
      rw [zero] at size
      exact absurd size (Nat.ne_of_lt least)
    have index : (unmapped % s.usedLen).toNat = unmapped.toNat % c.used.length := by
      rw [UInt8.toNat_mod,size]
    have inside : unmapped.toNat % c.used.length < c.used.length := Nat.mod_lt _ least
    have read : s.used.toList[unmapped.toNat % c.used.length]? =
        some (c.used.getD (unmapped.toNat % c.used.length) 0) := by
      rw [holds.used,List.getElem?_append_left inside,List.getD_eq_getElem?_getD,
        List.getElem?_eq_getElem inside,Option.getD_some]
    simp only [checkedMod,if_neg nonzero,Option.bind_eq_bind,Option.bind_some,index,read,
      Bool.false_eq_true,if_false]

theorem nextHolds {s c} (holds : Holds s c) :
    ∃ after, s.nextChannel = some (after,c.nextChannel.2) ∧ Holds after c.nextChannel.1 := by
  have lastSmall : c.lastUnmapped.toNat < 37 := UInt8.lt_iff_toNat_lt.mp c.phase
  have hopSmall : c.hop.toNat ≤ 16 := UInt8.le_iff_toNat_le.mp c.hopRange.2
  have added : checkedAdd s.lastUnmapped s.hop = some (c.lastUnmapped + c.hop) := by
    rw [holds.phase,holds.hop,checkedAdd,if_pos (by omega)]
  have reduced : checkedMod (c.lastUnmapped + c.hop) 37 = some c.advance.lastUnmapped := if_neg (by decide)
  have mapped := mappedHolds holds c.advance.phase
  have named : channelOf (remap c.map c.used c.advance.lastUnmapped) = some c.nextChannel.2 :=
    dif_pos c.nextChannel.2.valid
  refine ⟨{s with lastUnmapped := c.advance.lastUnmapped},?_,⟨holds.map,holds.used,holds.count,holds.hop,rfl⟩⟩
  unfold Selector.nextChannel
  simp only [added,reduced,mapped,named,Option.bind_eq_bind,Option.bind_some]

theorem updateHolds {s c} (holds : Holds s c) (map : ChannelMap) :
    dataChannelMapIsValid map = false ∧ s.updateMap map = some (.error .invalidPacket) ∧ c.updateMap map = none ∨
    dataChannelMapIsValid map = true ∧ ∃ after after', s.updateMap map = some (.ok after) ∧
      c.updateMap map = some after' ∧ Holds after after' := by
  obtain ⟨used,filled,held⟩ := tableOfMap map
  unfold Selector.updateMap ChannelSelection1.updateMap
  by_cases valid : dataChannelMapIsValid map = true
  · rw [if_neg (by rw [valid]; decide),filled,dif_pos valid]
    exact Or.inr ⟨valid,_,_,rfl,rfl,rfl,held,rfl,holds.hop,holds.phase⟩
  · have invalid : dataChannelMapIsValid map = false := by simpa using valid
    rw [if_pos invalid,dif_neg valid]
    exact Or.inl ⟨invalid,rfl,rfl⟩

theorem tablesSimulate : Simulates tables lists Holds id where
  answers := by
    intro s c call holds
    cases call with
    | next =>
      obtain ⟨after,next,_⟩ := nextHolds holds
      simp [tables,lists,tableStep,listStep,next]
    | update map =>
      rcases updateHolds holds map with ⟨_,refused,none⟩ | ⟨_,after,after',ok,some,_⟩
      · simp [tables,lists,tableStep,listStep,refused,none]
      · simp [tables,lists,tableStep,listStep,ok,some]
  related := by
    intro s c call holds
    cases call with
    | next =>
      obtain ⟨after,next,kept⟩ := nextHolds holds
      simpa [tables,lists,tableStep,listStep,next] using kept
    | update map =>
      rcases updateHolds holds map with ⟨_,refused,none⟩ | ⟨_,after,after',ok,some,kept⟩
      · simpa [tables,lists,tableStep,listStep,refused,none] using holds
      · simpa [tables,lists,tableStep,listStep,ok,some] using kept

/-! What a history says: how often the selector hopped, and the map it was last given. -/

def hops (past : List (Call × Answer)) : Nat := past.countP (·.1 == .next)

def install (map : ChannelMap) : Call × Answer → ChannelMap
  | (.update new,.updated) => new
  | _ => map

def installed (first : ChannelMap) (past : List (Call × Answer)) : ChannelMap := past.foldl install first

-- Core's mapping of an unmapped channel.
def csa1 (map : ChannelMap) (unmapped : Nat) : Option UInt8 :=
  if enabled map (UInt8.ofNat unmapped) then some (UInt8.ofNat unmapped)
  else (usedChannels map)[unmapped % (usedChannels map).length]?

theorem hopsSnoc (past call) : hops (past ++ [call]) = hops past + if call.1 == .next then 1 else 0 := by
  rw [hops,List.countP_append,List.countP_singleton]
  rfl

theorem installedSnoc (first past call) : installed first (past ++ [call]) = install (installed first past) call := by
  rw [installed,List.foldl_append]
  rfl

theorem remapIsCsa1 {map : ChannelMap} (valid : dataChannelMapIsValid map) {unmapped : UInt8} :
    csa1 map unmapped.toNat = some (remap map (usedChannels map) unmapped) := by
  unfold csa1 remap
  rw [UInt8.ofNat_toNat]
  cases enabled map unmapped with
  | true => rfl
  | false =>
    have least : 0 < (usedChannels map).length := List.length_pos_iff.mpr (usedNonempty valid)
    have inside : unmapped.toNat % (usedChannels map).length < (usedChannels map).length := Nat.mod_lt _ least
    rw [if_neg (by decide),if_neg (by decide),List.getD_eq_getElem?_getD,List.getElem?_eq_getElem inside,
      Option.getD_some]

theorem usedMember (map : ChannelMap) (channel : UInt8) :
    channel ∈ usedChannels map ↔ channel < 37 ∧ enabled map channel = true := by
  have listed : channel ∈ dataChannels ↔ channel < 37 := by
    constructor
    · intro member
      have all : ∀ c ∈ dataChannels, enabled (Vector.replicate 5 255) c = true := by decide +kernel
      have used : channel ∈ usedChannels (Vector.replicate 5 255) := List.mem_filter.mpr ⟨member,all channel member⟩
      exact usedBelow used
    · intro below
      refine List.mem_map.mpr ⟨channel.toNat,List.mem_range.mpr (UInt8.lt_iff_toNat_lt.mp below),?_⟩
      exact UInt8.ofNat_toNat
  rw [usedChannels,List.mem_filter,listed]

theorem usedAscending (map : ChannelMap) : (usedChannels map).Pairwise (· < ·) :=
  List.Pairwise.filter _ (by decide +kernel)

theorem remapEnabled {map : ChannelMap} (valid : dataChannelMapIsValid map) (unmapped : UInt8) :
    enabled map (remap map (usedChannels map) unmapped) = true := by
  unfold remap
  split
  · assumption
  · have least : 0 < (usedChannels map).length := List.length_pos_iff.mpr (usedNonempty valid)
    have inside : unmapped.toNat % (usedChannels map).length < (usedChannels map).length := Nat.mod_lt _ least
    rw [List.getD_eq_getElem?_getD,List.getElem?_eq_getElem inside,Option.getD_some]
    exact ((usedMember map _).mp (List.getElem_mem inside)).2

/- One hop moves the phase on; an update only changes the map, and only when it is accepted. -/
theorem listMoves (c : ChannelSelection1) (call : Call) {count first} {past : List (Call × Answer)}
    (phase : c.lastUnmapped.toNat = (count + hops past * c.hop.toNat) % 37) (map : c.map = installed first past) :
    (lists.step c call).1.hop = c.hop ∧
    (lists.step c call).1.lastUnmapped.toNat =
      (count + hops (past ++ [(call,(lists.step c call).2)]) * c.hop.toNat) % 37 ∧
    (lists.step c call).1.map = installed first (past ++ [(call,(lists.step c call).2)]) := by
  rw [hopsSnoc,installedSnoc,← map]
  cases call with
  | next =>
    refine ⟨rfl,?_,rfl⟩
    have moved : c.advance.lastUnmapped.toNat = (c.lastUnmapped.toNat + c.hop.toNat) % 37 :=
      nextUnmapped c.phase c.hopRange.2
    calc c.advance.lastUnmapped.toNat
        = ((count + hops past * c.hop.toNat) % 37 + c.hop.toNat) % 37 := by rw [moved,phase]
      _ = (count + (hops past + 1) * c.hop.toNat) % 37 := by
        rw [Nat.mod_add_mod,Nat.add_mul,Nat.one_mul,Nat.add_assoc]
  | update new =>
    cases updated : c.updateMap new with
    | none => simpa [lists,listStep,updated,install] using phase
    | some after =>
      obtain ⟨map,hop,kept⟩ := updatedMap updated
      simpa [lists,listStep,updated,install,map,hop,kept] using phase

theorem listPhase {c d} {later : List (Call × Answer)} (run : History lists c later d) :
    d.hop = c.hop ∧ d.lastUnmapped.toNat = (c.lastUnmapped.toNat + hops later * c.hop.toNat) % 37 ∧
    d.map = installed c.map later := by
  induction run with
  | start =>
    refine ⟨rfl,?_,rfl⟩
    have small : c.lastUnmapped.toNat < 37 := UInt8.lt_iff_toNat_lt.mp c.phase
    simp only [hops,List.countP_nil,Nat.zero_mul,Nat.add_zero]
    exact (Nat.mod_eq_of_lt small).symm
  | step before call ih =>
    obtain ⟨hop,phase,map⟩ := ih
    rw [← hop] at phase
    have moved := listMoves _ call phase map
    rw [hop] at moved
    exact moved

/-! Thirty-seven hops visit every residue, and so every used channel. -/

theorem installedSame {map : ChannelMap} {later : List (Call × Answer)}
    (quiet : ∀ new, (Call.update new,Answer.updated) ∈ later → new = map) : installed map later = map := by
  induction later with
  | nil => rfl
  | cons call rest ih =>
    have rest := ih fun new member => quiet new (List.mem_cons_of_mem _ member)
    have head : install map call = map := by
      unfold install
      split
      · exact quiet _ List.mem_cons_self
      · rfl
    rw [installed,List.foldl_cons,head]
    exact rest

/- Induction over the history: its last hop is the one numbered by all its hops. -/
theorem listVisits {c d} {later : List (Call × Answer)} (run : History lists c later d)
    (quiet : ∀ new, (Call.update new,Answer.updated) ∈ later → new = c.map) {j : Nat} (low : 1 ≤ j)
    (high : j ≤ hops later) :
    ∃ channel, (Call.next,Answer.channel channel) ∈ later ∧ channel.index =
      remap c.map (usedChannels c.map) (UInt8.ofNat ((c.lastUnmapped.toNat + j * c.hop.toNat) % 37)) := by
  induction run with
  | start => exact absurd high (Nat.not_le_of_lt low)
  | @step past d before call ih =>
    have earlier : ∀ new, (Call.update new,Answer.updated) ∈ past → new = c.map :=
      fun new member => quiet new (List.mem_append_left _ member)
    by_cases seen : j ≤ hops past
    · obtain ⟨channel,member,index⟩ := ih earlier seen
      exact ⟨channel,List.mem_append_left _ member,index⟩
    · rw [hopsSnoc] at high
      cases call with
      | update new =>
        simp only [beq_iff_eq,reduceCtorEq,if_false] at high
        exact absurd high seen
      | next =>
        have last : j = hops past + 1 := by
          simp only [beq_self_eq_true,if_true] at high
          omega
        obtain ⟨_,phase,map⟩ := listPhase (before.step .next)
        have same : (lists.step d .next).1.map = c.map := by rw [map,installedSame quiet]
        rw [hopsSnoc] at phase
        simp only [beq_self_eq_true,if_true] at phase
        refine ⟨d.nextChannel.2,List.mem_append_right _ (by rw [List.mem_singleton]; rfl),?_⟩
        show remap d.advance.map d.advance.used d.advance.lastUnmapped = _
        have there : d.advance.lastUnmapped.toNat = (c.lastUnmapped.toNat + j * c.hop.toNat) % 37 := by
          rw [last]
          exact phase
        rw [d.advance.usedExact,show d.advance.map = c.map from same,← there,UInt8.ofNat_toNat]

theorem residueReached {hop : Nat} (coprime : Nat.Coprime hop 37) (last : Nat) {r : Nat} (below : r < 37) :
    ∃ j, 1 ≤ j ∧ j ≤ 37 ∧ (last + j * hop) % 37 = r := by
  obtain ⟨m,small,reached⟩ :=
    Nat.exists_mul_mod_eq_of_coprime (r + 37 - last % 37) coprime (by decide)
  rw [Nat.mul_comm] at reached
  cases m with
  | zero => exact ⟨37,by decide,le_refl _,by omega⟩
  | succ m => exact ⟨m + 1,by omega,by omega,by omega⟩

theorem hopCoprime {hop : UInt8} (range : 5 ≤ hop ∧ hop ≤ 16) : Nat.Coprime hop.toNat 37 := by
  have low : 5 ≤ hop.toNat := UInt8.le_iff_toNat_le.mp range.1
  have high : hop.toNat ≤ 16 := UInt8.le_iff_toNat_le.mp range.2
  have table : ∀ n ≤ 16, 5 ≤ n → Nat.Coprime n 37 := by decide
  exact table _ high low

theorem listCovers {c d} {later : List (Call × Answer)} (run : History lists c later d)
    (quiet : ∀ new, (Call.update new,Answer.updated) ∈ later → new = c.map) (all : 37 ≤ hops later)
    {channel : UInt8} (used : channel ∈ usedChannels c.map) :
    ∃ visited, (Call.next,Answer.channel visited) ∈ later ∧ visited.index = channel := by
  have below : channel.toNat < 37 := UInt8.lt_iff_toNat_lt.mp (usedBelow used)
  obtain ⟨j,low,high,reached⟩ := residueReached (hopCoprime c.hopRange) c.lastUnmapped.toNat below
  obtain ⟨visited,member,index⟩ := listVisits run quiet low (high.trans all)
  rw [reached,UInt8.ofNat_toNat,remap,if_pos ((usedMember _ _).mp used).2] at index
  exact ⟨visited,member,index⟩

/-! Every answer of the selector, at every point of every history. -/

/- What the next call does after `past`. -/
structure Follows (hop : UInt8) (map : ChannelMap) (past : List (Call × Answer)) (s : Selector) : Prop where
  calm : ∀ call ∈ past, call.2 ≠ .panicked
  hopped : ∃ after channel, s.nextChannel = some (after,channel) ∧
    after.lastUnmapped.toNat = ((hops past + 1) * hop.toNat) % 37 ∧
    csa1 (installed map past) (((hops past + 1) * hop.toNat) % 37) = some channel.index ∧
    channel.index ∈ usedChannels (installed map past)
  refused : ∀ new, dataChannelMapIsValid new = false → tables.step s (.update new) = (s,.refused)
  installs : ∀ new, dataChannelMapIsValid new = true → (tables.step s (.update new)).2 = .updated

theorem listFollows {hop map s c} {past : List (Call × Answer)} (holds : Holds s c)
    (calm : ∀ call ∈ past, call.2 ≠ .panicked) (same : c.hop = hop)
    (phase : c.lastUnmapped.toNat = (hops past * c.hop.toNat) % 37) (installs : c.map = installed map past) :
    Follows hop map past s where
  calm := calm
  hopped := by
    obtain ⟨after,next,moved⟩ := nextHolds holds
    have walked : c.advance.lastUnmapped.toNat = ((hops past + 1) * hop.toNat) % 37 := by
      rw [show c.advance.lastUnmapped.toNat = (c.lastUnmapped.toNat + c.hop.toNat) % 37 from
        nextUnmapped c.phase c.hopRange.2,phase,same,Nat.mod_add_mod,Nat.add_mul,Nat.one_mul]
    have chosen : c.nextChannel.2.index = remap c.map (usedChannels c.map) c.advance.lastUnmapped := by
      rw [← c.usedExact]
      rfl
    refine ⟨after,c.nextChannel.2,next,?_,?_,?_⟩
    · rw [moved.phase]
      exact walked
    · rw [← installs,← walked,chosen]
      exact remapIsCsa1 c.mapValid
    · rw [← installs,chosen]
      exact (usedMember _ _).mpr ⟨remapBelow c.map c.advance.phase,remapEnabled c.mapValid _⟩
  refused := by
    intro new invalid
    rcases updateHolds holds new with ⟨_,refused,_⟩ | ⟨valid,_⟩
    · simp [tables,tableStep,refused]
    · rw [invalid] at valid
      cases valid
  installs := by
    intro new valid
    rcases updateHolds holds new with ⟨invalid,_⟩ | ⟨_,after,_,ok,_⟩
    · rw [invalid] at valid
      cases valid
    · simp [tables,tableStep,ok]

theorem listAnswers (c : ChannelSelection1) (call : Call) : (lists.step c call).2 ≠ .panicked := by
  cases call with
  | next =>
    intro panicked
    cases panicked
  | update new =>
    intro panicked
    cases updated : c.updateMap new with
    | none => simp [lists,listStep,updated] at panicked
    | some after => simp [lists,listStep,updated] at panicked

theorem listCalm {c d} {past : List (Call × Answer)} (run : History lists c past d) :
    ∀ call ∈ past, call.2 ≠ .panicked := by
  induction run with
  | start =>
    intro call member
    cases member
  | step before call ih =>
    intro other member
    rcases List.mem_append.mp member with earlier | last
    · exact ih other earlier
    · rw [List.mem_singleton.mp last]
      exact listAnswers _ call

theorem madeFresh {map hop c} (made : ChannelSelection1.new map hop = some c) :
    c.map = map ∧ c.hop = hop ∧ c.lastUnmapped = 0 := by
  unfold ChannelSelection1.new at made
  split at made <;> cases made
  exact ⟨rfl,rfl,rfl⟩

/- A history of the tables is one of the lists, answer for answer. -/
theorem tablesAreLists {s t c} {past : List (Call × Answer)} (holds : Holds s c)
    (run : History tables s past t) : ∃ d, History lists c past d ∧ Holds t d := by
  have shadow := simulatedHistory tablesSimulate holds run
  simpa using shadow

theorem selectorIsCsa1 (map : ChannelMap) (hop : UInt8) (valid : dataChannelMapIsValid map = true)
    (range : 5 ≤ hop ∧ hop ≤ 16) :
    ∃ first, Selector.new map hop = some (.ok first) ∧ ∀ past s, History tables first past s →
      Follows hop map past s ∧
      ((usedChannels (installed map past)).Pairwise (· < ·) ∧
        ∀ c, c ∈ usedChannels (installed map past) ↔ c < 37 ∧ enabled (installed map past) c = true) ∧
      ∀ later t, History tables s later t → 37 ≤ hops later →
        (∀ new, (Call.update new,Answer.updated) ∈ later → new = installed map past) →
        ∀ c ∈ usedChannels (installed map past),
          ∃ visited, (Call.next,Answer.channel visited) ∈ later ∧ visited.index = c := by
  rcases newTotal map hop with failed | ⟨first,created,_⟩
  · obtain ⟨used,filled,_⟩ := tableOfMap map
    simp [Selector.new,range,valid,filled] at failed
  refine ⟨first,created,?_⟩
  intro past s run
  obtain ⟨c,made,holds⟩ := newHolds created
  obtain ⟨d,shadow,related⟩ := tablesAreLists holds run
  obtain ⟨same,phase,installs⟩ := listPhase shadow
  have start := madeFresh made
  rw [start.2.2,UInt8.toNat_zero,Nat.zero_add,← same] at phase
  rw [start.1] at installs
  refine ⟨listFollows related (listCalm shadow) (same.trans start.2.1) phase installs,
    ⟨usedAscending _,usedMember _⟩,?_⟩
  intro later t after all quiet channel used
  obtain ⟨e,walked,_⟩ := tablesAreLists related after
  rw [← installs] at quiet used
  exact listCovers walked quiet all used

theorem selectorOfSixteenHops :
    ∃ first, Selector.new #v[0,0,0,0,3] 16 = some (.ok first) ∧ ∀ past s, History tables first past s →
      Follows 16 #v[0,0,0,0,3] past s := by
  obtain ⟨first,created,always⟩ := selectorIsCsa1 #v[0,0,0,0,3] 16 (by decide) (by decide)
  exact ⟨first,created,fun past s run => (always past s run).1⟩

end Ch58xHal.SelectorTables
