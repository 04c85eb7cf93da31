import Ch58xHal.HostCommands

/-! The advertising data the Host announces: complete structures, each with its length octet,
up to a zero length octet or the end. The copy loop keeps exactly that part. -/
namespace Ch58xHal.AdvertisingStructures
open Advertising Connection HostCommands LengthTypeValue

inductive Structures : List UInt8 → Prop where
  | nil : Structures []
  | cons {len body rest} (positive : len ≠ 0) (complete : body.length = len.toNat) (later : Structures rest) :
      Structures (len :: (body ++ rest))

/- What the Host may announce, and the part of it that is data. -/
def Announces (bytes kept : List UInt8) : Prop :=
  Structures kept ∧ (bytes = kept ∨ ∃ padding, bytes = kept ++ 0 :: padding)

/- The same, read from the front as the loop reads it. -/
inductive Reads : List UInt8 → List UInt8 → Prop where
  | finished : Reads [] []
  | ended (padding) : Reads (0 :: padding) []
  | next {len body rest kept} (positive : len ≠ 0) (complete : body.length = len.toNat) (later : Reads rest kept) :
      Reads (len :: (body ++ rest)) (len :: (body ++ kept))

theorem readsAnnounces {bytes kept : List UInt8} : Reads bytes kept ↔ Announces bytes kept := by
  constructor
  · intro reads
    induction reads with
    | finished => exact ⟨.nil,Or.inl rfl⟩
    | ended padding => exact ⟨.nil,Or.inr ⟨padding,rfl⟩⟩
    | next positive complete later ih =>
      obtain ⟨structures,whole | ⟨padding,ended⟩⟩ := ih
      · exact ⟨.cons positive complete structures,Or.inl (by rw [whole])⟩
      · exact ⟨.cons positive complete structures,Or.inr ⟨padding,by rw [ended]; simp⟩⟩
  · rintro ⟨structures,shape⟩
    induction structures generalizing bytes with
    | nil =>
      rcases shape with rfl | ⟨padding,rfl⟩
      · exact .finished
      · exact .ended padding
    | cons positive complete later ih =>
      rcases shape with rfl | ⟨padding,rfl⟩
      · exact .next positive complete (ih (Or.inl rfl))
      · rw [List.cons_append,List.append_assoc]
        exact .next positive complete (ih (Or.inr ⟨padding,rfl⟩))

/- What is kept is the part before the first zero length octet, so it is unique. -/
theorem readsUnique {bytes kept other : List UInt8} (reads : Reads bytes kept) (again : Reads bytes other) :
    kept = other := by
  induction reads generalizing other with
  | finished =>
    cases again
    rfl
  | ended padding =>
    generalize front : (0 :: padding : List UInt8) = bytes at again
    cases again with
    | finished => rfl
    | ended => rfl
    | next positive complete later => exact absurd (List.cons.inj front).1.symm positive
  | @next len body rest kept positive complete later ih =>
    generalize front : len :: (body ++ rest) = bytes at again
    cases again with
    | finished => cases front
    | ended => exact absurd (List.cons.inj front).1 positive
    | next _ size also =>
      obtain ⟨same,tail⟩ := List.cons.inj front
      subst same
      obtain ⟨rfl,rfl⟩ := List.append_inj tail (complete.trans size.symm)
      rw [ih also]

/- A structure at the front: its octets, then what the rest reads as. -/
theorem readsFront {len : UInt8} {tail kept : List UInt8} (positive : len ≠ 0) (fits : len.toNat ≤ tail.length) :
    Reads (len :: tail) kept ↔
      ∃ later, Reads (tail.drop len.toNat) later ∧ kept = len :: (tail.take len.toNat ++ later) := by
  have size : (tail.take len.toNat).length = len.toNat := List.length_take_of_le fits
  constructor
  · intro reads
    generalize front : len :: tail = bytes at reads
    cases reads with
    | finished => cases front
    | ended => exact absurd (List.cons.inj front).1 positive
    | @next _ body rest kept _ complete later =>
      obtain ⟨rfl,rfl⟩ := List.cons.inj front
      refine ⟨kept,?_,?_⟩
      · rw [← complete,List.drop_left]
        exact later
      · rw [← complete,List.take_left]
  · rintro ⟨later,reads,rfl⟩
    have whole := Reads.next positive size reads
    rwa [List.take_append_drop] at whole

theorem readsTooShort {len : UInt8} {tail kept : List UInt8} (positive : len ≠ 0) (beyond : tail.length < len.toNat) :
    ¬Reads (len :: tail) kept := by
  intro reads
  generalize front : len :: tail = bytes at reads
  cases reads with
  | finished => cases front
  | ended => exact positive (List.cons.inj front).1
  | next _ complete later =>
    obtain ⟨rfl,rfl⟩ := List.cons.inj front
    rw [List.length_append,complete] at beyond
    omega

/-! The loop. -/

/- The octets pushed are the ones read. -/
theorem encodedRead {bytes : List UInt8} {cursor : Nat} (more : cursor < bytes.length) (nonzero : (bytes[cursor]).toNat ≠ 0)
    (inside : cursor + (bytes[cursor]).toNat < bytes.length) (next : cursor + 1 < bytes.length) :
    encodeField (bytes[cursor+1],(bytes.take (cursor + 1 + (bytes[cursor]).toNat)).drop (cursor + 2)) =
      bytes[cursor] :: (bytes.drop (cursor + 1)).take (bytes[cursor]).toNat := by
  have size : ((bytes.take (cursor + 1 + (bytes[cursor]).toNat)).drop (cursor + 2)).length + 1 =
      (bytes[cursor]).toNat := by
    rw [List.length_drop,List.length_take]
    omega
  rw [encodeField,size,UInt8.ofNat_toNat]
  obtain ⟨count,size'⟩ := Nat.exists_eq_succ_of_ne_zero nonzero
  have window : cursor + 1 + (count + 1) - (cursor + 2) = count := by omega
  rw [size',List.drop_take,Nat.succ_eq_add_one,window,
    List.drop_eq_getElem_cons next,List.take_succ_cons]

section Loop
variable {bytes : List UInt8} (short : bytes.length ≤ 31)
include short

/- The pushes of the loop: where the cursor stands, the buffer holds what it passed. -/
theorem pushAccepted {cursor : Nat} {replacement : AdvertisingData} (adType : UInt8) {value : List UInt8}
    (held : replacement.asBytes.length = cursor) (inside : cursor + value.length + 1 < bytes.length) :
    (replacement.push adType value).2 = .ok () ∧
      (replacement.push adType value).1.asBytes = replacement.asBytes ++ encodeField (adType,value) := by
  obtain ⟨_,done,grown⟩ | ⟨large,_⟩ := pushCases replacement (adType,value)
  · exact ⟨done,grown⟩
  · dsimp only at large
    omega

theorem copyReads (cursor : Nat) (replacement : AdvertisingData) (held : replacement.asBytes.length = cursor) :
    (∃ kept copied, Reads (bytes.drop cursor) kept ∧ copyStructures bytes cursor replacement = some (.ok copied) ∧
      copied.asBytes = replacement.asBytes ++ kept) ∨
    (∀ kept, ¬Reads (bytes.drop cursor) kept) ∧
      copyStructures bytes cursor replacement = some (.error hciInvalidParameters) := by
  induction left : bytes.length - cursor using Nat.strongRecOn generalizing cursor replacement with
  | ind left ih =>
    by_cases more : cursor < bytes.length
    · rw [List.drop_eq_getElem_cons more]
      by_cases zero : (bytes[cursor]).toNat = 0
      · rw [copyEnds more zero,show bytes[cursor] = 0 from UInt8.toNat_inj.mp zero]
        exact Or.inl ⟨[],replacement,.ended _,rfl,(List.append_nil _).symm⟩
      · have positive : bytes[cursor] ≠ 0 := fun none => zero (by rw [none]; rfl)
        by_cases inside : cursor + (bytes[cursor]).toNat < bytes.length
        · have size : ((bytes.take (cursor + 1 + (bytes[cursor]).toNat)).drop (cursor + 2)).length + 1 =
              (bytes[cursor]).toNat := by
            rw [List.length_drop,List.length_take]
            omega
          have room : cursor + ((bytes.take (cursor + 1 + (bytes[cursor]).toNat)).drop (cursor + 2)).length + 1 <
              bytes.length := by omega
          have next : cursor + 1 < bytes.length := by omega
          obtain ⟨done,grown⟩ := pushAccepted short bytes[cursor+1] held room
          rw [encodedRead more zero inside next] at grown
          rw [copyPushes more zero inside]
          rcases pushed : replacement.push bytes[cursor+1]
            ((bytes.take (cursor + 1 + (bytes[cursor]).toNat)).drop (cursor + 2)) with ⟨larger,outcome⟩
          rw [pushed] at done grown
          dsimp only at done grown
          rw [done]
          have fits : (bytes[cursor]).toNat ≤ (bytes.drop (cursor + 1)).length := by
            rw [List.length_drop]
            omega
          have reached : larger.asBytes.length = cursor + ((bytes[cursor]).toNat + 1) := by
            rw [grown,List.length_append,List.length_cons,List.length_take_of_le fits,held]
          have rest : (bytes.drop (cursor + 1)).drop (bytes[cursor]).toNat =
              bytes.drop (cursor + ((bytes[cursor]).toNat + 1)) := by
            rw [List.drop_drop]
            congr 1
            omega
          rcases ih _ (by omega) _ larger reached rfl with ⟨kept,copied,reads,done,held⟩ | ⟨malformed,failed⟩
          · refine Or.inl ⟨_,copied,(readsFront positive fits).mpr ⟨kept,?_,rfl⟩,done,?_⟩
            · rw [rest]
              exact reads
            · rw [held,grown,List.append_assoc,List.cons_append]
          · refine Or.inr ⟨?_,failed⟩
            intro kept reads
            obtain ⟨later,reads,_⟩ := (readsFront positive fits).mp reads
            rw [rest] at reads
            exact malformed later reads
        · rw [copyBeyond more zero (Nat.le_of_not_lt inside)]
          refine Or.inr ⟨fun kept => readsTooShort positive ?_,rfl⟩
          rw [List.length_drop]
          omega
    · rw [copyPast more,List.drop_of_length_le (Nat.le_of_not_lt more)]
      exact Or.inl ⟨[],replacement,.finished,rfl,(List.append_nil _).symm⟩

end Loop

/-! Where the loop goes, and what it pushes there. -/

inductive Visits (bytes : List UInt8) : Nat → AdvertisingData → Prop where
  | start : Visits bytes 0 .new
  | push {cursor replacement len adType value} (before : Visits bytes cursor replacement)
      (octet : bytes[cursor]? = some len) (positive : len ≠ 0)
      (inside : ¬(cursor + len.toNat ≥ bytes.length ∨ len.toNat < 1)) (kind : bytes[cursor+1]? = some adType)
      (slice : between bytes (cursor + 2) (cursor + 1 + len.toNat) = some value) :
      Visits bytes (cursor + (len.toNat + 1)) (replacement.push adType value).1

theorem visitHeld {bytes : List UInt8} (short : bytes.length ≤ 31) {cursor replacement}
    (visits : Visits bytes cursor replacement) : replacement.asBytes.length = cursor ∧ cursor ≤ bytes.length := by
  induction visits with
  | start => exact ⟨rfl,Nat.zero_le _⟩
  | @push cursor replacement len adType value before octet positive inside kind slice ih =>
    obtain ⟨held,_⟩ := ih
    have size : value.length + 1 = len.toNat := by
      rw [betweenInside (by omega) (by omega)] at slice
      cases slice
      rw [List.length_drop,List.length_take]
      omega
    obtain ⟨_,grown⟩ := pushAccepted short _ held (by omega : cursor + value.length + 1 < bytes.length)
    refine ⟨?_,by omega⟩
    rw [grown,List.length_append,held,encodeField,List.length_cons,List.length_cons]
    dsimp only
    omega

theorem visitPushes {bytes : List UInt8} (short : bytes.length ≤ 31) {cursor replacement len adType value}
    (visits : Visits bytes cursor replacement)
    (inside : ¬(cursor + len ≥ bytes.length ∨ len < 1))
    (slice : between bytes (cursor + 2) (cursor + 1 + len) = some value) :
    (replacement.push adType value).2 = .ok () := by
  have size : value.length + 1 = len := by
    rw [betweenInside (by omega) (by omega)] at slice
    cases slice
    rw [List.length_drop,List.length_take]
    omega
  exact (pushAccepted short _ (visitHeld short visits).1 (by omega)).1

/-! The command. -/

def announced (params : List UInt8) (length : UInt8) : List UInt8 := (params.drop 1).take length.toNat

theorem announcedBetween {params : List UInt8} {length : UInt8} (size : params.length = 32)
    (short : length.toNat ≤ 31) :
    between params 1 (1 + length.toNat) = some (announced params length) ∧
      (announced params length).length = length.toNat := by
  have fits : length.toNat ≤ (params.drop 1).length := by
    rw [List.length_drop]
    omega
  refine ⟨?_,List.length_take_of_le fits⟩
  rw [betweenInside (by omega) (by omega),List.drop_take,announced]
  congr 2
  omega

theorem advertisingDataExact (target : AdvertisingData) (params : List UInt8) (length : UInt8)
    (size : params.length = 32) (octet : params[0]? = some length) (short : length.toNat ≤ 31) :
    ∃ set, setAdvertisingData target params = some set ∧
      (set.2 = .ok [] ↔ ∃ kept, Announces (announced params length) kept) ∧
      (∀ kept, Announces (announced params length) kept → set.1.asBytes = kept) ∧
      (set.2 ≠ .ok [] → set.1 = target ∧ ∃ status, set.2 = .error status) ∧
      ∀ cursor replacement len adType value, Visits (announced params length) cursor replacement →
        ¬(cursor + len ≥ (announced params length).length ∨ len < 1) →
        between (announced params length) (cursor + 2) (cursor + 1 + len) = some value →
        (replacement.push adType value).2 = .ok () := by
  obtain ⟨slice,count⟩ := announcedBetween size short
  have within : (announced params length).length ≤ 31 := count ▸ short
  have pushes : ∀ cursor replacement len adType value, Visits (announced params length) cursor replacement →
      ¬(cursor + len ≥ (announced params length).length ∨ len < 1) →
      between (announced params length) (cursor + 2) (cursor + 1 + len) = some value →
      (replacement.push adType value).2 = .ok () :=
    fun _ _ _ _ _ visits inside slice => visitPushes within visits inside slice
  unfold setAdvertisingData
  rw [if_neg (not_not.mpr size),octet]
  simp only [Option.bind_eq_bind,Option.bind_some]
  rw [if_neg (Nat.not_lt.mpr short),slice,Option.bind_some]
  rcases copyReads within 0 .new rfl with ⟨kept,copied,reads,done,held⟩ | ⟨malformed,failed⟩
  · rw [done]
    refine ⟨_,rfl,⟨fun _ => ⟨kept,readsAnnounces.mp reads⟩,fun _ => rfl⟩,?_,fun wrong => absurd rfl wrong,pushes⟩
    intro other announces
    rw [readsUnique (readsAnnounces.mpr announces) reads,held]
    rfl
  · rw [failed]
    refine ⟨_,rfl,⟨fun wrong => (nomatch wrong),?_⟩,?_,fun _ => ⟨rfl,_,rfl⟩,pushes⟩
    · rintro ⟨kept,announces⟩
      exact absurd (readsAnnounces.mpr announces) (malformed kept)
    · intro kept announces
      exact absurd (readsAnnounces.mpr announces) (malformed kept)

def flagsAndPadding : List UInt8 := [5,2,1,6,0,9] ++ List.replicate 26 0

theorem flagsStored :
    ∃ set, setAdvertisingData .new flagsAndPadding = some set ∧ set.1.asBytes = [2,1,6] := by
  obtain ⟨set,done,_,exact',_⟩ := advertisingDataExact .new flagsAndPadding 5 (by decide) rfl (by decide)
  have flags : Structures (2 :: ([1,6] ++ [])) := .cons (by decide) rfl .nil
  exact ⟨set,done,exact' [2,1,6] ⟨flags,Or.inr ⟨[9],rfl⟩⟩⟩

end Ch58xHal.AdvertisingStructures
