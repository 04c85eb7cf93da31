import Ch58xHal.ControlPdu
import Ch58xHal.LittleEndian

/-! Fixed-width fields of a packet: what a read at an offset gives back when it is written
again, and what a write gives when it is read. -/
namespace Ch58xHal.OctetFields
open ControlPdu LittleEndian

def fromLeBytes24 (a b c : UInt8) : UInt32 := a.toUInt32 ||| (b.toUInt32 <<< 8) ||| (c.toUInt32 <<< 16)

def toLeBytes24 (w : UInt32) : List UInt8 := [w.toUInt8,(w >>> 8).toUInt8,(w >>> 16).toUInt8]

def fromLeBytes32 (a b c d : UInt8) : UInt32 :=
  a.toUInt32 ||| (b.toUInt32 <<< 8) ||| (c.toUInt32 <<< 16) ||| (d.toUInt32 <<< 24)

def toLeBytes32 (w : UInt32) : List UInt8 :=
  [w.toUInt8,(w >>> 8).toUInt8,(w >>> 16).toUInt8,(w >>> 24).toUInt8]

def word24 (bytes : List UInt8) (i : Nat) : UInt32 :=
  fromLeBytes24 (octet bytes i) (octet bytes (i+1)) (octet bytes (i+2))

def word32 (bytes : List UInt8) (i : Nat) : UInt32 :=
  fromLeBytes32 (octet bytes i) (octet bytes (i+1)) (octet bytes (i+2)) (octet bytes (i+3))

/-! The three widths against little-endian numbers. -/

theorem fromLeBytesValue (lo hi : UInt8) : (fromLeBytes lo hi).toNat = value [lo,hi] := by
  have low := UInt8.toNat_lt lo
  have high := UInt8.toNat_lt hi
  simp only [fromLeBytes,UInt16.toNat_or,UInt16.toNat_shiftLeft,UInt8.toNat_toUInt16]
  have fits : hi.toNat <<< 8 < 2 ^ 16 := by
    rw [Nat.shiftLeft_eq]
    omega
  have shift : (8 : UInt16).toNat % 16 = 8 := by decide
  rw [shift,Nat.mod_eq_of_lt fits,orShifted 8 low,value,value,value]
  omega

theorem fromLeBytes24Value (a b c : UInt8) : (fromLeBytes24 a b c).toNat = value [a,b,c] := by
  have la := UInt8.toNat_lt a
  have lb := UInt8.toNat_lt b
  have lc := UInt8.toNat_lt c
  simp only [fromLeBytes24,UInt32.toNat_or,UInt32.toNat_shiftLeft,UInt8.toNat_toUInt32]
  have fitsB : b.toNat <<< 8 < 2 ^ 32 := by
    rw [Nat.shiftLeft_eq]
    omega
  have fitsC : c.toNat <<< 16 < 2 ^ 32 := by
    rw [Nat.shiftLeft_eq]
    omega
  have shift8 : (8 : UInt32).toNat % 32 = 8 := by decide
  have shift16 : (16 : UInt32).toNat % 32 = 16 := by decide
  rw [shift8,shift16,Nat.mod_eq_of_lt fitsB,Nat.mod_eq_of_lt fitsC,orShifted 8 la,
    orShifted 16 (by omega)]
  simp only [value]
  omega

theorem fromLeBytes32Value (a b c d : UInt8) : (fromLeBytes32 a b c d).toNat = value [a,b,c,d] := by
  have la := UInt8.toNat_lt a
  have lb := UInt8.toNat_lt b
  have lc := UInt8.toNat_lt c
  have ld := UInt8.toNat_lt d
  have lower : (a.toUInt32 ||| (b.toUInt32 <<< 8) ||| (c.toUInt32 <<< 16)).toNat = value [a,b,c] :=
    fromLeBytes24Value a b c
  have fits : d.toNat <<< 24 < 2 ^ 32 := by
    rw [Nat.shiftLeft_eq]
    omega
  have shift : (24 : UInt32).toNat % 32 = 24 := by decide
  have below : value [a,b,c] < 2 ^ 24 := by
    simp only [value]
    omega
  rw [fromLeBytes32,UInt32.toNat_or,lower,UInt32.toNat_shiftLeft,UInt8.toNat_toUInt32,shift,
    Nat.mod_eq_of_lt fits,orShifted 24 below]
  simp only [value]
  omega

theorem toLeBytesDigits (w : UInt16) : toLeBytes w = digits 2 w.toNat := by
  have low : w.toUInt8 = UInt8.ofNat w.toNat := by
    apply UInt8.toNat_inj.mp
    simp
  have high : (w >>> 8).toUInt8 = UInt8.ofNat (w.toNat / 256) := by
    apply UInt8.toNat_inj.mp
    simp [Nat.shiftRight_eq_div_pow]
  rw [toLeBytes,low,high]
  rfl

theorem toLeBytes32Digits (w : UInt32) : toLeBytes32 w = digits 4 w.toNat := by
  have low : w.toUInt8 = UInt8.ofNat w.toNat := by
    apply UInt8.toNat_inj.mp
    simp
  have second : (w >>> 8).toUInt8 = UInt8.ofNat (w.toNat / 256) := by
    apply UInt8.toNat_inj.mp
    simp [Nat.shiftRight_eq_div_pow]
  have third : (w >>> 16).toUInt8 = UInt8.ofNat (w.toNat / 256 / 256) := by
    apply UInt8.toNat_inj.mp
    simp [Nat.shiftRight_eq_div_pow,Nat.div_div_eq_div_mul]
  have fourth : (w >>> 24).toUInt8 = UInt8.ofNat (w.toNat / 256 / 256 / 256) := by
    apply UInt8.toNat_inj.mp
    simp [Nat.shiftRight_eq_div_pow,Nat.div_div_eq_div_mul]
  rw [toLeBytes32,low,second,third,fourth]
  rfl

theorem toLeBytes24Digits (w : UInt32) : toLeBytes24 w = digits 3 w.toNat := by
  have wide := toLeBytes32Digits w
  simp only [toLeBytes32,digits,List.cons.injEq] at wide
  rw [toLeBytes24,wide.1,wide.2.1,wide.2.2.1]
  rfl

/-! Both directions of each width. -/

theorem toFromLeBytes (lo hi : UInt8) : toLeBytes (fromLeBytes lo hi) = [lo,hi] := by
  rw [toLeBytesDigits,fromLeBytesValue]
  exact digitsValue [lo,hi]

theorem toFromLeBytes24 (a b c : UInt8) : toLeBytes24 (fromLeBytes24 a b c) = [a,b,c] := by
  rw [toLeBytes24Digits,fromLeBytes24Value]
  exact digitsValue [a,b,c]

theorem toFromLeBytes32 (a b c d : UInt8) : toLeBytes32 (fromLeBytes32 a b c d) = [a,b,c,d] := by
  rw [toLeBytes32Digits,fromLeBytes32Value]
  exact digitsValue [a,b,c,d]

@[simp] theorem fromToLeBytes (w : UInt16) : fromLeBytes w.toUInt8 (w >>> 8).toUInt8 = w := by
  apply UInt16.toNat_inj.mp
  have bytes : [w.toUInt8,(w >>> 8).toUInt8] = digits 2 w.toNat := toLeBytesDigits w
  rw [fromLeBytesValue,bytes,valueDigits]
  exact Nat.mod_eq_of_lt (UInt16.toNat_lt w)

@[simp] theorem fromToLeBytes32 (w : UInt32) :
    fromLeBytes32 w.toUInt8 (w >>> 8).toUInt8 (w >>> 16).toUInt8 (w >>> 24).toUInt8 = w := by
  apply UInt32.toNat_inj.mp
  have bytes : [w.toUInt8,(w >>> 8).toUInt8,(w >>> 16).toUInt8,(w >>> 24).toUInt8] =
    digits 4 w.toNat := toLeBytes32Digits w
  rw [fromLeBytes32Value,bytes,valueDigits]
  exact Nat.mod_eq_of_lt (UInt32.toNat_lt w)

/- What three octets keep of a word. -/
def low24 (w : UInt32) : UInt32 := fromLeBytes24 w.toUInt8 (w >>> 8).toUInt8 (w >>> 16).toUInt8

theorem low24Exact (w : UInt32) : low24 w = w ↔ w.toNat < 2 ^ 24 := by
  have bytes : [w.toUInt8,(w >>> 8).toUInt8,(w >>> 16).toUInt8] = digits 3 w.toNat :=
    toLeBytes24Digits w
  rw [low24,← UInt32.toNat_inj,fromLeBytes24Value,bytes,valueDigits]
  constructor
  · intro same
    omega
  · intro below
    exact Nat.mod_eq_of_lt below

/-! A packet as the sequence of its slices. -/

def slice (bytes : List UInt8) (i n : Nat) : List UInt8 := (bytes.drop i).take n

theorem sliceSplit (bytes : List UInt8) (i m n : Nat) :
    slice bytes i (m+n) = slice bytes i m ++ slice bytes (i+m) n := by
  rw [slice,slice,slice,List.take_add,List.drop_drop]

theorem sliceOctets {n : Nat} {bytes : List UInt8} {i : Nat} (inside : i + n ≤ bytes.length) :
    slice bytes i n = (List.ofFn fun k : Fin n => octet bytes (i+k.val)) := by
  apply List.ext_getElem
  · simp only [slice,List.length_take,List.length_drop,List.length_ofFn]
    omega
  · intro k below _
    have here : i + k < bytes.length := by
      simp only [slice,List.length_take,List.length_drop] at below
      omega
    simp [slice,octet,List.getElem?_eq_getElem here]

theorem sliceVector {n : Nat} {bytes : List UInt8} {i : Nat} (inside : i + n ≤ bytes.length) :
    (Vector.ofFn fun k : Fin n => octet bytes (i+k.val)).toList = slice bytes i n := by
  rw [sliceOctets inside,Vector.toList_ofFn]

theorem sliceOctet {bytes : List UInt8} {i : Nat} (inside : i < bytes.length) :
    [octet bytes i] = slice bytes i 1 := by
  rw [sliceOctets inside]
  rfl

theorem sliceWord {bytes : List UInt8} {i : Nat} (inside : i + 2 ≤ bytes.length) :
    toLeBytes (word bytes i) = slice bytes i 2 := by
  rw [sliceOctets inside,word,toFromLeBytes]
  rfl

theorem sliceWord24 {bytes : List UInt8} {i : Nat} (inside : i + 3 ≤ bytes.length) :
    toLeBytes24 (word24 bytes i) = slice bytes i 3 := by
  rw [sliceOctets inside,word24,toFromLeBytes24]
  rfl

theorem sliceWord32 {bytes : List UInt8} {i : Nat} (inside : i + 4 ≤ bytes.length) :
    toLeBytes32 (word32 bytes i) = slice bytes i 4 := by
  rw [sliceOctets inside,word32,toFromLeBytes32]
  rfl

theorem sliceWords {n : Nat} {bytes : List UInt8} {i : Nat} (inside : i + 2*n ≤ bytes.length) :
    ((List.ofFn fun k : Fin n => word bytes (i+2*k.val)).map toLeBytes).flatten =
      slice bytes i (2*n) := by
  induction n generalizing i with
  | zero => simp [slice]
  | succ n ih =>
    have head : toLeBytes (word bytes i) = slice bytes i 2 := sliceWord (by omega)
    have tail := ih (i := i+2) (by omega)
    have shift : (fun k : Fin n => word bytes (i + 2*(k.succ).val)) =
        fun k : Fin n => word bytes (i + 2 + 2*k.val) := by
      funext k
      congr 1
      simp only [Fin.val_succ]
      omega
    have width : 2*(n+1) = 2 + 2*n := by omega
    rw [List.ofFn_succ,List.map_cons,List.flatten_cons,shift,tail,width,sliceSplit,← head]
    rfl

end Ch58xHal.OctetFields
