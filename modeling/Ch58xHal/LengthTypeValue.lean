import Mathlib.Algebra.Order.Ring.Nat
import Mathlib.Data.List.Basic

/-! Lists of typed fields, each preceded by one octet with the length of its type and
value together. A field fits when that octet can hold its length. -/
namespace Ch58xHal.LengthTypeValue

abbrev Field := UInt8 × List UInt8

def Fits (field : Field) : Prop := field.2.length < 255
instance (field) : Decidable (Fits field) := by unfold Fits; infer_instance

def encodeField (field : Field) : List UInt8 :=
  UInt8.ofNat (field.2.length + 1) :: field.1 :: field.2

def encode (fields : List Field) : List UInt8 := (fields.map encodeField).flatten

/- A zero length octet or a length past the end is refused. -/
def decode : List UInt8 → Option (List Field)
  | [] => some []
  | [_] => none
  | len :: kind :: rest =>
      if len = 0 ∨ rest.length + 1 < len.toNat then none
      else (decode (rest.drop (len.toNat - 1))).map ((kind,rest.take (len.toNat - 1)) :: ·)
termination_by bytes => bytes.length
decreasing_by simp only [List.length_drop,List.length_cons]; omega

theorem encodeSnoc (fields : List Field) (field : Field) :
    encode (fields ++ [field]) = encode fields ++ encodeField field := by
  simp [encode]

theorem decodeField {field : Field} (fits : Fits field) (rest : List UInt8) :
    decode (encodeField field ++ rest) = (decode rest).map (field :: ·) := by
  unfold Fits at fits
  have size : (UInt8.ofNat (field.2.length + 1)).toNat = field.2.length + 1 := by
    rw [UInt8.toNat_ofNat']
    omega
  have positive : UInt8.ofNat (field.2.length + 1) ≠ 0 := by
    intro zero
    rw [zero] at size
    exact absurd size (by simp)
  rw [encodeField,List.cons_append,List.cons_append,decode]
  have accepted : ¬(UInt8.ofNat (field.2.length + 1) = 0 ∨
      (field.2 ++ rest).length + 1 < (UInt8.ofNat (field.2.length + 1)).toNat) := by
    rw [size,List.length_append]
    rintro (zero | beyond)
    · exact positive zero
    · omega
  rw [if_neg accepted,size,Nat.add_sub_cancel,List.drop_left,List.take_left]

theorem decodeEncode {fields : List Field} (fits : ∀ field ∈ fields, Fits field) :
    decode (encode fields) = some fields := by
  induction fields with
  | nil => rw [encode,List.map_nil,List.flatten_nil,decode]
  | cons field rest ih =>
    have tail := ih (fun other member => fits other (List.mem_cons_of_mem _ member))
    have head := fits field List.mem_cons_self
    have shape : encode (field :: rest) = encodeField field ++ encode rest := by simp [encode]
    rw [shape,decodeField head,tail,Option.map_some]

end Ch58xHal.LengthTypeValue
