import TableThrift.Text.Basic

/-!
# Structs

A struct has a name, a remark and fields in order. The number of a field is one more than the
count of the fields before it, in 32 bits, so a struct cannot hold a wrong number.

## Main definitions

* `Presence`, `BaseType`: the words of a field
* `Field`, `Struct`: a field and a struct
* `Field.numberAfter`, `Field.numbered`: the number of a field, and fields with their numbers

## Main results

* `Field.numbered_concat`: a field at the end gets the next number
* `Field.map_numbered`: few enough fields are numbered from one on
-/

namespace TableThrift

/-- Whether a field must be there. -/
inductive Presence where
  | required
  | optional
deriving DecidableEq, Repr

namespace Presence

/-- The word for it in a struct. -/
def word : Presence → Text
  | required => "required".toList
  | optional => "optional".toList

end Presence

/-- The types of a field. -/
inductive BaseType where
  | i32
  | i64
  | string
deriving DecidableEq, Repr

namespace BaseType

/-- The word for it in a struct. -/
def word : BaseType → Text
  | i32 => "i32".toList
  | i64 => "i64".toList
  | string => "string".toList

end BaseType

/-- A field of a struct, without its number. -/
structure Field where
  presence : Presence
  type : BaseType
  name : Text
  remark : Text
deriving DecidableEq, Repr

/-- A struct: its name, the remark above it, and its fields in order. -/
structure Struct where
  name : Text
  remark : Text
  fields : List Field
deriving DecidableEq, Repr

namespace Field

/-! ## Numbers -/

section Numbers

/-- The number of the field after a count of others. Numbers have 32 bits. -/
def numberAfter (count : Nat) : UInt32 := UInt32.ofNat count + 1

/-- Fields with their numbers, in order. -/
def numbered (fields : List Field) : List (Field × UInt32) :=
  fields.zipIdx.map fun p => (p.1, numberAfter p.2)

@[simp] theorem length_numbered (fields : List Field) :
    (numbered fields).length = fields.length := by
  simp [numbered]

theorem fst_mem_of_mem_numbered {fields : List Field} {p : Field × UInt32}
    (h : p ∈ numbered fields) : p.1 ∈ fields := by
  obtain ⟨q, hq, rfl⟩ := List.mem_map.1 h
  exact List.fst_mem_of_mem_zipIdx hq

/-- A field at the end gets the next number, and the others keep theirs. -/
theorem numbered_concat (fields : List Field) (field : Field) :
    numbered (fields ++ [field]) = numbered fields ++ [(field, numberAfter fields.length)] := by
  simp [numbered, List.zipIdx_append]

/-- A number is exact as long as 32 bits are enough for it. -/
theorem toNat_numberAfter {count : Nat} (h : count + 1 < UInt32.size) :
    (numberAfter count).toNat = count + 1 := by
  have hsize : UInt32.size = 4294967296 := rfl
  rw [numberAfter, UInt32.toNat_add, UInt32.toNat_ofNat', UInt32.toNat_one]
  omega

/-- With fewer fields than 32 bits can number, the numbers count from one. -/
theorem map_numbered {fields : List Field} (h : fields.length < UInt32.size) :
    (numbered fields).map (fun p => (p.1, p.2.toNat)) = fields.zipIdx 1 := by
  rw [List.zipIdx_eq_map_add, numbered, List.map_map]
  refine List.map_congr_left fun p hp => ?_
  have hlt : p.2 < fields.length := List.snd_lt_of_mem_zipIdx hp
  simp only [Function.comp_apply, toNat_numberAfter (Nat.lt_of_le_of_lt hlt h), Nat.add_comm 1 p.2]

end Numbers

end Field

end TableThrift
