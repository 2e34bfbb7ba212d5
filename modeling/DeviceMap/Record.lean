import DeviceMap.Datum
import DeviceMap.Mac
import DeviceMap.Vector
import DeviceMap.Scalar.Double

/-! How values are kept as data. A record is written with its fields by name;
when it is read, the fields may also stand in a list in their declared order. -/
namespace DeviceMap

/-- The forms that data is read in. They agree on most things. -/
inductive Format where
  | json
  | toml
  /-- Data of any document that was kept whole until it was known what it is. -/
  | kept
deriving DecidableEq

/-- Values of a type as data. -/
class Codec (α : Type) where
  encode : α → Datum
  decode : Format → Datum → Option α

export Codec (encode decode)

namespace Record

/-- How a field of a record was found. -/
inductive Entry where
  | given (value : Datum)
  /-- The record does not name the field. -/
  | omitted
  /-- The list ends before the field. -/
  | ended

/-- The entry of a field among named ones. It must not be given twice. -/
def named? (fields : List (String × Datum)) (name : String) : Option Entry :=
  match fields.filter (·.1 = name) with
  | [] => some .omitted
  | [(_, value)] => some (.given value)
  | _ => none

/-- The entries of declared fields in their order. Fields that are not declared
are disregarded. A list may end early; more items than fields are only allowed
in one of the forms. -/
def entries? (format : Format) (names : List String) : Datum → Option (List Entry)
  | .record fields => names.mapM (named? fields)
  | .list items =>
    if names.length < items.length ∧ format ≠ .toml then none
    else some ((items.take names.length).map .given ++
      List.replicate (names.length - items.length) .ended)
  | _ => none

namespace Entry
variable {α : Type} [Codec α]

/-- A field that has to be given. -/
def required? (format : Format) : Entry → Option α
  | .given value => decode format value
  | _ => none

/-- A field with a default. -/
def orElse? (format : Format) (default : α) : Entry → Option α
  | .given value => decode format value
  | _ => some default

/-- A field that may be null, or not be named. A list has to hold it. -/
def nullable? (format : Format) : Entry → Option (Option α)
  | .given .null => some none
  | .given value => (decode format value).map some
  | .omitted => some none
  | .ended => none

end Entry

/-- The data of a variant that carries nothing, where it is not written as a
text of its own. -/
def isUnit (format : Format) : Datum → Bool
  | .null => format ≠ .toml
  | .list [] | .record [] => format = .toml
  | _ => false

/-- The name of a variant that carries nothing. -/
def variant? (format : Format) : Datum → Option String
  | .text name => some name
  | .record [(name, value)] => if isUnit format value then some name else none
  | _ => none

end Record

instance : Codec Float where
  encode := .float
  decode
    | _, .float x => some x
    | _, .int n => some (Float.ofInt n)
    | _, _ => none

instance : Codec Bool where
  encode := .bool
  decode
    | _, .bool b => some b
    | _, _ => none

instance [Codec α] : Codec (List α) where
  encode xs := .list (xs.map encode)
  decode
    | format, .list items => items.mapM (decode format)
    | _, _ => none

instance [Codec α] : Codec (Option α) where
  encode
    | some x => encode x
    | none => .null
  decode
    | _, .null => some none
    | format, d => (decode format d).map some

instance : Codec Mac where
  encode mac := .int mac.value.toNat
  decode
    | _, .int n => if 0 ≤ n ∧ n < UInt64.size then some ⟨n.toNat.toUInt64⟩ else none
    | _, _ => none

/-- Points of the plane are pairs. -/
instance : Codec (Vec2 Float) where
  encode p := .list [encode p.x, encode p.y]
  decode
    | format, .list [x, y] => return ⟨← decode format x, ← decode format y⟩
    | _, _ => none

end DeviceMap
