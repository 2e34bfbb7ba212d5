/-! Data as documents hold it: the common ground of the formats that are read
and of the one that is written. -/
namespace DeviceMap

/-- A piece of data. The fields of a record keep their order, and a document may
give a field more than once. What has a correct form but no value stays in the
tree as `unreadable`, because it does no harm where nobody asks for it. -/
inductive Datum where
  | null
  | bool (value : Bool)
  | int (value : Int)
  | float (value : Float)
  | text (value : String)
  | list (items : List Datum)
  | record (fields : List (String × Datum))
  | unreadable
deriving Inhabited

namespace Datum

mutual

/-- Everything in the tree has a value. -/
def isReadable : Datum → Bool
  | .unreadable => false
  | .list items => itemsReadable items
  | .record fields => fieldsReadable fields
  | _ => true

def itemsReadable : List Datum → Bool
  | [] => true
  | item :: rest => item.isReadable && itemsReadable rest

def fieldsReadable : List (String × Datum) → Bool
  | [] => true
  | (_, value) :: rest => value.isReadable && fieldsReadable rest

end

/-- Puts a field before the first one whose name is not smaller. -/
def insertField (name : String) (value : Datum) :
    List (String × Datum) → List (String × Datum)
  | [] => [(name, value)]
  | (other, kept) :: rest =>
    if other < name then (other, kept) :: insertField name value rest
    else (name, value) :: (other, kept) :: rest

mutual

/-- The same data with the fields of all records in the order of their names. -/
def sorted : Datum → Datum
  | .list items => .list (sortedItems items)
  | .record fields => .record (sortedFields fields)
  | other => other

def sortedItems : List Datum → List Datum
  | [] => []
  | item :: rest => item.sorted :: sortedItems rest

def sortedFields : List (String × Datum) → List (String × Datum)
  | [] => []
  | (name, value) :: rest => insertField name value.sorted (sortedFields rest)

end

end Datum
end DeviceMap
