import Mathlib.Algebra.Group.Int.Defs
import DeviceMap.Json.Reader

/-! The numbers that are read from JSON. There is no text for what is not finite,
and a number that is too large for a double is unreadable; so whatever is read
holds finite numbers only. -/
namespace DeviceMap

/-- All doubles in the data are finite, and all whole numbers fit into words. -/
inductive Datum.Finite : Datum → Prop where
  | null : Finite .null
  | bool (b : Bool) : Finite (.bool b)
  | int {n : Int} (word : -2 ^ 64 < n ∧ n < 2 ^ 64) : Finite (.int n)
  | float {x : Float} (finite : x.isFinite = true) : Finite (.float x)
  | text (s : String) : Finite (.text s)
  | list {items : List Datum} (all : ∀ item ∈ items, item.Finite) : Finite (.list items)
  | record {fields : List (String × Datum)} (all : ∀ field ∈ fields, field.2.Finite) :
      Finite (.record fields)
  | unreadable : Finite .unreadable

namespace Json.Reader

theorem double_finite (d : Decimal) : (double d).Finite := by
  unfold double
  dsimp only
  split
  · rename_i finite
    exact .float finite
  · exact .unreadable

theorem wholeValue_finite (negative : Bool) (found : List Char) :
    (wholeValue negative found).Finite := by
  unfold wholeValue
  dsimp only
  split
  · split
    · exact .int (by omega)
    · exact double_finite _
  · split
    · rename_i small
      simp only [UInt64.size] at small
      exact .int (by omega)
    · exact double_finite _

theorem number_finite {cs rest : List Char} {d : Datum} (found : number cs = some (d, rest)) :
    d.Finite := by
  unfold number at found
  simp only [Option.bind_eq_bind, Option.bind_eq_some_iff] at found
  obtain ⟨whole, -, fraction, -, power, -, found⟩ := found
  split at found
  · cases found
    exact wholeValue_finite _ _
  · cases found
    exact double_finite _

theorem nested_finite {depth : Nat} {d : Datum} (finite : d.Finite) : (nested depth d).Finite := by
  unfold nested
  split
  · exact finite
  · exact .unreadable

section Fuel
variable (fuel : Nat)

/-- With this fuel every value is read as finite data. -/
def ValuesFinite : Prop := ∀ {depth : Nat} {cs rest : List Char} {d : Datum},
  value fuel depth cs = some (d, rest) → d.Finite

/-- With this fuel the items of every list are. -/
def ItemsFinite : Prop := ∀ {depth : Nat} {cs rest : List Char} {ds : List Datum},
  items fuel depth cs = some (ds, rest) → ∀ item ∈ ds, item.Finite

/-- With this fuel the fields of every record are. -/
def FieldsFinite : Prop := ∀ {depth : Nat} {cs rest : List Char} {fs : List (String × Datum)},
  fields fuel depth cs = some (some fs, rest) → ∀ field ∈ fs, field.2.Finite

end Fuel

section Step
variable {fuel : Nat}

private theorem values_finite_succ (ofItems : ItemsFinite fuel) (ofFields : FieldsFinite fuel) :
    ValuesFinite (fuel + 1) := by
  intro depth cs rest d found
  unfold value at found
  split at found
  · obtain ⟨⟨s, after⟩, -, same⟩ := Option.map_eq_some_iff.mp found
    cases same
    cases s with
    | none => exact .unreadable
    | some s => exact .text s
  · split at found
    · cases found
      exact nested_finite (.list nofun)
    · obtain ⟨⟨ds, after⟩, inner, same⟩ := Option.map_eq_some_iff.mp found
      cases same
      exact nested_finite (.list (ofItems inner))
  · split at found
    · cases found
      exact nested_finite (.record nofun)
    · obtain ⟨⟨fs, after⟩, inner, same⟩ := Option.map_eq_some_iff.mp found
      cases same
      cases fs with
      | none => exact nested_finite .unreadable
      | some fs => exact nested_finite (.record (ofFields inner))
  · cases found
    exact .null
  · cases found
    exact .bool true
  · cases found
    exact .bool false
  · exact number_finite found

private theorem items_finite_succ (ofValue : ValuesFinite fuel) (ofItems : ItemsFinite fuel) :
    ItemsFinite (fuel + 1) := by
  intro depth cs rest ds found
  unfold items at found
  obtain ⟨⟨first, after⟩, read, found⟩ := Option.bind_eq_some_iff.mp found
  dsimp only at found
  have firstFinite := ofValue read
  split at found
  · cases found
    simpa using firstFinite
  · obtain ⟨⟨more, last⟩, others, found⟩ := Option.bind_eq_some_iff.mp found
    cases found
    exact List.forall_mem_cons.mpr ⟨firstFinite, ofItems others⟩
  · cases found

private theorem fields_finite_succ (ofValue : ValuesFinite fuel) (ofFields : FieldsFinite fuel) :
    FieldsFinite (fuel + 1) := by
  intro depth cs rest fs found
  unfold fields at found
  split at found
  · obtain ⟨⟨name, colon⟩, -, found⟩ := Option.bind_eq_some_iff.mp found
    dsimp only at found
    split at found
    · obtain ⟨⟨first, after⟩, read, found⟩ := Option.bind_eq_some_iff.mp found
      dsimp only at found
      have firstFinite := ofValue read
      split at found
      · cases name with
        | none => cases found
        | some name =>
          cases found
          simpa using firstFinite
      · obtain ⟨⟨more, last⟩, others, found⟩ := Option.bind_eq_some_iff.mp found
        cases name with
        | none => cases found
        | some name =>
          cases more with
          | none => cases found
          | some more =>
            cases found
            exact List.forall_mem_cons.mpr ⟨firstFinite, ofFields others⟩
      · cases found
    · cases found
  · cases found

end Step

private theorem all_finite (fuel : Nat) :
    ValuesFinite fuel ∧ ItemsFinite fuel ∧ FieldsFinite fuel := by
  -- The readers call each other with one unit of fuel less, so they are told together.
  induction fuel with
  | zero => exact ⟨nofun, nofun, nofun⟩
  | succ fuel ih =>
    obtain ⟨ofValue, ofItems, ofFields⟩ := ih
    exact ⟨values_finite_succ ofItems ofFields, items_finite_succ ofValue ofItems,
      fields_finite_succ ofValue ofFields⟩

end Json.Reader

/-- Whatever text it is read from, data holds finite numbers. -/
theorem Json.read_finite {text : String} {d : Datum} (found : Json.read text = some d) :
    d.Finite := by
  unfold Json.read at found
  simp only [Option.bind_eq_bind, Option.bind_eq_some_iff] at found
  obtain ⟨⟨value, rest⟩, inner, found⟩ := found
  split at found
  · cases found
    exact (Reader.all_finite _).1 inner
  · cases found

end DeviceMap
