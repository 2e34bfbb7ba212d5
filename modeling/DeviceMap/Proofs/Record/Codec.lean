import DeviceMap.Proofs.Json.RoundTrip
import DeviceMap.Record

/-! The reading of encoded values. A codec reads back what is shown of a value
when its numbers are finite, and refuses it otherwise; the fields of records may
stand in their declared order or in that of their names. With that known of a
type it is known of lists, and of records field by field. -/
namespace DeviceMap
open Json.Reader Record Datum

namespace Datum

/-- The data as it is, or with all fields in the order of their names. -/
def arranged (byName : Bool) (d : Datum) : Datum := if byName then d.sorted else d

theorem itemsShown_eq (items : List Datum) : itemsShown items = items.map shown := by
  induction items with
  | nil => rfl
  | cons item rest ih => rw [itemsShown, ih, List.map_cons]

theorem fieldsShown_eq (fields : List (String × Datum)) :
    fieldsShown fields = fields.map fun field => (field.1, field.2.shown) := by
  induction fields with
  | nil => rfl
  | cons field rest ih => rw [fieldsShown, ih, List.map_cons]

mutual

theorem shown_readable : (d : Datum) → d.shown.isReadable = true
  | .list items => itemsShown_readable items
  | .record fields => fieldsShown_readable fields
  | .float x => by
    unfold shown
    split <;> rfl
  | .null | .bool _ | .int _ | .text _ | .unreadable => rfl

theorem itemsShown_readable : (items : List Datum) → itemsReadable (itemsShown items) = true
  | [] => rfl
  | item :: rest => by
    simp [itemsShown, itemsReadable, shown_readable item, itemsShown_readable rest]

theorem fieldsShown_readable : (fields : List (String × Datum)) →
    fieldsReadable (fieldsShown fields) = true
  | [] => rfl
  | (name, value) :: rest => by
    simp [fieldsShown, fieldsReadable, shown_readable value, fieldsShown_readable rest]

end

theorem sortedItems_eq (items : List Datum) : sortedItems items = items.map sorted := by
  induction items with
  | nil => rfl
  | cons item rest ih => rw [sortedItems, ih, List.map_cons]

theorem insertField_perm (name : String) (value : Datum) (fields : List (String × Datum)) :
    (insertField name value fields).Perm ((name, value) :: fields) := by
  induction fields with
  | nil => exact List.Perm.refl _
  | cons field rest ih =>
    unfold insertField
    split
    · exact (ih.cons field).trans (List.Perm.swap ..)
    · exact List.Perm.refl _

theorem sortedFields_perm (fields : List (String × Datum)) :
    (sortedFields fields).Perm (fields.map fun field => (field.1, field.2.sorted)) := by
  induction fields with
  | nil => exact List.Perm.refl _
  | cons field rest ih => exact (insertField_perm ..).trans (ih.cons _)

theorem itemsFit_iff {depth : Nat} {items : List Datum} :
    ItemsFit depth items ↔ ∀ item ∈ items, item.Fits depth := by
  induction items with
  | nil => simp [ItemsFit]
  | cons item rest ih => simp [ItemsFit, ih]

theorem fieldsFit_iff {depth : Nat} {fields : List (String × Datum)} :
    FieldsFit depth fields ↔ ∀ field ∈ fields, field.2.Fits depth := by
  induction fields with
  | nil => simp [FieldsFit]
  | cons field rest ih => simp [FieldsFit, ih]

mutual

theorem Fits.sorted : (d : Datum) → ∀ {depth : Nat}, d.Fits depth → d.sorted.Fits depth
  | .list items, _, ⟨room, fit⟩ => ⟨room, ItemsFit.sorted items fit⟩
  | .record fields, _, ⟨room, fit⟩ => ⟨room, FieldsFit.sorted fields fit⟩
  | .null, _, fits | .bool _, _, fits | .int _, _, fits | .float _, _, fits | .text _, _, fits
  | .unreadable, _, fits => fits

theorem ItemsFit.sorted : (items : List Datum) → ∀ {depth : Nat}, ItemsFit depth items →
    ItemsFit depth (sortedItems items)
  | [], _, _ => trivial
  | item :: rest, _, ⟨fits, others⟩ => ⟨Fits.sorted item fits, ItemsFit.sorted rest others⟩

theorem FieldsFit.sorted : (fields : List (String × Datum)) → ∀ {depth : Nat},
    FieldsFit depth fields → FieldsFit depth (sortedFields fields)
  | [], _, _ => trivial
  | (name, value) :: rest, depth, ⟨fits, others⟩ => by
    have valueFits := Fits.sorted value fits
    have othersFit := fieldsFit_iff.mp (FieldsFit.sorted rest others)
    refine fieldsFit_iff.mpr fun field member => ?_
    rcases List.mem_cons.mp ((insertField_perm ..).mem_iff.mp member) with rfl | held
    · exact valueFits
    · exact othersFit field held

end

theorem Fits.arranged {d : Datum} {depth : Nat} (fits : d.Fits depth) (byName : Bool) :
    (d.arranged byName).Fits depth := by
  cases byName with
  | false => exact fits
  | true => exact Fits.sorted d fits

end Datum

namespace Record

/-- A name that occurs once is found with its value. -/
theorem named_of_mem {fields : List (String × Datum)} (distinct : (fields.map Prod.fst).Nodup)
    {name : String} {value : Datum} (member : (name, value) ∈ fields) :
    named? fields name = some (.given value) := by
  have only : fields.filter (·.1 = name) = [(name, value)] := by
    induction fields with
    | nil => cases member
    | cons field rest ih =>
      obtain ⟨fresh, distinct⟩ := List.nodup_cons.mp distinct
      rcases List.mem_cons.mp member with rfl | later
      · have others : rest.filter (·.1 = name) = [] := by
          simp only [List.filter_eq_nil_iff, decide_eq_true_eq]
          exact fun other held same => fresh (List.mem_map.mpr ⟨other, held, same⟩)
        simp [others]
      · have different : field.1 ≠ name := fun same =>
          fresh (List.mem_map.mpr ⟨_, later, same.symm⟩)
        simp [different, ih distinct later]
  simp [named?, only]

/-- Fields of a record with different names are found with their values. -/
theorem entries_of_subset (format : Format) {asked fields : List (String × Datum)}
    (distinct : (fields.map Prod.fst).Nodup) (inside : asked ⊆ fields) :
    entries? format (asked.map Prod.fst) (.record fields) =
      some (asked.map fun field => .given field.2) := by
  change (asked.map Prod.fst).mapM (named? fields) = _
  induction asked with
  | nil => rfl
  | cons field rest ih =>
    have first := named_of_mem distinct (inside (List.mem_cons_self ..))
    have others := ih fun _ held => inside (List.mem_cons_of_mem _ held)
    simp [first, others]

/-- A record is shown with what is shown of its fields, in either order. -/
theorem record_shown (byName : Bool) (fields : List (String × Datum)) :
    ∃ given, ((Datum.record fields).arranged byName).shown = .record given ∧
      given.Perm (fields.map fun field => (field.1, (field.2.arranged byName).shown)) := by
  cases byName with
  | false => exact ⟨_, rfl, by rw [fieldsShown_eq]; exact List.Perm.refl _⟩
  | true =>
    refine ⟨_, rfl, ?_⟩
    have order := (sortedFields_perm fields).map fun field => (field.1, field.2.shown)
    rw [List.map_map] at order
    rwa [fieldsShown_eq]

theorem list_shown {α : Type} [Codec α] (byName : Bool) (xs : List α) :
    ((encode xs).arranged byName).shown =
      .list (xs.map fun x => ((encode x).arranged byName).shown) := by
  cases byName <;>
    simp [encode, arranged, sorted, shown, itemsShown_eq, sortedItems_eq, Function.comp_def]

/-- What is shown of a record's fields is found in either order of the record. -/
theorem entries_shown (format : Format) (byName : Bool) {asked : List (String × Datum)}
    (fields : List (String × Datum)) (distinct : (fields.map Prod.fst).Nodup)
    (inside : asked ⊆ fields) :
    entries? format (asked.map Prod.fst) ((Datum.record fields).arranged byName).shown =
      some (asked.map fun field => .given (field.2.arranged byName).shown) := by
  obtain ⟨given, shown, order⟩ := record_shown byName fields
  have names : (given.map Prod.fst).Nodup := by
    rw [(order.map Prod.fst).nodup_iff, List.map_map]
    exact distinct
  have held : (asked.map fun field => (field.1, (field.2.arranged byName).shown)) ⊆ given :=
    fun _ member => order.mem_iff.mpr (List.map_subset _ inside member)
  have entries := entries_of_subset format names held
  rw [List.map_map, List.map_map] at entries
  rw [shown]
  exact entries

end Record

/-- What is shown of a value is read back in either order, exactly if the value
is finite, and it holds at most so many levels of containers. -/
structure ReadsBack (α : Type) [Codec α] (finite : α → Bool) (levels : Nat) : Prop where
  decoded (format : Format) (byName : Bool) (x : α) :
    decode format ((encode x).arranged byName).shown = if finite x then some x else none
  fits (x : α) (depth : Nat) (room : depth + levels ≤ nestingLimit) : (encode x).Fits depth

theorem Float.readsBack : ReadsBack Float Float.isFinite 0 where
  decoded format byName x := by
    have same : (encode x).arranged byName = .float x := by cases byName <;> rfl
    simp only [same, shown]
    split <;> rfl
  fits x depth room := trivial

theorem Mac.readsBack : ReadsBack Mac (fun _ => true) 0 where
  decoded format byName mac := by
    have same : (encode mac).arranged byName = .int mac.value.toNat := by cases byName <;> rfl
    have bound := mac.value.toNat_lt
    simpa [same, shown, decode] using bound
  fits mac depth room := by
    have bound := mac.value.toNat_lt
    simp only [encode, Datum.Fits, UInt64.size]
    omega

theorem List.readsBack {α : Type} [Codec α] {finite : α → Bool} {levels : Nat}
    (reads : ReadsBack α finite levels) : ReadsBack (List α) (·.all finite) (levels + 1) where
  decoded format byName xs := by
    rw [list_shown]
    change (xs.map fun x => ((encode x).arranged byName).shown).mapM (decode format) = _
    induction xs with
    | nil => rfl
    | cons x rest ih =>
      simp only [List.map_cons, List.mapM_cons, ih, reads.decoded, List.all_cons]
      by_cases here : finite x = true <;> by_cases there : rest.all finite = true <;>
        simp [here, there]
  fits xs depth room := by
    refine ⟨by omega, itemsFit_iff.mpr fun item member => ?_⟩
    obtain ⟨x, -, rfl⟩ := List.mem_map.mp member
    exact reads.fits x (depth + 1) (by omega)

namespace Record
variable {α : Type} [Codec α]

/-- A value on one line, or on several with its fields in either order. -/
def texts (x : α) : List String :=
  [Json.text (encode x), Json.layout (encode x), Json.layout (encode x : Datum).sorted]

/-- The value that a text is read as. -/
def ofText? (text : String) : Option α := (Json.read text).bind (decode .json)

theorem read_of_texts {x : α} (fits : (encode x).Fits 0) {text : String}
    (written : text ∈ texts x) :
    ∃ byName, Json.read text = some ((encode x).arranged byName).shown := by
  simp only [texts, List.mem_cons, List.not_mem_nil, or_false] at written
  rcases written with rfl | rfl | rfl
  · exact ⟨false, Json.read_text fits⟩
  · exact ⟨false, (Json.read_layout fits).1⟩
  · exact ⟨true, (Json.read_layout (fits.arranged true)).1⟩

end Record

end DeviceMap
