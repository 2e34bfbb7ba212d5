import DeviceMap.Proofs.Double.Number
import DeviceMap.Proofs.Json.Finite
import DeviceMap.Proofs.Record.Codec

/-! Codecs that lose nothing. What is finite comes back from its data as it was,
and nothing that is read from data with finite numbers fails to be finite; so
whatever was read once is read again as the same. A record follows its fields,
each of which is read from its own entry. -/
namespace DeviceMap
open Record Datum

namespace Record

/-- The data that was found for a field, if any, has finite numbers. -/
def Entry.Finite : Entry → Prop
  | .given value => value.Finite
  | .omitted | .ended => True

theorem named_finite {fields : List (String × Datum)}
    (finite : ∀ field ∈ fields, field.2.Finite) {name : String} {entry : Entry}
    (found : named? fields name = some entry) : entry.Finite := by
  unfold named? at found
  split at found
  · cases found
    trivial
  · rename_i same value only
    cases found
    have held : (same, value) ∈ fields.filter (·.1 = name) := by simp [only]
    exact finite _ (List.mem_filter.mp held).1
  · cases found

theorem entries_finite {format : Format} {names : List String} {d : Datum} {entries : List Entry}
    (finite : d.Finite) (found : entries? format names d = some entries) :
    ∀ entry ∈ entries, entry.Finite := by
  unfold entries? at found
  split at found
  · rename_i fields
    cases finite with
    | record all =>
      induction names generalizing entries with
      | nil =>
        cases found
        simp
      | cons name rest ih =>
        simp only [List.mapM_cons, Option.bind_eq_bind, Option.bind_eq_some_iff] at found
        obtain ⟨entry, first, others, later, found⟩ := found
        cases found
        exact List.forall_mem_cons.mpr ⟨named_finite all first, ih later⟩
  · rename_i items
    cases finite with
    | list all =>
      split at found
      · cases found
      · cases found
        intro entry member
        rcases List.mem_append.mp member with given | ended
        · obtain ⟨item, held, rfl⟩ := List.mem_map.mp given
          exact all item (List.mem_of_mem_take held)
        · rw [List.eq_of_mem_replicate ended]
          trivial
  · cases found

/-- What is read of a record from finite data is read from entries with finite data. -/
theorem entries_of_read {β : Type} {format : Format} {names : List String} {d : Datum}
    {read : List Entry → Option β} {x : β} (finite : d.Finite)
    (decoded : (entries? format names d).bind read = some x) :
    ∃ entries, (∀ entry ∈ entries, entry.Finite) ∧ read entries = some x := by
  obtain ⟨entries, found, decoded⟩ := Option.bind_eq_some_iff.mp decoded
  exact ⟨entries, entries_finite finite found, decoded⟩

end Record

/-- What is finite is read back from what is shown of it, in either order of its
fields; what is read from finite data is finite. A value holds at most so many
levels of containers. -/
structure Lossless (α : Type) [Codec α] (finite : α → Bool) (levels : Nat) : Prop where
  kept {x : α} (known : finite x = true) (format : Format) (byName : Bool) :
    decode format ((encode x).arranged byName).shown = some x
  given {format : Format} {d : Datum} {x : α} (data : d.Finite)
    (decoded : decode format d = some x) : finite x = true
  fits (x : α) (depth : Nat) (room : depth + levels ≤ Json.Reader.nestingLimit) :
    (encode x).Fits depth

/-- A record type loses nothing if the reader of its fields keeps them, and what
this reader gives is finite. -/
theorem Lossless.record {α : Type} [Codec α] {finite : α → Bool} {levels : Nat}
    {names : List String} {read : Format → List Entry → Option α}
    (fields : α → List (String × Datum)) (encoded : ∀ x, encode x = .record (fields x))
    (decoded : ∀ format d, decode format d = (entries? format names d).bind (read format))
    (named : ∀ x, (fields x).map Prod.fst = names) (distinct : names.Nodup)
    (kept : ∀ x, finite x = true → ∀ format byName, read format
      ((fields x).map fun field => .given (field.2.arranged byName).shown) = some x)
    (given : ∀ format entries x, (∀ entry ∈ entries, Entry.Finite entry) →
      read format entries = some x → finite x = true)
    (fit : ∀ x depth, depth + levels ≤ Json.Reader.nestingLimit → FieldsFit depth (fields x)) :
    Lossless α finite (levels + 1) where
  kept {x} known format byName := by
    have entries := entries_shown format byName (fields x) (named x ▸ distinct)
      (List.Subset.refl _)
    rw [named, ← encoded] at entries
    rw [decoded, entries]
    exact kept x known format byName
  given {format d x} data read := by
    rw [decoded] at read
    obtain ⟨entries, finite, read⟩ := entries_of_read data read
    exact given format entries x finite read
  fits x depth room := by
    rw [encoded]
    exact ⟨by omega, fit x (depth + 1) (by omega)⟩

theorem ReadsBack.lossless {α : Type} [Codec α] {finite : α → Bool} {levels : Nat}
    (reads : ReadsBack α finite levels)
    (given : ∀ {format : Format} {d : Datum} {x : α}, d.Finite → decode format d = some x →
      finite x = true) : Lossless α finite levels where
  kept known format byName := by rw [reads.decoded, if_pos known]
  given := given
  fits := reads.fits

/-- A null is no value of the type, so in an optional field it stands for none. -/
def RefusesNull (α : Type) [Codec α] : Prop := ∀ format, (decode format .null : Option α) = none

theorem nullable_given {α : Type} [Codec α] (format : Format) (value : Datum) :
    (Entry.given value).nullable? format = (decode format value : Option (Option α)) := by
  cases value <;> rfl

theorem decode_option {α : Type} [Codec α] (refuses : RefusesNull α) {format : Format} {d : Datum}
    {x : α} (decoded : decode format d = some x) :
    (decode format d : Option (Option α)) = some (some x) := by
  cases d with
  | null =>
    rw [refuses] at decoded
    cases decoded
  | bool | int | float | text | list | record | unreadable =>
    exact congrArg (Option.map some) decoded

namespace Lossless
variable {α : Type} [Codec α] {finite : α → Bool} {levels : Nat}
  (lossless : Lossless α finite levels)
include lossless

theorem option_given {format : Format} {d : Datum} {held : Option α} (data : d.Finite)
    (decoded : decode format d = some held) : held.all finite = true := by
  cases held with
  | none => rfl
  | some x =>
    have inner : decode format d = some x := by
      cases d with
      | null => cases decoded
      | bool | int | float | text | list | record | unreadable =>
        obtain ⟨y, inner, same⟩ := Option.map_eq_some_iff.mp decoded
        cases same
        exact inner
    exact lossless.given data inner

section Entries
variable {format : Format} {entry : Entry} (data : entry.Finite)
include data

theorem required {x : α} (decoded : entry.required? format = some x) : finite x = true := by
  cases entry with
  | given value => exact lossless.given data decoded
  | omitted | ended => cases decoded

theorem orElse {default x : α} (decoded : entry.orElse? format default = some x)
    (known : finite default = true) : finite x = true := by
  cases entry with
  | given value => exact lossless.given data decoded
  | omitted | ended =>
    cases decoded
    exact known

theorem nullable {held : Option α} (decoded : entry.nullable? format = some held) :
    held.all finite = true := by
  cases entry with
  | ended => cases decoded
  | omitted =>
    cases decoded
    rfl
  | given value =>
    rw [nullable_given] at decoded
    exact lossless.option_given data decoded

end Entries

theorem list : Lossless (List α) (·.all finite) (levels + 1) where
  kept {xs} known format byName := by
    rw [list_shown]
    change (xs.map fun x => ((encode x).arranged byName).shown).mapM (decode format) = _
    induction xs with
    | nil => rfl
    | cons x rest ih =>
      simp only [List.all_cons, Bool.and_eq_true] at known
      simp only [List.map_cons, List.mapM_cons, lossless.kept known.1, ih known.2,
        Option.bind_eq_bind, Option.bind_some, Option.pure_def]
  given {format d xs} data decoded := by
    cases data with
    | list all =>
      rename_i items
      change items.mapM (decode format) = some xs at decoded
      induction items generalizing xs with
      | nil =>
        cases decoded
        rfl
      | cons item rest ih =>
        simp only [List.mapM_cons, Option.bind_eq_bind, Option.bind_eq_some_iff] at decoded
        obtain ⟨x, first, others, later, decoded⟩ := decoded
        cases decoded
        obtain ⟨itemFinite, restFinite⟩ := List.forall_mem_cons.mp all
        simp [lossless.given itemFinite first, ih restFinite later]
    | null | bool | int | float | text | record | unreadable => cases decoded
  fits xs depth room := by
    refine ⟨by omega, itemsFit_iff.mpr fun item member => ?_⟩
    obtain ⟨x, -, rfl⟩ := List.mem_map.mp member
    exact lossless.fits x (depth + 1) (by omega)

theorem option (refuses : RefusesNull α) : Lossless (Option α) (·.all finite) levels where
  kept {held} known format byName := by
    cases held with
    | none => cases byName <;> rfl
    | some x =>
      have decoded := lossless.kept known format byName
      change decode format ((encode x).arranged byName).shown = some (some x)
      exact decode_option refuses decoded
  given := lossless.option_given
  fits held depth room := by
    cases held with
    | none => trivial
    | some x => exact lossless.fits x depth room

end Lossless

theorem Float.lossless : Lossless Float Float.isFinite 0 := Float.readsBack.lossless <| by
  intro format d x data decoded
  cases data with
  | int word =>
    cases decoded
    exact Double.ofInt_finite word
  | float finite =>
    cases decoded
    exact finite
  | null | bool | text | list | record | unreadable => cases decoded

theorem Bool.lossless : Lossless Bool (fun _ => true) 0 where
  kept known format byName := by cases byName <;> rfl
  given data decoded := rfl
  fits x depth room := trivial

theorem Mac.lossless : Lossless Mac (fun _ => true) 0 := Mac.readsBack.lossless fun _ _ => rfl

theorem Vec2.lossless : Lossless (Vec2 Float) Vec2.isFinite 1 where
  kept {p} known format byName := by
    simp only [Vec2.isFinite, Bool.and_eq_true] at known
    have x := Float.lossless.kept known.1 format byName
    have y := Float.lossless.kept known.2 format byName
    have items : ((encode p).arranged byName).shown =
        .list [((encode p.x).arranged byName).shown, ((encode p.y).arranged byName).shown] := by
      cases byName <;> rfl
    rw [items]
    change (do return ⟨← decode format _, ← decode format _⟩ : Option (Vec2 Float)) = _
    rw [x, y]
    rfl
  given {format d p} data decoded := by
    cases data with
    | list all =>
      rename_i items
      match items with
      | [first, second] =>
        obtain ⟨x, firstRead, decoded⟩ := Option.bind_eq_some_iff.mp decoded
        obtain ⟨y, secondRead, decoded⟩ := Option.bind_eq_some_iff.mp decoded
        cases decoded
        have xFinite := Float.lossless.given (all first (by simp)) firstRead
        have yFinite := Float.lossless.given (all second (by simp)) secondRead
        simp [Vec2.isFinite, Scalar.isFinite, xFinite, yFinite]
      | [] | [_] | _ :: _ :: _ :: _ => cases decoded
    | null | bool | int | float | text | record | unreadable => cases decoded
  fits p depth room := ⟨by omega, trivial, trivial, trivial⟩

end DeviceMap
