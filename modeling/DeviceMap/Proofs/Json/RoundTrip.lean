import DeviceMap.Proofs.Json.Grammar

/-! What JSON text of data is read as. Both ways of writing show the same data:
what is not finite is shown as null, and everything else is read back as it was,
as long as whole numbers fit into words and containers are not nested too deeply. -/
namespace DeviceMap
open Json Json.Reader

namespace Datum

mutual

/-- The data as its text shows it, where there is no text for what is not finite. -/
def shown : Datum → Datum
  | .float x => if x.isFinite then .float x else .null
  | .list items => .list (itemsShown items)
  | .record fields => .record (fieldsShown fields)
  | .unreadable => .null
  | other => other

def itemsShown : List Datum → List Datum
  | [] => []
  | item :: rest => item.shown :: itemsShown rest

def fieldsShown : List (String × Datum) → List (String × Datum)
  | [] => []
  | (name, value) :: rest => (name, value.shown) :: fieldsShown rest

end

mutual

/-- Inside `depth` containers the data is within the limits of a reader. -/
def Fits (depth : Nat) : Datum → Prop
  | .int n => -0x8000000000000000 ≤ n ∧ n < UInt64.size
  | .list items => depth < nestingLimit ∧ ItemsFit (depth + 1) items
  | .record fields => depth < nestingLimit ∧ FieldsFit (depth + 1) fields
  | _ => True

def ItemsFit (depth : Nat) : List Datum → Prop
  | [] => True
  | item :: rest => item.Fits depth ∧ ItemsFit depth rest

def FieldsFit (depth : Nat) : List (String × Datum) → Prop
  | [] => True
  | (_, value) :: rest => value.Fits depth ∧ FieldsFit depth rest

end

end Datum

namespace Json
open Datum

private theorem leaf_reads {depth : Nat} {d : Datum} (fits : d.Fits depth)
    (noList : ∀ items, d ≠ .list items) (noRecord : ∀ fields, d ≠ .record fields) :
    Reads depth (leaf d) d.shown := by
  cases d with
  | null | unreadable => exact Reads.null
  | bool b => exact Reads.bool b
  | int n => exact Reads.number fun rest ended => integer_reads_back fits ended
  | float x =>
    simp only [shown, leaf]
    split
    · rename_i finite
      exact Reads.number fun rest ended => number_reads_back finite ended
    · rename_i infinite
      have none := Decimal.shortest_none .even (Bool.eq_false_iff.mpr infinite)
      simp only [Json.number, none]
      exact Reads.null
  | text s => exact Reads.text s
  | list items => exact absurd rfl (noList items)
  | record fields => exact absurd rfl (noRecord fields)

private theorem blank_nil : Blank [] := by simp [Blank]

mutual

private theorem compact_reads : (d : Datum) → ∀ {depth : Nat}, d.Fits depth →
    Reads depth (compact d) d.shown
  | .list [], _, ⟨shallow, _⟩ => Reads.emptyList shallow
  | .list (item :: rest), _, ⟨shallow, fit⟩ =>
    Reads.list (compactItems_read (item :: rest) (by simp) fit) shallow
  | .record [], _, ⟨shallow, _⟩ => Reads.emptyRecord shallow
  | .record ((name, value) :: rest), _, ⟨shallow, fit⟩ =>
    Reads.record (compactFields_read ((name, value) :: rest) (by simp) fit) shallow
  | .null, _, fits | .bool _, _, fits | .int _, _, fits | .float _, _, fits | .text _, _, fits
  | .unreadable, _, fits => leaf_reads fits nofun nofun

private theorem compactItems_read : (items : List Datum) → items ≠ [] → ∀ {depth : Nat},
    ItemsFit depth items → ReadsItems depth (compactItems items) (itemsShown items)
  | [item], _, _, ⟨fits, _⟩ => by
    have closed := ReadsItems.last (compact_reads item fits) blank_nil
    rwa [List.append_nil] at closed
  | item :: next :: rest, _, _, ⟨fits, others⟩ =>
    ReadsItems.more (compact_reads item fits) (compactItems_read (next :: rest) (by simp) others)

private theorem compactFields_read : (fields : List (String × Datum)) → fields ≠ [] →
    ∀ {depth : Nat}, FieldsFit depth fields →
      ReadsFields depth (compactFields fields) (fieldsShown fields)
  | [(name, value)], _, _, ⟨fits, _⟩ => by
    have closed := ReadsFields.last name (compact_reads value fits) blank_nil
    simpa [compactFields, fieldsShown] using closed
  | (name, value) :: next :: rest, _, _, ⟨fits, others⟩ => by
    have continued := ReadsFields.more name (compact_reads value fits)
      (compactFields_read (next :: rest) (by simp) others)
    simpa [compactFields, fieldsShown] using continued

end

private theorem blank_space : Blank [' '] := by simp [Blank, isBlank]

private theorem blank_newline (depth : Nat) : Blank (newline depth) := by
  intro c member
  rcases List.mem_cons.mp member with rfl | blank
  · rfl
  · rw [List.eq_of_mem_replicate blank]
    rfl

mutual

private theorem pretty_reads : (d : Datum) → ∀ {depth : Nat}, d.Fits depth →
    Reads depth (pretty depth d) d.shown
  | .list [], _, ⟨shallow, _⟩ => Reads.emptyList shallow
  | .list (item :: rest), depth, ⟨shallow, fit⟩ => by
    have items := prettyItems_read (item :: rest) (by simp) fit (blank_newline depth)
    simpa [pretty, shown] using Reads.list items shallow
  | .record [], _, ⟨shallow, _⟩ => Reads.emptyRecord shallow
  | .record ((name, value) :: rest), depth, ⟨shallow, fit⟩ => by
    have fields := prettyFields_read ((name, value) :: rest) (by simp) fit (blank_newline depth)
    simpa [pretty, shown] using Reads.record fields shallow
  | .null, _, fits | .bool _, _, fits | .int _, _, fits | .float _, _, fits | .text _, _, fits
  | .unreadable, _, fits => leaf_reads fits nofun nofun

/-- The blanks in front of the closing bracket are those of the depth outside. -/
private theorem prettyItems_read : (items : List Datum) → items ≠ [] → ∀ {depth : Nat},
    ItemsFit depth items → ∀ {blank : List Char}, Blank blank →
      ReadsItems depth (prettyItems depth items ++ blank ++ [']']) (itemsShown items)
  | [item], _, depth, ⟨fits, _⟩, _, only =>
    ReadsItems.last ((pretty_reads item fits).after_blank (blank_newline depth)) only
  | item :: next :: rest, _, depth, ⟨fits, others⟩, blank, only => by
    have continued := ReadsItems.more ((pretty_reads item fits).after_blank (blank_newline depth))
      (prettyItems_read (next :: rest) (by simp) others only)
    simpa [prettyItems, itemsShown] using continued

private theorem prettyFields_read : (fields : List (String × Datum)) → fields ≠ [] →
    ∀ {depth : Nat}, FieldsFit depth fields → ∀ {blank : List Char}, Blank blank →
      ReadsFields depth (prettyFields depth fields ++ blank ++ ['}']) (fieldsShown fields)
  | [(name, value)], _, depth, ⟨fits, _⟩, _, only => by
    have field := (pretty_reads value fits).after_blank blank_space
    have closed := (ReadsFields.last name field only).after_blank (blank_newline depth)
    simpa [prettyFields, fieldsShown] using closed
  | (name, value) :: next :: rest, _, depth, ⟨fits, others⟩, blank, only => by
    have field := (pretty_reads value fits).after_blank blank_space
    have continued := (ReadsFields.more name field
      (prettyFields_read (next :: rest) (by simp) others only)).after_blank (blank_newline depth)
    simpa [prettyFields, fieldsShown] using continued

end

private theorem read_of_reads {text : List Char} {d : Datum} (reads : Reads 0 text d)
    {blank : List Char} (only : Blank blank) :
    Json.read (String.ofList (text ++ blank)) = some d := by
  have atEnd : Ended [] := by simp [Ended]
  have ended : Ended blank := by simpa using ended_blank only atEnd
  have found := reads (2 * (text ++ blank).length + 2) blank (by simp; omega) ended
  have left : skipBlanks blank = [] := by simpa [skipBlanks] using skip_blank only []
  simp only [Json.read, String.toList_ofList, found, left, Option.bind_eq_bind, Option.bind_some,
    List.isEmpty_nil, ↓reduceIte, Option.pure_def]

/-- The text on one line is read as the data it shows. -/
theorem read_text {d : Datum} (fits : d.Fits 0) : Json.read (Json.text d) = some d.shown := by
  simpa [Json.text] using read_of_reads (compact_reads d fits) blank_nil

/-- The text on several lines is read as the data it shows, also when a new line
follows it. -/
theorem read_layout {d : Datum} (fits : d.Fits 0) :
    Json.read (Json.layout d) = some d.shown ∧
      Json.read (Json.layout d ++ "
") = some d.shown := by
  have reads := pretty_reads d fits
  constructor
  · simpa [Json.layout] using read_of_reads reads blank_nil
  · have line : Json.layout d ++ "\n" = String.ofList (pretty 0 d ++ ['\n']) := by
      simp [Json.layout]
    rw [line]
    exact read_of_reads reads (by simp [Blank, isBlank])

end Json
end DeviceMap
