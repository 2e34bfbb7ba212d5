import DeviceMap.Proofs.Json.Number
import DeviceMap.Proofs.Json.Quoted

/-! Rules for the reading of JSON. Each one says of a form of text that it is
read as some data, from what its parts are read as. Blanks may stand in front of
every part, and the fuel that a text needs is twice its length. -/
namespace DeviceMap.Json
open Reader

-- The equations of the readers are worked out once here, for all of the rules.
attribute [local simp] value items fields

/-- The text is read as a value inside `depth` containers, whatever follows. -/
def Reads (depth : Nat) (text : List Char) (d : Datum) : Prop :=
  ∀ fuel rest, 2 * text.length ≤ fuel → Ended rest →
    value fuel depth (text ++ rest) = some (d, rest)

/-- The text is read as the items of a list with its closing bracket. -/
def ReadsItems (depth : Nat) (text : List Char) (ds : List Datum) : Prop :=
  ∀ fuel rest, 2 * text.length ≤ fuel → items fuel depth (text ++ rest) = some (ds, rest)

/-- The text is read as the fields of a record with its closing brace. -/
def ReadsFields (depth : Nat) (text : List Char) (fs : List (String × Datum)) : Prop :=
  ∀ fuel rest, 2 * text.length ≤ fuel →
    fields fuel depth (text ++ rest) = some (some fs, rest)

def Blank (text : List Char) : Prop := ∀ c ∈ text, isBlank c = true

theorem skip_blank {blank : List Char} (only : Blank blank) (rest : List Char) :
    skipBlanks (blank ++ rest) = skipBlanks rest :=
  List.dropWhile_append_of_pos only

theorem skip_solid {c : Char} (solid : isBlank c = false) (rest : List Char) :
    skipBlanks (c :: rest) = c :: rest := by
  simp [skipBlanks, solid]

theorem skip_skip (cs : List Char) : skipBlanks (skipBlanks cs) = skipBlanks cs :=
  List.dropWhile_idempotent isBlank cs

theorem value_skip (fuel depth : Nat) (cs : List Char) :
    value fuel depth (skipBlanks cs) = value fuel depth cs := by
  cases fuel with
  | zero => simp
  | succ fuel => rw [value, value, skip_skip]

theorem items_skip (fuel depth : Nat) (cs : List Char) :
    items fuel depth (skipBlanks cs) = items fuel depth cs := by
  cases fuel with
  | zero => simp
  | succ fuel => rw [items, items, value_skip]

theorem fields_skip (fuel depth : Nat) (cs : List Char) :
    fields fuel depth (skipBlanks cs) = fields fuel depth cs := by
  cases fuel with
  | zero => simp
  | succ fuel => rw [fields, fields, skip_skip]

/-- Blanks and marks of punctuation end a number. -/
theorem ended_mark {c : Char} (mark : isBlank c = true ∨ c ∈ [',', ']', '}']) (rest : List Char) :
    Ended (c :: rest) := by
  rintro _ ⟨⟩
  unfold isBlank at mark
  rcases mark with blank | mark
  · simp only [Bool.or_eq_true, decide_eq_true_eq] at blank
    rcases blank with ((rfl | rfl) | rfl) | rfl <;> decide
  · simp only [List.mem_cons, List.not_mem_nil, or_false] at mark
    rcases mark with rfl | rfl | rfl <;> decide

theorem ended_blank {blank rest : List Char} (only : Blank blank) (ended : Ended rest) :
    Ended (blank ++ rest) := by
  cases blank with
  | nil => exact ended
  | cons c more => exact ended_mark (Or.inl (only c (by simp))) _

theorem Reads.after_blank {depth : Nat} {blank text : List Char} {d : Datum} (only : Blank blank)
    (reads : Reads depth text d) : Reads depth (blank ++ text) d := by
  intro fuel rest enough ended
  rw [List.length_append] at enough
  rw [← value_skip, List.append_assoc, skip_blank only, value_skip]
  exact reads fuel rest (by omega) ended

theorem ReadsItems.last {depth : Nat} {text blank : List Char} {d : Datum}
    (reads : Reads depth text d) (only : Blank blank) :
    ReadsItems depth (text ++ blank ++ [']']) [d] := by
  intro fuel rest enough
  simp only [List.length_append, List.length_singleton] at enough
  obtain ⟨fuel, rfl⟩ := Nat.exists_eq_add_one_of_ne_zero (by omega : fuel ≠ 0)
  have ended := ended_blank only (ended_mark (Or.inr (by simp : ']' ∈ _)) rest)
  have close : skipBlanks (blank ++ ']' :: rest) = ']' :: rest :=
    (skip_blank only _).trans (skip_solid rfl rest)
  have first := reads fuel _ (by omega) ended
  simp only [List.append_assoc, List.singleton_append, items, first, close,
    Option.bind_eq_bind, Option.bind_some, Option.pure_def]

theorem ReadsItems.more {depth : Nat} {text after : List Char} {d : Datum} {ds : List Datum}
    (reads : Reads depth text d) (others : ReadsItems depth after ds) :
    ReadsItems depth (text ++ ',' :: after) (d :: ds) := by
  intro fuel rest enough
  simp only [List.length_append, List.length_cons] at enough
  rw [← Nat.add_assoc] at enough
  obtain ⟨fuel, rfl⟩ := Nat.exists_eq_add_one_of_ne_zero (by omega : fuel ≠ 0)
  have ended := ended_mark (Or.inr (by simp : ',' ∈ _)) (after ++ rest)
  have comma : skipBlanks (',' :: (after ++ rest)) = ',' :: (after ++ rest) := skip_solid rfl _
  have first := reads fuel _ (by omega) ended
  have remaining := others fuel rest (by omega)
  simp only [List.append_assoc, List.cons_append, items, first, comma, remaining,
    Option.bind_eq_bind, Option.bind_some, Option.pure_def]

/-- What has some text has some fuel. -/
private theorem Reads.of_step {depth : Nat} {text : List Char} {d : Datum} (occupied : text ≠ [])
    (step : ∀ fuel rest, 2 * text.length ≤ fuel + 1 → Ended rest →
      value (fuel + 1) depth (text ++ rest) = some (d, rest)) : Reads depth text d := by
  intro fuel rest enough ended
  have some := List.length_pos_iff.mpr occupied
  obtain ⟨fuel, rfl⟩ := Nat.exists_eq_add_one_of_ne_zero (by omega : fuel ≠ 0)
  exact step fuel rest enough ended

/-- A closing bracket is no value. -/
private theorem value_close {fuel depth : Nat} {cs rest : List Char}
    (close : skipBlanks cs = ']' :: rest) : value fuel depth cs = none := by
  cases fuel with
  | zero => simp
  | succ fuel =>
    rw [value, close]
    simp [Reader.number, wholePart, Reader.digits]

theorem Reads.list {depth : Nat} {text : List Char} {ds : List Datum}
    (reads : ReadsItems (depth + 1) text ds) (shallow : depth < nestingLimit) :
    Reads depth ('[' :: text) (.list ds) := by
  refine Reads.of_step (by simp) fun fuel rest enough ended => ?_
  rw [List.length_cons] at enough
  have found := reads fuel rest (by omega)
  have opening : skipBlanks ('[' :: (text ++ rest)) = '[' :: (text ++ rest) := skip_solid rfl _
  simp only [List.cons_append, value, opening]
  split
  · rename_i close
    cases fuel with
    | zero => simp at found
    | succ fuel => simp [value_close close] at found
  · rw [items_skip, found]
    simp [nested, shallow]

theorem Reads.emptyList {depth : Nat} (shallow : depth < nestingLimit) :
    Reads depth ['[', ']'] (.list []) := by
  refine Reads.of_step (by simp) fun fuel rest enough ended => ?_
  simp [skipBlanks, isBlank, nested, shallow]

theorem ReadsFields.after_blank {depth : Nat} {blank text : List Char}
    {fs : List (String × Datum)} (only : Blank blank) (reads : ReadsFields depth text fs) :
    ReadsFields depth (blank ++ text) fs := by
  intro fuel rest enough
  rw [List.length_append] at enough
  rw [← fields_skip, List.append_assoc, skip_blank only, fields_skip]
  exact reads fuel rest (by omega)

/-- After a name and a colon the value of a field is read, and then either the
end of the record or, behind a comma, the fields that are left. -/
private theorem fields_step {fuel depth : Nat} (name : String) {cs rest : List Char} {d : Datum}
    (found : value fuel depth cs = some (d, rest)) :
    (∀ after, skipBlanks rest = '}' :: after →
      fields (fuel + 1) depth (quoted name ++ ':' :: cs) = some (some [(name, d)], after)) ∧
    ∀ after fs left, skipBlanks rest = ',' :: after →
      fields fuel depth after = some (some fs, left) →
        fields (fuel + 1) depth (quoted name ++ ':' :: cs) =
          some (some ((name, d) :: fs), left) := by
  have opening (cs : List Char) : skipBlanks ('"' :: cs) = '"' :: cs := skip_solid rfl cs
  have colon : skipBlanks (':' :: cs) = ':' :: cs := skip_solid rfl cs
  have label := string_reads_back name (':' :: cs)
  simp only [quoted, List.append_assoc, List.cons_append, List.nil_append, fields, opening, label,
    colon, found, Option.bind_eq_bind, Option.bind_some, Option.map_some]
  constructor
  · intro after close
    simp only [close, Option.pure_def]
  · intro after fs left comma remaining
    simp only [comma, remaining, Option.bind_some, Option.map_some, Option.pure_def]

theorem ReadsFields.last {depth : Nat} (name : String) {text blank : List Char} {d : Datum}
    (reads : Reads depth text d) (only : Blank blank) :
    ReadsFields depth (quoted name ++ ':' :: (text ++ blank ++ ['}'])) [(name, d)] := by
  intro fuel rest enough
  simp only [List.length_append, List.length_cons, List.length_nil] at enough
  obtain ⟨fuel, rfl⟩ := Nat.exists_eq_add_one_of_ne_zero (by omega : fuel ≠ 0)
  have ended := ended_blank only (ended_mark (Or.inr (by simp : '}' ∈ _)) rest)
  have close : skipBlanks (blank ++ '}' :: rest) = '}' :: rest :=
    (skip_blank only _).trans (skip_solid rfl rest)
  have found := reads fuel _ (by omega) ended
  simpa using (fields_step name found).1 rest close

theorem ReadsFields.more {depth : Nat} (name : String) {text after : List Char} {d : Datum}
    {fs : List (String × Datum)} (reads : Reads depth text d)
    (others : ReadsFields depth after fs) :
    ReadsFields depth (quoted name ++ ':' :: (text ++ ',' :: after)) ((name, d) :: fs) := by
  intro fuel rest enough
  simp only [List.length_append, List.length_cons] at enough
  obtain ⟨fuel, rfl⟩ := Nat.exists_eq_add_one_of_ne_zero (by omega : fuel ≠ 0)
  have ended := ended_mark (Or.inr (by simp : ',' ∈ _)) (after ++ rest)
  have comma : skipBlanks (',' :: (after ++ rest)) = ',' :: (after ++ rest) := skip_solid rfl _
  have found := reads fuel _ (by omega) ended
  have remaining := others fuel rest (by omega)
  simpa using (fields_step name found).2 _ fs rest comma remaining

theorem Reads.record {depth : Nat} {text : List Char} {fs : List (String × Datum)}
    (reads : ReadsFields (depth + 1) text fs) (shallow : depth < nestingLimit) :
    Reads depth ('{' :: text) (.record fs) := by
  refine Reads.of_step (by simp) fun fuel rest enough ended => ?_
  rw [List.length_cons] at enough
  have found := reads fuel rest (by omega)
  have opening : skipBlanks ('{' :: (text ++ rest)) = '{' :: (text ++ rest) := skip_solid rfl _
  simp only [List.cons_append, value, opening]
  split
  · rename_i close
    cases fuel with
    | zero => simp at found
    | succ fuel => simp [close] at found
  · rw [fields_skip, found]
    simp [nested, shallow]

theorem Reads.emptyRecord {depth : Nat} (shallow : depth < nestingLimit) :
    Reads depth ['{', '}'] (.record []) := by
  refine Reads.of_step (by simp) fun fuel rest enough ended => ?_
  simp [skipBlanks, isBlank, nested, shallow]

theorem Reads.null {depth : Nat} : Reads depth "null".toList .null := by
  refine Reads.of_step (by simp) fun fuel rest enough ended => ?_
  simp [skipBlanks, isBlank]

theorem Reads.bool {depth : Nat} (b : Bool) : Reads depth (leaf (.bool b)) (.bool b) := by
  refine Reads.of_step (by cases b <;> simp [leaf]) fun fuel rest enough ended => ?_
  cases b <;> simp [leaf, skipBlanks, isBlank]

theorem Reads.text {depth : Nat} (s : String) : Reads depth (quoted s) (.text s) := by
  refine Reads.of_step (by simp [quoted]) fun fuel rest enough ended => ?_
  have found := string_reads_back s rest
  have opening (cs : List Char) : skipBlanks ('"' :: cs) = '"' :: cs := skip_solid rfl cs
  simp only [quoted, List.append_assoc, List.cons_append, List.nil_append, value, opening, found,
    Option.map_some, Option.getD_some]

/-- A number starts with its sign or with a digit. -/
private theorem number_lead {cs : List Char} {found : Datum × List Char}
    (read : Reader.number cs = some found) :
    ∃ c more, cs = c :: more ∧ (c = '-' ∨ c.isDigit = true) := by
  cases cs with
  | nil => simp [Reader.number, wholePart, Reader.digits] at read
  | cons c more =>
    refine ⟨c, more, rfl, ?_⟩
    by_contra! other
    simp [Reader.number, wholePart, Reader.digits, other] at read

theorem Reads.number {depth : Nat} {text : List Char} {d : Datum}
    (found : ∀ rest, Ended rest → Reader.number (text ++ rest) = some (d, rest)) :
    Reads depth text d := by
  obtain ⟨c, more, rfl, lead⟩ := number_lead (by simpa using found [] (by simp [Ended]))
  refine Reads.of_step (by simp) fun fuel rest enough ended => ?_
  have marks : ∀ mark ∈ [' ', '\n', '\t', '\r', '"', '[', '{', 'n', 't', 'f'],
      mark ≠ '-' ∧ mark.isDigit = false := by
    simp
  have other : ∀ mark ∈ [' ', '\n', '\t', '\r', '"', '[', '{', 'n', 't', 'f'], c ≠ mark := by
    rintro mark member rfl
    simp [marks c member] at lead
  have solid : isBlank c = false := by
    simp [isBlank, other]
  rw [← found rest ended, List.cons_append, value, skip_solid solid]
  simp [other]

end DeviceMap.Json
