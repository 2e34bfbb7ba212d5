import DeviceMap.Json.Printer
import DeviceMap.Json.Reader
import Mathlib

/-! Strings as JSON are read back: every character, escaped or not, is read as
the code of itself. -/
namespace DeviceMap.Json
open Reader

/-- The character is read in front of whatever follows. -/
private def ReadsAs (written : List Char) (c : Char) : Prop :=
  ∀ cs, codeUnits (written ++ cs) = (codeUnits cs).map fun (units, rest) => (c.toNat :: units, rest)

private theorem short_reads {letter c : Char} (meaning : escape? letter = some c)
    (noCode : letter ≠ 'u') : ReadsAs ['\\', letter] c := by
  intro cs
  rw [List.cons_append, List.singleton_append, codeUnits.eq_def]
  simp [meaning, noCode]
  cases codeUnits cs <;> rfl

private theorem code_reads {c : Char} (control : c.toNat < 32) :
    ReadsAs ['\\', 'u', '0', '0', Hexadecimal.lower (c.toNat / 16),
      Hexadecimal.lower (c.toNat % 16)] c := by
  have number : ∀ n < 32, Hexadecimal.number?
      ['0', '0', Hexadecimal.lower (n / 16), Hexadecimal.lower (n % 16)] = some n := by
    decide
  intro cs
  simp only [List.cons_append, List.nil_append, codeUnits, number _ control]
  cases codeUnits cs <;> rfl

private theorem plain_reads {c : Char} (quote : c ≠ '"') (backslash : c ≠ '\\')
    (printed : ¬c.toNat < 32) : ReadsAs [c] c := by
  intro cs
  rw [List.singleton_append, codeUnits.eq_def]
  simp [backslash, printed]
  cases codeUnits cs <;> rfl

private theorem escaped_reads (c : Char) : ReadsAs (escaped c) c := by
  unfold escaped
  split
  · subst_vars
    exact short_reads rfl (by decide)
  split
  · subst_vars
    exact short_reads rfl (by decide)
  split
  · subst_vars
    exact short_reads rfl (by decide)
  split
  · subst_vars
    exact short_reads rfl (by decide)
  split
  · subst_vars
    exact short_reads rfl (by decide)
  split
  · subst_vars
    exact short_reads rfl (by decide)
  split
  · subst_vars
    exact short_reads rfl (by decide)
  split
  · exact code_reads ‹_›
  · exact plain_reads ‹_› ‹_› ‹_›

private theorem codeUnits_quoted (cs rest : List Char) :
    codeUnits (cs.flatMap escaped ++ '"' :: rest) = some (cs.map Char.toNat, rest) := by
  induction cs with
  | nil => simp [codeUnits]
  | cons c cs ih =>
    rw [List.flatMap_cons, List.append_assoc, escaped_reads c, ih]
    rfl

/-- No character is half of one. -/
private theorem ofCodeUnits_chars (cs : List Char) :
    ofCodeUnits? (cs.map Char.toNat) = some cs := by
  induction cs with
  | nil => rfl
  | cons c cs ih =>
    have valid : c.toNat < 0xD800 ∨ 0xDFFF < c.toNat ∧ c.toNat < 0x110000 := c.valid
    have low : isLowSurrogate c.toNat = false := by
      unfold isLowSurrogate
      simp
      omega
    have high : isHighSurrogate c.toNat = false := by
      unfold isHighSurrogate
      simp
      omega
    rw [List.map_cons, ofCodeUnits?.eq_def]
    simp [low, high, ih, Char.ofNat_toNat]

/-- A string is read back after its opening quote, whatever follows it. -/
theorem string_reads_back (s : String) (rest : List Char) :
    Reader.string (s.toList.flatMap escaped ++ '"' :: rest) = some (some s, rest) := by
  simp [Reader.string, codeUnits_quoted, ofCodeUnits_chars]

end DeviceMap.Json
