import DeviceMap.Json.Printer
import DeviceMap.Json.Reader
import DeviceMap.Proofs.Decimal.Notation
import DeviceMap.Proofs.Decimal.Shortest

/-! Numbers as JSON are read back: whole numbers as they are, and a finite double
as the double that was written. -/
namespace DeviceMap.Json
open Decimal Reader

/-- A text that goes on with no part of a number. -/
def Ended (rest : List Char) : Prop :=
  ∀ c ∈ rest.head?, c.isDigit = false ∧ c ≠ '.' ∧ c ≠ 'e' ∧ c ≠ 'E'

private theorem digits_found {found rest : List Char} (numeral : Numeral found)
    (stop : ∀ c ∈ rest.head?, c.isDigit = false) :
    Reader.digits (found ++ rest) = some (found, rest) := by
  have taken : (found ++ rest).takeWhile Char.isDigit = found := by
    rw [List.takeWhile_append_of_pos numeral.2]
    cases rest with
    | nil => simp
    | cons c more => simp [stop c rfl]
  have left : (found ++ rest).dropWhile Char.isDigit = rest := by
    rw [List.dropWhile_append_of_pos numeral.2]
    cases rest with
    | nil => simp
    | cons c more => simp [stop c rfl]
  unfold Reader.digits
  rw [taken, left]
  cases found with
  | nil => exact absurd rfl numeral.1
  | cons c more => rfl

private theorem wholePart_found {whole rest : List Char} (plain : Plain whole)
    (stop : ∀ c ∈ rest.head?, c.isDigit = false) :
    wholePart (whole ++ rest) = some (whole, rest) := by
  unfold wholePart
  rw [digits_found plain.1 stop]
  simp only [Option.bind_eq_bind, Option.bind_some]
  split
  · rename_i c more
    cases plain.2 _ rfl
  · rfl

private theorem fractionPart_found {fraction rest : List Char} (numeral : Numeral fraction)
    (stop : ∀ c ∈ rest.head?, c.isDigit = false) :
    fractionPart ('.' :: (fraction ++ rest)) = some (some fraction, rest) := by
  simp [fractionPart, digits_found numeral stop]

private theorem fractionPart_none {rest : List Char} (stop : ∀ c ∈ rest.head?, c ≠ '.') :
    fractionPart rest = some (none, rest) := by
  unfold fractionPart
  split
  · exact absurd rfl (stop '.' rfl)
  · rfl

private theorem exponentPart_none {rest : List Char} (ended : Ended rest) :
    exponentPart rest = some (none, rest) := by
  unfold exponentPart
  cases rest with
  | nil => rfl
  | cons c more =>
    obtain ⟨-, -, small, large⟩ := ended c rfl
    simp [small, large]

private theorem exponentPart_found (power : Int) {rest : List Char} (ended : Ended rest) :
    exponentPart ('e' :: (if power < 0 then '-' else '+') ::
      (Decimal.digits power.natAbs ++ rest)) = some (some power, rest) := by
  have stop : ∀ c ∈ rest.head?, c.isDigit = false := fun c next => (ended c next).1
  have found := digits_found (digits_numeral power.natAbs) stop
  split
  · have value : -(power.natAbs : Int) = power := by omega
    simp only [exponentPart, true_or, ↓reduceIte, found, Option.map_some, ofDigits_digits, value]
  · have value : (power.natAbs : Int) = power := by omega
    simp only [exponentPart, true_or, ↓reduceIte, found, Option.map_some, ofDigits_digits, value]

/-- A number is put together from what its parts are read as. -/
private theorem number_parts (negative : Bool) {whole text tail rest : List Char}
    {fraction : Option (List Char)} {power : Option Int} (plain : Plain whole)
    (stop : ∀ c ∈ text.head?, c.isDigit = false)
    (fractionRead : fractionPart text = some (fraction, tail))
    (powerRead : exponentPart tail = some (power, rest)) :
    Reader.number (signed negative (whole ++ text)) = some (
      if fraction.isNone && power.isNone then wholeValue negative whole
      else double (.ofParts negative whole (fraction.getD []) (power.getD 0)), rest) := by
  have wholeRead := wholePart_found plain stop
  cases negative with
  | true =>
    simp only [signed, ↓reduceIte, Reader.number, wholeRead, fractionRead, powerRead,
      Option.bind_eq_bind, Option.bind_some]
    cases fraction <;> cases power <;> rfl
  | false =>
    obtain ⟨c, front, rfl⟩ := List.exists_cons_of_ne_nil plain.1.1
    have digit := plain.1.2 c (by simp)
    have unsigned : c ≠ '-' := fun sign => by simp [sign] at digit
    unfold Reader.number
    simp only [signed, Bool.false_eq_true, ↓reduceIte, List.cons_append] at wholeRead ⊢
    split
    · rename_i shape
      exact absurd (List.cons.inj shape).1 unsigned
    · simp only [wholeRead, fractionRead, powerRead, Option.bind_eq_bind, Option.bind_some]
      cases fraction <;> cases power <;> rfl

private theorem number_whole (negative : Bool) {whole rest : List Char} (plain : Plain whole)
    (ended : Ended rest) :
    Reader.number (signed negative (whole ++ rest)) = some (wholeValue negative whole, rest) := by
  have parts := number_parts negative plain (fun c next => (ended c next).1)
    (fractionPart_none fun c next => (ended c next).2.1) (exponentPart_none ended)
  simpa using parts

private theorem number_pointed (negative : Bool) {before after rest : List Char}
    (plain : Plain before) (numeral : Numeral after) (ended : Ended rest) :
    Reader.number (signed negative (before ++ '.' :: after) ++ rest) =
      some (double (.ofParts negative before after 0), rest) := by
  rw [signed_append, List.append_assoc]
  have parts := number_parts negative plain (by simp)
    (fractionPart_found numeral fun c next => (ended c next).1) (exponentPart_none ended)
  simpa using parts

private theorem number_scientific (negative : Bool) {first : Char} {more rest : List Char}
    (power : Int) (digit : first.isDigit = true) (digits : ∀ c ∈ more, c.isDigit = true)
    (ended : Ended rest) :
    Reader.number (signed negative (first :: (if more = [] then [] else '.' :: more) ++
        'e' :: (if power < 0 then '-' else '+') :: Decimal.digits power.natAbs) ++ rest) =
      some (double (.ofParts negative [first] more power), rest) := by
  have plain : Plain [first] := ⟨⟨by simp, by simpa using digit⟩, by simp⟩
  have exponent := exponentPart_found power ended
  generalize tailText : 'e' :: (if power < 0 then '-' else '+') ::
    (Decimal.digits power.natAbs ++ rest) = tail at exponent
  have stop : ∀ c ∈ tail.head?, c.isDigit = false ∧ c ≠ '.' := by
    rw [← tailText]
    simp
  have text : first :: (if more = [] then [] else '.' :: more) ++
      'e' :: (if power < 0 then '-' else '+') :: Decimal.digits power.natAbs ++ rest =
      [first] ++ ((if more = [] then [] else '.' :: more) ++ tail) := by
    simp [← tailText]
  rw [signed_append, text]
  cases more with
  | nil =>
    have parts := number_parts negative plain (fun c next => (stop c next).1)
      (fractionPart_none fun c next => (stop c next).2) exponent
    simpa using parts
  | cons second more =>
    have parts := number_parts negative plain (by simp)
      (fractionPart_found ⟨by simp, digits⟩ fun c next => (stop c next).1) exponent
    simpa using parts

/-- A decimal of the size of a finite double is read as this double. -/
private theorem double_exact {c d : Decimal} {x : Float} (finite : x.isFinite = true)
    (value : d.toFloat = x) (negative : c.negative = d.negative) (same : c.size = d.size) :
    double c = .float x := by
  unfold double
  rw [toFloat_of_size negative same, value]
  simp [finite]

/-- A finite double is read back, whatever follows it. -/
theorem number_reads_back {x : Float} (finite : x.isFinite = true) {rest : List Char}
    (ended : Ended rest) : Reader.number (Json.number x ++ rest) = some (.float x, rest) := by
  obtain ⟨d, shortest, value, tidy⟩ := shortest_reads_back .even finite
  simp only [Json.number, shortest]
  split
  · rename_i near
    obtain ⟨before, after, written, plain, numeral, same⟩ := fractional_parts tidy
    have value := double_exact (c := .ofParts d.negative before after 0) finite value rfl same
    rw [written, number_pointed d.negative plain numeral ended, value]
  · obtain ⟨first, more, written, digit, digits, again⟩ := scientific_parts d
    rw [written, number_scientific d.negative d.firstPower digit digits ended, again,
      double_exact finite value rfl rfl]

/-- A whole number of a word with or without a sign is read back. -/
theorem integer_reads_back {n : Int} (range : -0x8000000000000000 ≤ n ∧ n < UInt64.size)
    {rest : List Char} (ended : Ended rest) :
    Reader.number (integer n ++ rest) = some (.int n, rest) := by
  unfold integer
  rw [signed_append, number_whole _ (digits_plain _) ended]
  simp only [wholeValue, ofDigits_digits, UInt64.size] at range ⊢
  by_cases negative : n < 0
  · have value : -(n.natAbs : Int) = n := by omega
    simp only [negative, decide_true, ↓reduceIte, value]
    rw [if_pos (by omega)]
  · have value : (n.natAbs : Int) = n := by omega
    simp only [negative, decide_false, Bool.false_eq_true, ↓reduceIte, value]
    rw [if_pos (by omega)]

end DeviceMap.Json
