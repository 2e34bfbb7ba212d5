import DeviceMap.Decimal.Notation
import DeviceMap.Proofs.Decimal.Value

/-! The parts of written decimals: the digits before and after a point, and the
power of ten. Put together again they have the size of the decimal. -/
namespace DeviceMap.Decimal

theorem signed_append (negative : Bool) (text rest : List Char) :
    signed negative text ++ rest = signed negative (text ++ rest) := by
  cases negative <;> rfl

/-- One digit or more. -/
def Numeral (cs : List Char) : Prop := cs ≠ [] ∧ ∀ c ∈ cs, c.isDigit = true

/-- Digits without a zero in front of other ones. -/
def Plain (cs : List Char) : Prop := Numeral cs ∧ ∀ rest, cs = '0' :: rest → rest = []

theorem digits_numeral (n : Nat) : Numeral (digits n) :=
  ⟨Nat.toDigits_ne_nil, fun _ member => Nat.isDigit_of_mem_toDigits (by decide) (by decide) member⟩

theorem ofDigits_digits (n : Nat) : ofDigits (digits n) = n := Nat.ofDigitChars_ten_toDigits

theorem ofDigits_append (first second : List Char) :
    ofDigits (first ++ second) = 10 ^ second.length * ofDigits first + ofDigits second := by
  have split := Nat.ofDigitChars_append (b := 10) (l := first) (m := second) 0
  rw [Nat.ofDigitChars_eq_ofDigitChars_zero (l := second)] at split
  exact split

theorem ofDigits_zeros (n : Nat) : ofDigits (List.replicate n '0') = 0 := by
  have zeros : Nat.ofDigitChars 10 (List.replicate n '0') 0 = 10 ^ n * 0 :=
    Nat.ofDigitChars_replicate_zero
  rwa [Nat.mul_zero] at zeros

/-- Only the zero is written with a zero in front. -/
theorem digits_lead {n : Nat} {rest : List Char} (written : digits n = '0' :: rest) : n = 0 := by
  induction n using Nat.strongRecOn generalizing rest with
  | ind n ih =>
    by_contra positive
    unfold digits at written
    rw [Nat.toDigits_eq_if (by decide)] at written
    split at written
    · simp [positive] at written
    · obtain ⟨c, more, front⟩ := List.exists_cons_of_ne_nil (digits_numeral (n / 10)).1
      unfold digits at front
      rw [front] at written
      cases written
      have := ih (n / 10) (by omega) front
      omega

theorem digits_plain (n : Nat) : Plain (digits n) := by
  refine ⟨digits_numeral n, fun rest written => ?_⟩
  obtain rfl := digits_lead written
  cases written
  rfl

theorem Numeral.of_mem {first second : List Char} (whole : Numeral second) (occupied : first ≠ [])
    (part : ∀ c ∈ first, c ∈ second) : Numeral first :=
  ⟨occupied, fun c member => whole.2 c (part c member)⟩

/-- A point with some places behind it stands between digits, which together
are those of the number. -/
theorem pointed_parts (n : Nat) {places : Nat} (fraction : 0 < places) :
    ∃ before after, pointed (digits n) places = before ++ '.' :: after ∧ Plain before ∧
      Numeral after ∧ after.length = places ∧ ofDigits (before ++ after) = n := by
  simp only [pointed]
  generalize fill : List.replicate (places + 1 - (digits n).length) '0' ++ digits n = padded
  have length : padded.length = max (places + 1) (digits n).length := by
    rw [← fill, List.length_append, List.length_replicate]
    omega
  have numeral : Numeral padded := by
    rw [← fill]
    refine ⟨by simp [(digits_numeral n).1], fun c member => ?_⟩
    rcases List.mem_append.mp member with zero | digit
    · rw [List.eq_of_mem_replicate zero]
      rfl
    · exact (digits_numeral n).2 c digit
  have value : ofDigits padded = n := by
    rw [← fill, ofDigits_append, ofDigits_zeros, ofDigits_digits, Nat.mul_zero, Nat.zero_add]
  generalize cut : padded.length - places = whole
  have join : padded.take whole ++ padded.drop whole = padded := List.take_append_drop ..
  have beforeLength : (padded.take whole).length = whole := by
    rw [List.length_take]
    omega
  have afterLength : (padded.drop whole).length = places := by
    rw [List.length_drop]
    omega
  have before : Numeral (padded.take whole) :=
    numeral.of_mem (List.ne_nil_of_length_pos (by omega)) fun _ => List.mem_of_mem_take
  have after : Numeral (padded.drop whole) :=
    numeral.of_mem (List.ne_nil_of_length_pos (by omega)) fun _ => List.mem_of_mem_drop
  refine ⟨_, _, rfl, ⟨before, fun rest lead => ?_⟩, after, afterLength, by rwa [join]⟩
  rcases Nat.lt_or_ge places (digits n).length with long | short
  · have unfilled : padded = digits n := by
      rw [← fill, Nat.sub_eq_zero_of_le long]
      rfl
    rw [lead, unfilled, List.cons_append] at join
    exact (List.append_eq_nil_iff.mp ((digits_plain n).2 _ join.symm)).1
  · have single := congrArg List.length lead
    rw [beforeLength, List.length_cons] at single
    exact List.eq_nil_of_length_eq_zero (by omega)

/-- A decimal by position has a point between digits, unless zeros would have to
follow a zero. -/
theorem fractional_parts {d : Decimal} (tidy : d.coefficient = 0 → d.exponent = 0) :
    ∃ before after, d.fractional = signed d.negative (before ++ '.' :: after) ∧ Plain before ∧
      Numeral after ∧ (ofParts d.negative before after 0).size = d.size := by
  unfold fractional positional
  split
  · rename_i below
    have fraction : 0 < d.exponent.natAbs := by omega
    obtain ⟨before, after, written, plain, numeral, places, value⟩ :=
      pointed_parts d.coefficient fraction
    refine ⟨before, after, by rw [written], plain, numeral, ?_⟩
    have exponent : (0 : Int) - after.length = d.exponent := by omega
    simp only [size, ofParts, value, exponent]
  · rename_i above
    have whole : Plain (digits d.coefficient ++ List.replicate d.exponent.natAbs '0') := by
      refine ⟨⟨by simp [(digits_numeral _).1], fun c member => ?_⟩, fun rest lead => ?_⟩
      · rcases List.mem_append.mp member with digit | zero
        · exact (digits_numeral _).2 c digit
        · rw [List.eq_of_mem_replicate zero]
          rfl
      · obtain ⟨c, more, front⟩ := List.exists_cons_of_ne_nil (digits_numeral d.coefficient).1
        rw [front, List.cons_append] at lead
        cases lead
        have zero := digits_lead front
        rw [zero] at front
        cases front
        simp [tidy zero]
    refine ⟨_, ['0'], ?_, whole, ⟨by simp, by simp⟩, ?_⟩
    · cases d.negative <;> simp [signed]
    · have power : d.exponent = (d.exponent.natAbs : Int) := by omega
      have value : ofDigits (digits d.coefficient ++ List.replicate d.exponent.natAbs '0' ++
          ['0']) = 10 * (10 ^ d.exponent.natAbs * d.coefficient) := by
        rw [ofDigits_append, ofDigits_append, ofDigits_zeros, ofDigits_digits]
        simp [ofDigits]
      simp only [size, ofParts, value]
      rw [power, zpow_natCast, Int.natAbs_natCast]
      push_cast
      norm_num
      ring

/-- The digits of a decimal with a power of ten, and the decimal again. -/
theorem scientific_parts (d : Decimal) :
    ∃ first more, d.scientific = signed d.negative
        (first :: (if more = [] then [] else '.' :: more) ++
          'e' :: (if d.firstPower < 0 then '-' else '+') :: digits d.firstPower.natAbs) ∧
      first.isDigit = true ∧ (∀ c ∈ more, c.isDigit = true) ∧
        ofParts d.negative [first] more d.firstPower = d := by
  obtain ⟨first, more, front⟩ := List.exists_cons_of_ne_nil (digits_numeral d.coefficient).1
  have numeral := (digits_numeral d.coefficient).2
  rw [front] at numeral
  have length : d.firstPower = more.length + d.exponent := by
    unfold firstPower
    rw [front, List.length_cons]
    push_cast
    ring
  refine ⟨first, more, ?_, numeral first (by simp), ?_, ?_⟩
  · unfold scientific
    rw [front]
    cases more <;> simp
  · exact fun c member => numeral c (by simp [member])
  · simp only [ofParts, List.singleton_append, ← front, ofDigits_digits, length]
    simp

end DeviceMap.Decimal
