import Mathlib
import DeviceMap.Mac

/-! The text of an address. A reader knows nothing of the two forms: it takes what stands
between the colons, two digits each, as the bytes of a number, the most significant first.
From either form it gets the address back, so that a text names one address only. -/
namespace DeviceMap

namespace Hexadecimal

/-- The digits with capital letters in the order of their values. -/
def capitals : List Char :=
  ['0', '1', '2', '3', '4', '5', '6', '7', '8', '9', 'A', 'B', 'C', 'D', 'E', 'F']

/-- Two digits with capital letters. -/
def IsPair (group : List Char) : Prop :=
  ∃ high ∈ capitals, ∃ low ∈ capitals, group = [high, low]

private theorem upper_cases : ∀ n : Fin 16, upper n ∈ capitals ∧ value? (upper n) = some n.val := by
  decide

theorem upper_capital {n : Nat} (small : n < 16) : upper n ∈ capitals :=
  (upper_cases ⟨n, small⟩).1

theorem value_upper {n : Nat} (small : n < 16) : value? (upper n) = some n :=
  (upper_cases ⟨n, small⟩).2

theorem IsPair.no_colon {group : List Char} (pair : IsPair group) : ':' ∉ group := by
  obtain ⟨high, highCapital, low, lowCapital, rfl⟩ := pair
  have outside : ':' ∉ capitals := by decide
  have first : high ≠ ':' := ne_of_mem_of_not_mem highCapital outside
  have second : low ≠ ':' := ne_of_mem_of_not_mem lowCapital outside
  simp [first.symm, second.symm]

end Hexadecimal

namespace Mac
open Hexadecimal

section Bytes
variable (count n : Nat)

theorem lowBytes_length : (lowBytes count n).length = count := by
  induction count generalizing n with
  | zero => rfl
  | succ count ih => simp [lowBytes, ih]

theorem lowBytes_small : ∀ byte ∈ lowBytes count n, byte < 256 := by
  induction count generalizing n with
  | zero => simp [lowBytes]
  | succ count ih =>
    intro byte member
    rcases List.mem_append.mp member with earlier | last
    · exact ih (n / 256) byte earlier
    · rw [List.mem_singleton.mp last]
      exact Nat.mod_lt n (by decide)

/-- The lowest bytes stand for what they leave of the number. -/
theorem ofDigits_lowBytes : Nat.ofDigits 256 (lowBytes count n).reverse = n % 256 ^ count := by
  induction count generalizing n with
  | zero => simp [lowBytes, Nat.mod_one]
  | succ count ih =>
    rw [lowBytes, List.reverse_append, List.reverse_singleton, List.singleton_append,
      Nat.ofDigits_cons, ih, pow_succ', Nat.mod_mul]

end Bytes

section Pairs
variable {byte : Nat} (small : byte < 256)
include small

theorem pair_isPair : IsPair (pair byte).toList := by
  have high : byte / 16 < 16 := by omega
  have low : byte % 16 < 16 := by omega
  exact ⟨_, upper_capital high, _, upper_capital low, String.toList_ofList⟩

theorem number_pair : number? (pair byte).toList = some byte := by
  have high : byte / 16 < 16 := by omega
  have low : byte % 16 < 16 := by omega
  have whole : 16 * (byte / 16) + byte % 16 = byte := by omega
  simp [pair, number?, value_upper high, value_upper low, whole]

end Pairs

theorem number_pairs {bytes : List Nat} (small : ∀ byte ∈ bytes, byte < 256) :
    (bytes.map fun byte => (pair byte).toList).mapM Hexadecimal.number? = some bytes := by
  induction bytes with
  | nil => rfl
  | cons byte rest ih =>
    have first := number_pair (small byte List.mem_cons_self)
    have others := ih fun later member => small later (List.mem_cons_of_mem _ member)
    simp [first, others]

/-- What stands between the colons of a text. -/
def groups (text : String) : List (List Char) := text.toList.splitOn ':'

/-- The number whose bytes the groups of a text are, the most significant first. -/
def read? (text : String) : Option Nat :=
  ((groups text).mapM Hexadecimal.number?).map fun bytes => Nat.ofDigits 256 bytes.reverse

theorem bytes_small (mac : Mac) : ∀ byte ∈ mac.bytes, byte < 256 := lowBytes_small _ _

theorem groups_text (mac : Mac) : groups mac.text = mac.bytes.map fun byte => (pair byte).toList := by
  unfold groups text
  rw [String.toList_intercalate, List.map_map]
  apply List.splitOn_intercalate
  · intro group member
    obtain ⟨byte, shown, rfl⟩ := List.mem_map.mp member
    exact (pair_isPair (mac.bytes_small byte shown)).no_colon
  · have length : mac.bytes.length ≠ 0 := by
      unfold bytes
      rw [lowBytes_length]
      split <;> decide
    simpa using length

theorem isShort_iff (mac : Mac) : mac.isShort = true ↔ mac.value.toNat ≤ 65535 := by
  simp [isShort, UInt64.le_iff_toNat_le]

/-- The bytes of the short form are all that a small address has. -/
theorem ofDigits_bytes (mac : Mac) : Nat.ofDigits 256 mac.bytes.reverse = mac.value.toNat := by
  unfold bytes
  rw [ofDigits_lowBytes]
  apply Nat.mod_eq_of_lt
  split
  · rename_i short
    have small := (isShort_iff mac).mp short
    omega
  · exact mac.value.toNat_lt

theorem read_text (mac : Mac) : read? mac.text = some mac.value.toNat := by
  unfold read?
  rw [groups_text, number_pairs mac.bytes_small, Option.map_some, ofDigits_bytes]

/-- The text of an address is made of groups of two capital digits between single colons, two
groups for an address of two bytes and eight for a longer one. It is read back as the address,
in whichever form it is, and so no other address has it. -/
theorem text_identifies (mac : Mac) :
    (groups mac.text).length = (if mac.value.toNat ≤ 65535 then 2 else 8) ∧
    (∀ group ∈ groups mac.text, IsPair group) ∧
    mac.text.toList = [':'].intercalate (groups mac.text) ∧
    read? mac.text = some mac.value.toNat ∧
    ∀ other : Mac, other.text = mac.text ↔ other = mac := by
  refine ⟨?_, ?_, ?_, read_text mac, fun other => ⟨fun same => ?_, congrArg text⟩⟩
  · rw [groups_text, List.length_map]
    unfold bytes
    simp only [lowBytes_length, isShort_iff]
  · rw [groups_text]
    intro group member
    obtain ⟨byte, shown, rfl⟩ := List.mem_map.mp member
    exact pair_isPair (mac.bytes_small byte shown)
  · exact (List.intercalate_splitOn ':').symm
  · have numbers : some other.value.toNat = some mac.value.toNat := by
      rw [← read_text, ← read_text, same]
    obtain ⟨value⟩ := mac
    obtain ⟨otherValue⟩ := other
    exact congrArg Mac.mk (UInt64.toNat.inj (Option.some.inj numbers))

/-- The longest short form and the shortest long one. -/
example : text ⟨0xFFFF⟩ = "FF:FF" ∧ text ⟨0x10000⟩ = "00:00:00:00:00:01:00:00" := by
  decide +kernel

end Mac
end DeviceMap
