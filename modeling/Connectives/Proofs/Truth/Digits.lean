import Connectives.Proofs.Truth.Rows
import Mathlib.Data.Nat.Bitwise

/-!
# Connectives — rows in the order of their digits

If no variable is listed twice, the values in a row are the binary digits of its number. So rows
with different numbers differ, and every choice of values is made by exactly one of them. To go
through the numbers in their order is to go through the values as through a dictionary in which `false`
comes before `true`: the last variable changes fastest.

* `digits` — the lowest digits of a number, the highest one first.
* `Precedes`, `precedes_digits` — smaller numbers come first.
* `Enumeration.map_valuation_row` — the values in a row.
* `Enumeration.existsUnique_row` — every choice of values is made by one row.
-/

namespace Connectives

-- ---------------------------------------------------------------------------
-- Digits
-- ---------------------------------------------------------------------------

/-- The lowest `n` binary digits of a number, the highest one first. -/
def digits : Nat → Nat → List Bool
  | 0, _ => []
  | n + 1, k => k.testBit n :: digits n k

@[simp] theorem length_digits (n k : Nat) : (digits n k).length = n := by
  induction n with
  | zero => rfl
  | succ n ih => rw [digits, List.length_cons, ih]

theorem getElem?_digits {n i : Nat} (hi : i < n) (k : Nat) :
    (digits n k)[i]? = some (k.testBit (n - 1 - i)) := by
  induction n generalizing i with
  | zero => cases hi
  | succ n ih =>
    rw [digits]
    cases i with
    | zero => rfl
    | succ i =>
      have hPlace : n - 1 - i = n + 1 - 1 - (i + 1) := by omega
      rw [List.getElem?_cons_succ, ih (Nat.lt_of_succ_lt_succ hi), hPlace]

/-- The order of a dictionary, with `false` before `true`. -/
def Precedes : List Bool → List Bool → Prop :=
  List.Lex fun x y => x = false ∧ y = true

theorem not_precedes_self (bs : List Bool) : ¬ Precedes bs bs :=
  List.lex_irrefl (fun _ h => Bool.false_ne_true (h.1.symm.trans h.2)) bs

/-- Of two numbers that agree above their lowest digits, the smaller one has the digits that come
first. -/
theorem precedes_digits_of_agree {n j k : Nat} (hLess : j < k)
    (hAbove : ∀ i, n ≤ i → j.testBit i = k.testBit i) : Precedes (digits n j) (digits n k) := by
  induction n with
  | zero =>
    have hSame := Nat.eq_of_testBit_eq fun i => hAbove i (Nat.zero_le i)
    exact absurd hSame (Nat.ne_of_lt hLess)
  | succ n ih =>
    rw [digits, digits]
    by_cases hSame : j.testBit n = k.testBit n
    · rw [hSame]
      refine .cons (ih fun i hi => ?_)
      rcases Nat.eq_or_lt_of_le hi with rfl | hi
      · exact hSame
      · exact hAbove i hi
    · -- of the numbers that differ here first, the one with `true` is the greater
      have hOther : k.testBit n = !j.testBit n := Bool.eq_not.2 (Ne.symm hSame)
      cases hj : j.testBit n with
      | false => exact .rel ⟨rfl, by rw [hOther, hj]; rfl⟩
      | true =>
        rw [hj] at hOther
        have hGreater := Nat.lt_of_testBit n hOther hj fun i hi => (hAbove i hi).symm
        exact absurd hLess (Nat.lt_asymm hGreater)

/-- **Smaller numbers have digits that come first.** -/
theorem precedes_digits {n j k : Nat} (hLess : j < k) (hk : k < Nat.pow 2 n) :
    Precedes (digits n j) (digits n k) := by
  have hZero {m : Nat} (hm : m < Nat.pow 2 n) (i : Nat) (hi : n ≤ i) : m.testBit i = false :=
    Nat.testBit_lt_two_pow (Nat.lt_of_lt_of_le hm (Nat.pow_le_pow_right (by decide) hi))
  refine precedes_digits_of_agree hLess fun i hi => ?_
  rw [hZero (Nat.lt_trans hLess hk) i hi, hZero hk i hi]

theorem digits_injective {n j k : Nat} (hj : j < Nat.pow 2 n) (hk : k < Nat.pow 2 n)
    (h : digits n j = digits n k) : j = k := by
  rcases Nat.lt_trichotomy j k with hLess | hSame | hGreater
  · exact absurd (h ▸ precedes_digits hLess hk) (not_precedes_self _)
  · exact hSame
  · exact absurd (h ▸ precedes_digits hGreater hj) (not_precedes_self _)

-- ---------------------------------------------------------------------------
-- Rows
-- ---------------------------------------------------------------------------

namespace Enumeration

variable {vars : List String} (hNodup : vars.Nodup)
include hNodup

/-- **The values in a row are the digits of its number.** -/
theorem map_valuation_row (k : Nat) :
    vars.map (row vars k).valuation = digits vars.length k := by
  refine List.ext_getElem? fun i => ?_
  rw [List.getElem?_map]
  rcases Nat.lt_or_ge i vars.length with hi | hi
  · rw [List.getElem?_eq_getElem hi, getElem?_digits hi, Option.map_some, Assignment.valuation,
      get?_row hNodup (List.getElem?_eq_getElem hi), Option.getD_some]
  · rw [List.getElem?_eq_none hi, List.getElem?_eq_none (by simpa using hi), Option.map_none]

/-- **Every choice of values is made by exactly one row.** -/
theorem existsUnique_row (g : {v // v ∈ vars} → Bool) :
    ∃! k, k < Nat.pow 2 vars.length ∧ ∀ v, (row vars k).get? v.1 = some (g v) := by
  -- the choice as a valuation, false elsewhere
  let ρ : String → Bool := fun v => if hv : v ∈ vars then g ⟨v, hv⟩ else false
  have hRead {k : Nat} (hk : ∀ v, (row vars k).get? v.1 = some (g v)) :
      vars.map (row vars k).valuation = vars.map ρ := by
    refine List.map_congr_left fun v hv => ?_
    simp only [Assignment.valuation, hk ⟨v, hv⟩, Option.getD_some, ρ, dif_pos hv]
  obtain ⟨k, hk, hMeets⟩ := exists_row hNodup ρ
  have hGives (v : {v // v ∈ vars}) : (row vars k).get? v.1 = some (g v) := by
    obtain ⟨b, hb⟩ := Option.ne_none_iff_exists'.1 (get?_row_ne_none_iff.2 v.2)
    have hValue := hMeets v.1 v.2
    rw [Assignment.valuation, hb, Option.getD_some] at hValue
    simp only [hb, hValue, ρ, dif_pos v.2]
  refine ⟨k, ⟨hk, hGives⟩, fun j hj => ?_⟩
  refine digits_injective hj.1 hk ?_
  rw [← map_valuation_row hNodup, ← map_valuation_row hNodup, hRead hj.2, hRead hGives]

end Enumeration

end Connectives
