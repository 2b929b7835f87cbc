import Connectives.Truth.Enumeration
import Connectives.Proofs.Truth.Valuation
import Mathlib.Data.Finset.Card

/-!
# Connectives — an enumeration meets every valuation

The rows of an enumeration are numbers, and a variable is a place in their binary digits. If no
variable is listed twice, each row gives a value to all of them; and since a number may have any
digits, each valuation of the variables is met by some row.

* `Assignment.get?_ofList` — of several values for a variable, the last one counts.
* `Enumeration.get?_row_of_last`, `Enumeration.get?_row` — the value of a variable in a row is a digit.
* `Enumeration.exists_row` — every valuation is met.
* `Enumeration.forall_valuation_iff` — what holds in all rows holds under all valuations.
-/

namespace Connectives

-- ---------------------------------------------------------------------------
-- Reading an assignment
-- ---------------------------------------------------------------------------

namespace Assignment

theorem lookup_cons_eq_ite (e : String × Bool) (l : List (String × Bool)) (w : String) :
    (e :: l).lookup w = if w = e.1 then some e.2 else l.lookup w := by
  rw [List.lookup_cons]
  by_cases h : w = e.1
  · rw [if_pos h, beq_iff_eq.2 h]
  · rw [if_neg h, beq_eq_false_iff_ne.2 h]

theorem lookup_insertEntry (v w : String) (b : Bool) (l : List (String × Bool)) :
    (insertEntry v b l).lookup w = if w = v then some b else l.lookup w := by
  induction l with
  | nil => rw [insertEntry, lookup_cons_eq_ite]
  | cons e rest ih =>
    rw [insertEntry]
    split
    · rw [lookup_cons_eq_ite]
    · split
      · next hSame =>
        -- the entry with the same name goes, and no other was found behind it
        subst hSame
        rw [lookup_cons_eq_ite, lookup_cons_eq_ite]
        split <;> rfl
      · next hNe =>
        rw [lookup_cons_eq_ite, lookup_cons_eq_ite, ih]
        split
        · next hHead =>
          have hOther : w ≠ v := fun hEq => hNe (hEq.symm.trans hHead)
          rw [if_neg hOther]
        · rfl

theorem get?_insert (a : Assignment) (v w : String) (b : Bool) :
    (a.insert v b).get? w = if w = v then some b else a.get? w :=
  lookup_insertEntry v w b a.entries

/-- **Of several values for a variable the last one counts.** -/
theorem get?_ofList (pairs : List (String × Bool)) (v : String) :
    (ofList pairs).get? v = pairs.reverse.lookup v := by
  induction pairs using List.reverseRecOn with
  | nil => rfl
  | append_singleton pairs p ih =>
    have hLast : ofList (pairs ++ [p]) = (ofList pairs).insert p.1 p.2 :=
      List.foldl_concat _ _ _ _
    rw [hLast, get?_insert, ih, List.reverse_append, List.reverse_singleton, List.singleton_append,
      lookup_cons_eq_ite]

/-- The value that counts is the one behind which the variable is not given again. -/
theorem get?_ofList_append_cons {before after : List (String × Bool)} {v : String} {b : Bool}
    (hLast : v ∉ after.map (·.1)) : (ofList (before ++ (v, b) :: after)).get? v = some b := by
  rw [get?_ofList, List.lookup_eq_some_iff]
  refine ⟨after.reverse, before.reverse, by simp, fun p hp => ?_⟩
  have hName : p.1 ∈ after.map (·.1) := List.mem_map_of_mem (List.mem_reverse.1 hp)
  have hNe : v ≠ p.1 := fun hEq => hLast (hEq ▸ hName)
  simpa using hNe

/-- A variable has no value if it is given none. -/
theorem get?_ofList_eq_none_iff {pairs : List (String × Bool)} {v : String} :
    (ofList pairs).get? v = none ↔ v ∉ pairs.map (·.1) := by
  rw [get?_ofList, List.lookup_eq_none_iff, ← List.forall_mem_ne, List.forall_mem_map]
  simp only [List.mem_reverse, bne_iff_ne, ne_eq]

end Assignment

-- ---------------------------------------------------------------------------
-- Rows
-- ---------------------------------------------------------------------------

namespace Enumeration

/-- **The last place of a variable decides its value in a row**: it is the digit of this place. -/
theorem get?_row_of_last {vars : List String} {i : Nat} {v : String} (hv : vars[i]? = some v)
    (hLast : v ∉ vars.drop (i + 1)) (k : Nat) :
    (row vars k).get? v = some (k.testBit (vars.length - 1 - i)) := by
  obtain ⟨hi, rfl⟩ := List.getElem?_eq_some_iff.1 hv
  have hSplit : vars.zipIdx =
      (vars.take i).zipIdx ++ (vars[i], i) :: (vars.drop (i + 1)).zipIdx (i + 1) := by
    have hLength : (vars.take i).length = i := List.length_take_of_le (Nat.le_of_lt hi)
    conv_lhs => rw [← List.take_append_drop i vars, List.drop_eq_getElem_cons hi]
    rw [List.zipIdx_append, List.zipIdx_cons, hLength, Nat.zero_add]
  rw [row, hSplit, List.map_append, List.map_cons]
  refine Assignment.get?_ofList_append_cons ?_
  rw [List.map_map]
  show vars[i] ∉ ((vars.drop (i + 1)).zipIdx (i + 1)).map Prod.fst
  rwa [List.zipIdx_map_fst]

/-- **The value of a variable in a row is its digit**, if no variable is listed twice. -/
theorem get?_row {vars : List String} (hNodup : vars.Nodup) {i : Nat} {v : String}
    (hv : vars[i]? = some v) (k : Nat) :
    (row vars k).get? v = some (k.testBit (vars.length - 1 - i)) := by
  obtain ⟨hi, rfl⟩ := List.getElem?_eq_some_iff.1 hv
  have hTail : (vars[i] :: vars.drop (i + 1)).Nodup := by
    rw [List.cons_getElem_drop_succ]
    exact hNodup.sublist (List.drop_sublist i vars)
  exact get?_row_of_last hv (List.nodup_cons.1 hTail).1 k

/-- **A row gives a value to the variables of the list**, and to no others. -/
theorem get?_row_ne_none_iff {vars : List String} {v : String} {k : Nat} :
    (row vars k).get? v ≠ none ↔ v ∈ vars := by
  rw [row, Ne, Assignment.get?_ofList_eq_none_iff, List.map_map, Decidable.not_not]
  show v ∈ vars.zipIdx.map Prod.fst ↔ v ∈ vars
  rw [List.zipIdx_map_fst]

/-- **Every valuation of the variables is met by a row.** -/
theorem exists_row {vars : List String} (hNodup : vars.Nodup) (ρ : String → Bool) :
    ∃ k < Nat.pow 2 vars.length, ∀ v ∈ vars, (row vars k).valuation v = ρ v := by
  -- the digits of the number are the values, the first variable has the highest one
  let digit : Fin vars.length → Bool := fun i => ρ vars[vars.length - 1 - i.1]
  refine ⟨Nat.ofBits digit, Nat.ofBits_lt_two_pow digit, fun v hv => ?_⟩
  obtain ⟨i, hi, rfl⟩ := List.mem_iff_getElem.1 hv
  have hPlace : vars.length - 1 - i < vars.length := by omega
  have hBack : vars.length - 1 - (vars.length - 1 - i) = i := by omega
  rw [Assignment.valuation, get?_row hNodup (List.getElem?_eq_getElem hi), Option.getD_some,
    Nat.testBit_ofBits_lt digit _ hPlace]
  simp only [digit, hBack]

-- ---------------------------------------------------------------------------
-- All rows
-- ---------------------------------------------------------------------------

theorem ofVars_eq_error {vars : List String} (h : maxEnumerated < vars.length) :
    ofVars vars = .error (.tooManyVariables vars.length) :=
  if_pos h

theorem ofVars_eq_ok {vars : List String} (h : vars.length ≤ maxEnumerated) :
    ofVars vars = .ok ⟨vars, 0, Nat.pow 2 vars.length⟩ :=
  if_neg (Nat.not_lt.2 h)

theorem mem_toList {vars : List String} {n : Nat} {a : Assignment} :
    a ∈ toList ⟨vars, 0, n⟩ ↔ ∃ k < n, row vars k = a := by
  rw [toList, remaining, List.mem_map]
  simp only [List.mem_range'_1, Nat.zero_le, true_and, Nat.sub_zero, Nat.zero_add]

/-- A statement about the values of some variables holds in all rows just if it holds under all
valuations. -/
theorem forall_valuation_iff {vars : List String} (hNodup : vars.Nodup)
    {P : (String → Bool) → Prop} (hP : ∀ ρ σ, (∀ v ∈ vars, ρ v = σ v) → P ρ → P σ) :
    (∀ a ∈ toList ⟨vars, 0, Nat.pow 2 vars.length⟩, P a.valuation) ↔ ∀ ρ, P ρ := by
  constructor
  · intro h ρ
    obtain ⟨k, hk, hRow⟩ := exists_row hNodup ρ
    exact hP _ _ hRow (h _ (mem_toList.2 ⟨k, hk, rfl⟩))
  · intro h a _
    exact h a.valuation

end Enumeration

end Connectives
