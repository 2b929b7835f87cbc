import Connectives.Proofs.Truth.Digits
import Connectives.Proofs.Truth.Equivalence

/-!
# Connectives — truth tables are right

A table is drawn up in a loop over assignments, and each of its rows is read back from the assignment
of the row. Since every assignment gives a value to all variables, nothing is missed on the way; and
since the values in a row are the digits of its number, the table is known from the formula
alone. Whether a formula is true under every, some, or no valuation is read off its last column.

* `TruthTable.Tabulates` — the table of a formula, in classical terms.
* `Formula.truthTable_eq`, `Formula.tabulates_of_truthTable` — the table that is drawn up is this one.
* `Formula.isTautology_decides`, `Formula.isContradiction_decides`, `Formula.isSatisfiable_decides` —
  the three questions.
* `Formula.truthTable_and_questions` — all of it, and the failure with too many variables.
-/

namespace Connectives

namespace Enumeration

variable {vars : List String} {n : Nat}

@[simp] theorem length_toList : (toList ⟨vars, 0, n⟩).length = n := by
  rw [toList, List.length_map, List.length_range', remaining, Nat.sub_zero]

theorem getElem?_toList {k : Nat} (hk : k < n) : (toList ⟨vars, 0, n⟩)[k]? = some (row vars k) := by
  rw [toList, List.getElem?_map, remaining, Nat.sub_zero, List.getElem?_range' hk, Nat.zero_add,
    Nat.one_mul]
  rfl

end Enumeration

-- ---------------------------------------------------------------------------
-- Tables
-- ---------------------------------------------------------------------------

/-- The table of a formula: a row for each number with as many binary digits as there are variables,
which holds the digits, and the truth value under the valuations that give them to the variables. -/
structure TruthTable.Tabulates (t : TruthTable) (f : Formula) : Prop where
  vars : t.vars = f.vars
  formula : t.formula = f
  length_rows : t.rows.length = Nat.pow 2 f.vars.length
  row : ∀ k < Nat.pow 2 f.vars.length,
    (∃ ρ, f.vars.map ρ = digits f.vars.length k) ∧
      ∀ ρ, f.vars.map ρ = digits f.vars.length k →
        t.rows[k]? = some (digits f.vars.length k, f.holds ρ)

namespace Formula

/-- The rows of the assignments to the variables of a formula. -/
def tableRows (f : Formula) : List (List Bool × Bool) :=
  (Enumeration.toList ⟨f.vars, 0, Nat.pow 2 f.vars.length⟩).map fun a =>
    (f.vars.map a.valuation, f.holds a.valuation)

/-- **The table that is drawn up**, unless there are too many variables. -/
theorem truthTable_eq (f : Formula) :
    f.truthTable =
      if f.vars.length ≤ maxEnumerated then .ok ⟨f.vars, f, f.tableRows⟩
      else .error (.tooManyVariables f.vars.length) := by
  rw [truthTable]
  split
  · next hFew =>
    have hRows : (Enumeration.toList ⟨f.vars, 0, Nat.pow 2 f.vars.length⟩).mapM
        (f.truthRow f.vars) = .ok f.tableRows := by
      refine mapM_eq_ok fun a ha => ?_
      rw [truthRow, evaluate_of_mem_toList (List.Subset.refl _) ha]
      rfl
    rw [Enumeration.ofVars_eq_ok hFew]
    show (Enumeration.toList _).mapM (f.truthRow f.vars) >>= _ = _
    rw [hRows]
    rfl
  · next hMany =>
    rw [Enumeration.ofVars_eq_error (Nat.not_le.1 hMany)]
    rfl

/-- The last column of the table. -/
theorem truthValues_eq_map_tableRows {f : Formula} (hFew : f.vars.length ≤ maxEnumerated) :
    f.truthValues = .ok (f.tableRows.map (·.2)) := by
  rw [truthValues_eq, if_pos hFew, tableRows, List.map_map]
  rfl

/-- **The table that is drawn up is the table of the formula.** -/
theorem tabulates_tableRows (f : Formula) :
    TruthTable.Tabulates ⟨f.vars, f, f.tableRows⟩ f where
  vars := rfl
  formula := rfl
  length_rows := by rw [tableRows, List.length_map, Enumeration.length_toList]
  row k hk := by
    have hDigits := Enumeration.map_valuation_row f.nodup_vars k
    refine ⟨⟨_, hDigits⟩, fun ρ hρ => ?_⟩
    -- the valuation agrees with the row on the variables of the formula
    have hSame : ∀ v ∈ f.vars, (Enumeration.row f.vars k).valuation v = ρ v :=
      List.map_inj_left.1 (hDigits.trans hρ.symm)
    rw [tableRows, List.getElem?_map, Enumeration.getElem?_toList hk, Option.map_some, hDigits,
      holds_congr hSame]

end Formula

-- ---------------------------------------------------------------------------
-- Questions
-- ---------------------------------------------------------------------------

/-- The answer to a question, and it is yes just if it is so. -/
def Decides (r : Except TruthError Bool) (P : Prop) : Prop :=
  ∃ b, r = .ok b ∧ (b = true ↔ P)

namespace Formula

variable {f : Formula}

/-- The values of a negation are the other ones. -/
theorem truthValues_not (f : Formula) :
    (not f).truthValues = (·.map (!·)) <$> f.truthValues := by
  rw [truthValues_eq, truthValues_eq, vars]
  split
  · exact congrArg Except.ok List.map_map.symm
  · rfl

/-- **A formula is true under no assignment just if its negation is true under every one**, and both
questions fail alike. -/
theorem isContradiction_eq (f : Formula) : f.isContradiction = (not f).isTautology := by
  rw [isContradiction, isSatisfiable, isTautology, truthValues_not]
  cases f.truthValues with
  | error e => rfl
  | ok values =>
    have hValues : (!values.any id) = (values.map (!·)).all id := by
      rw [List.not_any_eq_all_not, List.all_map]
      rfl
    exact congrArg Except.ok hValues

section Few

variable (hFew : f.vars.length ≤ maxEnumerated)
include hFew

theorem isTautology_decides : Decides f.isTautology (∀ ρ, f.holds ρ = true) := by
  refine ⟨_, f.isTautology_eq.trans (if_pos hFew), ?_⟩
  rw [List.all_eq_true]
  refine Enumeration.forall_valuation_iff (P := fun ρ => f.holds ρ = true) f.nodup_vars
    fun ρ σ hSame hHolds => ?_
  rwa [← holds_congr hSame]

theorem isContradiction_decides : Decides f.isContradiction (∀ ρ, f.holds ρ = false) := by
  obtain ⟨b, hAnswer, hMeaning⟩ := isTautology_decides (f := not f) hFew
  refine ⟨b, by rw [isContradiction_eq, hAnswer], hMeaning.trans (forall_congr' fun ρ => ?_)⟩
  rw [holds, Bool.not_eq_true']

theorem isSatisfiable_decides : Decides f.isSatisfiable (∃ ρ, f.holds ρ = true) := by
  obtain ⟨b, hAnswer, hMeaning⟩ := isContradiction_decides hFew
  rw [isContradiction, map_eq_ok_iff] at hAnswer
  obtain ⟨c, hAnswer, rfl⟩ := hAnswer
  refine ⟨c, hAnswer, ?_⟩
  rw [← not_iff_not, Bool.not_eq_true, not_exists, ← Bool.not_eq_true', hMeaning]
  exact forall_congr' fun ρ => (Bool.not_eq_true _).symm.to_iff

end Few

/--
**Truth tables and the questions about them are right.** If a formula has at most 127 variables, its
truth table is drawn up, with the truth values of the formula as the last column, and the questions
whether it is true under every, some, or no valuation are answered. Otherwise all of them fail with the
number of variables. In either case a formula is a contradiction just as its negation is
a tautology.
-/
theorem truthTable_and_questions (f : Formula) :
    (f.vars.length ≤ 127 →
      (∃ t, f.truthTable = .ok t ∧ t.Tabulates f ∧ f.truthValues = .ok (t.rows.map (·.2))) ∧
      Decides f.isTautology (∀ ρ, f.holds ρ = true) ∧
      Decides f.isSatisfiable (∃ ρ, f.holds ρ = true) ∧
      Decides f.isContradiction (∀ ρ, f.holds ρ = false)) ∧
    (127 < f.vars.length →
      f.truthTable = .error (.tooManyVariables f.vars.length) ∧
      f.truthValues = .error (.tooManyVariables f.vars.length) ∧
      f.isTautology = .error (.tooManyVariables f.vars.length) ∧
      f.isSatisfiable = .error (.tooManyVariables f.vars.length) ∧
      f.isContradiction = .error (.tooManyVariables f.vars.length)) ∧
    f.isContradiction = (not f).isTautology := by
  refine ⟨fun hFew => ⟨⟨_, ?_, f.tabulates_tableRows, truthValues_eq_map_tableRows hFew⟩,
    isTautology_decides hFew, isSatisfiable_decides hFew, isContradiction_decides hFew⟩,
    fun hMany => ?_, isContradiction_eq f⟩
  · exact f.truthTable_eq.trans (if_pos hFew)
  · have hTooMany : ¬ f.vars.length ≤ maxEnumerated := Nat.not_le.2 hMany
    have hValues : f.truthValues = .error (.tooManyVariables f.vars.length) :=
      f.truthValues_eq.trans (if_neg hTooMany)
    have hSatisfiable : f.isSatisfiable = .error (.tooManyVariables f.vars.length) := by
      rw [isSatisfiable, hValues]
      rfl
    refine ⟨f.truthTable_eq.trans (if_neg hTooMany), hValues,
      f.isTautology_eq.trans (if_neg hTooMany), hSatisfiable, ?_⟩
    rw [isContradiction, hSatisfiable]
    rfl

/-- The conjunction of some variables. -/
def conjunction : List String → Formula
  | [] => top
  | v :: vs => binary .and (.var v) (conjunction vs)

theorem vars_conjunction {vs : List String} (hNodup : vs.Nodup) : (conjunction vs).vars = vs := by
  have hNames (vs : List String) : (conjunction vs).names = vs := by
    induction vs with
    | nil => rfl
    | cons v vs ih => rw [conjunction, names, ih, names, List.singleton_append]
  rw [vars_eq_eraseDups_names, hNames, eraseDups_eq_self hNodup]

/-- The table of `q ∧ ¬p`, and a formula with 128 variables. -/
theorem truthTable_and_questions_conjunction :
    let f := binary .and (.var "q") (.not (.var "p"))
    let wide := conjunction ((List.range 128).map fun i => String.ofList (List.replicate i 'v'))
    f.vars.length ≤ 127 ∧ 2 < Nat.pow 2 f.vars.length ∧
      (∃ t, f.truthTable = .ok t ∧ t.rows[2]? = some ([true, false], true)) ∧
      f.isSatisfiable = .ok true ∧ 127 < wide.vars.length ∧
      wide.truthTable = .error (.tooManyVariables 128) := by
  intro f wide
  have hFew : f.vars.length ≤ 127 := by decide
  have hRow : 2 < Nat.pow 2 f.vars.length := by decide
  obtain ⟨⟨t, hTable, hTabulates, -⟩, -, ⟨b, hAnswer, hMeaning⟩, -⟩ :=
    (truthTable_and_questions f).1 hFew
  have hTrue : f.holds (· == "q") = true := by decide
  have hCount : wide.vars.length = 128 := by
    have hInjective : Function.Injective fun i => String.ofList (List.replicate i 'v') := by
      intro i j hij
      simpa using congrArg String.length hij
    rw [vars_conjunction (List.nodup_range.map hInjective), List.length_map, List.length_range]
  have hMany : 127 < wide.vars.length := by omega
  refine ⟨hFew, hRow, ⟨t, hTable, (hTabulates.row 2 hRow).2 (· == "q") (by decide)⟩, ?_, hMany, ?_⟩
  · rw [hAnswer, hMeaning.2 ⟨_, hTrue⟩]
  · rw [((truthTable_and_questions wide).2.1 hMany).1, hCount]

end Formula

end Connectives
