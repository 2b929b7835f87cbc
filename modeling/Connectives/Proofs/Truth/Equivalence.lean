import Connectives.Proofs.Formula.FirstOccurrence
import Connectives.Proofs.Results
import Connectives.Proofs.Truth.Rows
import Connectives.Truth.Table

/-!
# Connectives — equivalence is decided

Two formulas are compared row by row until they differ, over the variables of both. No row misses
a variable and every valuation is met by one, so the comparison answers whether the formulas agree
under all valuations. To ask whether `f ⇔ g` is true under every assignment goes through the same
rows, and collects all values before it looks at any.

* `Formula.agreeOn_eq_ok` — the comparison of two formulas over the rest of an enumeration.
* `Formula.truthValues_eq`, `Formula.isTautology_eq` — the truth values of a formula, and whether all are
  true, in classical terms.
* `Formula.isEquivalent_eq_ok`, `Formula.isTautology_iff_eq_ok` — both questions, as a search in one list.
* `Formula.isEquivalent_decides` — equivalence is decided, and asked in three ways alike.
-/

namespace Connectives

-- ---------------------------------------------------------------------------
-- Going through the rows
-- ---------------------------------------------------------------------------

namespace Enumeration

theorem toList_of_next?_eq_none {e : Enumeration} (h : e.next? = none) : e.toList = [] := by
  unfold next? at h
  split at h
  · cases h
  · next hStop =>
    have hNone : e.remaining = 0 := by
      unfold remaining
      omega
    rw [toList, hNone]
    rfl

theorem toList_of_next?_eq_some {e rest : Enumeration} {a : Assignment}
    (h : e.next? = some (a, rest)) : e.toList = a :: rest.toList := by
  unfold next? at h
  split at h
  · next hMore =>
    cases h
    have hLess : e.remaining = (e.stop - (e.next + 1)) + 1 := by
      unfold remaining
      omega
    rw [toList, hLess, List.range'_succ, List.map_cons]
    rfl
  · cases h

end Enumeration

namespace Formula

/-- The comparison stops at the first row in which the values differ, if there is one. -/
theorem agreeOn_eq_ok {f g : Formula} {F G : Assignment → Bool} (e : Enumeration)
    (hf : ∀ a ∈ e.toList, f.evaluate a = .ok (F a)) (hg : ∀ a ∈ e.toList, g.evaluate a = .ok (G a)) :
    f.agreeOn g e = .ok (e.toList.all fun a => F a == G a) := by
  rw [agreeOn]
  split
  · next hNone =>
    rw [Enumeration.toList_of_next?_eq_none hNone]
    rfl
  · next a rest hSome =>
    have hList := Enumeration.toList_of_next?_eq_some hSome
    rw [hList] at hf hg
    have hRest := agreeOn_eq_ok rest (fun b hb => hf b (List.mem_cons_of_mem a hb))
      fun b hb => hg b (List.mem_cons_of_mem a hb)
    rw [hf a List.mem_cons_self, hg a List.mem_cons_self, hList, List.all_cons]
    dsimp only
    split
    · next hSame => rw [hRest, hSame, beq_self_eq_true, Bool.true_and]
    · next hDiffer => rw [beq_eq_false_iff_ne.2 hDiffer, Bool.false_and]
termination_by e.remaining
decreasing_by exact Enumeration.next?_remaining ‹_›

-- ---------------------------------------------------------------------------
-- One formula
-- ---------------------------------------------------------------------------

/-- In a row that gives a value to all of its variables, a formula has its classical value. -/
theorem evaluate_of_mem_toList {f : Formula} {vars : List String} (hVars : f.vars ⊆ vars) {n : Nat}
    {a : Assignment} (ha : a ∈ Enumeration.toList ⟨vars, 0, n⟩) :
    f.evaluate a = .ok (f.holds a.valuation) := by
  obtain ⟨k, -, rfl⟩ := Enumeration.mem_toList.1 ha
  exact evaluate_eq_ok_holds fun v hv => Enumeration.get?_row_ne_none_iff.2 (hVars hv)

/-- **The truth values of a formula** are its classical values in all rows, unless there are too many
variables. -/
theorem truthValues_eq (f : Formula) :
    f.truthValues =
      if f.vars.length ≤ maxEnumerated then
        .ok ((Enumeration.toList ⟨f.vars, 0, Nat.pow 2 f.vars.length⟩).map fun a =>
          f.holds a.valuation)
      else .error (.tooManyVariables f.vars.length) := by
  rw [truthValues]
  split
  · next hFew =>
    rw [Enumeration.ofVars_eq_ok hFew]
    exact mapM_eq_ok fun a ha => evaluate_of_mem_toList (List.Subset.refl _) ha
  · next hMany =>
    rw [Enumeration.ofVars_eq_error (Nat.not_le.1 hMany)]
    rfl

/-- **A formula is a tautology** if its classical value is true in all rows. -/
theorem isTautology_eq (f : Formula) :
    f.isTautology =
      if f.vars.length ≤ maxEnumerated then
        .ok ((Enumeration.toList ⟨f.vars, 0, Nat.pow 2 f.vars.length⟩).all fun a =>
          f.holds a.valuation)
      else .error (.tooManyVariables f.vars.length) := by
  rw [isTautology, truthValues_eq]
  split
  · exact congrArg Except.ok List.all_map
  · rfl

-- ---------------------------------------------------------------------------
-- Two formulas
-- ---------------------------------------------------------------------------

section

variable (f g : Formula)

/-- The variables of two formulas, each once. -/
def jointVars : List String :=
  (f.vars ++ g.vars).eraseDups

/-- The rows in which two formulas are compared. -/
def jointRows : List Assignment :=
  Enumeration.toList ⟨f.jointVars g, 0, Nat.pow 2 (f.jointVars g).length⟩

theorem nodup_jointVars : (f.jointVars g).Nodup :=
  nodup_eraseDups _

variable {f g}

theorem mem_jointVars {v : String} : v ∈ f.jointVars g ↔ v ∈ f.vars ∨ v ∈ g.vars := by
  rw [jointVars, List.mem_eraseDups, List.mem_append]

variable (f g)

/-- The variables of two formulas are as many as there are names in them. -/
theorem length_jointVars : (f.jointVars g).length = (f.names ++ g.names).toFinset.card := by
  have hSame : (f.names ++ g.names).toFinset = (f.jointVars g).toFinset := by
    ext v
    rw [List.mem_toFinset, List.mem_toFinset, mem_jointVars, List.mem_append,
      mem_vars_iff_mem_names, mem_vars_iff_mem_names]
  rw [hSame, List.toFinset_card_of_nodup (nodup_jointVars f g)]

theorem length_jointVars_comm : (g.jointVars f).length = (f.jointVars g).length := by
  rw [length_jointVars, length_jointVars, List.toFinset_append, List.toFinset_append,
    Finset.union_comm]

/-- In every row both formulas have a value. -/
theorem evaluate_of_mem_jointRows {h : Formula} (hVars : h.vars ⊆ f.jointVars g) {a : Assignment}
    (ha : a ∈ f.jointRows g) : h.evaluate a = .ok (h.holds a.valuation) :=
  evaluate_of_mem_toList hVars ha

theorem isEquivalent_eq_error (h : maxEnumerated < (f.jointVars g).length) :
    f.isEquivalent g = .error (.tooManyVariables (f.jointVars g).length) := by
  rw [isEquivalent, ← jointVars, Enumeration.ofVars_eq_error h]
  rfl

theorem isEquivalent_eq_ok (h : (f.jointVars g).length ≤ maxEnumerated) :
    f.isEquivalent g =
      .ok ((f.jointRows g).all fun a => f.holds a.valuation == g.holds a.valuation) := by
  rw [isEquivalent, ← jointVars, Enumeration.ofVars_eq_ok h]
  refine agreeOn_eq_ok _ (fun a ha => ?_) fun a ha => ?_
  · exact evaluate_of_mem_jointRows f g (fun v hv => mem_jointVars.2 (Or.inl hv)) ha
  · exact evaluate_of_mem_jointRows f g (fun v hv => mem_jointVars.2 (Or.inr hv)) ha

theorem isTautology_iff_eq_error (h : maxEnumerated < (f.jointVars g).length) :
    (binary .iff f g).isTautology = .error (.tooManyVariables (f.jointVars g).length) := by
  rw [isTautology_eq, vars, ← jointVars, if_neg (Nat.not_le.2 h)]

theorem isTautology_iff_eq_ok (h : (f.jointVars g).length ≤ maxEnumerated) :
    (binary .iff f g).isTautology =
      .ok ((f.jointRows g).all fun a => f.holds a.valuation == g.holds a.valuation) := by
  rw [isTautology_eq, vars, ← jointVars, if_pos h]
  rfl

theorem all_jointRows_iff :
    ((f.jointRows g).all fun a => f.holds a.valuation == g.holds a.valuation) = true ↔
      ∀ ρ, f.holds ρ = g.holds ρ := by
  rw [List.all_eq_true]
  simp only [beq_iff_eq]
  refine Enumeration.forall_valuation_iff (P := fun ρ => f.holds ρ = g.holds ρ)
    (nodup_jointVars f g) fun ρ σ hSame hAgree => ?_
  have hf : f.holds ρ = f.holds σ := holds_congr fun v hv => hSame v (mem_jointVars.2 (Or.inl hv))
  have hg : g.holds ρ = g.holds σ := holds_congr fun v hv => hSame v (mem_jointVars.2 (Or.inr hv))
  rw [← hf, ← hg, hAgree]

end

-- ---------------------------------------------------------------------------
-- Equivalence
-- ---------------------------------------------------------------------------

/--
**Equivalence is decided.** If there are not too many variables in two formulas, counted together,
the answer is whether they have the same truth value under every valuation; otherwise it is the
number of variables. The order of the formulas does not matter, and whether `f ⇔ g` is a tautology
is the same question.
-/
theorem isEquivalent_decides (f g : Formula) :
    (127 < (f.names ++ g.names).toFinset.card →
      f.isEquivalent g = .error (.tooManyVariables (f.names ++ g.names).toFinset.card)) ∧
    ((f.names ++ g.names).toFinset.card ≤ 127 →
      ∃ b, f.isEquivalent g = .ok b ∧ (b = true ↔ ∀ ρ, f.holds ρ = g.holds ρ)) ∧
    g.isEquivalent f = f.isEquivalent g ∧
    (binary .iff f g).isTautology = f.isEquivalent g := by
  have hLength := f.length_jointVars g
  have hLengthComm := f.length_jointVars_comm g
  refine ⟨fun hMany => ?_, fun hFew => ?_, ?_, ?_⟩
  · rw [← hLength] at hMany ⊢
    exact f.isEquivalent_eq_error g hMany
  · rw [← hLength] at hFew
    exact ⟨_, f.isEquivalent_eq_ok g hFew, f.all_jointRows_iff g⟩
  · rcases Nat.lt_or_ge maxEnumerated (f.jointVars g).length with hMany | hFew
    · rw [isEquivalent_eq_error g f (hLengthComm ▸ hMany), isEquivalent_eq_error f g hMany,
        hLengthComm]
    · rw [isEquivalent_eq_ok g f (hLengthComm ▸ hFew), isEquivalent_eq_ok f g hFew]
      -- both answers say that the formulas agree
      have hAnswers := (g.all_jointRows_iff f).trans
        ((forall_congr' fun ρ => eq_comm).trans (f.all_jointRows_iff g).symm)
      rw [Bool.eq_iff_iff.2 hAnswers]
  · rcases Nat.lt_or_ge maxEnumerated (f.jointVars g).length with hMany | hFew
    · rw [isTautology_iff_eq_error f g hMany, isEquivalent_eq_error f g hMany]
    · rw [isTautology_iff_eq_ok f g hFew, isEquivalent_eq_ok f g hFew]

/-- Two formulas that are equivalent though only one of them mentions `r`, and one that has a variable
too many. -/
theorem isEquivalent_decides_implies :
    let f := binary .implies (.var "p") (.var "q")
    let g := binary .or (.not (.var "p"))
      (.binary .and (.var "q") (.binary .or (.var "r") (.not (.var "r"))))
    let name (i : Nat) := String.ofList (List.replicate i 'v')
    let wide := (List.range 128).foldl (fun h i => binary .and h (.var (name i))) top
    (f.names ++ g.names).toFinset.card ≤ 127 ∧ f.isEquivalent g = .ok true ∧
      127 < (wide.names ++ top.names).toFinset.card ∧
      wide.isEquivalent top = .error (.tooManyVariables 128) := by
  intro f g name wide
  have hFew : (f.names ++ g.names).toFinset.card ≤ 127 := by decide +kernel
  obtain ⟨b, hAnswer, hMeaning⟩ := (isEquivalent_decides f g).2.1 hFew
  have hAgree : ∀ ρ, f.holds ρ = g.holds ρ := by
    intro ρ
    simp [f, g, holds, BinaryOp.apply]
  have hFold : ∀ (l : List Nat) (h : Formula),
      (l.foldl (fun h i => binary .and h (.var (name i))) h).names = h.names ++ l.map name := by
    intro l
    induction l with
    | nil => simp
    | cons i l ih => simp [ih, names]
  have hNames : wide.names ++ top.names = (List.range 128).map name := by
    rw [hFold, names, List.nil_append, List.append_nil]
  have hInjective : Function.Injective name := by
    intro i j hij
    simpa [name] using congrArg String.length hij
  have hCount : (wide.names ++ top.names).toFinset.card = 128 := by
    rw [hNames, List.toFinset_card_of_nodup (List.nodup_range.map hInjective), List.length_map,
      List.length_range]
  have hMany : 127 < (wide.names ++ top.names).toFinset.card := by omega
  refine ⟨hFew, by rw [hAnswer, hMeaning.2 hAgree], hMany, ?_⟩
  rw [(isEquivalent_decides wide top).1 hMany, hCount]

end Formula

end Connectives
