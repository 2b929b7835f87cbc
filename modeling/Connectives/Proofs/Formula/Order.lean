import Connectives.Formula.Order
import Connectives.Proofs.Text.CodePointOrder

/-!
# Connectives — the order on formulas is total

Comparing two formulas, roots first and operands from left to right, is comparing their Polish
notations symbol by symbol. No Polish notation is the beginning of another one, so the symbols
behind them play no part before the formulas are told apart. What holds of the lexicographic order on
lists therefore holds of formulas.

In an ascending list equal formulas are neighbours. So sorting and dropping repetitions of neighbours
leaves each formula once.

* `Formula.inductionOnRoots` — two formulas, taken apart as far as their roots are the same.
* `Formula.polish`, `Formula.compare_polish_append` — formulas, compared as their Polish notations.
* the instances of `Std.TransCmp` and `Std.LawfulEqCmp` — the order is total.
* `Formula.sort_eq_iff` — the ascending rearrangement of a list, of which there is one.
* `Formula.pairwise_dropRepeats`, `Formula.mem_dropRepeats` — what is left without repetitions.
* `Formula.sort_groups_equal` — all of this for formulas and their lists.
-/

namespace Connectives

theorem BinaryOp.rank_injective {op op' : BinaryOp} (h : op.rank = op'.rank) : op = op' := by
  cases op <;> cases op' <;> first | rfl | cases h

namespace Formula

-- ---------------------------------------------------------------------------
-- Two formulas at a time
-- ---------------------------------------------------------------------------

theorem rootRank_binary_ne {op op' : BinaryOp} {f₁ f₂ g₁ g₂ : Formula} (h : op ≠ op') :
    (binary op f₁ f₂).rootRank ≠ (binary op' g₁ g₂).rootRank := by
  intro hRank
  exact h (BinaryOp.rank_injective (Nat.add_left_cancel hRank))

/-- Induction on two formulas at a time: they have different roots, or the same root and then
operands to be looked at. -/
@[elab_as_elim]
theorem inductionOnRoots {P : Formula → Formula → Prop}
    (ne : ∀ f g, f.rootRank ≠ g.rootRank → P f g) (top : P top top) (bottom : P bottom bottom)
    (var : ∀ v w, P (var v) (var w)) (not : ∀ f g, P f g → P (not f) (not g))
    (binary : ∀ op f₁ f₂ g₁ g₂, P f₁ g₁ → P f₂ g₂ → P (binary op f₁ f₂) (binary op g₁ g₂))
    (f g : Formula) : P f g := by
  induction f generalizing g with
  | top =>
    cases g with
    | top => exact top
    | _ => exact ne _ _ (by simp +arith [rootRank])
  | bottom =>
    cases g with
    | bottom => exact bottom
    | _ => exact ne _ _ (by simp +arith [rootRank])
  | var v =>
    cases g with
    | var w => exact var v w
    | _ => exact ne _ _ (by simp +arith [rootRank])
  | not f ih =>
    cases g with
    | not g => exact not f g (ih g)
    | _ => exact ne _ _ (by simp +arith [rootRank])
  | binary op f₁ f₂ ih₁ ih₂ =>
    cases g with
    | binary op' g₁ g₂ =>
      by_cases hOp : op = op'
      · subst hOp
        exact binary op f₁ f₂ g₁ g₂ (ih₁ g₁) (ih₂ g₂)
      · exact ne _ _ (rootRank_binary_ne hOp)
    | _ => exact ne _ _ (by simp +arith [rootRank])

-- ---------------------------------------------------------------------------
-- Polish notation
-- ---------------------------------------------------------------------------

/-- The formula in Polish notation, symbol by symbol: the place of each root, and the name where the
root is a variable. -/
def polish : Formula → List (Nat × String)
  | top => [(rootRank top, "")]
  | bottom => [(rootRank bottom, "")]
  | var v => [(rootRank (var v), v)]
  | not f => (rootRank (not f), "") :: f.polish
  | binary op f g => (rootRank (binary op f g), "") :: (f.polish ++ g.polish)

/-- Symbols are compared by their places, and variables by their names. -/
def compareSymbols : Nat × String → Nat × String → Ordering :=
  compareLex (compareOn (·.1)) (compareOn (·.2))

instance : Std.TransCmp compareSymbols :=
  inferInstanceAs (Std.TransCmp (compareLex (compareOn (α := Nat × String) (·.1)) (compareOn (·.2))))

/-- Different places decide, whatever comes behind them. -/
theorem compare_then_of_ne {m n : Nat} (h : m ≠ n) (o : Ordering) :
    (Ord.compare m n).then o = Ord.compare m n := by
  rcases Nat.lt_or_gt_of_ne h with hLt | hGt
  · rw [Nat.compare_eq_lt.2 hLt, Ordering.lt_then]
  · rw [Nat.compare_eq_gt.2 hGt, Ordering.gt_then]

theorem compareSymbols_of_ne {m n : Nat} {v w : String} (h : m ≠ n) :
    compareSymbols (m, v) (n, w) = Ord.compare m n :=
  compare_then_of_ne h (Ord.compare v w)

theorem exists_polish_eq_cons (f : Formula) :
    ∃ name rest, f.polish = (f.rootRank, name) :: rest := by
  cases f <;> exact ⟨_, _, rfl⟩

/-- Different roots decide. -/
theorem compare_of_rootRank_ne {f g : Formula} (h : f.rootRank ≠ g.rootRank) :
    f.compare g = Ord.compare f.rootRank g.rootRank := by
  cases f <;> cases g
  case var.var => exact absurd rfl h
  case not.not => exact absurd rfl h
  case binary.binary op f₁ f₂ op' g₁ g₂ =>
    have hOp : op.rank ≠ op'.rank := fun hRank => h (congrArg (4 + ·) hRank)
    rw [compare, compare_then_of_ne hOp, rootRank, rootRank]
    simp only [Nat.compare_eq_ite_lt, Nat.add_lt_add_iff_left]
  all_goals rfl

/-- Where the connective is the same, the operands decide. -/
theorem compare_binary_self (op : BinaryOp) (f₁ f₂ g₁ g₂ : Formula) :
    (binary op f₁ f₂).compare (binary op g₁ g₂) = (f₁.compare g₁).then (f₂.compare g₂) := by
  have hSelf : Ord.compare op.rank op.rank = .eq := Nat.compare_eq_eq.2 rfl
  rw [compare, hSelf, Ordering.eq_then]

/-- A symbol that two notations have in common decides nothing. -/
theorem compareLex_cons_self (s : Nat × String) (l m : List (Nat × String)) :
    List.compareLex compareSymbols (s :: l) (s :: m) = List.compareLex compareSymbols l m := by
  have hSelf : compareSymbols s s = .eq := Std.ReflCmp.compare_self
  rw [List.compareLex_cons_cons, hSelf, Ordering.eq_then]

/-- **Formulas are compared as their Polish notations are**, and what comes behind these counts
only if the formulas are equal. -/
theorem compare_polish_append (f g : Formula) (l m : List (Nat × String)) :
    List.compareLex compareSymbols (f.polish ++ l) (g.polish ++ m) =
      (f.compare g).then (List.compareLex compareSymbols l m) := by
  induction f, g using inductionOnRoots generalizing l m with
  | ne f g h =>
    obtain ⟨v, rest, hf⟩ := f.exists_polish_eq_cons
    obtain ⟨w, rest', hg⟩ := g.exists_polish_eq_cons
    -- the roots differ, so nothing behind them counts
    rw [hf, hg, List.cons_append, List.cons_append, List.compareLex_cons_cons,
      compareSymbols_of_ne h, compare_of_rootRank_ne h, compare_then_of_ne h, compare_then_of_ne h]
  | top | bottom => exact compareLex_cons_self _ l m
  | var v w => exact List.compareLex_cons_cons
  | not f g ih => exact (compareLex_cons_self _ _ _).trans (ih l m)
  | binary op f₁ f₂ g₁ g₂ ih₁ ih₂ =>
    rw [polish, polish, List.cons_append, List.cons_append, rootRank, rootRank,
      compareLex_cons_self, List.append_assoc, List.append_assoc, ih₁, ih₂, compare_binary_self,
      Ordering.then_assoc]

theorem compareLex_polish (f g : Formula) :
    List.compareLex compareSymbols f.polish g.polish = f.compare g := by
  have hAppend := compare_polish_append f g [] []
  rwa [List.append_nil, List.append_nil, List.compareLex_nil_nil, Ordering.then_eq] at hAppend

-- ---------------------------------------------------------------------------
-- A total order
-- ---------------------------------------------------------------------------

instance : Std.TransCmp compare where
  eq_swap {f g} := by
    rw [← compareLex_polish, ← compareLex_polish]
    exact Std.OrientedCmp.eq_swap
  isLE_trans {f g h} hfg hgh := by
    rw [← compareLex_polish] at hfg hgh ⊢
    exact Std.TransCmp.isLE_trans hfg hgh

instance : Std.LawfulEqCmp compare where
  eq_of_compare {f g} h := by
    induction f, g using inductionOnRoots with
    | ne f g hRank =>
      rw [compare_of_rootRank_ne hRank, Nat.compare_eq_eq] at h
      exact absurd h hRank
    | top | bottom => rfl
    | var v w => rw [Std.LawfulEqOrd.eq_of_compare (α := String) h]
    | not f g ih => rw [ih h]
    | binary op f₁ f₂ g₁ g₂ ih₁ ih₂ =>
      rw [compare_binary_self, Ordering.then_eq_eq] at h
      rw [ih₁ h.1, ih₂ h.2]

theorem compare_eq_iff {f g : Formula} : f.compare g = .eq ↔ f = g :=
  Std.LawfulEqCmp.compare_eq_iff_eq

/-- Whichever way two comparisons come out, so does the one that skips the formula in between. -/
theorem compare_trans {f g h : Formula} {o : Ordering} (hfg : f.compare g = o)
    (hgh : g.compare h = o) : f.compare h = o := by
  cases o with
  | lt => exact Std.TransCmp.lt_trans hfg hgh
  | eq => exact Std.TransCmp.eq_trans hfg hgh
  | gt => exact Std.TransCmp.gt_trans hfg hgh

theorem compare_eq_lt_of_isLE {f g : Formula} (h : (f.compare g).isLE = true) (hNe : f ≠ g) :
    f.compare g = .lt := by
  rcases Ordering.isLE_iff_eq_lt_or_eq_eq.1 h with hLt | hEq
  · exact hLt
  · exact absurd (compare_eq_iff.1 hEq) hNe

-- ---------------------------------------------------------------------------
-- Sorting
-- ---------------------------------------------------------------------------

/-- No formula of the list comes after one that stands behind it. -/
def Ascending (fs : List Formula) : Prop :=
  fs.Pairwise fun f g => (f.compare g).isLE = true

theorem sort_perm (fs : List Formula) : (sort fs).Perm fs :=
  List.mergeSort_perm fs _

theorem ascending_sort (fs : List Formula) : Ascending (sort fs) := by
  refine List.pairwise_mergeSort (fun f g h => Std.TransCmp.isLE_trans) (fun f g => ?_) fs
  have hSwap : g.compare f = (f.compare g).swap := Std.OrientedCmp.eq_swap
  rw [hSwap]
  cases f.compare g <;> rfl

/-- **A list has one ascending rearrangement.** -/
theorem sort_eq_iff {fs gs : List Formula} : sort fs = gs ↔ gs.Perm fs ∧ Ascending gs := by
  constructor
  · rintro rfl
    exact ⟨sort_perm fs, ascending_sort fs⟩
  · rintro ⟨hPerm, hAscending⟩
    refine ((sort_perm fs).trans hPerm.symm).eq_of_pairwise (fun f g _ _ hfg hgf => ?_)
      (ascending_sort fs) hAscending
    exact compare_eq_iff.1 (Std.OrientedCmp.isLE_antisymm hfg hgf)

theorem sort_eq_sort_iff {fs gs : List Formula} : sort fs = sort gs ↔ gs.Perm fs := by
  rw [sort_eq_iff]
  exact ⟨fun h => (sort_perm gs).symm.trans h.1,
    fun h => ⟨(sort_perm gs).trans h, ascending_sort gs⟩⟩

-- ---------------------------------------------------------------------------
-- Dropping repetitions
-- ---------------------------------------------------------------------------

theorem mem_dropRepeats {f : Formula} {fs : List Formula} : f ∈ dropRepeats fs ↔ f ∈ fs := by
  fun_induction dropRepeats fs with
  | case1 | case2 => exact Iff.rfl
  | case3 g rest ih =>
    rw [ih]
    simp
  | case4 g g' rest hNe ih =>
    simp only [List.mem_cons] at ih ⊢
    rw [ih]

/-- In an ascending list equal formulas are neighbours, so what is left ascends strictly. -/
theorem pairwise_dropRepeats {fs : List Formula} (h : Ascending fs) :
    (dropRepeats fs).Pairwise fun f g => f.compare g = .lt := by
  fun_induction dropRepeats fs with
  | case1 => exact List.Pairwise.nil
  | case2 f => exact List.pairwise_singleton _ f
  | case3 g rest ih => exact ih (List.Pairwise.of_cons h)
  | case4 f g rest hNe ih =>
    obtain ⟨hHead, hTail⟩ := List.pairwise_cons.1 h
    refine List.pairwise_cons.2 ⟨fun x hx => ?_, ih hTail⟩
    have hfg := compare_eq_lt_of_isLE (hHead g List.mem_cons_self) hNe
    rcases List.mem_cons.1 (mem_dropRepeats.1 hx) with rfl | hRest
    · exact hfg
    · exact Std.TransCmp.lt_of_lt_of_isLE hfg ((List.pairwise_cons.1 hTail).1 x hRest)

/--
**The order on formulas is total, and sorting groups equal formulas.** Two formulas compared the other
way round come out the other way round, comparisons that come out the same way can be chained, and
only the same tree is equal; variables go by the bytes of their names. So a list of formulas has one
ascending rearrangement, whatever order its members came in, and without the repetitions of
neighbours each of its members is left once, in strictly ascending order.
-/
theorem sort_groups_equal :
    (∀ f g : Formula, f.compare g = (g.compare f).swap) ∧
    (∀ (f g h : Formula) (o : Ordering), f.compare g = o → g.compare h = o → f.compare h = o) ∧
    (∀ f g h : Formula, (f.compare g).isLE = true → (g.compare h).isLE = true →
      (f.compare h).isLE = true) ∧
    (∀ f g : Formula, f.compare g = .eq ↔ f = g) ∧
    (∀ v w : String,
      (var v).compare (var w) = Ord.compare (Text.encodeUtf8 v) (Text.encodeUtf8 w)) ∧
    (∀ fs : List Formula,
      (sort fs).Perm fs ∧ Ascending (sort fs) ∧
      (∀ gs, gs.Perm fs → sort gs = sort fs ∧ (Ascending gs → gs = sort fs)) ∧
      (∀ f, f ∈ dropRepeats (sort fs) ↔ f ∈ fs) ∧ (dropRepeats (sort fs)).Nodup ∧
      (dropRepeats (sort fs)).Pairwise fun f g => f.compare g = .lt) := by
  refine ⟨fun f g => Std.OrientedCmp.eq_swap, fun f g h o => compare_trans,
    fun f g h => Std.TransCmp.isLE_trans, fun f g => compare_eq_iff,
    fun v w => (Text.compare_encodeUtf8 v w).symm, fun fs => ?_⟩
  have hStrict := pairwise_dropRepeats (ascending_sort fs)
  refine ⟨sort_perm fs, ascending_sort fs, fun gs hPerm => ⟨?_, fun hAscending => ?_⟩, fun f => ?_,
    hStrict.imp fun hLt hSame => ?_, hStrict⟩
  · exact sort_eq_sort_iff.2 hPerm.symm
  · exact (sort_eq_iff.2 ⟨hPerm, hAscending⟩).symm
  · exact mem_dropRepeats.trans (sort_perm fs).mem_iff
  · have hEq := compare_eq_iff.2 hSame
    rw [hLt] at hEq
    cases hEq

/-- A variable comes before a negation, which comes before a conjunction; from any order they are
sorted into this one. -/
theorem sort_groups_equal_three :
    (var "q").compare (not (var "p")) = .lt ∧
      (not (var "p")).compare (binary .and top bottom) = .lt ∧
      (var "q").compare (binary .and top bottom) = .lt ∧
      [binary .and top bottom, var "q", not (var "p")].Perm
        [var "q", not (var "p"), binary .and top bottom] ∧
      Ascending [var "q", not (var "p"), binary .and top bottom] ∧
      sort [binary .and top bottom, var "q", not (var "p")] =
        [var "q", not (var "p"), binary .and top bottom] := by
  obtain ⟨-, hTrans, -, -, -, hSort⟩ := sort_groups_equal
  have hFirst : (var "q").compare (not (var "p")) = .lt := rfl
  have hSecond : (not (var "p")).compare (binary .and top bottom) = .lt := rfl
  have hPerm : [var "q", not (var "p"), binary .and top bottom].Perm
      [binary .and top bottom, var "q", not (var "p")] := List.perm_append_comm_assoc [_, _] [_] []
  have hAscending : Ascending [var "q", not (var "p"), binary .and top bottom] := by
    unfold Ascending
    decide
  obtain ⟨-, -, hRearranged, -⟩ := hSort [binary .and top bottom, var "q", not (var "p")]
  exact ⟨hFirst, hSecond, hTrans _ _ _ _ hFirst hSecond, hPerm.symm, hAscending,
    ((hRearranged _ hPerm).2 hAscending).symm⟩

end Formula

end Connectives
