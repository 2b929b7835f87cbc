import Connectives.Conversion.Convert
import Connectives.Proofs.Formula.Occurrence

/-!
# Connectives — conversion is a retraction

Converting to a basis changes nothing in a formula that the basis already admits, so conversion
retracts all formulas onto those of the basis. Three descriptions of these formulas come together:
conversion leaves them alone, they have no connective outside the basis, and they are what the
members of the basis' fragment look like.

An interpretation is `Native` if it expresses each connective of the fragment by that very
connective. It has to do so for whatever witness it is given, because a formula and the formula it
is a part of need not have the same one.

* `Fragment.exists_toFormula_eq_iff` — the formulas of a fragment, by their connectives.
* `Interpretation.Native.apply_toFormula` — a native interpretation gives a member of the fragment back.
* `Basis.interpretation_native` — the five bases are native.
* `convert_retraction` — the three descriptions, and what follows for repeated conversions.
-/

namespace Connectives

-- ---------------------------------------------------------------------------
-- The formulas of a fragment
-- ---------------------------------------------------------------------------

namespace Fragment

variable {cs : List Connective}

/-- A member of a fragment has no connective outside of it. -/
theorem connectives_toFormula_subset (x : Fragment cs) : x.toFormula.connectives ⊆ cs := by
  intro c hc
  induction x with
  | top mem =>
    rw [toFormula, Formula.mem_connectives_top] at hc
    exact hc ▸ mem
  | bottom mem =>
    rw [toFormula, Formula.mem_connectives_bottom] at hc
    exact hc ▸ mem
  | var v => exact absurd hc Formula.not_mem_connectives_var
  | not mem x ih =>
    rw [toFormula, Formula.mem_connectives_not] at hc
    rcases hc with rfl | hc
    · exact mem
    · exact ih hc
  | binary op mem x y ihx ihy =>
    rw [toFormula, Formula.mem_connectives_binary] at hc
    rcases hc with rfl | hc | hc
    · exact mem
    · exact ihx hc
    · exact ihy hc

/-- A formula without connectives outside of a list is a member of the list's fragment. -/
theorem exists_toFormula_eq {f : Formula} (h : f.connectives ⊆ cs) :
    ∃ x : Fragment cs, x.toFormula = f := by
  induction f with
  | top => exact ⟨top (h (Formula.mem_connectives_top.2 rfl)), rfl⟩
  | bottom => exact ⟨bottom (h (Formula.mem_connectives_bottom.2 rfl)), rfl⟩
  | var v => exact ⟨var v, rfl⟩
  | not f ih =>
    obtain ⟨x, rfl⟩ := ih fun c hc => h (Formula.mem_connectives_not.2 (Or.inr hc))
    exact ⟨not (h (Formula.mem_connectives_not.2 (Or.inl rfl))) x, rfl⟩
  | binary op f g ihf ihg =>
    obtain ⟨x, rfl⟩ := ihf fun c hc => h (Formula.mem_connectives_binary.2 (Or.inr (Or.inl hc)))
    obtain ⟨y, rfl⟩ := ihg fun c hc => h (Formula.mem_connectives_binary.2 (Or.inr (Or.inr hc)))
    exact ⟨binary op (h (Formula.mem_connectives_binary.2 (Or.inl rfl))) x y, rfl⟩

theorem exists_toFormula_eq_iff {f : Formula} :
    (∃ x : Fragment cs, x.toFormula = f) ↔ f.connectives ⊆ cs :=
  ⟨fun ⟨x, hx⟩ => hx ▸ x.connectives_toFormula_subset, exists_toFormula_eq⟩

end Fragment

-- ---------------------------------------------------------------------------
-- Native interpretations
-- ---------------------------------------------------------------------------

/-- The interpretation expresses the connectives of the fragment by themselves. -/
structure Interpretation.Native {cs : List Connective} (i : Interpretation cs) : Prop where
  top : ∀ (mem : Connective.top ∈ cs) (w : String), i.top w = .top mem
  bottom : ∀ (mem : Connective.bottom ∈ cs) (w : String), i.bottom w = .bottom mem
  not : ∀ (mem : Connective.not ∈ cs) (x : Fragment cs), i.not x = .not mem x
  binary : ∀ (op : BinaryOp) (mem : Connective.binary op ∈ cs) (x y : Fragment cs),
    i.binary op x y = .binary op mem x y

/-- A native interpretation gives a member of the fragment back, whatever the witness. -/
theorem Interpretation.Native.apply_toFormula {cs : List Connective} {i : Interpretation cs}
    (h : i.Native) (w : String) (x : Fragment cs) : i.apply w x.toFormula = x := by
  induction x with
  | top mem => exact h.top mem w
  | bottom mem => exact h.bottom mem w
  | var v => rfl
  | not mem x ih => rw [Fragment.toFormula, apply, ih, h.not mem]
  | binary op mem x y ihx ihy => rw [Fragment.toFormula, apply, ihx, ihy, h.binary op mem]

namespace Basis

/-- No basis re-encodes a connective of its own: a row for a connective is either native, or
the connective is not in the list. -/
theorem interpretation_native (b : Basis) : b.interpretation.Native := by
  cases b with
  | notAndOr =>
    refine ⟨fun mem _ => absurd mem (by decide), fun mem _ => absurd mem (by decide),
      fun _ _ => rfl, fun op mem x y => ?_⟩
    cases op with
    | and => rfl
    | or => rfl
    | _ => exact absurd mem (by decide)
  | notAnd =>
    refine ⟨fun mem _ => absurd mem (by decide), fun mem _ => absurd mem (by decide),
      fun _ _ => rfl, fun op mem x y => ?_⟩
    cases op with
    | and => rfl
    | _ => exact absurd mem (by decide)
  | nand =>
    refine ⟨fun mem _ => absurd mem (by decide), fun mem _ => absurd mem (by decide),
      fun mem _ => absurd mem (by decide), fun op mem x y => ?_⟩
    cases op with
    | nand => rfl
    | _ => exact absurd mem (by decide)
  | impliesNot =>
    refine ⟨fun mem _ => absurd mem (by decide), fun mem _ => absurd mem (by decide),
      fun _ _ => rfl, fun op mem x y => ?_⟩
    cases op with
    | implies => rfl
    | _ => exact absurd mem (by decide)
  | impliesFalse =>
    refine ⟨fun mem _ => absurd mem (by decide), fun _ _ => rfl,
      fun mem _ => absurd mem (by decide), fun op mem x y => ?_⟩
    cases op with
    | implies => rfl
    | _ => exact absurd mem (by decide)

-- ---------------------------------------------------------------------------
-- Conversion
-- ---------------------------------------------------------------------------

theorem restrict_toFormula (b : Basis) (x : b.Restricted) : b.restrict x.toFormula = x :=
  b.interpretation_native.apply_toFormula _ x

theorem convert_toFormula (b : Basis) (x : b.Restricted) : b.convert x.toFormula = x.toFormula := by
  rw [convert, restrict_toFormula]

theorem admits_iff_subset {b : Basis} {f : Formula} :
    b.admits f = true ↔ f.connectives ⊆ b.connectives := by
  rw [admits, List.all_eq_true]
  simp only [decide_eq_true_eq]
  exact Iff.rfl

theorem admits_iff_exists {b : Basis} {f : Formula} :
    b.admits f = true ↔ ∃ x : b.Restricted, x.toFormula = f :=
  admits_iff_subset.trans Fragment.exists_toFormula_eq_iff.symm

theorem admits_convert (b : Basis) (f : Formula) : b.admits (b.convert f) = true :=
  admits_iff_exists.2 ⟨b.restrict f, rfl⟩

theorem convert_eq_self_iff {b : Basis} {f : Formula} : b.convert f = f ↔ b.admits f = true := by
  constructor
  · intro h
    exact h ▸ b.admits_convert f
  · intro h
    obtain ⟨x, rfl⟩ := admits_iff_exists.1 h
    exact b.convert_toFormula x

/-- A basis with more connectives admits more formulas. -/
theorem admits_of_subset {b c : Basis} {f : Formula} (hbc : b.connectives ⊆ c.connectives)
    (h : b.admits f = true) : c.admits f = true :=
  admits_iff_subset.2 fun _ hc => hbc (admits_iff_subset.1 h hc)

/--
**Conversion to a basis is a retraction onto the formulas that the basis admits.** These are
the formulas that it leaves alone, and the formulas of its restricted type, whose members come back
exactly. So a second conversion changes nothing, and neither does one to a larger basis.
-/
theorem convert_retraction (b : Basis) :
    (∀ f, (b.convert f = f ↔ b.admits f = true) ∧
      (b.admits f = true ↔ ∃ x : b.Restricted, f = x.toFormula)) ∧
    (∀ x : b.Restricted, b.restrict x.toFormula = x) ∧
    (∀ f, b.admits (b.convert f) = true ∧ b.convert (b.convert f) = b.convert f) ∧
    (∀ (c : Basis) (f : Formula), b.connectives ⊆ c.connectives →
      c.convert (b.convert f) = b.convert f) := by
  refine ⟨fun f => ⟨convert_eq_self_iff, ?_⟩, b.restrict_toFormula, fun f => ?_, ?_⟩
  · rw [admits_iff_exists]
    simp only [eq_comm]
  · have hAdmits := b.admits_convert f
    exact ⟨hAdmits, convert_eq_self_iff.2 hAdmits⟩
  · intro c f hbc
    exact convert_eq_self_iff.2 (admits_of_subset hbc (b.admits_convert f))

/-- {¬, ∧} lies in {¬, ∧, ∨}, so a formula over the first stays as it is in the second. -/
theorem convert_retraction_notAnd_notAndOr :
    notAnd.connectives ⊆ notAndOr.connectives ∧
      notAndOr.convert (notAnd.convert (.binary .iff (.var "p") .top)) =
        notAnd.convert (.binary .iff (.var "p") .top) :=
  ⟨by decide, (convert_retraction notAnd).2.2.2 notAndOr _ (by decide)⟩

end Basis

end Connectives
