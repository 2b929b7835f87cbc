import Connectives.Conversion.Convert
import Connectives.Proofs.Formula.Substitution

/-!
# Connectives — conversion is uniform

The rows of a basis never look into their operands. So it does not matter whether something is put in
place of the variables before or after a conversion, as long as the constants are no obstacle: they
are expressed over the witness, which is chosen by looking at the whole formula. A renaming takes the
witness along, and formulas without constants have no use for one.

Nothing in the argument is about substitution as such. A map between fragments is a homomorphism of
interpretations if it respects the rows for negation and the binary connectives, and what it makes of
a converted formula is then known from what it makes of the variables and the constants.

* `Interpretation.Hom` — homomorphisms of interpretations.
* `Interpretation.Hom.apply_substitute` — what a homomorphism makes of a converted formula.
* `Basis.substitute_hom` — substitution in the fragment of a basis is a homomorphism.
* `Basis.convert_commutes` — conversion commutes with renaming and substitution.
-/

namespace Connectives

-- ---------------------------------------------------------------------------
-- Homomorphisms
-- ---------------------------------------------------------------------------

/-- The map takes the rows of one interpretation to those of another. -/
structure Interpretation.Hom {cs ds : List Connective} (i : Interpretation cs)
    (j : Interpretation ds) (φ : Fragment cs → Fragment ds) : Prop where
  not : ∀ x, φ (i.not x) = j.not (φ x)
  binary : ∀ op x y, φ (i.binary op x y) = j.binary op (φ x) (φ y)

namespace Interpretation

variable {cs ds : List Connective} {i : Interpretation cs} {j : Interpretation ds}
  {φ : Fragment cs → Fragment ds}

/-- **A homomorphism takes a converted formula to the conversion of another one**, in which formulas
have been put in place of the variables. What it does to the constants matters only if there are
any. -/
theorem Hom.apply_substitute (h : i.Hom j φ) (w w' : String) (σ : String → Formula) (f : Formula)
    (hVars : ∀ v ∈ f.names, φ (.var v) = j.apply w' (σ v))
    (hConstants : f.HasConstant → φ (i.top w) = j.top w' ∧ φ (i.bottom w) = j.bottom w') :
    φ (i.apply w f) = j.apply w' (f.substitute σ) := by
  induction f with
  | top => exact (hConstants Formula.hasConstant_top).1
  | bottom => exact (hConstants Formula.hasConstant_bottom).2
  | var v => exact hVars v (List.mem_singleton_self v)
  | not f ih =>
    have hOperand := ih hVars fun hf => hConstants hf.not
    rw [apply, h.not, hOperand, Formula.substitute, apply]
  | binary op f g ihf ihg =>
    have hLeft := ihf (fun v hv => hVars v (List.mem_append_left _ hv))
      fun hf => hConstants hf.left
    have hRight := ihg (fun v hv => hVars v (List.mem_append_right _ hv))
      fun hg => hConstants hg.right
    rw [apply, h.binary, hLeft, hRight, Formula.substitute, apply]

/-- Formulas without constants have no use for a witness. -/
theorem apply_eq_of_not_hasConstant {f : Formula} (h : ¬ f.HasConstant) (w w' : String) :
    i.apply w f = i.apply w' f := by
  have hId : i.Hom i id := ⟨fun _ => rfl, fun _ _ _ => rfl⟩
  have hApply := hId.apply_substitute w w' .var f (fun _ _ => rfl) fun hf => absurd hf h
  rwa [Formula.substitute_var] at hApply

end Interpretation

-- ---------------------------------------------------------------------------
-- The five bases
-- ---------------------------------------------------------------------------

namespace Basis

/-- **No row of a basis looks into its operands.** -/
theorem substitute_hom (b : Basis) (τ : String → b.Restricted) :
    b.interpretation.Hom b.interpretation (Fragment.substitute τ) where
  not x := by cases b <;> rfl
  binary op x y := by cases b <;> cases op <;> rfl

/-- The constants of a basis are renamed with the witness. -/
theorem substitute_constants (b : Basis) (s : String → String) (w : String) :
    (b.interpretation.top w).substitute (fun v => .var (s v)) = b.interpretation.top (s w) ∧
      (b.interpretation.bottom w).substitute (fun v => .var (s v)) =
        b.interpretation.bottom (s w) := by
  cases b <;> exact ⟨rfl, rfl⟩

variable {b : Basis} {f : Formula}

theorem restrict_rename (s : String → String) (h : f.names ≠ [] ∨ b = impliesFalse) :
    b.restrict (f.rename s) = (b.restrict f).substitute fun v => .var (s v) := by
  have hConstants : ∀ w, (f.rename s).witness = s w ∨ b = impliesFalse →
      (b.interpretation.top w).substitute (fun v => .var (s v)) =
          b.interpretation.top (f.rename s).witness ∧
        (b.interpretation.bottom w).substitute (fun v => .var (s v)) =
          b.interpretation.bottom (f.rename s).witness := by
    rintro w (hWitness | rfl)
    · rw [hWitness]
      exact b.substitute_constants s w
    · exact ⟨rfl, rfl⟩
  have hApply := (b.substitute_hom fun v => .var (s v)).apply_substitute f.witness
    (f.rename s).witness (fun v => .var (s v)) f (fun _ _ => rfl)
    fun _ => hConstants _ (h.imp_left (Formula.witness_rename s))
  exact hApply.symm

theorem restrict_substitute {σ : String → Formula} (hFormula : ¬ f.HasConstant)
    (hPut : ∀ v ∈ f.names, ¬ (σ v).HasConstant) :
    b.restrict (f.substitute σ) = (b.restrict f).substitute fun v => b.restrict (σ v) := by
  have hApply := (b.substitute_hom fun v => b.restrict (σ v)).apply_substitute f.witness
    (f.substitute σ).witness σ f
    (fun v hv => Interpretation.apply_eq_of_not_hasConstant (hPut v hv) _ _)
    fun hf => absurd hf hFormula
  exact hApply.symm

/-- **Conversion commutes with renaming and with substitution.** The variables may be renamed before
or after the conversion, even to the same name, if there are any or the constants need none. Formulas
without constants may be put in place of the variables of another one before the conversion, or
afterwards if they have been converted too. -/
theorem convert_commutes (b : Basis) :
    (∀ (s : String → String) (f : Formula), f.names ≠ [] ∨ b = impliesFalse →
      b.convert (f.rename s) = (b.convert f).rename s) ∧
    ∀ (σ : String → Formula) (f : Formula), ¬ f.HasConstant →
      (∀ v ∈ f.names, ¬ (σ v).HasConstant) →
        b.convert (f.substitute σ) = (b.convert f).substitute fun v => b.convert (σ v) := by
  constructor
  · intro s f h
    rw [convert, restrict_rename s h, Fragment.toFormula_substitute]
    rfl
  · intro σ f hFormula hPut
    rw [convert, restrict_substitute hFormula hPut, Fragment.toFormula_substitute]
    rfl

/-- Both variables of `p ⊕ (⊤ ∧ q)` get the name `r`, which is then the witness of the constant.
And in `p ∨ q`, a formula takes the place of each variable. -/
theorem convert_commutes_xor_top :
    let f := Formula.binary .xor (.var "p") (.binary .and .top (.var "q"))
    let g := Formula.binary .or (.var "p") (.var "q")
    let σ := fun v => if v = "p" then Formula.not (.var "q") else .binary .iff (.var "p") (.var "r")
    f.names ≠ [] ∧ notAnd.convert (f.rename fun _ => "r") = (notAnd.convert f).rename (fun _ => "r") ∧
      ¬ g.HasConstant ∧ (∀ v ∈ g.names, ¬ (σ v).HasConstant) ∧
      notAnd.convert (g.substitute σ) = (notAnd.convert g).substitute fun v => notAnd.convert (σ v) := by
  intro f g σ
  have hNames : f.names ≠ [] := by decide
  have hFormula : ¬ g.HasConstant := by decide
  have hPut : ∀ v ∈ g.names, ¬ (σ v).HasConstant := by decide
  obtain ⟨hRename, hSubstitute⟩ := convert_commutes notAnd
  exact ⟨hNames, hRename _ f (Or.inl hNames), hFormula, hPut, hSubstitute σ g hFormula hPut⟩

end Basis

end Connectives
