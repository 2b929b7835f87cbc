import Connectives.Proofs.Conversion.Meaning
import Connectives.Proofs.Conversion.Retraction
import Connectives.Proofs.Conversion.Variables

/-!
# Connectives — chains of conversions

A formula may be converted to one basis after another. Each step computes a witness anew, from
a formula that earlier steps have rewritten; but a converted formula has the same witness, so all
steps agree on one. Whatever the chain, the value of that variable is then all that can be missed.

* `Basis.convertThrough` — the conversions to several bases in turn.
* `Basis.evaluate_convertThrough` — a chain answers as the formula at its start.
* `Basis.convertThrough_keeps_meaning` — where a chain ends, and what it means there.
-/

namespace Connectives.Basis

/-- Converts a formula to one basis after another. -/
def convertThrough (bs : List Basis) (f : Formula) : Formula :=
  bs.foldl (fun g b => b.convert g) f

@[simp] theorem convertThrough_nil (f : Formula) : convertThrough [] f = f := rfl

@[simp] theorem convertThrough_cons (b : Basis) (bs : List Basis) (f : Formula) :
    convertThrough (b :: bs) f = convertThrough bs (b.convert f) := rfl

theorem convertThrough_append (bs cs : List Basis) (f : Formula) :
    convertThrough (bs ++ cs) f = convertThrough cs (convertThrough bs f) :=
  List.foldl_append

/-- A single conversion answers as the formula does, unless its basis needs a witness that has no
value. -/
theorem evaluate_convert_of_assigned {b : Basis} {f : Formula} {a : Assignment}
    (h : a.get? f.witness ≠ none ∨ b = impliesFalse) :
    (b.convert f).evaluate a = f.evaluate a := by
  have hAgrees := b.convert_agrees f a
  generalize (b.convert f).evaluate a = s at hAgrees
  cases hAgrees with
  | same => rfl
  | missing hMissing =>
    obtain ⟨⟨hBasis, hNone⟩, -⟩ := hMissing
    rcases h with hAssigned | hNative
    · exact absurd hNone hAssigned
    · exact absurd hNative hBasis

theorem witness_convertThrough (bs : List Basis) (f : Formula) :
    (convertThrough bs f).witness = f.witness := by
  induction bs generalizing f with
  | nil => rfl
  | cons b bs ih => rw [convertThrough_cons, ih, witness_convert]

/-- **A chain answers as the formula at its start**, failures included, if the witness has a value or
no basis needs it. -/
theorem evaluate_convertThrough {bs : List Basis} {f : Formula} {a : Assignment}
    (h : a.get? f.witness ≠ none ∨ ∀ b ∈ bs, b = impliesFalse) :
    (convertThrough bs f).evaluate a = f.evaluate a := by
  induction bs generalizing f with
  | nil => rfl
  | cons b bs ih =>
    have hStep : (b.convert f).evaluate a = f.evaluate a :=
      evaluate_convert_of_assigned (h.imp_right fun hAll => hAll b List.mem_cons_self)
    have hRest : a.get? (b.convert f).witness ≠ none ∨ ∀ c ∈ bs, c = impliesFalse := by
      rw [witness_convert]
      exact h.imp_right fun hAll c hc => hAll c (List.mem_cons_of_mem b hc)
    rw [convertThrough_cons, ih hRest, hStep]

theorem admits_convertThrough {bs : List Basis} (h : bs ≠ []) (f : Formula) :
    (bs.getLast h).admits (convertThrough bs f) = true := by
  have hSplit := convertThrough_append bs.dropLast [bs.getLast h] f
  rw [List.dropLast_concat_getLast] at hSplit
  rw [hSplit, convertThrough_cons, convertThrough_nil]
  exact admits_convert _ _

/--
**A chain of conversions ends in its last basis and keeps the meaning.** Under every assignment that
gives a value to the witness of the formula, others may be missing, the result answers exactly as
the formula does. The witness stays the same all along, and is not asked for if every basis
has a constant of its own.
-/
theorem convertThrough_keeps_meaning {bs : List Basis} (h : bs ≠ []) (f : Formula) :
    (bs.getLast h).admits (convertThrough bs f) = true ∧
    (convertThrough bs f).witness = f.witness ∧
    ∀ a : Assignment, (a.get? f.witness ≠ none ∨ ∀ b ∈ bs, b = impliesFalse) →
      (convertThrough bs f).evaluate a = f.evaluate a := by
  refine ⟨admits_convertThrough h f, witness_convertThrough bs f, ?_⟩
  intro a hWitness
  exact evaluate_convertThrough hWitness

/-- `(⊤ ⊕ q) → r` by way of three bases, where only `q` has a value: `r` is missed before and
after. -/
theorem convertThrough_keeps_meaning_xor_top :
    let bs := [nand, impliesFalse, notAndOr]
    let f := Formula.binary .implies (.binary .xor .top (.var "q")) (.var "r")
    let a := Assignment.ofList [("q", false)]
    bs ≠ [] ∧ notAndOr.admits (convertThrough bs f) = true ∧ a.get? f.witness ≠ none ∧
      (convertThrough bs f).evaluate a = f.evaluate a ∧
      f.evaluate a = .error (.unassigned "r") := by
  intro bs f a
  have hNonempty : bs ≠ [] := by decide
  have hWitness : a.get? f.witness ≠ none := by decide
  have hKeeps := convertThrough_keeps_meaning hNonempty f
  exact ⟨hNonempty, hKeeps.1, hWitness, hKeeps.2.2 a (Or.inl hWitness), rfl⟩

end Connectives.Basis
