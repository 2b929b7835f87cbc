import Connectives.Conversion.Convert
import Connectives.Proofs.Truth.ShortCircuit

/-!
# Connectives — conversion keeps the meaning

A converted formula answers as the formula it comes from, under every assignment and with the same
failures. The one exception is the *witness*: a basis without constants expresses ⊤ and ⟘ over
a variable whose value does not matter but has to be there, so that under an assignment without it
the converted formula may miss the witness first.

The argument never looks at five conversions at once. An interpretation is `Faithful` if
it answers like the connectives that it expresses, whatever the operands are; each basis is shown to
be so by the laws of short-circuit evaluation, and one induction over formulas does the rest.

* `Answer.Agrees` — the same answer, or a missing witness.
* `Interpretation.Faithful.agrees` — a faithful interpretation keeps all answers up to the witness.
* `AnswersNot`, `AnswersAs` — operations that answer as a connective does, and what several bases
  derive from them alike.
* `Basis.interpretation_faithful` — the five bases are faithful.
* `evaluate_convert` — conversion keeps the meaning.
-/

namespace Connectives

-- ---------------------------------------------------------------------------
-- Agreement up to the witness
-- ---------------------------------------------------------------------------

namespace Answer

/-- The second answer stands for the first one: it is the same, or under the condition `blocked` it
misses a value for `w`. -/
inductive Agrees (blocked : Prop) (w : String) (r : Answer) : Answer → Prop
  | same : Agrees blocked w r r
  | missing (h : blocked) : Agrees blocked w r (.error (.unassigned w))

namespace Agrees

variable {P Q : Prop} {w : String} {r r' s s' : Answer}

theorem mono (hPQ : P → Q) : Agrees P w r s → Agrees Q w r s
  | same => same
  | missing h => missing (hPQ h)

theorem negate : Agrees P w r s → Agrees P w r.negate s.negate
  | same => same
  | missing h => missing h

/-- A connective asks its left operand first, so a witness missed there is missed at once. Otherwise
the left answers are the same, and the right ones are asked for in the same cases. -/
theorem combine (op : BinaryOp) (hl : Agrees P w r s) (hr : Agrees P w r' s') :
    Agrees P w (Answer.combine op r r') (Answer.combine op s s') := by
  cases hl with
  | missing h => exact missing h
  | same =>
    cases hr with
    | same => exact same
    | missing h =>
      cases r with
      | error e => exact same
      | ok x =>
        dsimp only [Answer.combine]
        cases op.settled? x with
        | some value => exact same
        | none => exact missing h

/-- What asks for a variable and then answers alike for both of its values stands for that
answer. -/
theorem of_var {a : Assignment} {c : Bool} {F : Answer → Answer}
    (hError : ∀ e, F (.error e) = .error e) (hOk : ∀ x, F (.ok x) = .ok c) :
    Agrees (True ∧ a.get? w = none) w (.ok c) (F ((Formula.var w).evaluate a)) := by
  rw [Formula.evaluate_var]
  cases hw : a.get? w with
  | none =>
    show Agrees _ w _ (F (.error _))
    rw [hError]
    exact missing ⟨trivial, rfl⟩
  | some x =>
    show Agrees _ w _ (F (.ok x))
    rw [hOk]
    exact same

end Agrees

end Answer

-- ---------------------------------------------------------------------------
-- Faithful interpretations
-- ---------------------------------------------------------------------------

/-- The answer for a member of a fragment. -/
def Fragment.answer {cs : List Connective} (a : Assignment) (x : Fragment cs) : Answer :=
  x.toFormula.evaluate a

/-- The interpretation answers like the connectives that it expresses. `needsWitness` tells whether
its constants ask for a variable. -/
structure Interpretation.Faithful {cs : List Connective} (i : Interpretation cs)
    (needsWitness : Prop) : Prop where
  top : ∀ (a : Assignment) (w : String),
    Answer.Agrees (needsWitness ∧ a.get? w = none) w (.ok true) ((i.top w).answer a)
  bottom : ∀ (a : Assignment) (w : String),
    Answer.Agrees (needsWitness ∧ a.get? w = none) w (.ok false) ((i.bottom w).answer a)
  not : ∀ (a : Assignment) (x : Fragment cs), (i.not x).answer a = Answer.negate (x.answer a)
  binary : ∀ (a : Assignment) (op : BinaryOp) (x y : Fragment cs),
    (i.binary op x y).answer a = Answer.combine op (x.answer a) (y.answer a)

theorem Interpretation.Faithful.congr {cs : List Connective} {i : Interpretation cs} {P Q : Prop}
    (h : i.Faithful P) (hPQ : P ↔ Q) : i.Faithful Q :=
  propext hPQ ▸ h

/-- **A faithful interpretation keeps all answers, up to a missing witness.** The witness can be
missed only if it is needed, if it has no value, and if a constant stands in the formula. -/
theorem Interpretation.Faithful.agrees {cs : List Connective} {i : Interpretation cs}
    {needsWitness : Prop} (h : i.Faithful needsWitness) (a : Assignment) (w : String)
    (f : Formula) :
    Answer.Agrees ((needsWitness ∧ a.get? w = none) ∧ f.HasConstant) w (f.evaluate a)
      ((i.apply w f).answer a) := by
  induction f with
  | top => exact (h.top a w).mono fun hw => ⟨hw, Formula.hasConstant_top⟩
  | bottom => exact (h.bottom a w).mono fun hw => ⟨hw, Formula.hasConstant_bottom⟩
  | var v => exact .same
  | not f ih =>
    rw [Formula.evaluate_not, apply, h.not]
    exact ih.negate.mono fun hw => ⟨hw.1, hw.2.not⟩
  | binary op f g ihf ihg =>
    rw [Formula.evaluate_binary, apply, h.binary]
    exact (ihf.mono fun hw => ⟨hw.1, hw.2.left⟩).combine op
      (ihg.mono fun hw => ⟨hw.1, hw.2.right⟩)

-- ---------------------------------------------------------------------------
-- Derived connectives
-- ---------------------------------------------------------------------------

section Derived

open Answer

variable {cs : List Connective} {neg : Fragment cs → Fragment cs}
  {conj disj impl : Fragment cs → Fragment cs → Fragment cs}

/-- The operation on members answers as negation does. -/
abbrev AnswersNot (neg : Fragment cs → Fragment cs) : Prop :=
  ∀ (a : Assignment) (x : Fragment cs), (neg x).answer a = negate (x.answer a)

/-- The operation on members answers as the binary connective does. -/
abbrev AnswersAs (op : BinaryOp) (F : Fragment cs → Fragment cs → Fragment cs) : Prop :=
  ∀ (a : Assignment) (x y : Fragment cs),
    (F x y).answer a = combine op (x.answer a) (y.answer a)

/-! What more than one basis derives in the same way. -/

theorem AnswersNot.nand (hn : AnswersNot neg) (hc : AnswersAs .and conj) :
    AnswersAs .nand fun x y => neg (conj x y) := by
  intro a x y
  rw [hn, hc, combine_nand_eq_negate_and]

theorem AnswersNot.nor (hn : AnswersNot neg) (hd : AnswersAs .or disj) :
    AnswersAs .nor fun x y => neg (disj x y) := by
  intro a x y
  rw [hn, hd, combine_nor_eq_negate_or]

/-- One or the other, but not both. -/
theorem AnswersNot.xor (hn : AnswersNot neg) (hc : AnswersAs .and conj)
    (hd : AnswersAs .or disj) : AnswersAs .xor fun x y => conj (disj x y) (neg (conj x y)) := by
  intro a x y
  rw [hc, hd, hn, hc, combine_xor_eq_and_negate]

/-- Both or neither. -/
theorem AnswersNot.iff (hn : AnswersNot neg) (hc : AnswersAs .and conj)
    (hd : AnswersAs .or disj) :
    AnswersAs .iff fun x y => disj (conj x y) (conj (neg x) (neg y)) := by
  intro a x y
  rw [hd, hc, hc, hn, hn, combine_iff_eq_or_and]

/-- Implication both ways. -/
theorem AnswersAs.iff (hc : AnswersAs .and conj) (hi : AnswersAs .implies impl) :
    AnswersAs .iff fun x y => conj (impl x y) (impl y x) := by
  intro a x y
  rw [hc, hi, hi, combine_iff_eq_and_implies]

theorem AnswersNot.and (hn : AnswersNot neg) (hi : AnswersAs .implies impl) :
    AnswersAs .and fun x y => neg (impl x (neg y)) := by
  intro a x y
  rw [hn, hi, hn, combine_and_eq_negate_implies]

theorem AnswersNot.or (hn : AnswersNot neg) (hi : AnswersAs .implies impl) :
    AnswersAs .or fun x y => impl (neg x) y := by
  intro a x y
  rw [hi, hn, combine_or_eq_implies]

end Derived

-- ---------------------------------------------------------------------------
-- The five bases
-- ---------------------------------------------------------------------------

/-! In each section the answers for the basis' own connectives and for what is derived from them come
first. Then every row of the interpretation is one law of short-circuit evaluation. -/

section

open Answer

namespace NotAndOr

theorem answer_not : AnswersNot not := fun _ _ => Formula.evaluate_not

theorem answer_and : AnswersAs .and and := fun _ _ _ => Formula.evaluate_binary

theorem answer_or : AnswersAs .or or := fun _ _ _ => Formula.evaluate_binary

theorem interpretation_faithful : interpretation.Faithful True where
  top a w := by
    show Agrees _ w _ ((or (.var w) (not (.var w))).answer a)
    rw [answer_or, answer_not]
    exact Agrees.of_var (F := fun r => combine .or r (negate r)) (fun _ => rfl)
      (by rintro (_ | _) <;> rfl)
  bottom a w := by
    show Agrees _ w _ ((and (.var w) (not (.var w))).answer a)
    rw [answer_and, answer_not]
    exact Agrees.of_var (F := fun r => combine .and r (negate r)) (fun _ => rfl)
      (by rintro (_ | _) <;> rfl)
  not := answer_not
  binary a op x y := by
    cases op with
    | and => exact answer_and a x y
    | or => exact answer_or a x y
    | implies =>
      show (or (not x) y).answer a = _
      rw [answer_or, answer_not, combine_implies_eq_or]
    | xor =>
      show (or (and x (not y)) (and (not x) y)).answer a = _
      rw [answer_or, answer_and, answer_and, answer_not, answer_not, combine_xor_eq_or_and]
    | iff => exact answer_not.iff answer_and answer_or a x y
    | nand => exact answer_not.nand answer_and a x y
    | nor => exact answer_not.nor answer_or a x y

end NotAndOr

namespace NotAnd

theorem answer_not : AnswersNot not := fun _ _ => Formula.evaluate_not

theorem answer_and : AnswersAs .and and := fun _ _ _ => Formula.evaluate_binary

theorem answer_or : AnswersAs .or or := by
  intro a x y
  rw [or, answer_not, answer_and, answer_not, answer_not, combine_or_eq_negate_and]

theorem bottom_agrees (a : Assignment) (w : String) :
    Agrees (True ∧ a.get? w = none) w (.ok false) ((bottom w).answer a) := by
  rw [bottom, answer_and, answer_not]
  exact Agrees.of_var (F := fun r => combine .and r (negate r)) (fun _ => rfl)
    (by rintro (_ | _) <;> rfl)

theorem interpretation_faithful : interpretation.Faithful True where
  top a w := by
    show Agrees _ w _ ((not (bottom w)).answer a)
    rw [answer_not]
    exact (bottom_agrees a w).negate
  bottom := bottom_agrees
  not := answer_not
  binary a op x y := by
    cases op with
    | and => exact answer_and a x y
    | or => exact answer_or a x y
    | implies =>
      show (not (and x (not y))).answer a = _
      rw [answer_not, answer_and, answer_not, combine_implies_eq_negate_and]
    | xor => exact answer_not.xor answer_and answer_or a x y
    | iff => exact answer_not.iff answer_and answer_or a x y
    | nand => exact answer_not.nand answer_and a x y
    | nor =>
      show (and (not x) (not y)).answer a = _
      rw [answer_and, answer_not, answer_not, combine_nor_eq_and_negate]

end NotAnd

namespace NandOnly

theorem answer_nand : AnswersAs .nand nand := fun _ _ _ => Formula.evaluate_binary

theorem answer_not : AnswersNot not := by
  intro a x
  rw [not, answer_nand, negate_eq_nand]

theorem answer_and : AnswersAs .and and := by
  intro a x y
  rw [and, answer_not, answer_nand, combine_and_eq_negate_nand]

theorem answer_or : AnswersAs .or or := by
  intro a x y
  rw [or, answer_nand, answer_not, answer_not, combine_or_eq_nand_negate]

theorem answer_iff : AnswersAs .iff iff := by
  intro a x y
  rw [iff, answer_nand, answer_or, answer_nand, combine_iff_eq_nand]

theorem top_agrees (a : Assignment) (w : String) :
    Agrees (True ∧ a.get? w = none) w (.ok true) ((top w).answer a) := by
  rw [top, answer_nand, answer_not]
  exact Agrees.of_var (F := fun r => combine .nand r (negate r)) (fun _ => rfl)
    (by rintro (_ | _) <;> rfl)

theorem interpretation_faithful : interpretation.Faithful True where
  top := top_agrees
  bottom a w := by
    show Agrees _ w _ ((not (top w)).answer a)
    rw [answer_not]
    exact (top_agrees a w).negate
  not := answer_not
  binary a op x y := by
    cases op with
    | and => exact answer_and a x y
    | or => exact answer_or a x y
    | implies =>
      show (nand x (not y)).answer a = _
      rw [answer_nand, answer_not, combine_implies_eq_nand]
    | xor =>
      show (not (iff x y)).answer a = _
      rw [answer_not, answer_iff, combine_xor_eq_negate_iff]
    | iff => exact answer_iff a x y
    | nand => exact answer_nand a x y
    | nor => exact answer_not.nor answer_or a x y

end NandOnly

namespace ImpliesNot

theorem answer_not : AnswersNot not := fun _ _ => Formula.evaluate_not

theorem answer_implies : AnswersAs .implies implies := fun _ _ _ => Formula.evaluate_binary

theorem answer_and : AnswersAs .and and := answer_not.and answer_implies

theorem answer_or : AnswersAs .or or := answer_not.or answer_implies

theorem top_agrees (a : Assignment) (w : String) :
    Agrees (True ∧ a.get? w = none) w (.ok true) ((top w).answer a) := by
  rw [top, answer_implies]
  exact Agrees.of_var (F := fun r => combine .implies r r) (fun _ => rfl)
    (by rintro (_ | _) <;> rfl)

theorem interpretation_faithful : interpretation.Faithful True where
  top := top_agrees
  bottom a w := by
    show Agrees _ w _ ((not (top w)).answer a)
    rw [answer_not]
    exact (top_agrees a w).negate
  not := answer_not
  binary a op x y := by
    cases op with
    | and => exact answer_and a x y
    | or => exact answer_or a x y
    | implies => exact answer_implies a x y
    | xor => exact answer_not.xor answer_and answer_or a x y
    | iff => exact answer_and.iff answer_implies a x y
    | nand => exact answer_not.nand answer_and a x y
    | nor => exact answer_not.nor answer_or a x y

end ImpliesNot

namespace ImpliesFalse

theorem answer_bottom (a : Assignment) : bottom.answer a = .ok false := rfl

theorem answer_implies : AnswersAs .implies implies := fun _ _ _ => Formula.evaluate_binary

theorem answer_not : AnswersNot not := by
  intro a x
  rw [not, answer_implies, answer_bottom, negate_eq_implies_false]

theorem answer_and : AnswersAs .and and := answer_not.and answer_implies

theorem answer_or : AnswersAs .or or := answer_not.or answer_implies

theorem interpretation_faithful : interpretation.Faithful False where
  top a w := by
    show Agrees _ w _ ((not bottom).answer a)
    rw [answer_not, answer_bottom]
    exact .same
  bottom a w := .same
  not := answer_not
  binary a op x y := by
    cases op with
    | and => exact answer_and a x y
    | or => exact answer_or a x y
    | implies => exact answer_implies a x y
    | xor => exact answer_not.xor answer_and answer_or a x y
    | iff => exact answer_and.iff answer_implies a x y
    | nand => exact answer_not.nand answer_and a x y
    | nor => exact answer_not.nor answer_or a x y

end ImpliesFalse

end

-- ---------------------------------------------------------------------------
-- Conversion
-- ---------------------------------------------------------------------------

namespace Basis

/-- Every basis answers like the connectives that it expresses, and all but one need a witness. -/
theorem interpretation_faithful (b : Basis) :
    b.interpretation.Faithful (b ≠ .impliesFalse) := by
  cases b with
  | notAndOr => exact NotAndOr.interpretation_faithful.congr (by decide)
  | notAnd => exact NotAnd.interpretation_faithful.congr (by decide)
  | nand => exact NandOnly.interpretation_faithful.congr (by decide)
  | impliesNot => exact ImpliesNot.interpretation_faithful.congr (by decide)
  | impliesFalse => exact ImpliesFalse.interpretation_faithful.congr (by decide)

/-- A converted formula answers as the formula does, or misses its witness. -/
theorem convert_agrees (b : Basis) (f : Formula) (a : Assignment) :
    Answer.Agrees ((b ≠ .impliesFalse ∧ a.get? f.witness = none) ∧ f.HasConstant) f.witness
      (f.evaluate a) ((b.convert f).evaluate a) :=
  b.interpretation_faithful.agrees a f.witness f

/--
**Conversion keeps the meaning, failures included.** Under every assignment, partial ones too, the
converted formula answers exactly as the formula does, unless the basis has no constants, the
formula has one, and the witness has no value: then the converted formula may miss the witness
instead. Under an assignment to the variables and the witness both have the same value.
-/
theorem evaluate_convert (b : Basis) (f : Formula) (a : Assignment) :
    ((b.convert f).evaluate a = f.evaluate a ∨
      b ≠ .impliesFalse ∧ f.HasConstant ∧ a.get? f.witness = none ∧
        (b.convert f).evaluate a = .error (.unassigned f.witness)) ∧
    ((∀ v ∈ f.vars, a.get? v ≠ none) → a.get? f.witness ≠ none →
      ∃ x, f.evaluate a = .ok x ∧ (b.convert f).evaluate a = .ok x) := by
  have hAgrees := b.convert_agrees f a
  generalize (b.convert f).evaluate a = s at hAgrees
  cases hAgrees with
  | same =>
    refine ⟨Or.inl rfl, fun hVars _ => ?_⟩
    obtain ⟨x, hx⟩ := Formula.evaluate_eq_ok_of_assigned hVars
    exact ⟨x, hx, hx⟩
  | missing h =>
    obtain ⟨⟨hBasis, hNone⟩, hConstant⟩ := h
    exact ⟨Or.inr ⟨hBasis, hConstant, hNone, rfl⟩, fun _ hWitness => absurd hNone hWitness⟩

/-- `q ∧ (⊤ ⊕ p)` over ↑, where ⊤ is expressed over `q`. -/
theorem evaluate_convert_and_xor_top :
    let f := Formula.binary .and (.var "q") (.binary .xor .top (.var "p"))
    let a := Assignment.ofList [("p", false), ("q", true)]
    (∀ v ∈ f.vars, a.get? v ≠ none) ∧ a.get? f.witness ≠ none ∧
      ∃ x, f.evaluate a = .ok x ∧ (nand.convert f).evaluate a = .ok x :=
  ⟨by decide, by decide, (evaluate_convert .nand _ _).2 (by decide) (by decide)⟩

-- the exception does happen: nothing has a value, `⊤ ∨ p` needs none, and its conversion asks for `p`
example :
    (Formula.binary .or .top (.var "p")).evaluate {} = .ok true ∧
      (notAnd.convert (.binary .or .top (.var "p"))).evaluate {} = .error (.unassigned "p") :=
  ⟨rfl, rfl⟩

end Basis

end Connectives
