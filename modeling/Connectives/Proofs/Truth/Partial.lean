import Connectives.Proofs.Truth.Rows

/-!
# Connectives — evaluation under partial assignments

Which variables an evaluation asks for depends on the values that it finds: a left operand may settle
its connective, and then nothing on the right is looked at. Even so the answer depends on the
variables of the formula alone, and it gets no worse when more of them have a value. A truth value
stays what it is; a missing variable, once it has a value, is not missed again.

Two runs are compared through their answers. `Answer.Refines` orders these: a failure may turn into
anything, a truth value only into itself. Connectives are monotone for this order although they skip
operands, since an operand is skipped for a value that stays.

* `Assignment.Extends` — more variables have a value, and none has another one.
* `Answer.Refines.combine` — connectives are monotone in the answers of their operands.
* `Formula.evaluate_congr` — evaluation is local.
* `Formula.evaluate_refines` — evaluation is monotone.
* `Formula.evaluate_eq_error` — what a failure tells.
* `Formula.evaluate_partial` — all of it.
-/

namespace Connectives

-- ---------------------------------------------------------------------------
-- More values
-- ---------------------------------------------------------------------------

namespace Assignment

/-- Every value that `a` gives is given by `c` too. -/
def Extends (c a : Assignment) : Prop :=
  ∀ v b, a.get? v = some b → c.get? v = some b

/-- A value for a variable that had none leaves the others as they are. -/
theorem extends_insert {a : Assignment} {v : String} (hNone : a.get? v = none) (b : Bool) :
    (a.insert v b).Extends a := by
  intro w x hw
  have hOther : w ≠ v := by
    rintro rfl
    rw [hNone] at hw
    cases hw
  rw [get?_insert, if_neg hOther, hw]

end Assignment

-- ---------------------------------------------------------------------------
-- Better answers
-- ---------------------------------------------------------------------------

namespace Answer

/-- The second answer is the first one, or takes the place of a failure. -/
inductive Refines : Answer → Answer → Prop
  | same {r : Answer} : Refines r r
  | failed {e : TruthError} {s : Answer} : Refines (.error e) s

namespace Refines

variable {r r' s s' : Answer}

theorem eq_ok {x : Bool} (h : Refines r s) (hr : r = .ok x) : s = .ok x := by
  cases h with
  | same => exact hr
  | failed => cases hr

theorem negate : Refines r s → Refines r.negate s.negate
  | same => same
  | failed => failed

/-- Where the left answer stays, it settles the connective as before, or the right one is asked for as
before. -/
theorem combine (op : BinaryOp) (hl : Refines r s) (hr : Refines r' s') :
    Refines (Answer.combine op r r') (Answer.combine op s s') := by
  cases hl with
  | failed => exact failed
  | same =>
    cases hr with
    | same => exact same
    | failed =>
      cases r with
      | error e => exact same
      | ok x =>
        dsimp only [Answer.combine]
        cases op.settled? x with
        | some value => exact same
        | none => exact failed

end Refines

/-- A negation fails only with its operand. -/
theorem negate_eq_error_iff {r : Answer} {e : TruthError} :
    r.negate = .error e ↔ r = .error e := by
  rcases r with e' | x
  · exact Iff.rfl
  · exact iff_of_false nofun nofun

/-- A connective fails only as one of its operands does. -/
theorem eq_error_of_combine {op : BinaryOp} {r s : Answer} {e : TruthError}
    (h : combine op r s = .error e) : r = .error e ∨ s = .error e := by
  cases r with
  | error e' => exact Or.inl h
  | ok x =>
    dsimp only [combine] at h
    cases hSettled : op.settled? x with
    | some value =>
      rw [hSettled] at h
      cases h
    | none =>
      rw [hSettled] at h
      cases s with
      | error e' => exact Or.inr h
      | ok y => cases h

end Answer

-- ---------------------------------------------------------------------------
-- Evaluation
-- ---------------------------------------------------------------------------

namespace Formula

variable {a c : Assignment} {f : Formula}

/-- **Evaluation is local**: it depends on the values of the formula's own variables. -/
theorem evaluate_congr (h : ∀ v ∈ f.vars, a.get? v = c.get? v) : f.evaluate a = f.evaluate c := by
  induction f with
  | top | bottom => rfl
  | var v => rw [evaluate_var, evaluate_var, h v (mem_vars_var.2 rfl)]
  | not f ih => rw [evaluate_not, evaluate_not, ih h]
  | binary op f g ihf ihg =>
    have hLeft := ihf fun v hv => h v (mem_vars_binary.2 (Or.inl hv))
    have hRight := ihg fun v hv => h v (mem_vars_binary.2 (Or.inr hv))
    rw [evaluate_binary, evaluate_binary, hLeft, hRight]

/-- **Evaluation is monotone**: more values make no answer worse. -/
theorem evaluate_refines (h : c.Extends a) (f : Formula) :
    Answer.Refines (f.evaluate a) (f.evaluate c) := by
  induction f with
  | top | bottom => exact .same
  | var v =>
    rw [evaluate_var, evaluate_var]
    cases hv : a.get? v with
    | none => exact .failed
    | some b =>
      rw [h v b hv]
      exact .same
  | not f ih =>
    rw [evaluate_not, evaluate_not]
    exact ih.negate
  | binary op f g ihf ihg =>
    rw [evaluate_binary, evaluate_binary]
    exact ihf.combine op ihg

/-- **A failure names a variable of the formula that has no value.** -/
theorem evaluate_eq_error {e : TruthError} (h : f.evaluate a = .error e) :
    ∃ v ∈ f.vars, e = .unassigned v ∧ a.get? v = none := by
  induction f with
  | top | bottom => cases h
  | var v =>
    rw [evaluate_var] at h
    cases hv : a.get? v with
    | some b =>
      rw [hv] at h
      cases h
    | none =>
      rw [hv] at h
      cases h
      exact ⟨v, mem_vars_var.2 rfl, rfl, hv⟩
  | not f ih =>
    rw [evaluate_not, Answer.negate_eq_error_iff] at h
    exact ih h
  | binary op f g ihf ihg =>
    rw [evaluate_binary] at h
    rcases Answer.eq_error_of_combine h with hLeft | hRight
    · obtain ⟨v, hMem, hv⟩ := ihf hLeft
      exact ⟨v, mem_vars_binary.2 (Or.inl hMem), hv⟩
    · obtain ⟨v, hMem, hv⟩ := ihg hRight
      exact ⟨v, mem_vars_binary.2 (Or.inr hMem), hv⟩

/-- What has been given a value is not missed. -/
theorem evaluate_insert_eq_error {v : String} {b : Bool} {e : TruthError}
    (h : f.evaluate (a.insert v b) = .error e) : ∃ w ≠ v, e = .unassigned w := by
  obtain ⟨w, -, hError, hNone⟩ := evaluate_eq_error h
  refine ⟨w, ?_, hError⟩
  rintro rfl
  rw [Assignment.get?_insert, if_pos rfl] at hNone
  cases hNone

/--
**Evaluation under partial assignments is local and monotone.** Assignments that agree on the
variables of a formula give the same answer, failures included; a truth value is kept by every
extension; an assignment to all variables gives the classical truth value; and a failure names
a variable of the formula that has no value, and another one, if it is still there, after this
variable has got a value.
-/
theorem evaluate_partial (f : Formula) (a c : Assignment) :
    ((∀ v ∈ f.vars, a.get? v = c.get? v) → f.evaluate a = f.evaluate c) ∧
    (c.Extends a → ∀ x, f.evaluate a = .ok x → f.evaluate c = .ok x) ∧
    ((∀ v ∈ f.vars, a.get? v ≠ none) → f.evaluate a = .ok (f.holds a.valuation)) ∧
    ∀ e, f.evaluate a = .error e →
      ∃ v ∈ f.vars, e = .unassigned v ∧ a.get? v = none ∧
        ∀ b e', f.evaluate (a.insert v b) = .error e' → ∃ w ≠ v, e' = .unassigned w := by
  refine ⟨evaluate_congr, fun hMore x hOk => ?_, evaluate_eq_ok_holds, fun e hError => ?_⟩
  · exact (evaluate_refines hMore f).eq_ok hOk
  · obtain ⟨v, hMem, hMissing, hNone⟩ := evaluate_eq_error hError
    exact ⟨v, hMem, hMissing, hNone, fun b e' hAgain => evaluate_insert_eq_error hAgain⟩

/-- A false conjunct keeps the other one from being asked for; `⊕` asks for both of its operands. -/
theorem evaluate_partial_or_xor :
    let f := binary .or (.binary .and (.var "p") (.var "q")) (.binary .xor (.var "q") (.var "r"))
    let settled := Assignment.ofList [("p", true), ("q", true)]
    let blocked := Assignment.ofList [("p", false)]
    let full := Assignment.ofList [("p", false), ("q", true), ("r", true)]
    (∀ v ∈ f.vars, blocked.get? v = (blocked.insert "s" true).get? v) ∧
      f.evaluate (blocked.insert "s" true) = .error (.unassigned "q") ∧
      (settled.insert "r" true).Extends settled ∧ f.evaluate (settled.insert "r" true) = .ok true ∧
      (∀ v ∈ f.vars, full.get? v ≠ none) ∧ f.evaluate full = .ok false ∧
      f.evaluate blocked = .error (.unassigned "q") ∧
      ∃ w ≠ "q", f.evaluate (blocked.insert "q" true) = .error (.unassigned w) := by
  intro f settled blocked full
  have hSame : ∀ v ∈ f.vars, blocked.get? v = (blocked.insert "s" true).get? v := by decide
  have hMore : (settled.insert "r" true).Extends settled :=
    Assignment.extends_insert (by decide) true
  have hFull : ∀ v ∈ f.vars, full.get? v ≠ none := by decide
  have hMissing : f.evaluate blocked = .error (.unassigned "q") := rfl
  have hAgain : f.evaluate (blocked.insert "q" true) = .error (.unassigned "r") := rfl
  obtain ⟨v, -, hName, -, hLater⟩ := (evaluate_partial f blocked blocked).2.2.2 _ hMissing
  cases hName
  obtain ⟨w, hNe, hOther⟩ := hLater true _ hAgain
  rw [hOther] at hAgain
  exact ⟨hSame, ((evaluate_partial f blocked _).1 hSame).symm.trans hMissing, hMore,
    (evaluate_partial f settled _).2.1 hMore true rfl, hFull, (evaluate_partial f full full).2.2.1 hFull,
    hMissing, w, hNe, hAgain⟩

end Formula

end Connectives
