import Connectives.Proofs.Truth.Digits
import Connectives.Proofs.Truth.FixedWidth

/-!
# Connectives — all valuations, each once and in order

Asking an enumeration again and again yields every row once, and then nothing any more. What a row
assigns is read off its number, place by place. From this and the order of digits it follows that
no valuation of the variables is left out or met twice, and that they come as in a dictionary. If
a name is listed twice its earlier places still count for the number of rows, but no longer for the
values.

* `Enumeration.answer_eq_some_iff` — which row comes when.
* `Enumeration.existsUnique_answer` — every valuation is met once.
* `Enumeration.precedes_of_answer` — the valuations come in order.
* `Enumeration.enumerates_valuations` — all of it, and nothing overflows.
-/

namespace Connectives.Enumeration

variable {vars : List String}

/-- The row with the number `k` comes when it is asked for the `k`th time. -/
theorem answer_eq_some_iff {n k : Nat} {a : Assignment} :
    answer ⟨vars, 0, n⟩ k = some a ↔ k < n ∧ row vars k = a := by
  rw [answer_eq, Nat.zero_add]
  split
  · next hk => rw [Option.some.injEq, and_iff_right hk]
  · next hk => exact iff_of_false nofun fun h => hk h.1

/-- **Every valuation of the variables is met once.** -/
theorem existsUnique_answer (hNodup : vars.Nodup) (g : {v // v ∈ vars} → Bool) :
    ∃! k, ∃ a, answer ⟨vars, 0, Nat.pow 2 vars.length⟩ k = some a ∧
      ∀ v, a.get? v.1 = some (g v) := by
  have hRow (k : Nat) : (∃ a, answer ⟨vars, 0, Nat.pow 2 vars.length⟩ k = some a ∧
      ∀ v, a.get? v.1 = some (g v)) ↔
        k < Nat.pow 2 vars.length ∧ ∀ v, (row vars k).get? v.1 = some (g v) := by
    simp only [answer_eq_some_iff, and_assoc, exists_and_left, exists_eq_left']
  rw [existsUnique_congr hRow]
  exact existsUnique_row hNodup g

/-- **The valuations come in the order of a dictionary.** -/
theorem precedes_of_answer (hNodup : vars.Nodup) {j k : Nat} {a b : Assignment} (hLess : j < k)
    (hj : answer ⟨vars, 0, Nat.pow 2 vars.length⟩ j = some a)
    (hk : answer ⟨vars, 0, Nat.pow 2 vars.length⟩ k = some b) :
    Precedes (vars.map a.valuation) (vars.map b.valuation) := by
  obtain ⟨-, rfl⟩ := answer_eq_some_iff.1 hj
  obtain ⟨hBound, rfl⟩ := answer_eq_some_iff.1 hk
  rw [map_valuation_row hNodup, map_valuation_row hNodup]
  exact precedes_digits hLess hBound

/--
**An enumeration yields all valuations, each once and in order.** For a list of at most 127 variables
it answers as often as there are valuations of that many variables, and nothing ever after. The
answer with the number `k` gives values to just the listed variables: the last place of a variable
decides, and the place `i` of `n` stands for the binary digit `n - 1 - i` of `k`. If no variable is
listed twice, every choice of values for them is answered once, and they come in the order of
a dictionary. Counted in words of 128 bits nothing overflows, however often it is asked. A longer list
is rejected with its length.
-/
theorem enumerates_valuations (vars : List String) :
    (127 < vars.length →
      ofVars vars = .error (.tooManyVariables vars.length) ∧
      WordEnumeration.ofVars vars = .ok (.error (.tooManyVariables vars.length))) ∧
    (vars.length ≤ 127 →
      ∃ e w, ofVars vars = .ok e ∧ WordEnumeration.ofVars vars = .ok (.ok w) ∧
        (∀ k < Nat.pow 2 vars.length, ∃ a, e.answer k = some a ∧
          (∀ v, a.get? v ≠ none ↔ v ∈ vars) ∧
          ∀ i v, vars[i]? = some v → v ∉ vars.drop (i + 1) →
            a.get? v = some (k.testBit (vars.length - 1 - i))) ∧
        (∀ k, Nat.pow 2 vars.length ≤ k → e.answer k = none) ∧
        (vars.Nodup →
          (∀ k a i v, e.answer k = some a → vars[i]? = some v →
            a.get? v = some (k.testBit (vars.length - 1 - i))) ∧
          (∀ g : {v // v ∈ vars} → Bool, ∃! k, ∃ a, e.answer k = some a ∧
            ∀ v, a.get? v.1 = some (g v)) ∧
          ∀ j k a b, j < k → e.answer j = some a → e.answer k = some b →
            Precedes (vars.map a.valuation) (vars.map b.valuation)) ∧
        ∀ m, w.answers m = .ok ((List.range m).map e.answer)) := by
  refine ⟨fun hMany => ⟨ofVars_eq_error hMany, WordEnumeration.ofVars_eq_error hMany⟩, fun hFew => ?_⟩
  obtain ⟨w, hWord, hPlain⟩ := WordEnumeration.ofVars_eq hFew
  refine ⟨⟨vars, 0, Nat.pow 2 vars.length⟩, w, ofVars_eq_ok hFew, hWord, fun k hk => ?_,
    fun k hk => ?_, fun hNodup => ⟨fun k a i v hAnswer hv => ?_, existsUnique_answer hNodup, ?_⟩,
    fun m => ?_⟩
  · refine ⟨row vars k, answer_eq_some_iff.2 ⟨hk, rfl⟩, fun v => get?_row_ne_none_iff, ?_⟩
    intro i v hv hLast
    exact get?_row_of_last hv hLast k
  · rw [answer_eq, Nat.zero_add, if_neg (Nat.not_lt.2 hk)]
  · obtain ⟨-, rfl⟩ := answer_eq_some_iff.1 hAnswer
    exact get?_row hNodup hv k
  · intro j k a b hLess hj hk
    exact precedes_of_answer hNodup hLess hj hk
  · have hVars : w.vars = vars := congrArg Enumeration.vars hPlain
    rw [← hPlain]
    exact WordEnumeration.answers_eq (hVars ▸ Nat.le_succ_of_le hFew) m

/-- Two names, one of them also listed twice, and more names than there may be. -/
theorem enumerates_valuations_twice_listed :
    let pair := ["q", "p"]
    let twice := ["p", "q", "p"]
    let wide := List.replicate 128 "p"
    pair.length ≤ 127 ∧ pair.Nodup ∧ 2 < Nat.pow 2 pair.length ∧
      (∃ e, ofVars pair = .ok e ∧
        (∃ a, e.answer 2 = some a ∧ a.get? "q" = some true ∧ a.get? "p" = some false) ∧
        e.answer 4 = none) ∧
      twice.length ≤ 127 ∧ "p" ∉ twice.drop 3 ∧
      (∃ e, ofVars twice = .ok e ∧
        ∃ a, e.answer 4 = some a ∧ a.get? "p" = some false ∧ a.get? "r" = none) ∧
      127 < wide.length ∧ ofVars wide = .error (.tooManyVariables 128) := by
  intro pair twice wide
  have hNodup : pair.Nodup := by decide
  have hLast : "p" ∉ twice.drop 3 := by decide
  have hMany : 127 < wide.length := by decide +kernel
  obtain ⟨e, w, hPair, -, hRows, hEnd, hOnce, -⟩ := (enumerates_valuations pair).2 (by decide)
  obtain ⟨a, hAnswer, -, -⟩ := hRows 2 (by decide)
  have hFirst : a.get? "q" = some true :=
    ((hOnce hNodup).1 2 a 0 "q" hAnswer rfl).trans (by decide)
  have hSecond : a.get? "p" = some false :=
    ((hOnce hNodup).1 2 a 1 "p" hAnswer rfl).trans (by decide)
  obtain ⟨e', w', hTwice, -, hRows', -, -, -⟩ := (enumerates_valuations twice).2 (by decide)
  obtain ⟨b, hAnswer', hListed, hPlaces⟩ := hRows' 4 (by decide)
  have hDecides : b.get? "p" = some false := (hPlaces 2 "p" rfl hLast).trans (by decide)
  have hOther : b.get? "r" = none :=
    Decidable.not_not.1 fun hNe => absurd ((hListed "r").1 hNe) (by decide)
  exact ⟨by decide, hNodup, by decide, ⟨e, hPair, ⟨a, hAnswer, hFirst, hSecond⟩, hEnd 4 (by decide)⟩,
    by decide, hLast, ⟨e', hTwice, b, hAnswer', hDecides, hOther⟩, hMany,
    ((enumerates_valuations wide).1 hMany).1⟩

end Connectives.Enumeration
