import Connectives.Proofs.Results
import Connectives.Truth.Enumeration

/-!
# Connectives — counting rows in words of 128 bits

The numbers of rows are natural numbers here, and in a machine they are words. A word of 128 bits
holds the number of the rows for as many as 127 variables, and this is why no more of them are
enumerated. Below the whole enumeration is repeated in words, with operations that fail rather than
wrap around: an increment past the greatest word, a difference below zero, a shift by as many
places as the word has or more. None of them ever fails, however often the next assignment is asked
for, and the answers are those of the enumeration in plain numbers.

* `Enumeration.ask`, `Enumeration.answer_eq` — asking for the next assignment, again and again.
* `Checked`, `RowNumber` — operations that may overflow, and the words that they work on.
* `WordEnumeration` — the enumeration in words.
* `WordEnumeration.ask_eq` — one step of it never overflows.
* `WordEnumeration.answers_eq` — so neither do many.
-/

namespace Connectives

-- ---------------------------------------------------------------------------
-- Asking again and again
-- ---------------------------------------------------------------------------

namespace Enumeration

/-- What asking for the next assignment answers, and where the enumeration stands afterwards. At its
end it stays. -/
def ask (e : Enumeration) : Option Assignment × Enumeration :=
  match e.next? with
  | some (a, rest) => (some a, rest)
  | none => (none, e)

/-- What the answers are when the next assignment is asked for again and again; the first one has
the number 0. -/
def answer (e : Enumeration) : Nat → Option Assignment
  | 0 => e.ask.1
  | m + 1 => e.ask.2.answer m

variable {e : Enumeration}

theorem ask_of_lt (h : e.next < e.stop) :
    e.ask = (some (row e.vars e.next), { e with next := e.next + 1 }) := by
  rw [ask, next?, if_pos h]

theorem ask_of_le (h : e.stop ≤ e.next) : e.ask = (none, e) := by
  rw [ask, next?, if_neg (Nat.not_lt.2 h)]

/-- **The answers are the rows that are left**, in their order, and nothing ever after. -/
theorem answer_eq (e : Enumeration) (m : Nat) :
    e.answer m = if e.next + m < e.stop then some (row e.vars (e.next + m)) else none := by
  induction m generalizing e with
  | zero =>
    rw [answer, Nat.add_zero]
    rcases Nat.lt_or_ge e.next e.stop with hMore | hEnd
    · rw [ask_of_lt hMore, if_pos hMore]
    · rw [ask_of_le hEnd, if_neg (Nat.not_lt.2 hEnd)]
  | succ m ih =>
    rw [answer, ih]
    rcases Nat.lt_or_ge e.next e.stop with hMore | hEnd
    · rw [ask_of_lt hMore, Nat.add_right_comm, Nat.add_assoc]
    · have hAfter : ¬ e.next + (m + 1) < e.stop := by omega
      have hBefore : ¬ e.next + m < e.stop := by omega
      rw [ask_of_le hEnd, if_neg hAfter, if_neg hBefore]

end Enumeration

-- ---------------------------------------------------------------------------
-- Words
-- ---------------------------------------------------------------------------

/-- What does not fit. -/
inductive Overflow where
  | sum
  | difference
  | shift
  deriving DecidableEq, Repr

/-- What is computed by operations that may overflow. -/
abbrev Checked := Except Overflow

/-- The number of a row, as a word. -/
abbrev RowNumber := BitVec 128

namespace RowNumber

/-- The number that comes next. -/
def increment (k : RowNumber) : Checked RowNumber :=
  if k.uaddOverflow 1 then .error .sum else .ok (k + 1)

/-- The number with its bits moved up. -/
def shiftUp (k : RowNumber) (places : Nat) : Checked RowNumber :=
  if places < 128 then .ok (k <<< places) else .error .shift

/-- The number with its bits moved down. -/
def shiftDown (k : RowNumber) (places : Nat) : Checked RowNumber :=
  if places < 128 then .ok (k >>> places) else .error .shift

end RowNumber

/-- The difference of two sizes. -/
def checkedSub (m n : Nat) : Checked Nat :=
  if n ≤ m then .ok (m - n) else .error .difference

/-- The digit that the variable in place `i` of `size` has in a row. -/
def RowNumber.digit (k : RowNumber) (size i : Nat) : Checked Bool := do
  let last ← checkedSub size 1
  let place ← checkedSub last i
  let shifted ← k.shiftDown place
  return shifted &&& 1 == 1

/-- A place in the list of all assignments, by numbers in words. -/
structure WordEnumeration where
  vars : List String
  next : RowNumber
  stop : RowNumber

namespace WordEnumeration

/-- The assignments to a list of variables from the first one on. -/
def ofVars (vars : List String) : Checked (Except TruthError WordEnumeration) :=
  if maxEnumerated < vars.length then .ok (.error (.tooManyVariables vars.length))
  else do
    let stop ← RowNumber.shiftUp 1 vars.length
    return .ok ⟨vars, 0, stop⟩

/-- The assignment with number `k`. -/
def row (vars : List String) (k : RowNumber) : Checked Assignment := do
  let pairs ← vars.zipIdx.mapM fun (v, i) => do return (v, ← k.digit vars.length i)
  return .ofList pairs

/-- What asking for the next assignment answers, and where the enumeration stands afterwards. -/
def ask (e : WordEnumeration) : Checked (Option Assignment × WordEnumeration) :=
  if e.next < e.stop then do
    let next ← e.next.increment
    let a ← row e.vars e.next
    return (some a, { e with next := next })
  else return (none, e)

/-- The first answers when the next assignment is asked for again and again. -/
def answers (e : WordEnumeration) : Nat → Checked (List (Option Assignment))
  | 0 => return []
  | m + 1 => do
    let (answer, rest) ← e.ask
    let later ← rest.answers m
    return answer :: later

/-- The enumeration in plain numbers. -/
def plain (e : WordEnumeration) : Enumeration :=
  ⟨e.vars, e.next.toNat, e.stop.toNat⟩

end WordEnumeration

-- ---------------------------------------------------------------------------
-- Nothing overflows
-- ---------------------------------------------------------------------------

namespace RowNumber

/-- Below another number there is room for the next one. -/
theorem increment_of_lt {k stop : RowNumber} (h : k < stop) :
    ∃ next, k.increment = .ok next ∧ next.toNat = k.toNat + 1 := by
  have hRoom : k.uaddOverflow 1 = false := by
    have hLess := BitVec.lt_def.1 h
    have hBound := stop.isLt
    have hOne : (1 : RowNumber).toNat = 1 := rfl
    rw [BitVec.uaddOverflow, decide_eq_false_iff_not, hOne]
    omega
  refine ⟨k + 1, by rw [increment, hRoom]; rfl, ?_⟩
  exact BitVec.toNat_add_of_not_uaddOverflow (by rw [hRoom]; exact Bool.false_ne_true)

/-- The lowest bit behind a shift is a digit of the number. -/
theorem shiftRight_and_one (k : RowNumber) (place : Nat) :
    (k >>> place &&& 1 == 1) = k.toNat.testBit place := by
  rw [Bool.eq_iff_iff, beq_iff_eq, ← BitVec.toNat_inj, BitVec.toNat_and, BitVec.toNat_ushiftRight]
  simp [Nat.testBit_eq_decide_div_mod_eq, Nat.shiftRight_eq_div_pow]

/-- The digits of the places that there are can be read. -/
theorem digit_eq {size i : Nat} (hSize : size ≤ 128) (hi : i < size) (k : RowNumber) :
    k.digit size i = .ok (k.toNat.testBit (size - 1 - i)) := by
  have hLast : checkedSub size 1 = .ok (size - 1) := if_pos (by omega)
  have hPlace : checkedSub (size - 1) i = .ok (size - 1 - i) := if_pos (by omega)
  have hShift : k.shiftDown (size - 1 - i) = .ok (k >>> (size - 1 - i)) := if_pos (by omega)
  rw [← shiftRight_and_one, digit, hLast]
  show (checkedSub (size - 1) i >>= _) = _
  rw [hPlace]
  show (k.shiftDown (size - 1 - i) >>= _) = _
  rw [hShift]
  rfl

end RowNumber

namespace WordEnumeration

/-- **A row can be read off its number in a word.** -/
theorem row_eq {vars : List String} (hSize : vars.length ≤ 128) (k : RowNumber) :
    row vars k = .ok (Enumeration.row vars k.toNat) := by
  have hPairs : (vars.zipIdx.mapM fun (v, i) => do return (v, ← k.digit vars.length i)) =
      (Except.ok (vars.zipIdx.map fun (v, i) => (v, k.toNat.testBit (vars.length - 1 - i))) :
        Checked _) := by
    refine mapM_eq_ok fun (v, i) hMem => ?_
    have hi : i < vars.length := by
      obtain ⟨hi, -⟩ := List.getElem?_eq_some_iff.1 (List.mem_zipIdx_iff_getElem?.1 hMem)
      exact hi
    dsimp only
    rw [k.digit_eq hSize hi]
    rfl
  rw [row, hPairs]
  rfl

/-- **One step never overflows**, and answers as in plain numbers. -/
theorem ask_eq {e : WordEnumeration} (hSize : e.vars.length ≤ 128) :
    ∃ rest, e.ask = .ok (e.plain.ask.1, rest) ∧ rest.plain = e.plain.ask.2 ∧ rest.vars = e.vars := by
  by_cases hMore : e.next < e.stop
  · obtain ⟨next, hNext, hValue⟩ := RowNumber.increment_of_lt hMore
    have hPlain : e.plain.next < e.plain.stop := BitVec.lt_def.1 hMore
    refine ⟨{ e with next := next }, ?_, ?_, rfl⟩
    · rw [ask, if_pos hMore, hNext, row_eq hSize, Enumeration.ask_of_lt hPlain]
      rfl
    · rw [Enumeration.ask_of_lt hPlain, plain, hValue]
      rfl
  · have hPlain : e.plain.stop ≤ e.plain.next := Nat.not_lt.1 fun h => hMore (BitVec.lt_def.2 h)
    refine ⟨e, ?_, ?_, rfl⟩
    · rw [ask, if_neg hMore, Enumeration.ask_of_le hPlain]
      rfl
    · rw [Enumeration.ask_of_le hPlain]

/-- **However often it is asked, nothing overflows**, and the answers are those in plain numbers. -/
theorem answers_eq {e : WordEnumeration} (hSize : e.vars.length ≤ 128) (m : Nat) :
    e.answers m = .ok ((List.range m).map e.plain.answer) := by
  induction m generalizing e with
  | zero => rfl
  | succ m ih =>
    obtain ⟨rest, hAsk, hPlain, hVars⟩ := ask_eq hSize
    have hLater : (List.range (m + 1)).map e.plain.answer =
        e.plain.ask.1 :: (List.range m).map rest.plain.answer := by
      rw [List.range_succ_eq_map, List.map_cons, List.map_map, hPlain]
      rfl
    rw [answers, hAsk, hLater]
    show (rest.answers m >>= _) = _
    rw [ih (hVars ▸ hSize)]
    rfl

/-- **The number of rows fits into a word** as long as there are not too many variables. -/
theorem ofVars_eq {vars : List String} (h : vars.length ≤ maxEnumerated) :
    ∃ e, ofVars vars = .ok (.ok e) ∧ e.plain = ⟨vars, 0, Nat.pow 2 vars.length⟩ := by
  have hPlaces : vars.length < 128 := Nat.lt_succ_of_le h
  have hStop : RowNumber.shiftUp 1 vars.length = .ok ((1 : RowNumber) <<< vars.length) :=
    if_pos hPlaces
  have hValue : ((1 : RowNumber) <<< vars.length).toNat = Nat.pow 2 vars.length := by
    have hOne : (1 : RowNumber).toNat = 1 := rfl
    have hFits : Nat.pow 2 vars.length < Nat.pow 2 128 :=
      Nat.pow_lt_pow_right (by decide) hPlaces
    rw [BitVec.toNat_shiftLeft, hOne, Nat.one_shiftLeft]
    exact Nat.mod_eq_of_lt hFits
  refine ⟨⟨vars, 0, (1 : RowNumber) <<< vars.length⟩, ?_, ?_⟩
  · rw [ofVars, if_neg (Nat.not_lt.2 h), hStop]
    rfl
  · rw [plain, hValue]
    rfl

theorem ofVars_eq_error {vars : List String} (h : maxEnumerated < vars.length) :
    ofVars vars = .ok (.error (.tooManyVariables vars.length)) :=
  if_pos h

end WordEnumeration

end Connectives
