import Connectives.Proofs.Grammar.Indentation

/-!
# Connectives — places in a text

The bytes that a place can be told by are those at which a character starts, and the end of the text.
Each has a position, no two have the same one, and the positions come in the order of the bytes. The
parser speaks of no other bytes, so whatever fault it finds can be told by line and column.

* `Text.IsBoundary`, `Text.isBoundary_iff` — the bytes between characters.
* `Position.Precedes` — the order in which a text is read.
* `Position.advance`, `Position.after_concat` — what one more character does to a position.
* `Position.precedes_after_append` — positions go on with the text.
* `Text.isBoundary_of_read` — where the parser finds a fault.
* `LineIndex.position_counts` — positions are found, are what a reader counts, and tell places apart.
-/

namespace Connectives

open Text (byteLength)

-- ---------------------------------------------------------------------------
-- Between characters
-- ---------------------------------------------------------------------------

namespace Text

/-- A character of the text starts at the byte, or the text ends there. -/
def IsBoundary (text : String) (offset : Nat) : Prop :=
  String.Pos.Raw.IsValid text ⟨offset⟩

theorem utf8ByteSize_eq_byteLength (text : String) : text.utf8ByteSize = byteLength text.toList := by
  obtain ⟨cs, rfl⟩ : ∃ cs, text = String.ofList cs := ⟨text.toList, String.ofList_toList.symm⟩
  rw [String.toList_ofList]
  induction cs with
  | nil => rfl
  | cons c cs ih =>
    rw [String.ofList_cons, String.utf8ByteSize_append, String.utf8ByteSize_singleton, ih,
      byteLength_cons]

/-- The characters of the text are cut there. -/
theorem isBoundary_iff {text : String} {offset : Nat} :
    IsBoundary text offset ↔
      ∃ before rest, text.toList = before ++ rest ∧ byteLength before = offset := by
  rw [IsBoundary, String.Pos.Raw.isValid_iff_exists_append]
  constructor
  · rintro ⟨before, rest, rfl, hOffset⟩
    refine ⟨before.toList, rest.toList, String.toList_append, ?_⟩
    rw [← utf8ByteSize_eq_byteLength]
    exact congrArg String.Pos.Raw.byteIdx hOffset.symm
  · rintro ⟨before, rest, hSplit, rfl⟩
    refine ⟨String.ofList before, String.ofList rest, ?_, ?_⟩
    · rw [← String.ofList_append, ← hSplit, String.ofList_toList]
    · rw [← String.toList_ofList (l := before), ← utf8ByteSize_eq_byteLength, String.toList_ofList]
      rfl

end Text

-- ---------------------------------------------------------------------------
-- The order of positions
-- ---------------------------------------------------------------------------

namespace Position

/-- A reader comes to the position earlier: on an earlier line, or further to the left. -/
def Precedes (p q : Position) : Prop :=
  p.line < q.line ∨ p.line = q.line ∧ p.column < q.column

variable {p q r : Position}

theorem Precedes.trans (hpq : p.Precedes q) (hqr : q.Precedes r) : p.Precedes r := by
  unfold Precedes at *
  omega

theorem not_precedes_self (p : Position) : ¬ p.Precedes p := by
  unfold Precedes
  omega

/-- The position behind one more character. -/
def advance (p : Position) (c : Char) : Position :=
  if c = '\n' then ⟨p.line + 1, 1⟩ else ⟨p.line, p.column + 1⟩

theorem precedes_advance (p : Position) (c : Char) : p.Precedes (p.advance c) := by
  unfold Precedes advance
  split
  · exact Or.inl (Nat.lt_succ_self _)
  · exact Or.inr ⟨rfl, Nat.lt_succ_self _⟩

/-- One more character: a line feed starts a line, and another one takes a column. -/
theorem after_concat (cs : List Char) (c : Char) :
    Position.after (cs ++ [c]) = (Position.after cs).advance c := by
  rw [Position.after, List.count_append, List.reverse_concat, Position.after, advance]
  split
  · next hFeed =>
    subst hFeed
    rfl
  · next hOther =>
    have hKeep : (c != '\n') = true := bne_iff_ne.2 hOther
    have hNone : [c].count '\n' = 0 := List.count_eq_zero.2 (by simpa using Ne.symm hOther)
    rw [List.takeWhile_cons, if_pos hKeep, List.length_cons, hNone]
    rfl

/-- **Many more**: the position goes on with the text. -/
theorem precedes_after_append (before : List Char) {more : List Char} (h : more ≠ []) :
    (Position.after before).Precedes (Position.after (before ++ more)) := by
  induction more generalizing before with
  | nil => exact absurd rfl h
  | cons c more ih =>
    have hStep := precedes_advance (Position.after before) c
    rw [← after_concat] at hStep
    by_cases hEnd : more = []
    · rw [hEnd]
      exact hStep
    · rw [List.append_cons]
      exact hStep.trans (ih _ hEnd)

end Position

-- ---------------------------------------------------------------------------
-- Where faults are
-- ---------------------------------------------------------------------------

/-- **The parser speaks of no byte inside of a character**, whatever fault it finds. -/
theorem Text.isBoundary_of_read {text : String} {fault : Fault Nat}
    (h : read text.toList = .error fault) : IsBoundary text fault.place := by
  rw [isBoundary_iff]
  -- the parser takes tokens from the front of the text until it stops
  obtain ⟨front, rest, ts, s, hText, hLexes, hReaches, hStops⟩ :=
    State.exists_stops (.operand []) text.toList
  rw [hText, hLexes.read hReaches] at h
  rw [hText]
  cases hStops with
  | @misfit gap spelled rest t expected hGap hMatch hStep =>
    rw [State.readFrom_misfit _ hGap hMatch hStep] at h
    cases h
    exact ⟨front ++ gap, spelled ++ rest, by simp, Text.byteLength_append front gap⟩
  | @stray gap rest c hGap hChar hNone =>
    rw [State.readFrom_stray s _ hGap hChar hNone] at h
    cases h
    exact ⟨front ++ gap, c :: rest, by simp, Text.byteLength_append front gap⟩
  | done hGap =>
    rw [State.readFrom_end s _ hGap, mapError_eq_error_iff] at h
    obtain ⟨expected, -, rfl⟩ := h
    exact ⟨front, rest, rfl, rfl⟩

-- ---------------------------------------------------------------------------
-- Positions of bytes
-- ---------------------------------------------------------------------------

namespace LineIndex

section Places

variable {text : String} {m n : Nat}

/-- Where a character starts later, its position comes later. -/
theorem precedes_position (hm : Text.IsBoundary text m) (hn : Text.IsBoundary text n) (h : m < n) :
    ((ofSource text.toList).position m).Precedes ((ofSource text.toList).position n) := by
  obtain ⟨before, rest, hText, rfl⟩ := Text.isBoundary_iff.1 hm
  obtain ⟨before', rest', hText', rfl⟩ := Text.isBoundary_iff.1 hn
  -- of two cuts of one text, the longer front goes on from the shorter one
  obtain ⟨more, rfl⟩ : before <+: before' := by
    refine (List.prefix_or_prefix_of_prefix ⟨rest, hText.symm⟩ ⟨rest', hText'.symm⟩).resolve_right ?_
    rintro ⟨more, rfl⟩
    rw [Text.byteLength_append] at h
    omega
  have hMore : more ≠ [] := by
    rintro rfl
    rw [List.append_nil] at h
    exact Nat.lt_irrefl _ h
  have hFound := position_ofSource (before ++ more) rest'
  rw [← hText'] at hFound
  rw [hFound, hText, position_ofSource]
  exact Position.precedes_after_append before hMore

theorem lt_iff_precedes_position (hm : Text.IsBoundary text m) (hn : Text.IsBoundary text n) :
    m < n ↔ ((ofSource text.toList).position m).Precedes ((ofSource text.toList).position n) := by
  refine ⟨precedes_position hm hn, fun h => ?_⟩
  rcases Nat.lt_trichotomy m n with hLt | rfl | hGt
  · exact hLt
  · exact absurd h (Position.not_precedes_self _)
  · exact absurd (h.trans (precedes_position hn hm hGt)) (Position.not_precedes_self _)

theorem position_injective (hm : Text.IsBoundary text m) (hn : Text.IsBoundary text n)
    (h : (ofSource text.toList).position m = (ofSource text.toList).position n) : m = n := by
  rcases Nat.lt_trichotomy m n with hLt | rfl | hGt
  · exact absurd (h ▸ precedes_position hm hn hLt) (Position.not_precedes_self _)
  · rfl
  · exact absurd (h ▸ precedes_position hn hm hGt) (Position.not_precedes_self _)

end Places

/--
**A position is what a reader counts.** For every byte at which a character of the text starts, and
for its end, a position is found: its line is one more than the line feeds in front of it, and its
column one more than the characters since the last of these. Positions come in the order of the bytes,
and tell them apart. Whatever the parser reports, it reports by the position of such a byte.
-/
theorem position_counts (text : String) :
    (∀ offset, Text.IsBoundary text offset → ∃ before rest : String,
      text = before ++ rest ∧ before.utf8ByteSize = offset ∧
      (ofSource text.toList).position? offset = some ⟨1 + before.toList.count '\n',
        1 + (before.toList.reverse.takeWhile (· != '\n')).length⟩) ∧
    (∀ m n, Text.IsBoundary text m → Text.IsBoundary text n →
      (m < n ↔ ((ofSource text.toList).position m).Precedes ((ofSource text.toList).position n)) ∧
      (m ≠ n → (ofSource text.toList).position m ≠ (ofSource text.toList).position n)) ∧
    (∀ fault, read text.toList = .error fault → Text.IsBoundary text fault.place ∧
      parse text = .error (fault.map (ofSource text.toList).position)) := by
  refine ⟨fun offset hBoundary => ?_, fun m n hm hn => ⟨lt_iff_precedes_position hm hn, ?_⟩,
    fun fault hRead => ⟨Text.isBoundary_of_read hRead, parse_of_read hRead⟩⟩
  · obtain ⟨before, rest, hText, rfl⟩ := Text.isBoundary_iff.1 hBoundary
    have hFound := position?_ofSource before rest
    rw [← hText] at hFound
    refine ⟨String.ofList before, String.ofList rest, ?_, ?_, ?_⟩
    · rw [← String.ofList_append, ← hText, String.ofList_toList]
    · rw [Text.utf8ByteSize_eq_byteLength, String.toList_ofList]
    · rw [hFound, String.toList_ofList, Position.after]
  · exact fun hNe hSame => hNe (position_injective hm hn hSame)

/-- A wide blank takes three bytes and one column, and a line feed starts a line. The parenthesis
behind them closes nothing, and is told by its own line. -/
theorem position_counts_rparen :
    (∃ before rest : String, "\u3000\n)" = before ++ rest ∧ before.utf8ByteSize = 3 ∧
      (ofSource "\u3000\n)".toList).position? 3 = some ⟨1 + before.toList.count '\n',
        1 + (before.toList.reverse.takeWhile (· != '\n')).length⟩) ∧
    ((ofSource "\u3000\n)".toList).position 3).Precedes
      ((ofSource "\u3000\n)".toList).position 4) ∧
    (ofSource "\u3000\n)".toList).position 3 ≠ (ofSource "\u3000\n)".toList).position 4 ∧
    Text.IsBoundary "\u3000\n)" 4 ∧
    parse "\u3000\n)" = .error (.unexpected ⟨2, 1⟩ operandKinds ")") := by
  have hFeed : Text.IsBoundary "\u3000\n)" 3 :=
    Text.isBoundary_iff.2 ⟨['\u3000'], ['\n', ')'], rfl, rfl⟩
  have hParen : Text.IsBoundary "\u3000\n)" 4 :=
    Text.isBoundary_iff.2 ⟨['\u3000', '\n'], [')'], rfl, rfl⟩
  have hGap : ∀ c ∈ ['\u3000', '\n'], Text.isBlank c = true := List.all_eq_true.1 rfl
  have hMatch : LongestMatch ([')'] ++ []) [')'] .rparen :=
    spells_rparen.longestMatch fun hWord => absurd hWord (by decide)
  have hRead : read "\u3000\n)".toList = .error (.unexpected 4 operandKinds ")") :=
    State.readFrom_misfit 0 hGap hMatch rfl
  obtain ⟨hCounts, hOrder, hFaults⟩ := position_counts "\u3000\n)"
  obtain ⟨hReported, hParse⟩ := hFaults _ hRead
  refine ⟨hCounts 3 hFeed, (hOrder 3 4 hFeed hParen).1.1 (by decide),
    (hOrder 3 4 hFeed hParen).2 (by decide), hReported, ?_⟩
  rw [hParse]
  rfl

end LineIndex

end Connectives
