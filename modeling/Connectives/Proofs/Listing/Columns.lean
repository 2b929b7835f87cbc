import Connectives.Proofs.Grammar.Indentation
import Connectives.Proofs.Listing.Reading

/-!
# Connectives — the columns of a listing

A line of a listing is freed of the blanks around it before it is read, and its fault is reported with
the place that it then has. So the column lacks the blanks that the line is indented by. It is the
column of the text just for the lines that are not indented, while the number of the line is that of
the text for all of them.

* `Listing.Holds.faultBehind` — what stands in front of a fault on the line as it was given.
* `Listing.column_lacks_indentation` — how far the column that is reported falls short.
* `Listing.column_of_indented_rparen` — a line for which it does.
-/

namespace Connectives

namespace Listing

open Text (InLines isBlank)

/-- The number of blanks in front of a line. -/
def indentation (line : List Char) : Nat :=
  (line.takeWhile isBlank).length

theorem indentation_eq_zero_iff {line : List Char} :
    indentation line = 0 ↔ ∀ c ∈ line.head?, isBlank c = false := by
  rw [indentation, List.length_eq_zero_iff]
  cases line with
  | nil => simp
  | cons c cs => simp [List.takeWhile_cons]

/-- **On the line as it was given** the blanks in front of it stand in front of its fault as well. -/
theorem Holds.faultBehind {line core before : List Char} {fault : ParseError} (h : Holds line core)
    (hFault : FaultBehind core before fault) :
    FaultBehind line (line.takeWhile isBlank ++ before) fault := by
  obtain ⟨⟨front, back, rfl, hFront, hBack, hEnds⟩, hSome, -⟩ := h
  obtain ⟨c, cs, rfl⟩ := List.exists_cons_of_ne_nil hSome
  have hFirst : isBlank c = false := hEnds.first c rfl
  have hHead : ∀ d ∈ (c :: cs ++ back).head?, isBlank d = false := hEnds.first
  rw [takeWhile_blanks hFront hHead]
  exact (hFault.append_blanks hBack).indent hFront ⟨c, by simp, hFirst⟩

/-- A parenthesis that closes nothing is said to stand in column 1, however the line is indented. -/
theorem parse_indented_rparen {margin : List Char} (hMargin : ∀ c ∈ margin, isBlank c = true)
    (hFeed : '\n' ∉ margin) :
    InLines (margin ++ [')']) [margin ++ [')']] ∧
      parse (String.ofList (margin ++ [')'])) =
        .error ⟨1, .unexpected ⟨1, 1⟩ operandKinds ")"⟩ := by
  have hLines : InLines (margin ++ [')']) [margin ++ [')']] :=
    .last (List.append_ne_nil_of_right_ne_nil margin (List.cons_ne_nil _ _)) (by simp [hFeed])
  have hLines' : InLines (String.ofList (margin ++ [')'])).toList [margin ++ [')']] := by
    rwa [String.toList_ofList]
  have hNone : ∀ c ∈ ([] : List Char), isBlank c = true := nofun
  have hHolds : Holds (margin ++ [')']) [')'] :=
    ⟨spells_rparen.bareEnds.trimsTo hMargin hNone, by decide, by decide⟩
  refine ⟨hLines, (parse_eq_error_iff_holdsAt hLines').2 ⟨[')'], ?_, parse_rparen, ?_⟩⟩
  · exact ⟨0, _, rfl, rfl, hHolds⟩
  · rintro n hn core ⟨i, line, rfl, -, -⟩
    exact absurd hn (Nat.not_lt.2 (Nat.le_add_left 1 i))

theorem faultBehind_rparen : FaultBehind [')'] [] (.unexpected ⟨1, 1⟩ operandKinds ")") := by
  obtain ⟨before, hFault, hPlace⟩ := exists_faultBehind_of_parse parse_rparen
  rw [hFault.after_eq (by decide)] at hPlace
  have hLength : before.length = 0 := by
    have hColumn := congrArg Position.column hPlace
    simpa [Fault.place] using hColumn
  rwa [List.length_eq_zero_iff.1 hLength] at hFault

/-- **The column of a fault lacks the indentation of its line.** Where reading a listing fails, the
line that is named is the line of the text with this number, and it has the fault that is reported.
The position says line 1, as the line was read on its own, and the column falls short of the one in
the text by the number of blanks in front of the line. So it is right just if there are none. -/
theorem column_lacks_indentation {text : String} {ls : List (List Char)}
    (hLines : InLines text.toList ls) {e : Error} (h : parse text = .error e) :
    ∃ i line, e.line = i + 1 ∧ ls[i]? = some line ∧ e.fault.place.line = 1 ∧
      (∃ before, FaultBehind line before e.fault) ∧
      ∀ before, FaultBehind line before e.fault →
        e.fault.place.column + indentation line = 1 + before.length ∧
          (e.fault.place.column = 1 + before.length ↔ ∀ c ∈ line.head?, isBlank c = false) := by
  obtain ⟨core, ⟨i, line, hNumber, hLine, hHolds⟩, hParse, -⟩ :=
    (parse_eq_error_iff_holdsAt hLines).1 h
  have hFeed : '\n' ∉ line := hLines.not_newline_mem line (List.mem_of_getElem? hLine)
  have hCore : '\n' ∉ core := by
    obtain ⟨front, back, rfl, -⟩ := hHolds.1
    exact fun hMem => hFeed (by simp [hMem])
  obtain ⟨before, hFault, hPlace⟩ := exists_faultBehind_of_parse hParse
  rw [String.toList_ofList] at hFault
  have hGiven := hHolds.faultBehind hFault
  rw [hFault.after_eq hCore] at hPlace
  refine ⟨i, line, hNumber, hLine, by rw [hPlace], ⟨_, hGiven⟩, fun before' hFault' => ?_⟩
  have hColumn : e.fault.place.column = 1 + before.length := by rw [hPlace]
  have hLength : before'.length = indentation line + before.length := by
    rw [hFault'.length_eq hGiven hFeed, List.length_append, indentation]
  rw [hColumn, hLength, ← indentation_eq_zero_iff]
  omega

/-- Behind a no-break space and a space the fault is in column 3, and column 1 is reported. -/
theorem column_lacks_indentation_rparen :
    let fault : ParseError := .unexpected ⟨1, 1⟩ operandKinds ")"
    parse "\u00a0 )" = .error ⟨1, fault⟩ ∧
      ∃ before, FaultBehind "\u00a0 )".toList before fault ∧ 1 + 2 = 1 + before.length := by
  intro fault
  have hMargin : ∀ c ∈ ['\u00a0', ' '], isBlank c = true := List.all_eq_true.1 (by decide)
  obtain ⟨hLines, hParse⟩ := parse_indented_rparen hMargin (by decide)
  obtain ⟨i, line, hNumber, hLine, -, ⟨before, hFault⟩, hColumn⟩ :=
    @column_lacks_indentation "\u00a0 )" _ hLines _ hParse
  cases hNumber
  cases hLine
  exact ⟨hParse, before, hFault, (hColumn before hFault).1⟩

/-- With two spaces in front, a parenthesis that closes nothing stands in column 3, but is reported
in column 1: in the text with this one line, two characters come in front of the fault. -/
theorem column_of_indented_rparen :
    ¬ ∀ (text : String) (ls : List (List Char)) (e : Error), InLines text.toList ls →
      parse text = .error e → ∀ i line before, e.line = i + 1 → ls[i]? = some line →
        FaultBehind line before e.fault → e.fault.place.column = 1 + before.length := by
  intro hClaim
  have hMargin : ∀ c ∈ [' ', ' '], isBlank c = true := List.all_eq_true.1 (by decide)
  obtain ⟨hLines, hParse⟩ := parse_indented_rparen hMargin (by decide)
  have hFault := faultBehind_rparen.indent hMargin ⟨')', by decide⟩
  have hColumn := hClaim "  )" _ _ hLines hParse 0 _ _ rfl rfl hFault
  exact absurd hColumn (by decide)

end Listing

end Connectives
