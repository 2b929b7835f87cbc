import Connectives.Log.Record
import Connectives.Proofs.Json.Literal

/-!
# Connectives — records are read back

The line of a record is JSON, and whatever texts the record holds it is one line.

* `Json.tokens?_literal`, `Json.tokens?_punctuation` — the tokens of what is written.
* `ConversionRecord.ofText?_line` — the record of its line.
* `ConversionRecord.not_isControl_of_mem_line` — the line does not end early.
-/

namespace Connectives

namespace Json

-- ---------------------------------------------------------------------------
-- Tokens of what is written
-- ---------------------------------------------------------------------------

theorem tokens?_of_first? {c : Char} {cs rest : List Char} {t : Token}
    (hSpace : isSpace c = false) (hFirst : Token.first? c cs = some (t, rest)) :
    tokens? (c :: cs) = (t :: ·) <$> tokens? rest := by
  rw [tokens?, if_neg (by rw [hSpace]; exact Bool.false_ne_true)]
  split
  · next hNone =>
    rw [hFirst] at hNone
    cases hNone
  · next hSome =>
    rw [hFirst] at hSome
    cases hSome
    rfl

/-- A literal is one token, and the text is the one that was written. -/
theorem tokens?_literal (s : String) (rest : List Char) :
    tokens? ((literal s).toList ++ rest) = (.string (some s) :: ·) <$> tokens? rest := by
  have hFirst : Token.first? '"' (s.toList.flatMap escape ++ '"' :: rest) =
      some (.string (some s), rest) := by
    rw [Token.first?, if_pos rfl, readLiteral?_literal]
    show some (Token.string ((textOf? (s.toList.map pieceOf)).map String.ofList), rest) = _
    rw [textOf?_pieces, Option.map_some, String.ofList_toList]
  have hTokens := tokens?_of_first? (by decide) hFirst
  simpa [literal] using hTokens

/-- The characters that stand between the literals of an object, with their tokens. -/
def punctuation : List (Char × Token) :=
  [('\x7b', .leftBrace), (':', .colon), (',', .comma), ('\x7d', .rightBrace)]

theorem tokens?_punctuation {c : Char} {t : Token} (h : (c, t) ∈ punctuation) (rest : List Char) :
    tokens? (c :: rest) = (t :: ·) <$> tokens? rest := by
  have hFirst : isSpace c = false ∧ Token.first? c rest = some (t, rest) := by
    simp only [punctuation, List.mem_cons, List.not_mem_nil, or_false, Prod.mk.injEq] at h
    rcases h with ⟨rfl, rfl⟩ | ⟨rfl, rfl⟩ | ⟨rfl, rfl⟩ | ⟨rfl, rfl⟩ <;> exact ⟨by decide, rfl⟩
  exact tokens?_of_first? hFirst.1 hFirst.2

end Json

namespace ConversionRecord

open Json (literal tokens?_literal tokens?_punctuation)

/-- A member of an object as it is written. -/
def memberText (name text : String) : List Char :=
  (literal name).toList ++ ':' :: (literal text).toList

theorem toList_line (r : ConversionRecord) :
    r.line.toList = '\x7b' :: (memberText eventField r.event ++
      ',' :: (memberText basisField r.basis ++ ',' :: (memberText inputField r.input ++
        ',' :: (memberText outputField r.output ++ ['\x7d'])))) := by
  have hJoin (a b c d : String) :
      ",".intercalate [a, b, c, d] = a ++ "," ++ b ++ "," ++ c ++ "," ++ d := rfl
  simp [line, fields, memberText, hJoin]

theorem tokens?_memberText (name text : String) (rest : List Char) :
    Json.tokens? (memberText name text ++ rest) =
      (fun ts => .string (some name) :: .colon :: .string (some text) :: ts) <$>
        Json.tokens? rest := by
  have hColon := tokens?_punctuation (c := ':') (t := .colon) (by decide)
  rw [memberText, List.append_assoc, tokens?_literal, List.cons_append, hColon, tokens?_literal]
  cases Json.tokens? rest with
  | none => rfl
  | some ts => rfl

/-- **A record is read back from its line.** -/
theorem ofText?_line (r : ConversionRecord) : ofText? r.line = some r := by
  have hOpen := tokens?_punctuation (c := '\x7b') (t := .leftBrace) (by decide)
  have hComma := tokens?_punctuation (c := ',') (t := .comma) (by decide)
  have hClose := tokens?_punctuation (c := '\x7d') (t := .rightBrace) (by decide)
  have hTokens : Json.tokens? r.line.toList =
      some [.leftBrace, .string (some eventField), .colon, .string (some r.event), .comma,
        .string (some basisField), .colon, .string (some r.basis), .comma,
        .string (some inputField), .colon, .string (some r.input), .comma,
        .string (some outputField), .colon, .string (some r.output), .rightBrace] := by
    rw [toList_line, hOpen, tokens?_memberText, hComma, tokens?_memberText, hComma,
      tokens?_memberText, hComma, tokens?_memberText, hClose, Json.tokens?]
    rfl
  rw [ofText?, Json.Value.ofText?, hTokens]
  rfl

/-- **No control character stands in the line of a record**, so it does not end early. -/
theorem not_isControl_of_mem_line {r : ConversionRecord} {c : Char} (h : c ∈ r.line.toList) :
    Json.isControl c = false := by
  have hMember {name text : String} (hMem : c ∈ memberText name text) :
      Json.isControl c = false := by
    rw [memberText, List.mem_append, List.mem_cons] at hMem
    rcases hMem with hName | rfl | hText
    · exact Json.not_isControl_of_mem_literal hName
    · decide
    · exact Json.not_isControl_of_mem_literal hText
  rw [toList_line] at h
  simp only [List.mem_cons, List.mem_append, List.not_mem_nil, or_false] at h
  rcases h with rfl | hEvent | rfl | hBasis | rfl | hInput | rfl | hOutput | rfl
  · decide
  · exact hMember hEvent
  · decide
  · exact hMember hBasis
  · decide
  · exact hMember hInput
  · decide
  · exact hMember hOutput
  · decide

end ConversionRecord

end Connectives
