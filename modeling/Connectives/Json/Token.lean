import Connectives.Json.Literal

/-!
# Connectives — tokens of JSON

Cuts a JSON text into tokens. A number is a run of the characters that numbers are made of, and
must then follow the rules for numbers as a whole: no superfluous zero in front, and at least one
digit on either side of the point and in the exponent.
-/

namespace Connectives.Json

/-- A token of JSON. The text of a string is missing if the literal denotes none. -/
inductive Token where
  | leftBrace
  | rightBrace
  | leftBracket
  | rightBracket
  | comma
  | colon
  | null
  | bool (b : Bool)
  | number (text : String)
  | string (text? : Option String)
  deriving DecidableEq, Repr

-- ---------------------------------------------------------------------------
-- Numbers
-- ---------------------------------------------------------------------------

/-- Whether numbers are made of such characters. -/
def isNumberChar (c : Char) : Bool :=
  c.isDigit || c == '-' || c == '+' || c == '.' || c == 'e' || c == 'E'

/-- What comes after a run of digits, of which there must be one. -/
def dropDigits? : List Char → Option (List Char)
  | [] => none
  | c :: cs => if c.isDigit then some (cs.dropWhile Char.isDigit) else none

/-- What comes after the integer part of a number. -/
def dropInteger? : List Char → Option (List Char)
  | '0' :: cs => some cs
  | cs => dropDigits? cs

/-- What comes after the fractional part of a number, which may be missing. -/
def dropFraction? : List Char → Option (List Char)
  | '.' :: cs => dropDigits? cs
  | cs => some cs

/-- The characters without a sign in front. -/
def dropSign : List Char → List Char
  | c :: cs => if c == '-' || c == '+' then cs else c :: cs
  | [] => []

/-- What comes after the exponent of a number, which may be missing. -/
def dropExponent? : List Char → Option (List Char)
  | c :: cs => if c == 'e' || c == 'E' then dropDigits? (dropSign cs) else some (c :: cs)
  | [] => some []

/-- Whether the characters are a number as a whole. -/
def isNumber (cs : List Char) : Bool :=
  let unsigned := if cs.head? == some '-' then cs.tail else cs
  (((dropInteger? unsigned).bind dropFraction?).bind dropExponent?) == some []

-- ---------------------------------------------------------------------------
-- Tokens
-- ---------------------------------------------------------------------------

/-- The tokens that have one spelling. -/
def fixedTokens : List (List Char × Token) :=
  [(['\x7b'], .leftBrace), (['\x7d'], .rightBrace), (['['], .leftBracket), ([']'], .rightBracket),
    ([','], .comma), ([':'], .colon), (['n', 'u', 'l', 'l'], .null),
    (['t', 'r', 'u', 'e'], .bool true), (['f', 'a', 'l', 's', 'e'], .bool false)]

/-- Whether a character may stand between tokens. -/
def isSpace (c : Char) : Bool :=
  c == ' ' || c == '\t' || c == '\n' || c == '\r'

/-- The token at the start of a text that starts with no space, and what comes after it. -/
def Token.first? (c : Char) (cs : List Char) : Option (Token × List Char) :=
  if c = '"' then
    (readLiteral? cs).map fun (ps, rest) => (.string ((textOf? ps).map String.ofList), rest)
  else if isNumberChar c then
    let digits := c :: cs.takeWhile isNumberChar
    if isNumber digits then some (.number (String.ofList digits), cs.dropWhile isNumberChar)
    else none
  else
    (fixedTokens.find? fun t => t.1.isPrefixOf (c :: cs)).map fun t =>
      (t.2, (c :: cs).drop t.1.length)

private theorem fixedTokens_nonempty : ∀ t ∈ fixedTokens, t.1.length ≠ 0 := by
  decide

/-- Reading a token gets ahead. -/
theorem Token.first?_progress {c : Char} {cs rest : List Char} {t : Token}
    (h : Token.first? c cs = some (t, rest)) : rest.length < cs.length + 1 := by
  unfold Token.first? at h
  split at h
  · obtain ⟨⟨ps, rest'⟩, hr, heq⟩ := Option.map_eq_some_iff.1 h
    cases heq
    exact Nat.lt_succ_of_lt (readLiteral?_progress hr)
  · split at h
    · dsimp only at h
      split at h
      · cases h
        exact Nat.lt_succ_of_le (List.dropWhile_sublist _).length_le
      · cases h
    · obtain ⟨s, hs, heq⟩ := Option.map_eq_some_iff.1 h
      cases heq
      have := fixedTokens_nonempty s (List.mem_of_find?_eq_some hs)
      simp only [List.length_drop, List.length_cons]
      omega

/-- The tokens of a text; none if some part of it is no token. -/
def tokens? (cs : List Char) : Option (List Token) :=
  match cs with
  | [] => some []
  | c :: cs =>
    if isSpace c then tokens? cs
    else
      match _ : Token.first? c cs with
      | none => none
      | some (t, rest) => (t :: ·) <$> tokens? rest
termination_by cs.length
decreasing_by
  · simp
  · exact Token.first?_progress ‹_›

end Connectives.Json
