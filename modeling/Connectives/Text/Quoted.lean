import Connectives.Text.Unprintable

/-!
# Connectives — quoted text

Text between quotation marks, in which every character can be made out: a quotation mark, a
backslash and the usual line and tabulator characters are escaped by a backslash and a letter, and
any other character without a visible shape of its own by its code point in hexadecimal.
-/

namespace Connectives.Text

/-- A code point in lower-case hexadecimal, without leading zeros. -/
def hex (n : Nat) : String :=
  String.ofList (Nat.toDigits 16 n)

/-- A character between quotation marks. -/
def quotedChar (c : Char) : String :=
  if c = '"' then "\\\""
  else if c = '\\' then "\\\\"
  else if c = '\n' then "\\n"
  else if c = '\r' then "\\r"
  else if c = '\t' then "\\t"
  else if c.toNat = 0 then "\\0"
  else if isUnprintable c then "\\u\x7b" ++ hex c.toNat ++ "\x7d"
  else c.toString

/-- The text between quotation marks. -/
def quoted (s : String) : String :=
  "\"" ++ String.join (s.toList.map quotedChar) ++ "\""

end Connectives.Text
