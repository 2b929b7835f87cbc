/-!
# Connectives — the words of a command line

A word that begins with a dash and has more to it is an option, wherever it stands. A long option
begins with two dashes, and the first `=` separates it from a value. A short option is a dash with
one letter, and what follows in the same word is a value, with or without `=` in between. The word
`--` ends the options.
-/

namespace Connectives

/-- How a word reads on its own. -/
inductive Word where
  /-- A long option, with the value that stands in the same word. -/
  | long (name : String) (value? : Option String)
  /-- A short option with the rest of the word. -/
  | short (letter : Char) (rest : List Char)
  /-- No more options come after this. -/
  | endOfOptions
  /-- Neither of these. -/
  | plain (text : String)
  deriving DecidableEq, Repr

namespace Word

/-- The characters as a value. Signs of equality in front of it do not count. -/
def valueOf (cs : List Char) : String :=
  String.ofList (cs.dropWhile (· == '='))

/-- Reads the rest of a word that begins with two dashes. Further dashes do not count. -/
def ofLong (cs : List Char) : Word :=
  let body := cs.dropWhile (· == '-')
  let name := String.ofList (body.takeWhile (· != '='))
  match body.dropWhile (· != '=') with
  | [] => long name none
  | _ :: value => long name (some (valueOf value))

/-- Reads a word. -/
def ofChars : List Char → Word
  | ['-', '-'] => endOfOptions
  | '-' :: '-' :: cs => ofLong cs
  | '-' :: c :: cs => short c cs
  | cs => plain (String.ofList cs)

end Word

end Connectives
