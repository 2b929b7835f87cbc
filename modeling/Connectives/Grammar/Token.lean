import Connectives.Formula.Basic

/-!
# Connectives — tokens and their spellings

Formulas are written with parentheses, constants, connectives and variables. Most tokens have
several spellings: a mathematical symbol, an ASCII symbol and a word. `spellings` is the one table
of them; the lexer, the list of what could have stood at a fault, and the reading of a token's
name all go back to it.
-/

namespace Connectives

/-- What a token is, without the name of a variable. `unknown` is the kind of a text that spells
no token. -/
inductive TokenKind where
  | lparen
  | rparen
  | top
  | bottom
  | not
  | binary (op : BinaryOp)
  | var
  | unknown
  deriving DecidableEq, Repr

/-- A token of the language of formulas. -/
inductive Token where
  | lparen
  | rparen
  | top
  | bottom
  | not
  | binary (op : BinaryOp)
  | var (name : String)
  deriving DecidableEq, Repr

/-- The kind of a token. -/
def Token.kind : Token → TokenKind
  | .lparen => .lparen
  | .rparen => .rparen
  | .top => .top
  | .bottom => .bottom
  | .not => .not
  | .binary op => .binary op
  | .var _ => .var

namespace TokenKind

/-- The token of a kind that has only one. -/
def token? : TokenKind → Option Token
  | lparen => some .lparen
  | rparen => some .rparen
  | top => some .top
  | bottom => some .bottom
  | not => some .not
  | binary op => some (.binary op)
  | var | unknown => none

/-- Whether an operand can start with a token of this kind. -/
def startsOperand : TokenKind → Bool
  | lparen | top | bottom | not | var => true
  | rparen | binary _ | unknown => false

/-- Whether a token of this kind can come after a complete operand. -/
def followsOperand : TokenKind → Bool
  | rparen | binary _ => true
  | lparen | top | bottom | not | var | unknown => false

/-- The name of the kind in messages. -/
def label : TokenKind → String
  | lparen => "`(`"
  | rparen => "`)`"
  | top => "`true`"
  | bottom => "`false`"
  | not => "`not`"
  | binary .and => "`and`"
  | binary .or => "`or`"
  | binary .implies => "`implies`"
  | binary .xor => "`xor`"
  | binary .iff => "`iff`"
  | binary .nand => "`nand`"
  | binary .nor => "`nor`"
  | var => "`variable`"
  | unknown => "`unknown token`"

instance : ToString TokenKind where
  toString := label

end TokenKind

-- ---------------------------------------------------------------------------
-- Spellings
-- ---------------------------------------------------------------------------

/-- Every spelling of every kind, in the order of code points. All variables together are entered
once, under a placeholder that is no word. -/
def spellings : List (String × TokenKind) :=
  [("&", .binary .and),
    ("(", .lparen),
    (")", .rparen),
    ("+", .binary .xor),
    ("-&", .binary .nand),
    ("->", .binary .implies),
    ("-|", .binary .nor),
    ("<->", .binary .iff),
    ("<=>", .binary .iff),
    ("_VAR_", .var),
    ("and", .binary .and),
    ("false", .bottom),
    ("iff", .binary .iff),
    ("implies", .binary .implies),
    ("nand", .binary .nand),
    ("nor", .binary .nor),
    ("not", .not),
    ("or", .binary .or),
    ("true", .top),
    ("xor", .binary .xor),
    ("|", .binary .or),
    ("~", .not),
    ("¬", .not),
    ("↑", .binary .nand),
    ("→", .binary .implies),
    ("↓", .binary .nor),
    ("↔", .binary .iff),
    ("⇔", .binary .iff),
    ("∧", .binary .and),
    ("∨", .binary .or),
    ("⊕", .binary .xor),
    ("⊤", .top),
    ("⟘", .bottom)]

/-- The kind that a text spells. Quotation marks around the spelling are disregarded. -/
def TokenKind.ofSpelling (text : String) : TokenKind :=
  let unquoted := (text.toList.dropWhile (· == '"')).reverse.dropWhile (· == '"')
  (spellings.lookup (String.ofList unquoted.reverse)).getD .unknown

/-- The token that a text spells, variables aside. -/
def Token.ofSpelling? (text : String) : Option Token :=
  (spellings.lookup text).bind TokenKind.token?

/-- What could stand where an operand is wanted, once per spelling. -/
def operandKinds : List TokenKind :=
  (spellings.map (·.2)).filter TokenKind.startsOperand

/-- What could come after a complete operand, once per spelling. -/
def operatorKinds : List TokenKind :=
  (spellings.map (·.2)).filter TokenKind.followsOperand

end Connectives
