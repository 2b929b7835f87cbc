import Connectives.Grammar.Fault
import Connectives.Grammar.Lexer

/-!
# Connectives — reading formulas

The parser is a machine that takes one token at a time. It wants an operand, or it has one and
wants an operator; what is still open to the left stands on a stack. A token that the machine
cannot take is the first one with which no formula goes on, so faults are found in reading order.

The machine stands for a shift-reduce parser that is generated from the grammar. The tables of that
parser are not modelled. That it reads one token at a time and stops at the first one that it cannot
take is assumed of it; which formula a text has is then settled by the grammar alone. The kinds that
are listed at a fault are not settled by the grammar. They are taken from what the generated parser
answers:

* `operandKinds`, where an operand is wanted.
* `operatorKinds`, behind an operand, for a token that can never follow one. The closing parenthesis
  is among them even if none is open, since the state of the tables is the same in both cases.
* `[]`, for a closing parenthesis too many. It can follow an operand, so everything that is open is
  completed first, and behind a whole formula the tables have no token.
* `[.rparen]`, at an end inside of a parenthesis. The end can follow an operand too, so everything
  is completed up to the parenthesis, and behind that the tables have no other token.

Main definitions:

* `State.step` — what a token does.
* `State.finish` — what the end of the text does.
* `parse` — the formula of a text, or the first fault in it.
-/

namespace Connectives

/-- Something still open to the left of the reading point. -/
inductive Frame where
  /-- An opening parenthesis. -/
  | paren
  /-- A negation that waits for its operand. -/
  | not
  /-- A binary connective with its left operand, which waits for the right one. -/
  | left (op : BinaryOp) (operand : Formula)
  deriving DecidableEq, Repr

/-- The parser between two tokens; the innermost frame comes first. -/
inductive State where
  /-- An operand is wanted. -/
  | operand (stack : List Frame)
  /-- A complete operand has been read. -/
  | operator (stack : List Frame) (read : Formula)
  deriving DecidableEq, Repr

namespace State

/-- Applies the negations that waited for this operand. -/
def closeNegations : List Frame → Formula → State
  | .not :: stack, f => closeNegations stack (.not f)
  | stack, f => .operator stack f

/-- Whether a connective whose right operand is complete takes it, rather than leave it to the
connective that comes next as a left operand. -/
def takesBefore (op next : BinaryOp) : Bool :=
  next.strength < op.strength || (op.strength == next.strength && next.groupsLeft)

/-- Opens a connective after an operand: first come all those to the left that take the operand
themselves. -/
def openBinary (next : BinaryOp) : List Frame → Formula → State
  | .left op f :: stack, g =>
    if takesBefore op next then openBinary next stack (.binary op f g)
    else .operand (.left next g :: .left op f :: stack)
  | stack, g => .operand (.left next g :: stack)

/-- Applies the connectives that wait for this operand, up to the innermost open parenthesis, and
tells what stands outside of it; none if no parenthesis is open. -/
def closeBinaries : List Frame → Formula → Formula × Option (List Frame)
  | .left op f :: stack, g => closeBinaries stack (.binary op f g)
  | .not :: stack, f => closeBinaries stack (.not f)
  | .paren :: stack, f => (f, some stack)
  | [], f => (f, none)

/-- Takes a token, or tells which kinds are listed in place of it. -/
def step : State → Token → Except (List TokenKind) State
  | operand stack, .lparen => .ok (.operand (.paren :: stack))
  | operand stack, .not => .ok (.operand (.not :: stack))
  | operand stack, .top => .ok (closeNegations stack .top)
  | operand stack, .bottom => .ok (closeNegations stack .bottom)
  | operand stack, .var v => .ok (closeNegations stack (.var v))
  | operand _, _ => .error operandKinds
  | operator stack f, .binary op => .ok (openBinary op stack f)
  | operator stack f, .rparen =>
    match closeBinaries stack f with
    | (g, some outer) => .ok (closeNegations outer g)
    | (_, none) => .error []
  | operator _ _, _ => .error operatorKinds

/-- Ends the text, or tells which kinds are listed as missing. -/
def finish : State → Except (List TokenKind) Formula
  | operand _ => .error operandKinds
  | operator stack f =>
    match closeBinaries stack f with
    | (_, some _) => .error [.rparen]
    | (g, none) => .ok g

/-- Reads the lexemes that are left of a text, where `last` is the end of the one before them. -/
def run (stray : Option Nat) : State → Nat → List Lexeme → Except (Fault Nat) Formula
  | s, last, [] =>
    match stray with
    | some place => .error (.invalid place)
    | none => s.finish.mapError (.incomplete last)
  | s, _, l :: ls =>
    match s.step l.token with
    | .ok s' => run stray s' l.stop ls
    | .error expected => .error (.unexpected l.start expected l.text)

end State

/-- The formula that a text denotes, or the first fault in it by byte offset. -/
def read (cs : List Char) : Except (Fault Nat) Formula :=
  let lexing := lex cs
  State.run lexing.stray (.operand []) 0 lexing.lexemes

/-- The formula that a text denotes, or the first fault in it. -/
def parse (text : String) : Except ParseError Formula :=
  let cs := text.toList
  (read cs).mapError (Fault.map (LineIndex.ofSource cs).position)

end Connectives
