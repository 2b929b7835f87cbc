import Connectives.Basis.Basic
import Connectives.Command.Word
import Connectives.Text.Resemblance

/-!
# Connectives — invocations

What the words of a command line ask for. The command has options of its own, then the name of
a subcommand, and then the options of that subcommand:

* `convert` expresses formulas in bases;
* `table` shows truth tables;
* `bases` lists the bases.

Faults are reported in the order in which the words are read, those of the subcommand before any
that concern the options of the command as a whole.
-/

namespace Connectives

-- ---------------------------------------------------------------------------
-- Options
-- ---------------------------------------------------------------------------

/-- How many values an option takes. -/
inductive OptionArity where
  | none
  | one
  | many
  deriving DecidableEq, Repr

/-- An option of the command or of a subcommand. -/
inductive CommandOption where
  | help
  | version
  | noColor
  | log
  | input
  | basis
  | verify
  deriving DecidableEq, Repr

namespace CommandOption

/-- The name after two dashes. -/
def long : CommandOption → String
  | help => "help"
  | version => "version"
  | noColor => "no-color"
  | log => "log"
  | input => "input"
  | basis => "basis"
  | verify => "verify"

/-- The letter after one dash. -/
def short? : CommandOption → Option Char
  | help => some 'h'
  | version => some 'V'
  | log => some 'l'
  | input => some 'i'
  | basis => some 'b'
  | noColor | verify => none

/-- How many values the option takes. Those of `basis` end where the next option begins. -/
def arity : CommandOption → OptionArity
  | help | version | noColor | verify => .none
  | log | input => .one
  | basis => .many

end CommandOption

/-- The command itself, or one of its subcommands. -/
inductive CommandLevel where
  | command
  | convert
  | table
  | bases
  deriving DecidableEq, Repr

namespace CommandLevel

/-- The options that can stand at a level. -/
def options : CommandLevel → List CommandOption
  | command => [.help, .version, .noColor, .log]
  | convert => [.help, .version, .input, .basis, .verify]
  | table => [.help, .version, .input]
  | bases => [.help, .version]

/-- The subcommands at a level with their names. -/
def subcommands : CommandLevel → List (String × CommandLevel)
  | command => [("convert", convert), ("table", table), ("bases", bases)]
  | convert | table | bases => []

/-- The words that can be said in place of an option. Where there are subcommands, `help` is one
of them. -/
def commandWords (level : CommandLevel) : List String :=
  match level.subcommands.map (·.1) with
  | [] => []
  | names => names ++ ["help"]

end CommandLevel

/-- Why a command line is not carried out. -/
inductive UsageFault where
  /-- A word that means nothing where it stands. -/
  | unknownArgument
  /-- A word that may be meant for a subcommand. -/
  | misspelledSubcommand
  /-- Help is asked for on a subcommand that there is not. -/
  | unknownSubcommand
  /-- There is no subcommand. -/
  | missingSubcommand
  /-- An option lacks its value. -/
  | missingValue
  /-- A value is of the wrong kind. -/
  | invalidValue
  /-- An option that may be given only once is given again. -/
  | repeatedOption
  /-- Help is asked for. -/
  | help
  /-- The version is asked for. -/
  | version
  deriving DecidableEq, Repr

-- ---------------------------------------------------------------------------
-- Reading the words
-- ---------------------------------------------------------------------------

/-- An option in the words of a command line, or one of its values. -/
inductive Mention where
  | option (o : CommandOption)
  | value (o : CommandOption) (text : String)
  deriving DecidableEq, Repr

/-- What a word gives that is an option: the option, its value in the same word, and the option
itself again if it takes its next value from the words that follow. -/
structure GivenOption where
  option : CommandOption
  value? : Option String
  wants : Option CommandOption
  deriving DecidableEq, Repr

namespace GivenOption

/-- An option without a value in the same word. -/
def bare (o : CommandOption) : GivenOption :=
  ⟨o, none, if o.arity = .none then none else some o⟩

/-- An option with a value in the same word, set off by a sign of equality. No further values
follow, and an option that takes none disregards this one. -/
def assigned (o : CommandOption) (value : String) : GivenOption :=
  ⟨o, if o.arity = .none then none else some value, none⟩

/-- An option with a value that directly follows it. -/
def attached (o : CommandOption) (value : String) : GivenOption :=
  ⟨o, some value, if o.arity = .many then some o else none⟩

/-- The option among these that a word gives. -/
def ofWord? (options : List CommandOption) : Word → Option GivenOption
  | .long name value? =>
    (options.find? (·.long == name)).map fun o =>
      match value? with
      | none => bare o
      | some value => assigned o value
  | .short letter rest =>
    (options.find? (·.short? == some letter)).map fun o =>
      match rest with
      | [] => bare o
      | '=' :: _ => assigned o (Word.valueOf rest)
      | _ => attached o (String.ofList rest)
  | .endOfOptions | .plain _ => none

/-- The option with its value. -/
def mentions (g : GivenOption) : List Mention :=
  .option g.option :: (g.value?.map (Mention.value g.option)).toList

end GivenOption

/-- What the words at a level say, and the subcommand with the words after it. -/
structure Scan where
  mentions : List Mention
  subcommand? : Option (CommandLevel × List String)

/-- What is wrong with a word where neither a value is wanted nor a subcommand is named. -/
def strayWord (level : CommandLevel) (text : String) : UsageFault :=
  if level.commandWords.any fun name => Text.resembles text.toList name.toList then
    .misspelledSubcommand
  else .unknownArgument

/-- What comes of a request for help with these words after it: help on the command as a whole or
on one subcommand. -/
def helpFault (level : CommandLevel) : List String → UsageFault
  | [] => .help
  | [name] => if name ∈ level.commandWords then .help else .unknownSubcommand
  | _ => .unknownSubcommand

/-- Reads the words at a level, where `wanted` is the option that takes the next value. -/
def scan (level : CommandLevel) : Option CommandOption → List String → Except UsageFault Scan
  | _, [] => .ok ⟨[], none⟩
  | wanted, word :: words =>
    match Word.ofChars word.toList with
    | .endOfOptions =>
      match words with
      | [] => .ok ⟨[], none⟩
      | next :: _ => .error (strayWord level next)
    | .plain text =>
      match wanted with
      | some o => do
        let later ← scan level (if o.arity = .many then some o else none) words
        return { later with mentions := .value o text :: later.mentions }
      | none =>
        match level.subcommands.lookup text with
        | some sub => .ok ⟨[], some (sub, words)⟩
        | none =>
          .error (if text ∈ level.commandWords then helpFault level words else strayWord level text)
    | word =>
      match GivenOption.ofWord? level.options word with
      | none => .error .unknownArgument
      | some given =>
        match given.option with
        | .help => .error .help
        | .version => .error .version
        | _ => do
          let later ← scan level given.wants words
          return { later with mentions := given.mentions ++ later.mentions }

-- ---------------------------------------------------------------------------
-- Checking the options
-- ---------------------------------------------------------------------------

/-- How often an option is given. -/
def occurrences (o : CommandOption) (ms : List Mention) : Nat :=
  ms.count (.option o)

/-- The values that are given to an option. -/
def valuesOf (o : CommandOption) (ms : List Mention) : List String :=
  ms.filterMap fun
    | .value o' text => if o' = o then some text else none
    | .option _ => none

/-- Whether an option is given without any value though it takes one. -/
def lacksValue (ms : List Mention) (o : CommandOption) : Bool :=
  o.arity ≠ .none && 0 < occurrences o ms && (valuesOf o ms).isEmpty

/-- Whether an option is given again that may be given only once. -/
def isRepeated (ms : List Mention) (o : CommandOption) : Bool :=
  o.arity ≠ .many && 1 < occurrences o ms

/-- The bases that are asked for, if the options of a level are in order. -/
def checkOptions (level : CommandLevel) (ms : List Mention) : Except UsageFault (List Basis) :=
  if level.options.any (lacksValue ms) then .error .missingValue
  else
    match (valuesOf .basis ms).mapM Basis.ofName with
    | .error _ => .error .invalidValue
    | .ok bases => if level.options.any (isRepeated ms) then .error .repeatedOption else .ok bases

-- ---------------------------------------------------------------------------
-- Invocations
-- ---------------------------------------------------------------------------

/-- What a subcommand is to do. Without an input the formulas come from the standard input. -/
inductive Task where
  | convert (input? : Option String) (bases : List Basis) (verify : Bool)
  | table (input? : Option String)
  | bases
  deriving DecidableEq, Repr

/-- The path of the input, if the formulas come from a file. -/
def Task.inputPath? : Task → Option String
  | convert path? _ _ | table path? => path?
  | bases => none

/-- Whether the formulas come from the standard input. -/
def Task.readsStandardInput : Task → Bool
  | convert path? _ _ | table path? => path?.isNone
  | bases => false

/-- What a command line asks for. -/
structure Invocation where
  task : Task
  color : Bool
  log? : Option String
  deriving DecidableEq, Repr

/-- The task of a subcommand. Where no basis is named, all of them are meant. -/
def Task.ofMentions (bases : List Basis) (ms : List Mention) : CommandLevel → Task
  | .convert =>
    .convert (valuesOf .input ms).head? (if bases.isEmpty then Basis.all else bases)
      (0 < occurrences .verify ms)
  | .table => .table (valuesOf .input ms).head?
  | .bases | .command => .bases

/-- The task of a subcommand with these words after it. -/
def Task.ofWords (level : CommandLevel) (words : List String) : Except UsageFault Task := do
  let s ← scan level none words
  let bases ← checkOptions level s.mentions
  return ofMentions bases s.mentions level

/-- The invocation with these words after the name of the command. -/
def Invocation.ofWords (words : List String) : Except UsageFault Invocation := do
  let s ← scan .command none words
  match s.subcommand? with
  | none => .error .missingSubcommand
  | some (level, rest) =>
    let task ← Task.ofWords level rest
    let _ ← checkOptions .command s.mentions
    return ⟨task, occurrences .noColor s.mentions = 0, (valuesOf .log s.mentions).head?⟩

end Connectives
