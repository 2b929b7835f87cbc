import Connectives.Command.Invocation
import Connectives.Log.Basic

/-!
# Connectives — help

What the command says where it does not carry out an invocation.
-/

namespace Connectives

/-- How the command is used. -/
def helpText : String :=
  Text.unlines
    ["A tool for converting propositional formulae to minimal sets of connectives",
      "",
      "USAGE: basis [--no-color] [-l <log>] <convert|table|bases>",
      "",
      "    --no-color     print no banner and no colours",
      "    -l, --log      path of the log file, or a directory for " ++ defaultLogName,
      "",
      "basis convert [-i <input>] [-b <basis>...] [--verify]",
      "    convert formulae, one per line of the input, to some or all bases:",
      "    " ++ ", ".intercalate (Basis.all.map Basis.name),
      "basis table [-i <input>]",
      "    print the truth tables of formulae",
      "basis bases",
      "    list the available bases"]

/-- The name and version of the command. -/
def versionText : String := "basis 0.1.0"

/-- The message for a reader. -/
def UsageFault.message : UsageFault → String
  | unknownArgument => "error: there is an argument that is not expected; try --help"
  | misspelledSubcommand => "error: there is no such subcommand, but a similar one; try --help"
  | unknownSubcommand => "error: there is no such subcommand; try --help"
  | missingSubcommand => "error: a subcommand is missing\n\n" ++ helpText
  | missingValue => "error: an option lacks its value; try --help"
  | invalidValue => "error: a value is invalid; expecting one of " ++ Basis.names
  | repeatedOption => "error: an option is given more than once; try --help"
  | help => helpText
  | version => versionText

/-- Whether the message is what was asked for. -/
def UsageFault.isRequest : UsageFault → Bool
  | help | version => true
  | _ => false

end Connectives
