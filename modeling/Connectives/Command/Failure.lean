import Connectives.Listing
import Connectives.Text.Utf8

/-!
# Connectives — why the command fails

A file that cannot be had is a `FileError`; a `Failure` says what the command was about when it met
with an error, and why. `Failure.messages` puts this into words, from the outermost reason to the
innermost.
-/

namespace Connectives

/-- Why a file cannot be had. -/
inductive FileError where
  | notFound
  | isDirectory
  deriving DecidableEq, Repr

/-- The message for a reader. -/
def FileError.message : FileError → String
  | notFound => "No such file or directory (os error 2)"
  | isDirectory => "Is a directory (os error 21)"

/-- Why the command fails. -/
inductive Failure where
  /-- There is no file for the log. -/
  | logNotCreated (reason : FileError)
  /-- There is no input file. -/
  | inputNotFound (reason : FileError)
  /-- The input file has no bytes to read. -/
  | inputNotReadable (reason : FileError)
  /-- The bytes of the input file are no text. -/
  | inputNotText
  /-- The bytes of the standard input are no text. -/
  | standardInputNotText (reason : Text.Utf8Error)
  /-- A line of the input is no formula. -/
  | notAListing (reason : Listing.Error)
  /-- Results that do not agree with their formulas. -/
  | notVerified (count : Nat)
  deriving DecidableEq, Repr

/-- What is wrong, from the outermost reason to the innermost. -/
def Failure.messages : Failure → List String
  | logNotCreated reason => ["failed to create the log file", reason.message]
  | inputNotFound reason => ["failed to find the input file", reason.message]
  | inputNotReadable reason => ["failed to read the input file", reason.message]
  | inputNotText => ["failed to read the input file", "stream did not contain valid UTF-8"]
  | standardInputNotText reason => [reason.message]
  | notAListing reason => reason.messages
  | notVerified count => [s!"{count} conversions failed verification"]

end Connectives
