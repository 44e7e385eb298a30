/-!
# Refusals of the file system

Why an operation on files could not be done, with the wording and the number of each refusal.
-/

namespace LintPlan

/-- Why the system refuses an operation on files. -/
inductive OsFault where
  /-- A name on the path is not there. -/
  | notFound
  /-- Something is there already. -/
  | alreadyExists
  /-- A name that has to be a directory is none. -/
  | notDirectory
  /-- A directory stands where a file is wanted. -/
  | isDirectory
  /-- What is there is in use. -/
  | busy
  /-- A name or a path is longer than the system allows. -/
  | nameTooLong
  /-- Links lead to links too often. -/
  | tooManyLinks
  /-- A path has a character that no path may have. -/
  | nulInPath
  /-- The bytes of a file are no text. -/
  | notText
  /-- Any other refusal in words of its own. -/
  | other (message : String)
  deriving DecidableEq, Repr

namespace OsFault

/-- The number of a refusal, if the system gives one. -/
def number? : OsFault → Option Nat
  | notFound => some 2
  | alreadyExists => some 17
  | notDirectory => some 20
  | isDirectory => some 21
  | busy => some 16
  | nameTooLong => some 36
  | tooManyLinks => some 40
  | nulInPath => none
  | notText => none
  | other _ => none

/-- The words of a refusal, without its number. -/
def words : OsFault → String
  | notFound => "No such file or directory"
  | alreadyExists => "File exists"
  | notDirectory => "Not a directory"
  | isDirectory => "Is a directory"
  | busy => "Device or resource busy"
  | nameTooLong => "File name too long"
  | tooManyLinks => "Too many levels of symbolic links"
  | nulInPath => "file name contained an unexpected NUL byte"
  | notText => "stream did not contain valid UTF-8"
  | other message => message

/-- The wording of a refusal. -/
def message (f : OsFault) : String :=
  match f.number? with
  | some n => f.words ++ " (os error " ++ toString n ++ ")"
  | none => f.words

end OsFault

end LintPlan
