import ServiceBindings.Text.Quoted

/-!
What can go wrong with files, and how it is worded: as a message, and as a description that names the kind.
-/

namespace ServiceBindings

/-- Why an operation on files failed. -/
inductive FileError
  | notFound
  | busy
  | exists
  | notDirectory
  | isDirectory
  | nameTooLong
  | notEmpty
  | nullInName
  | invalidText
  deriving DecidableEq, Repr

namespace FileError

/-- The number of an error that the system reports. -/
def code? : FileError → Option Nat
  | .notFound => some 2
  | .busy => some 16
  | .exists => some 17
  | .notDirectory => some 20
  | .isDirectory => some 21
  | .nameTooLong => some 36
  | .notEmpty => some 39
  | .nullInName | .invalidText => none

/-- The name of the kind of an error. -/
def kind : FileError → String
  | .notFound => "NotFound"
  | .busy => "ResourceBusy"
  | .exists => "AlreadyExists"
  | .notDirectory => "NotADirectory"
  | .isDirectory => "IsADirectory"
  | .nameTooLong => "InvalidFilename"
  | .notEmpty => "DirectoryNotEmpty"
  | .nullInName => "InvalidInput"
  | .invalidText => "InvalidData"

/-- The wording of an error without its number. -/
def reason : FileError → String
  | .notFound => "No such file or directory"
  | .busy => "Device or resource busy"
  | .exists => "File exists"
  | .notDirectory => "Not a directory"
  | .isDirectory => "Is a directory"
  | .nameTooLong => "File name too long"
  | .notEmpty => "Directory not empty"
  | .nullInName => "file name contained an unexpected NUL byte"
  | .invalidText => "stream did not contain valid UTF-8"

/-- The message of an error. -/
def message (e : FileError) : String :=
  match e.code? with
  | some n => e.reason ++ " (os error " ++ toString n ++ ")"
  | none => e.reason

/-- The description of an error. -/
def describe (e : FileError) : String :=
  match e.code? with
  | some n =>
    "Os \x7b code: " ++ toString n ++ ", kind: " ++ e.kind ++ ", message: " ++ Text.quoted e.reason ++ " \x7d"
  | none => "Error \x7b kind: " ++ e.kind ++ ", message: " ++ Text.quoted e.reason ++ " \x7d"

end FileError

end ServiceBindings
