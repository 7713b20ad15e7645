/-!
# Input and output faults

The faults the host system reports for file operations, with the text it gives for each: a
description and the error number.
-/

namespace EngineSdk

/-- A fault of a file operation. -/
inductive IoFault where
  /-- The path does not exist. -/
  | notFound
  /-- The path exists already. -/
  | alreadyExists
  /-- A directory stands where a file was expected. -/
  | isDirectory
  /-- A file stands where a directory was expected. -/
  | notDirectory
  /-- A text file holds bytes that are not UTF-8. -/
  | invalidUtf8
deriving Repr, DecidableEq

/-- The system's text for a fault. -/
def IoFault.message : IoFault → String
  | .notFound => "No such file or directory (os error 2)"
  | .alreadyExists => "File exists (os error 17)"
  | .isDirectory => "Is a directory (os error 21)"
  | .notDirectory => "Not a directory (os error 20)"
  | .invalidUtf8 => "stream did not contain valid UTF-8"

end EngineSdk
