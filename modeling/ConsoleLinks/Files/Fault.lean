/-
Why the contents of a file cannot be had, with the words that messages
use for it.
-/

namespace ConsoleLinks

/-- Why a file cannot be opened or read. -/
inductive FileFault where
  /-- Nothing has this name. -/
  | missing
  /-- Something that is no directory stands in front of a slash. -/
  | notDirectory
  /-- The path leads to a directory, which can be opened but not read. -/
  | directory
  /-- A name in the path, or the whole of it, is too long. -/
  | nameTooLong
  /-- The path contains the character that ends names. -/
  | badName
  /-- The file is not UTF-8. -/
  | notText
  /-- Anything else, in the words of the operating system. -/
  | other (message : String)
deriving DecidableEq, Repr

namespace FileFault

/-- A fault in words. -/
def message : FileFault → String
  | missing => "No such file or directory (os error 2)"
  | notDirectory => "Not a directory (os error 20)"
  | directory => "Is a directory (os error 21)"
  | nameTooLong => "File name too long (os error 36)"
  | badName => "file name contained an unexpected NUL byte"
  | notText => "stream did not contain valid UTF-8"
  | other message => message

/-- Whether the path leads to nothing at all. -/
def isAbsence : FileFault → Bool
  | missing | notDirectory | nameTooLong | badName => true
  | directory | notText | other _ => false

end FileFault

/-- What reading the file at a path comes to. -/
abbrev Files := String → Except FileFault (List UInt8)

end ConsoleLinks
