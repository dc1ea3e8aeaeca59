/-
A working directory: the files and directories in it, and what reading a
path comes to that starts there. Nothing outside of it is known, so a
path that leads out finds directories without names in them.
-/
import ConsoleLinks.Files.Fault
import ConsoleLinks.Files.Path
import ConsoleLinks.Text.Bytes

namespace ConsoleLinks

/-- What stands at a path. -/
inductive FileEntry where
  | file (bytes : List UInt8)
  | directory
deriving DecidableEq, Repr

/-- A working directory: what stands where, each path as the names on the
way to it. The directories on the way need not be listed. -/
structure FileTree where
  entries : List (List String × FileEntry)
deriving Repr

namespace FileTree

/-- What stands at the end of some names. -/
def entry? (t : FileTree) (names : List String) : Option FileEntry :=
  match t.entries.lookup names with
  | some found => some found
  | none =>
    if names = [] || t.entries.any (fun e => names.isPrefixOf e.1) then some .directory
    else none

/-- A place that has been reached: inside the working directory, or
outside of it. -/
inductive Position where
  | inside (names : List String) (entry : FileEntry)
  | outside
deriving Repr

/-- Goes to a name from a place. -/
def enter (t : FileTree) (name : String) : Position → Except FileFault Position
  | .inside _ (.file _) => .error .notDirectory
  | .inside names .directory =>
    if name = "" || name = "." then .ok (.inside names .directory)
    else if name = ".." then
      .ok (if names.isEmpty then .outside else .inside names.dropLast .directory)
    else if Path.longestName < Text.byteLength name.toList then .error .nameTooLong
    else
      match t.entry? (names ++ [name]) with
      | some found => .ok (.inside (names ++ [name]) found)
      | none => .error .missing
  | .outside =>
    if name = "" || name = "." || name = ".." then .ok .outside
    else if Path.longestName < Text.byteLength name.toList then .error .nameTooLong
    else .error .missing

/-- Follows names from a place. -/
def follow (t : FileTree) : List String → Position → Except FileFault Position
  | [], p => .ok p
  | name :: rest, p =>
    match t.enter name p with
    | .ok p => t.follow rest p
    | .error fault => .error fault

/-- What reading a path comes to. -/
def read (t : FileTree) : Files := fun path =>
  if path.toList.contains '\x00' then .error .badName
  else if Path.longestPath < Text.byteLength path.toList then .error .nameTooLong
  else if path = "" then .error .missing
  else
    let start := if Text.startsWith ['/'] path.toList then Position.outside
      else .inside [] .directory
    match t.follow (Path.names path) start with
    | .error fault => .error fault
    | .ok (.inside _ (.file bytes)) => .ok bytes
    | .ok _ => .error .directory

end FileTree

end ConsoleLinks
