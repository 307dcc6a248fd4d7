/-
# Files

The part of a file system that a run looks at, as it is before the run.  A path is
the list of names from the root.  A file system takes names and paths up to a length
only, and looking for anything longer is a fault.
-/
import CatalogClasses.Text.Lines
import CatalogClasses.Text.Search

namespace CatalogClasses.CommandLine

/-! ## Paths -/

/-- A path from the root. -/
abbrev Path := List String

/-- The names in the text of a path; an empty name and a single dot are none. -/
def pathNames (text : String) : List String :=
  ((Text.splitAt '/' text.toList).map String.ofList).filter fun name =>
    name != "" && name != "."

/-- The text is that of a path from the root. -/
def isRooted (text : String) : Bool := Text.startsWith ['/'] text.toList

/-- The path from the root after some more names; two dots lead one name back. -/
def follow (path : Path) (names : List String) : Path :=
  names.foldl (fun path name => if name = ".." then path.dropLast else path ++ [name]) path

/-- The last name in the text of a path. -/
def lastName (text : String) : String := (pathNames text).getLast?.getD ""

/-- The text of a path from the root. -/
def pathText (path : Path) : String := "/" ++ "/".intercalate path

/-! ## What a file system takes -/

/-- What is wrong with a path for what is done with it. -/
inductive PathFault where
  | noSuchFile
  | isDirectory
  | notDirectory
  /-- A name in the path, or the path itself, is longer than the file system takes. -/
  | tooLong
  /-- The path holds the character that ends a path for the file system. -/
  | endsEarly
deriving DecidableEq, Repr

/-- The text holds the character that ends a path for the file system. -/
def hasTerminator (text : String) : Bool := text.toList.contains '\x00'

/-- A name takes more than the 255 bytes that there are for one. -/
def isLongName (name : String) : Bool := 255 < name.utf8ByteSize

/-- What stands before the names in the text of a path; exactly two slashes are kept. -/
def rootText : List Char → String
  | '/' :: '/' :: '/' :: _ => "/"
  | '/' :: '/' :: _ => "//"
  | '/' :: _ => "/"
  | _ => ""

/-- A path takes more than the 4095 bytes that there are for one, written without empty
names and single dots. -/
def isLongPath (text : String) : Bool :=
  4095 < (rootText text.toList ++ "/".intercalate (pathNames text)).utf8ByteSize

/-! ## Snapshots -/

/-- What can be at a path. -/
inductive Entry where
  | file (content : String)
  | directory
deriving DecidableEq

/-- A working directory, and what is known to be at other paths. -/
structure Snapshot where
  workingDirectory : Path
  entries : List (Path × Entry)

namespace Snapshot

/-- What is at a path, if anything.  The working directory and all around it are
directories. -/
def entry? (snapshot : Snapshot) (path : Path) : Option Entry :=
  if path.isPrefixOf snapshot.workingDirectory then some .directory
  else snapshot.entries.lookup path

/-- The path that a text stands for, seen from the working directory. -/
def resolve (snapshot : Snapshot) (text : String) : Path :=
  follow (if isRooted text then [] else snapshot.workingDirectory) (pathNames text)

/-- Something is at the end of the names, and all names before lead through
directories.  A name is looked for only in a directory, so one that is too long does no
harm after one that leads nowhere. -/
def reaches (snapshot : Snapshot) (path : Path) : List String → Except PathFault Bool
  | [] => .ok (snapshot.entry? path).isSome
  | name :: rest =>
      if snapshot.entry? path != some .directory then .ok false
      else if isLongName name then .error .tooLong
      else snapshot.reaches (follow path [name]) rest

/-- Something is at the path with this text. -/
def holds (snapshot : Snapshot) (text : String) : Except PathFault Bool :=
  if hasTerminator text then .ok false
  else if isLongPath text then .error .tooLong
  else snapshot.reaches (if isRooted text then [] else snapshot.workingDirectory)
    (pathNames text)

/-- The directories that a file with these names below a directory lies in. -/
def directoriesAbove (directory : Path) (names : List String) : List Path :=
  (List.range names.length).tail.map fun n => directory ++ names.take n

/-- The snapshot of a directory with files of the given names and contents. -/
def ofFiles (directory : Path) (files : List (String × String)) : Snapshot where
  workingDirectory := directory
  entries := files.flatMap fun file =>
    (directory ++ pathNames file.1, Entry.file file.2) ::
      (directoriesAbove directory (pathNames file.1)).map fun path => (path, .directory)

/-- The names of the files in the working directory that are new or different after
this content has been written to a path, with their new contents. -/
def changes (snapshot : Snapshot) (path : Path) (content : String) : List (String × String) :=
  let directory := snapshot.workingDirectory
  if directory.isPrefixOf path && snapshot.entry? path != some (.file content)
  then [("/".intercalate (path.drop directory.length), content)] else []

end Snapshot

end CatalogClasses.CommandLine
