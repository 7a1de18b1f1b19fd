import NumericLanguage.File.Contents

/-!
# File trees in memory

A file tree holds directories and files below one directory. A path leads from that directory
on, or from the root of all directories if it begins with a slash. Its parts stand between
slashes: an empty part and `.` stay where they are, `..` goes one directory up, and any other
part is a name. Every part has to start from a directory. Outside of the tree there are
directories above each other, in which no name is known.
-/

set_option autoImplicit false

namespace NumericLanguage

/-- What stands at a place in a file tree. -/
inductive FileEntry
  | directory
  | file (bytes : List UInt8)
  deriving DecidableEq, Repr

/-- The entries of a file tree with the parts of their paths, the oldest first. -/
abbrev FileTree := List (List String × FileEntry)

namespace FileTree

/-- The parts of a path that lead somewhere. -/
def parts (path : String) : List String :=
  (path.splitOn "/").filter fun part => part ≠ "" ∧ part ≠ "."

/-- A tree with one more entry, which replaces an older one at the same path. -/
def add (tree : FileTree) (path : String) (entry : FileEntry) : FileTree :=
  tree ++ [(parts path, entry)]

/-- What stands at a place. Whatever lies above an entry is a directory. -/
def entry? (tree : FileTree) (place : List String) : Option FileEntry :=
  if place.isEmpty then some .directory
  else
    match tree.reverse.lookup place with
    | some entry => some entry
    | none =>
        if tree.any fun entry => place.isPrefixOf entry.1 then some .directory else none

/-- Where a path leads. -/
inductive Place
  /-- The names on the way down from the directory of the tree. -/
  | inside (names : List String)
  /-- A directory outside of the tree. -/
  | outside
  deriving DecidableEq, Repr

/-- One directory up. -/
def Place.up : Place → Place
  | inside [] => outside
  | inside names => inside names.dropLast
  | outside => outside

/-- The greatest number of bytes in a name. -/
def maxNameBytes : Nat := 255

/-- The greatest number of bytes in a path. -/
def maxPathBytes : Nat := 4095

/-- What stands at a place. -/
def at? (tree : FileTree) : Place → Option FileEntry
  | .inside names => tree.entry? names
  | .outside => some .directory

/-- The place of a name in a directory. -/
def child (name : String) : Place → Except AccessFault Place
  | .inside names =>
      if maxNameBytes < name.utf8ByteSize then .error .nameTooLong
      else .ok (.inside (names ++ [name]))
  | .outside =>
      if maxNameBytes < name.utf8ByteSize then .error .nameTooLong else .error .notFound

/-- Follows one part of a path. -/
def follow (tree : FileTree) (place : Place) (part : String) : Except AccessFault Place :=
  match tree.at? place with
  | none => .error .notFound
  | some (.file _) => .error .notDirectory
  | some .directory =>
      if part = "" ∨ part = "." then .ok place
      else if part = ".." then .ok place.up
      else child part place

/-- Where a path begins. -/
def start (path : String) : Place := if path.startsWith "/" then .outside else .inside []

/-- The bytes at a path. -/
def access (tree : FileTree) : FileAccess := fun path => do
  if path.isEmpty then
    throw .notFound
  if maxPathBytes < path.utf8ByteSize then
    throw .nameTooLong
  let place ← (path.splitOn "/").foldlM tree.follow (start path)
  match tree.at? place with
  | none => throw .notFound
  | some .directory => throw .isDirectory
  | some (.file bytes) => return bytes

end FileTree

end NumericLanguage
