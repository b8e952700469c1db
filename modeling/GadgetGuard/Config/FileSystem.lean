import GadgetGuard.Text.Ascii
import GadgetGuard.Text.Cut
import GadgetGuard.Text.Utf8
/-!
# Paths and files

A path is a text of names with slashes between them. A file system says what stands at a
path; several paths may lead to the same file, which has one canonical name.
-/

namespace GadgetGuard

open GadgetGuard.Text

namespace Path

/-- A path relative to a directory. A path from the root stays as it is. -/
def joined (directory relative : String) : String :=
  if hasBeginning "/" relative || directory.isEmpty then relative
  else if hasEnding "/" directory then directory ++ relative
  else directory ++ "/" ++ relative

def names (path : String) : List (List Char) :=
  splitAt (· == '/') path.toList

/-- Drops names at the end that stay in the same directory, but not the first one. -/
def dropIdle : List (List Char) → List (List Char)
  | [] => []
  | first :: rest =>
    first :: (rest.reverse.dropWhile fun name => name == [] || name == ['.']).reverse

def ofNames (names : List (List Char)) : String :=
  if names == [[]] then "/" else String.ofList (['/'].intercalate names)

/-- The directory that a path to a file leads through last. -/
def parent (path : String) : String :=
  ofNames (dropIdle (dropIdle (names path)).dropLast)

end Path

/-- What stands at a path. A directory has no content. -/
structure Entry where
  canonicalName : String
  content : Option Bytes
  deriving DecidableEq, Repr

/-- Says what stands at each path. -/
abbrev FileSystem := String → Option Entry

/-- Files by the names on the way to each from a root. -/
structure FileStore where
  files : List (List (List Char) × Bytes)
  deriving Repr

namespace FileStore

def ofPaths (files : List (String × Bytes)) : FileStore :=
  ⟨files.map fun (path, content) => (Path.names path, content)⟩

def isDirectory (store : FileStore) (place : List (List Char)) : Bool :=
  place.isEmpty ||
    store.files.any fun (file, _) => file.length > place.length && place.isPrefixOf file

/-- Follows the names of a path from a directory; every name but the last has to be one of a
directory. -/
def follow (store : FileStore) (place : List (List Char)) : List (List Char) →
    Option (List (List Char))
  | [] => some place
  | name :: names =>
    if !store.isDirectory place then none
    else if name == [] || name == ['.'] then follow store place names
    else if name == ['.', '.'] then follow store place.dropLast names
    else
      let next := place ++ [name]
      if store.isDirectory next || (store.files.lookup next).isSome then follow store next names
      else none

def toFileSystem (store : FileStore) : FileSystem := fun path =>
  if path.isEmpty then none
  else
    (store.follow [] (Path.names path)).map fun place =>
      { canonicalName := String.ofList (['/'].intercalate place)
        content := store.files.lookup place }

end FileStore

end GadgetGuard
