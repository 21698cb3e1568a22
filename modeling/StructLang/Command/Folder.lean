import StructLang.Text.Parts
import StructLang.Text.Quoted
import StructLang.Text.Utf8

/-!
# Folders

A folder holds files under relative paths. The directories in it are those that the paths of its
files pass through. A path is followed part by part: only a directory can be passed through, an
empty part or a point stays where it is, and two points go back.
-/

namespace StructLang.Command

/-- Why something that is found under a path cannot be read. -/
inductive FileFault
  | isDirectory
  | notDirectory
  | tooLong
  | zeroCharacter
  deriving DecidableEq, Repr

/-- How a path that cannot be read is reported. -/
def FileFault.message (path : String) : FileFault → String
  | isDirectory => s!"[Errno 21] Is a directory: {Text.quoted path}"
  | notDirectory => s!"[Errno 20] Not a directory: {Text.quoted path}"
  | tooLong => s!"[Errno 36] File name too long: {Text.quoted path}"
  | zeroCharacter => "embedded null byte"

/-- What is found under a path. -/
inductive FileContent
  | missing
  | unreadable (fault : FileFault)
  | undecodable
  | text (characters : List Char)
  deriving DecidableEq, Repr

/-- What is found where a file holds some bytes. -/
def FileContent.ofBytes (bytes : ByteArray) : FileContent :=
  match Text.decodeStrict? (bytes.data.toList.map (·.toNat)) with
  | some characters => .text characters
  | none => .undecodable

/-- The contents of files with their places, the latest first, and places of directories: what
stands above one of these is a directory too. A place is the list of the names that lead to it from
the folder. -/
structure Folder where
  files : List (List String × FileContent)
  directories : List (List String)
  deriving DecidableEq, Repr

namespace Folder

/-- The parts of a path. -/
def pathParts (path : String) : List String :=
  (Text.parts '/' path.toList).map String.ofList

/-- Whether a part of a path stays where it is. -/
def staysPut (part : String) : Bool := part == "" || part == "."

/-- Where the parts of a path lead from a place, after the places from which they go back on the
way. A path that leaves the folder leads nowhere. -/
def trail? (place : List String) : List String → Option (List (List String) × List String)
  | [] => some ([], place)
  | part :: others =>
      if staysPut part then trail? place others
      else if part != ".." then trail? (place ++ [part]) others
      else if place.isEmpty then none
      else (trail? place.dropLast others).map fun (left, last) => (place :: left, last)

/-- Puts a file under a path, with the directories that the path passes through. -/
def put (folder : Folder) (path : String) (content : FileContent) : Folder :=
  match trail? [] (pathParts path) with
  | none => folder
  | some (left, place) =>
      ⟨(place, content) :: folder.files, place.dropLast :: left ++ folder.directories⟩

/-- A folder of files with given paths, put there one after another. -/
def ofFiles (files : List (String × FileContent)) : Folder :=
  files.foldl (fun folder (path, content) => folder.put path content) ⟨[], []⟩

/-- The file at a place. -/
def file? (folder : Folder) (place : List String) : Option FileContent :=
  folder.files.lookup place

/-- Whether a place is a directory: that of the folder itself, or one that paths pass through. -/
def isDirectory (folder : Folder) (place : List String) : Bool :=
  place.isEmpty || folder.directories.any (place.isPrefixOf ·)

/-- The greatest number of bytes in a part of a path. -/
def greatestPartLength : Nat := 255

/-- The greatest number of bytes in a path. -/
def greatestPathLength : Nat := 4095

/-- Where parts of a path lead that go up from the folder: to a directory if they lead no other
way, and to nothing otherwise. -/
def outside (parts : List String) : FileContent :=
  if parts.all fun part => staysPut part || part == ".." then .unreadable .isDirectory
  else .missing

/-- What is found where the parts of a path lead from a place. -/
def contentFrom (folder : Folder) (place : List String) : List String → FileContent
  | [] => (folder.file? place).getD (.unreadable .isDirectory)
  | part :: others =>
      if !folder.isDirectory place then .unreadable .notDirectory
      else if staysPut part then folder.contentFrom place others
      else if part == ".." then
        if place.isEmpty then outside others else folder.contentFrom place.dropLast others
      else if greatestPartLength < part.utf8ByteSize then .unreadable .tooLong
      else
        let next := place ++ [part]
        if folder.isDirectory next || (folder.file? next).isSome then
          folder.contentFrom next others
        else .missing

/-- What is found under a path. -/
def content (folder : Folder) (path : String) : FileContent :=
  if path.toList.contains '\x00' then .unreadable .zeroCharacter
  else if path.isEmpty then .missing
  else if greatestPathLength < path.utf8ByteSize then .unreadable .tooLong
  else if path.toList.head? = some '/' then outside (pathParts path)
  else folder.contentFrom [] (pathParts path)

end Folder

end StructLang.Command
