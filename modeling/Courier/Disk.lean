import Courier.Bytes

/-!
# `Courier.Disk`: files to read from

A disk answers each path with the content of a file or with the reason why there is none.
Everything that reads files takes a disk, so that what it makes of them is a function of their
contents. `Disk.ofFiles` is the disk that holds the given files and nothing else.
-/

set_option autoImplicit false

namespace Courier

/-- Why a file has no content. -/
inductive FileError where
  /-- Nothing has this name. -/
  | missing
  /-- The name is that of a directory. -/
  | isDirectory
  /-- A part of the path before the last is a file. -/
  | notDirectory
  | nameTooLong
  /-- The path has a character that no name has. -/
  | badName
  /-- The content is not UTF-8. -/
  | notText
  /-- Any other reason, in the words of the system. -/
  | other (detail : String)
deriving DecidableEq

/-- The text of an error. -/
def FileError.message : FileError → String
  | .missing => "No such file or directory (os error 2)"
  | .isDirectory => "Is a directory (os error 21)"
  | .notDirectory => "Not a directory (os error 20)"
  | .nameTooLong => "File name too long (os error 36)"
  | .badName => "file name contained an unexpected NUL byte"
  | .notText => "stream did not contain valid UTF-8"
  | .other detail => detail

/-- The content behind each path. -/
abbrev Disk := String → Except FileError Bytes

namespace Disk

/-- The content of a file as text. -/
def readText (disk : Disk) (path : String) : Except FileError String :=
  match disk path with
  | .error e => .error e
  | .ok b =>
    match Bytes.toString? b with
    | some s => .ok s
    | none => .error .notText

/-- The parts of a path, or of the name of a file. -/
def parts (path : String) : List String :=
  (path.toList.splitOn '/').map String.ofList

/-- The content that remains to be found from a directory on. -/
def walk (files : List (List String × Bytes)) (here : List String) :
    List String → Except FileError Bytes
  | [] => .error .isDirectory
  | name :: rest =>
    if name = "" ∨ name = "." then walk files here rest
    else if name = ".." then walk files here.dropLast rest
    else if name.utf8ByteSize > 255 then .error .nameTooLong
    else
      let path := here ++ [name]
      match files.find? (·.1 = path) with
      | some file => if rest.isEmpty then .ok file.2 else .error .notDirectory
      | none => if files.any (path.isPrefixOf ·.1) then walk files path rest else .error .missing

/-- The disk of these files, whose names are taken from the working directory on. No other
directory has anything in it. -/
def ofFiles (files : List (String × Bytes)) : Disk := fun path =>
  if path.isEmpty then .error .missing
  else if path.contains '\x00' then .error .badName
  else if path.utf8ByteSize ≥ 4096 then .error .nameTooLong
  else
    let named := files.map fun f => (parts f.1, f.2)
    if path.startsWith "/" then walk [] [] (parts path) else walk named [] (parts path)

/-- Whether nothing is at a place, but its directory is there. -/
def isFree (files : List (List String × Bytes)) (place : List String) : Bool :=
  place.length = 1 || files.any fun f => place.dropLast.isPrefixOf f.1 && f.1.length ≥ place.length

/-- The files after content has been written to a path, or why it cannot be. Directories are not
made. -/
def write (files : List (String × Bytes)) (path : String) (content : Bytes) :
    Except FileError (List (String × Bytes)) :=
  match ofFiles files path with
  | .ok _ => .ok ((path, content) :: files.filter (parts ·.1 ≠ parts path))
  | .error .missing =>
    if !path.isEmpty && isFree (files.map fun f => (parts f.1, f.2)) (parts path) then
      .ok ((path, content) :: files)
    else .error .missing
  | .error e => .error e

end Disk

end Courier
