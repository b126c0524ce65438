import BlockCalc.Disk.Path
import BlockCalc.Text.Newline

/-! # Disks

A disk says what stands at a path: a file with its bytes or with the reason for which it cannot be
opened, a folder, or nothing, with the reason for which nothing can be read there. `Folder` is a
part of a disk in memory: the files and folders below a folder. -/

namespace BlockCalc

/-- What stands at a path. -/
inductive Entry
  | file (content : ByteArray)
  /-- A file that is there but cannot be opened. -/
  | locked (code : Nat) (reason : String)
  | folder
  | absent (code : Nat) (reason : String)
  /-- Nothing can ever be there: the path holds a null character. -/
  | unnameable

namespace Entry

/-- The code for a name that nothing has. -/
def notFoundCode : Nat := 2

/-- The code for a path that goes on below a file. -/
def notFolderCode : Nat := 20

/-- The codes that say no more than that nothing is there: besides these two, the code for something
that is not open and the code for links that lead round in a circle. -/
def missingCodes : List Nat := [notFoundCode, notFolderCode, 9, 40]

/-- Nothing has this name. -/
def notFound : Entry := absent notFoundCode "No such file or directory"

/-- The path goes on below a file. -/
def notFolder : Entry := absent notFolderCode "Not a directory"

/-- A name or a path has more bytes than any can have. -/
def nameTooLong : Entry := absent 36 "File name too long"

/-- Whether it is a file. -/
def isFile : Entry → Bool
  | file _ => true
  | locked _ _ => true
  | _ => false

/-- Whether it is a folder. -/
def isFolder : Entry → Bool
  | folder => true
  | _ => false

end Entry

/-- Why no text can be read. -/
inductive ReadStop
  | refused (code : Nat) (reason : String)
  | undecodable
  | unnameable
deriving DecidableEq, Repr

/-- The text of a file. -/
def Entry.read : Entry → Except ReadStop (List Char)
  | file content =>
    match decodeText content with
    | some cs => .ok cs
    | none => .error .undecodable
  | locked code reason => .error (.refused code reason)
  | folder => .error (.refused 21 "Is a directory")
  | absent code reason => .error (.refused code reason)
  | unnameable => .error .unnameable

/-- The disk as a program sees it: the working folder, and what stands at a path. -/
structure Disk where
  cwd : Path
  look : Path → Entry

/-! ### A disk in memory -/

/-- The files and the folders below a folder, each with the names that lead to it. -/
structure Folder where
  files : List (List String × ByteArray)
  folders : List (List String)

namespace Folder

/-- No name has more than 255 bytes. -/
def isTooLong (name : String) : Bool := 255 < name.utf8ByteSize

/-- Whether names lead to a folder: a given one, or one on the way to something. -/
def hasFolder (f : Folder) (names : List String) : Bool :=
  names.isEmpty || f.folders.any (fun d => names.isPrefixOf d)
    || f.files.any fun (n, _) => names.isPrefixOf n && names != n

/-- What stands at the end of some names, starting from a folder below this one, or from one above
it, of which only that it exists is known. -/
def walk (f : Folder) : Option (List String) → List String → Entry
  | _, [] => .folder
  | none, ".." :: rest => walk f none rest
  | none, n :: _ => if isTooLong n then .nameTooLong else .notFound
  | some place, ".." :: rest => walk f (if place.isEmpty then none else some place.dropLast) rest
  | some place, n :: rest =>
    let there := place ++ [n]
    if isTooLong n then .nameTooLong
    else if f.hasFolder there then walk f (some there) rest
    else
      match f.files.find? (·.1 == there) with
      | some (_, content) => if rest.isEmpty then .file content else .notFolder
      | none => .notFound

/-- The disk with a working folder and a root. A path that spells out the working folder leads
there; any other path with a root starts from the root. No path has 4096 bytes. -/
def toDisk (f root : Folder) (cwd : Path) : Disk where
  cwd := cwd
  look p :=
    if p.text.toList.contains (Char.ofNat 0) then .unnameable
    else if 4096 ≤ p.text.utf8ByteSize then .nameTooLong
    else if p.root = cwd.root ∧ cwd.names.isPrefixOf p.names ∧ cwd.names ≠ [] then
      f.walk (some []) (p.names.drop cwd.names.length)
    else if p.root = "" then f.walk (some []) p.names
    else root.walk (some []) p.names

end Folder

end BlockCalc
