import Gazetteer.Data.SortedMap
import Gazetteer.Files.Path
import Gazetteer.Note.Basic
import Gazetteer.SystemFault

/-!
# Files

What is on the disk: directories, and files with the notes in them. A file that holds no text cannot
be read as a note. Reading and writing fail in the ways in which the operating system makes them
fail.
-/

namespace Gazetteer

/-- A file or a directory. -/
inductive FileTree where
  /-- A file and the note in it, or why it holds none. -/
  | file (content : Except SystemFault Note)
  /-- A directory and what is in it, in the order of the names. -/
  | dir (entries : List (String × FileTree))

namespace FileTree

instance : Inhabited FileTree := ⟨.dir []⟩

/-- The content of a file with some bytes in it. -/
def contentOf (bytes : List UInt8) : Except SystemFault Note :=
  match Text.decode bytes with
  | some cs => .ok (Note.ofText (String.ofList cs))
  | none => .error .invalidData

def isDir : FileTree → Bool
  | .file _ => false
  | .dir _ => true

/-- What is reached from a directory, where `above` lists the directories above it, the nearest
first; the top of the disk is above itself. Only a directory can be passed. -/
def walk (above : List FileTree) (here : FileTree) : List String → Except SystemFault FileTree
  | [] => .ok here
  | c :: cs =>
    match here with
    | .file _ => .error .notADirectory
    | .dir entries =>
      if Path.isIdle c then walk above here cs
      else if c = ".." then
        match above with
        | [] => walk [] here cs
        | parent :: rest => walk rest parent cs
      else if 255 < c.utf8ByteSize then .error .invalidFilename
      else
        match Entries.get? c entries with
        | some next => walk (here :: above) next cs
        | none => .error .notFound

/-- A file or directory inside some new directories. -/
def inNewDirs (t : FileTree) : List String → FileTree
  | [] => t
  | c :: cs => .dir [(c, inNewDirs t cs)]

/-- Put a file or an empty directory at a path, with the directories on the way. A file takes the
place of a file. -/
def put (t : FileTree) : List String → FileTree → Except SystemFault FileTree
  | [], .file _ => if t.isDir then .error .alreadyExists else .ok t
  | [], .dir entries => if t.isDir then .ok (.dir entries) else .error .isADirectory
  | [_], .file _ => .error .alreadyExists
  | _ :: _ :: _, .file _ => .error .notADirectory
  | c :: cs, .dir entries =>
    match Entries.get? c entries with
    | some next => do
      let next ← put t cs next
      return .dir (Entries.insert c next entries)
    | none => .ok (.dir (Entries.insert c (inNewDirs t cs) entries))

/-- Remove the file at a path, if there is one. -/
def remove : List String → FileTree → Option FileTree
  | [c], .dir entries =>
    match Entries.get? c entries with
    | some (.file _) => some (.dir (Entries.erase c entries))
    | _ => none
  | c :: cs, .dir entries => do
    let next ← Entries.get? c entries
    let next ← remove cs next
    return .dir (Entries.insert c next entries)
  | _, _ => none

def isHidden (name : String) : Bool :=
  name.toList.head? == some '.'

mutual

/-- The paths of the files in a directory that are not hidden, as lists of components. -/
def files : FileTree → List (List String)
  | .file _ => [[]]
  | .dir entries => filesIn entries

/-- The paths of the files among some entries. -/
def filesIn : List (String × FileTree) → List (List String)
  | [] => []
  | (name, t) :: es =>
    (if isHidden name then [] else (files t).map (name :: ·)) ++ filesIn es

end

end FileTree

/-- A disk and the directory where relative paths start. -/
structure Disk where
  top : FileTree
  current : List String

namespace Disk

/-- The components that lead to a path from the top of the disk. -/
def route (d : Disk) (path : String) : List String :=
  if Path.isAbsolute path then Path.components path else d.current ++ Path.components path

/-- What is at the end of a route. -/
def follow (d : Disk) (route : List String) : Except SystemFault FileTree :=
  if route.any fun c => c.toList.contains '\x00' then .error .invalidInput
  else FileTree.walk [] d.top route

def at? (d : Disk) (path : String) : Except SystemFault FileTree :=
  if path = "" then .error .notFound else d.follow (d.route path)

/-- Whether there is a directory at a path. -/
def isDir (d : Disk) (path : String) : Bool :=
  match d.at? path with
  | .ok t => t.isDir
  | .error _ => false

def direct : List String → List String → List String
  | done, [] => done.reverse
  | done, c :: cs =>
    if Path.isIdle c then direct done cs
    else if c = ".." then direct done.tail cs
    else direct (c :: done) cs

/-- The disk with a file or an empty directory at the end of a route. -/
def put (d : Disk) (route : List String) (t : FileTree) : Except SystemFault Disk :=
  (FileTree.put t (direct [] route) d.top).map fun top => { d with top }

/-- The disk without the file at the end of a route. -/
def remove? (d : Disk) (route : List String) : Option Disk :=
  (FileTree.remove (direct [] route) d.top).map fun top => { d with top }

end Disk

namespace FileTree

/-- The error that a fault in reading a file becomes. -/
def errorOf : SystemFault → Error
  | .notFound => .notFound "No such file or directory (os error 2)"
  | fault => fault.toError

def note : FileTree → Except SystemFault Note
  | .file content => content
  | .dir _ => .error .isADirectory

end FileTree

end Gazetteer
