import Gazetteer.CommandLine.Outcome

/-!
# The program

Reads the files that a command is about, carries the command out, and shows what it comes to.
-/

namespace Gazetteer.Program

/-- The fault behind an error of the system. -/
def faultOf : IO.Error → SystemFault
  | .noFileOrDirectory _ _ _ => .notFound
  | .permissionDenied _ _ _ => .permissionDenied
  | .inappropriateType _ _ _ => .isADirectory
  | _ => .other

def readContent (path : String) : IO (Except SystemFault Note) := do
  try
    return FileTree.contentOf (← IO.FS.readBinFile path).toList
  catch e => return .error (faultOf e)

/-- What is at a path of the disk; links are not followed inside a directory. -/
partial def readTree (path : String) : IO FileTree := do
  let place ← IO.FS.realPath path
  if ← place.isDir then
    let mut entries : List (String × FileTree) := []
    for entry in ← place.readDir do
      if (← entry.path.symlinkMetadata).type != .symlink then
        entries := Entries.insert entry.fileName (← readTree entry.path.toString) entries
    return .dir entries
  else return .file (← readContent path)

/-- The disk with what is at a path; a path that leads nowhere adds nothing. -/
def addPath (disk : Disk) (path : String) : IO Disk := do
  try
    let tree ← readTree path
    return (disk.put (disk.route path) tree).toOption.getD disk
  catch _ => return disk

/-- The paths that a command is about. -/
def pathsOf : Command → List String
  | .scan vault _ configPath _ | .edges vault configPath => vault :: configPath.toList
  | .checkQuery _ => []

/-- The part of the disk that the arguments are about. -/
def diskFor (arguments : List String) : IO Disk := do
  let disk : Disk := ⟨.dir [], Path.components (← IO.currentDir).toString⟩
  match Command.read arguments with
  | .ok command => (pathsOf command).foldlM addPath disk
  | .error _ => return disk

end Gazetteer.Program

open Gazetteer in
def main (arguments : List String) : IO UInt32 := do
  let outcome := Command.perform (← Program.diskFor arguments) arguments
  for line in outcome.notices do IO.eprintln line
  for line in outcome.lines do IO.println line
  return outcome.status.toUInt32
