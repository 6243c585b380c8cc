/-!
# Paths

A path is a text with `/` between its components. Empty components and `.` lead nowhere; `..` leads
to the directory above. A path with `/` in front starts at the top of the disk.
-/

namespace Gazetteer.Path

/-- The components of a path, with those that lead nowhere. -/
def components (path : String) : List String :=
  (path.toList.splitOn '/').map String.ofList

def isIdle (component : String) : Bool :=
  component == "" || component == "."

/-- The components of a path that lead somewhere. -/
def steps (path : String) : List String :=
  (components path).filter fun c => !isIdle c

/-- Whether a path starts at the top of the disk. -/
def isAbsolute (path : String) : Bool :=
  path.toList.head? == some '/'

/-- A path with nothing in it that leads nowhere, seen from where it starts. -/
def plain (path : String) : String :=
  "/".intercalate (steps path)

/-- A path as seen from a directory. -/
def join (dir file : String) : String :=
  if isAbsolute file then file
  else if dir = "" ∨ dir.toList.getLast? = some '/' then dir ++ file else dir ++ "/" ++ file

end Gazetteer.Path
