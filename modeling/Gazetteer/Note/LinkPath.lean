/-!
# Link targets and note paths

A link target is a path with `/` between its components and an optional `#` reference into the
document behind it, such as `Places/Cafe.md#Terrace`. The path of a note, relative to the vault, is
split in the same way.
-/

namespace Gazetteer

/-- Split a text at the last occurrence of a character, which belongs to neither part. -/
def splitLast (sep : Char) (cs : List Char) : Option (List Char × List Char) :=
  let after := (cs.reverse.takeWhile (· != sep)).reverse
  match cs.reverse.dropWhile (· != sep) with
  | [] => none
  | _ :: before => some (before.reverse, after)

/-- A link target, split at its first `#`. -/
structure LinkPath where
  /-- The part in front of `#`. -/
  file : List Char
  /-- The part behind `#`, if there is one. -/
  reference : Option (List Char)
  deriving DecidableEq, Repr

namespace LinkPath

def ofList (cs : List Char) : LinkPath :=
  { file := cs.takeWhile (· != '#')
    reference := match cs.dropWhile (· != '#') with
      | [] => none
      | _ :: rest => some rest }

def ofString (s : String) : LinkPath :=
  ofList s.toList

def parts (p : LinkPath) : List Char × List Char :=
  (splitLast '/' p.file).getD ([], p.file)

/-- The file name and what follows its last dot; a dot at the start of a name hides the file and
does not count. -/
def stemAndExtension (p : LinkPath) : List Char × Option (List Char) :=
  match splitLast '.' p.parts.2 with
  | some ([], _) | none => (p.parts.2, none)
  | some (stem, extension) => (stem, some extension)

def filePath (p : LinkPath) : String := String.ofList p.file

/-- Everything in front of the last `/`. -/
def dir (p : LinkPath) : String := String.ofList p.parts.1

def fileName (p : LinkPath) : String := String.ofList p.parts.2

def stem (p : LinkPath) : String := String.ofList p.stemAndExtension.1

/-- The extension, empty if there is none. -/
def extension (p : LinkPath) : String := String.ofList (p.stemAndExtension.2.getD [])

/-- The reference into the document, if it is not empty. -/
def anchor (p : LinkPath) : Option String :=
  match p.reference with
  | some (c :: cs) => some (String.ofList (c :: cs))
  | _ => none

/-- A target that stays inside the document it stands in. -/
def isAnchor (p : LinkPath) : Bool :=
  p.file.isEmpty && p.reference.isSome

end LinkPath

/-- Remove a text from the front as often as it stands there; `fuel` bounds how often. -/
def stripRepeatedly (pre : List Char) : Nat → List Char → List Char
  | 0, cs => cs
  | fuel + 1, cs =>
    match List.isPrefixOf? pre cs with
    | some rest => stripRepeatedly pre fuel rest
    | none => cs

/-- A path without `./` and `/` in front. -/
def stripRoot (cs : List Char) : List Char :=
  (stripRepeatedly ['.', '/'] cs.length cs).dropWhile (· == '/')

/-- A note, named by its path relative to the vault. -/
structure SourceRef where
  path : String
  deriving DecidableEq, Repr, Inhabited

namespace SourceRef

instance : Ord SourceRef := ⟨compareOn SourceRef.path⟩

instance : Std.TransOrd SourceRef :=
  inferInstanceAs (Std.TransCmp (compareOn SourceRef.path))

instance : Std.LawfulEqOrd SourceRef where
  eq_of_compare {a b} h := by
    cases a
    cases b
    exact congrArg SourceRef.mk (Std.LawfulEqOrd.eq_of_compare h)

/-- The note at a path; backslashes count as separators and the path starts at the vault. -/
def ofString (s : String) : SourceRef :=
  ⟨String.ofList (stripRoot (s.toList.map fun c => if c = '\\' then '/' else c))⟩

/-- The root of the vault, from which paths in queries are resolved. -/
def root : SourceRef := ⟨""⟩

def link (s : SourceRef) : LinkPath := LinkPath.ofString s.path

def name (s : SourceRef) : String := s.link.fileName

/-- The file name without its extension; a name that is all extension stays whole. -/
def baseName (s : SourceRef) : String :=
  if s.link.stem = "" then s.link.fileName else s.link.stem

def extension (s : SourceRef) : String := s.link.extension

def dir (s : SourceRef) : String := s.link.dir

end SourceRef

end Gazetteer
