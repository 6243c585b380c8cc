import Gazetteer.Files.Tree
import Gazetteer.Store.Basic

/-!
# Vaults

A vault is a directory of notes on a disk. Its notes are the files below it that are not hidden and
have one of some extensions, named by their paths as seen from the vault.
-/

namespace Gazetteer

structure Vault where
  disk : Disk
  /-- The path of the directory. -/
  root : String
  extensions : List String

namespace Vault

/-- The vault at a path, if there is a directory. -/
def open? (disk : Disk) (root : String) (extensions : List String) : Except Error Vault :=
  if disk.isDir root then .ok ⟨disk, root, extensions⟩
  else .error (.notFound s!"vault root {Text.quoted root} is not a directory")

/-- The note at a path: an absolute path has to lead into the vault, a relative one starts there. -/
def sourceFor (v : Vault) (path : String) : Except Error SourceRef :=
  if Path.isAbsolute path then
    match Path.isAbsolute v.root, List.isPrefixOf? (Path.steps v.root) (Path.steps path) with
    | true, some inside => .ok (SourceRef.ofString ("/".intercalate inside))
    | _, _ => .error (.notFound "Strip prefix failed for path. Error: prefix not found")
  else .ok (SourceRef.ofString (Path.plain path))

/-- The extension of a file name; a name that is all extension has none. -/
def extensionOf (name : String) : Option String :=
  match splitLast '.' name.toList with
  | some (_ :: _, extension) => some (String.ofList extension)
  | _ => none

/-- Whether files with a name belong to the vault; ASCII case does not matter. -/
def holds (v : Vault) (name : String) : Bool :=
  let lower (s : String) : List Char := s.toList.map Char.toLower
  (extensionOf name).any fun e => v.extensions.any fun other => lower other == lower e

/-- The path of a file of the vault, given its components as seen from the vault. -/
def pathOf (v : Vault) (file : List String) : String :=
  file.foldl Path.join v.root

/-- The files of the vault, as lists of components. -/
def files (v : Vault) : List (List String) :=
  match v.disk.at? v.root with
  | .ok t => t.files.filter fun file => file.getLast?.any v.holds
  | .error _ => []

/-- The notes of the vault, in path order. -/
def sources (v : Vault) : List SourceRef :=
  (v.files.filterMap fun file => (v.sourceFor (v.pathOf file)).toOption).mergeSort
    fun a b => decide (a.path ≤ b.path)

def routeTo (v : Vault) (source : SourceRef) : List String :=
  v.disk.route v.root ++ Path.components source.path

def notes (v : Vault) : Notes where
  sources := v.sources
  read source :=
    ((v.disk.follow (v.routeTo source)).bind FileTree.note).mapError FileTree.errorOf

/-- The vault with a note written to its disk. -/
def put (v : Vault) (source : SourceRef) (text : String) : Except Error Vault :=
  ((v.disk.put (v.routeTo source) (.file (.ok (Note.ofText text)))).map fun disk =>
    { v with disk }).mapError SystemFault.toError

/-- The vault with a file deleted from its disk, if it is there. -/
def drop? (v : Vault) (source : SourceRef) : Option Vault :=
  (v.disk.remove? (v.routeTo source)).map fun disk => { v with disk }

end Vault

end Gazetteer
