import Gazetteer.Note.Outline
import Gazetteer.Text.Utf8

/-!
# Resolving links

Which note a link text names, among the notes there are. A text that stays in its document names the
document itself. Otherwise the file part names a note exactly, seen from the directory of the
document or from the root of the vault, or else it is the end of the path of a note, compared as
names are. Of several notes with such a path the one that `isNearer` puts first counts, so the order
in which the notes are listed does not matter.
-/

namespace Gazetteer

/-- A path with the extension of notes where it has none. -/
def withNoteExtension (extension : String) (path : List Char) : List Char :=
  if extension = "" then path ++ ['.', 'm', 'd'] else path

/-- Notes in a directory come before others, then shorter paths before longer ones, then paths in
their order. -/
def compareNearness (dir : String) (a b : SourceRef) : Ordering :=
  (compare (decide (a.dir ≠ dir)) (decide (b.dir ≠ dir))).then
    ((compare a.path.utf8ByteSize b.path.utf8ByteSize).then (compare a.path b.path))

/-- Whether a note comes before another one, seen from a directory. -/
def isNearer (dir : String) (a b : SourceRef) : Bool :=
  compareNearness dir a b == .lt

def nearest (dir : String) : List SourceRef → Option SourceRef
  | [] => none
  | s :: ss => some (ss.foldl (fun best t => if isNearer dir t best then t else best) s)

/-- Whether a path is, or ends at a `/` with, the wanted one, both folded. -/
def endsInPath (wanted : String) (path : String) : Bool :=
  let folded := foldName path
  folded == wanted || ('/' :: wanted.toList).isSuffixOf folded.toList

/-- The note that a link text in the document `origin` names. -/
def resolveLink (sources : List SourceRef) (text : String) (origin : SourceRef) :
    Option SourceRef :=
  let link := LinkPath.ofString (percentDecode (Unicode.trimText text))
  if link.file.isEmpty then some origin
  else
    let wanted := withNoteExtension link.extension (stripRoot link.file)
    let inDir := String.ofList (origin.dir.toList ++ '/' :: wanted)
    let fromRoot := String.ofList wanted
    let exact (path : String) : Option SourceRef := sources.find? fun s => s.path == path
    ((if origin.dir = "" then none else exact inDir).or (exact fromRoot)).or
      (nearest origin.dir (sources.filter fun s => endsInPath (foldName fromRoot) s.path))

end Gazetteer
