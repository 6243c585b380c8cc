import Gazetteer.Error
import Gazetteer.Note.Basic
import Gazetteer.Note.Resolution

/-!
# Stores of notes

`Notes` is what the rest of the library sees of a collection of notes: which ones there are, and
what reading each of them gives. `NoteStore` is a collection held in memory.
-/

namespace Gazetteer

/-- A collection of notes, as its readers see it. -/
structure Notes where
  /-- The notes there are. -/
  sources : List SourceRef
  /-- The note at a path, or why it cannot be read. -/
  read : SourceRef → Except Error Note
  /-- The note that a link text in a document names. A collection may have a rule of its own. -/
  resolve (text : String) (origin : SourceRef) : Option SourceRef := resolveLink sources text origin

namespace Notes

/-- The note at a path, if it can be read. -/
def note? (notes : Notes) (source : SourceRef) : Option Note :=
  (notes.read source).toOption

def outline? (notes : Notes) (source : SourceRef) : Option Outline :=
  (notes.note? source).map (·.outline)

def frontMatter? (notes : Notes) (source : SourceRef) : Option Json :=
  (notes.note? source).bind (·.frontMatter)

def tags (notes : Notes) (source : SourceRef) : List String :=
  ((notes.note? source).map (·.tags)).getD []

def text (notes : Notes) (source : SourceRef) : Except Error String :=
  (notes.read source).map (·.text)

end Notes

/-- Notes held in memory, by their paths. -/
structure NoteStore where
  byPath : SortedMap String Note

namespace NoteStore

def empty : NoteStore := ⟨.empty⟩

/-- The store with a note put at a path, in place of the one that was there. -/
def put (s : NoteStore) (source : SourceRef) (text : String) : NoteStore :=
  ⟨s.byPath.insert source.path (Note.ofText text)⟩

/-- The store without the note at a path. -/
def drop (s : NoteStore) (source : SourceRef) : NoteStore :=
  ⟨s.byPath.erase source.path⟩

/-- Whether there is a note at a path. -/
def contains (s : NoteStore) (source : SourceRef) : Bool :=
  s.byPath.contains source.path

def size (s : NoteStore) : Nat := s.byPath.size

/-- The store with texts put at paths, one after the other. -/
def ofList (docs : List (String × String)) : NoteStore :=
  docs.foldl (fun s doc => s.put (SourceRef.ofString doc.1) doc.2) empty

/-- The notes of the store, in path order. -/
def notes (s : NoteStore) : Notes where
  sources := s.byPath.keys.map SourceRef.mk
  read source :=
    match s.byPath.get? source.path with
    | some note => .ok note
    | none => .error (.notFound s!"no document at {source.path}")

variable {s : NoteStore} {source t : SourceRef} {text : String}

theorem mem_sources_iff : source ∈ s.notes.sources ↔ s.contains source = true := by
  show source ∈ s.byPath.keys.map SourceRef.mk ↔ _
  rw [List.mem_map]
  constructor
  · rintro ⟨path, hpath, rfl⟩
    exact SortedMap.mem_keys_iff.1 hpath
  · exact fun h => ⟨source.path, SortedMap.mem_keys_iff.2 h, rfl⟩

theorem read_put_of_ne (h : t ≠ source) : (s.put source text).notes.read t = s.notes.read t := by
  have hpath : t.path ≠ source.path := fun he => h (congrArg SourceRef.mk he)
  simp only [notes, put, SortedMap.get?_insert, if_neg hpath]

end NoteStore

end Gazetteer
