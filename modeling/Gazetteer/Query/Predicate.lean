import Gazetteer.Link.Target
import Gazetteer.Pattern.Note
import Gazetteer.Query.Fault
import Gazetteer.Query.TagPattern
import Gazetteer.Text.Quoted
import Gazetteer.Text.Search

/-!
# Predicates

The tests that queries are made of. A predicate is written `key:value`; it is a test of a point
marker and its note.
-/

namespace Gazetteer.Query

/-- A test of a marker. -/
inductive Predicate where
  /-- One of its tags matches the pattern. -/
  | tag (pattern : TagPattern)
  /-- Its name holds the text, without regard to case. -/
  | name (text : String)
  /-- The path of its note holds the text, without regard to case. -/
  | path (text : String)
  /-- Its note links to the note with this path. -/
  | linkedTo (path : String)
  /-- The note with this path links to its note, or is its note. -/
  | linkedFrom (path : String)
  /-- It stands on one of these lines. -/
  | lines (first last : Nat)
  deriving DecidableEq, Repr

namespace Predicate

/-! ## Reading -/

/-- The number that digits spell, if it fits 64 bits. -/
def lineNumber (ds : List Char) : Except Fault Nat :=
  let n := ds.foldl (fun n c => 10 * n + (c.toNat - '0'.toNat)) 0
  if n < UInt64.size then .ok n else .error (.badNumber (String.ofList ds))

/-- The predicate on lines with a value. -/
def ofRange (value : List Char) : Except Fault Predicate :=
  match Pattern.lineRange.find? value with
  | none => .error (.badRange (String.ofList value))
  | some m => do
    let first ← lineNumber (m.group "from")
    let last ← lineNumber (m.group "to")
    return .lines first last

/-- The predicate that a word is; the case of its key does not matter. -/
def ofWord (word : String) : Except Fault Predicate :=
  let cs := word.toList
  match cs.dropWhile (· != ':') with
  | [] => .error (.unsupported word)
  | _ :: value =>
    let text := String.ofList value
    match Unicode.lowercase (String.ofList (cs.takeWhile (· != ':'))) with
    | "tag" => .ok (.tag ⟨text⟩)
    | "name" => .ok (.name text)
    | "path" => .ok (.path text)
    | "linkedto" => .ok (.linkedTo text)
    | "linkedfrom" => .ok (.linkedFrom text)
    | "lines" => ofRange value
    | _ => .error (.unsupported word)

protected def toString : Predicate → String
  | .tag p => s!"tag:{Text.quoted p.text}"
  | .name t => s!"name:{Text.quoted t}"
  | .path t => s!"path:{Text.quoted t}"
  | .linkedTo p => s!"linkedto:{Text.quoted p}"
  | .linkedFrom p => s!"linkedfrom:{Text.quoted p}"
  | .lines first last => s!"lines:{first}-{last}"

instance : ToString Predicate := ⟨Predicate.toString⟩

/-! ## Testing -/

/-- Whether a text holds another one that is not empty, without regard to case. -/
def containsFolded (text part : String) : Bool :=
  part != "" && Text.occursIn (Unicode.lowercase part).toList (Unicode.lowercase text).toList

/-- The note that a path in a query names. -/
def noteAt (notes : Notes) (path : String) : Option SourceRef :=
  notes.resolve path .root

/-- The links of a note; there are none if it cannot be read. -/
def linksOf (notes : Notes) (source : SourceRef) : List LinkRef :=
  ((notes.outline? source).map (·.allLinks)).getD []

/-- Whether a predicate holds of a layer. Predicates hold of nothing but point markers. -/
def holds (notes : Notes) (p : Predicate) (layer : Layer) : Bool :=
  match layer with
  | .marker m =>
    let source := m.info.source
    match p with
    | .tag pattern => m.info.tags.any pattern.isMatch
    | .name text => containsFolded layer.name text
    | .path text => containsFolded source.path text
    | .linkedTo wanted =>
      (noteAt notes wanted).any fun target =>
        (linksOf notes source).any fun l => l.resolvesTo notes source target
    | .linkedFrom wanted =>
      (noteAt notes wanted).any fun origin =>
        origin == source || (linksOf notes origin).any fun l => l.targets notes origin source
    | .lines first last => m.info.line.any fun n => decide (first ≤ n) && decide (n ≤ last)
  | _ => false

end Predicate

end Gazetteer.Query
