import Gazetteer.Layer.Basic
import Gazetteer.Store.Basic

/-!
# What links point at

A link points at a document if it resolves to it, and also if its file part or the text shown for it
is the name of the document. Which of the layers of the document it points at depends on its
reference: without one it means all of them.
-/

namespace Gazetteer.LinkRef

/-- Whether a link in the document `origin` resolves to a document. -/
def resolvesTo (notes : Notes) (l : LinkRef) (origin target : SourceRef) : Bool :=
  notes.resolve l.link origin == some target

/-- The names of a document, with and without extension, as they are compared. -/
def namesOf (target : SourceRef) : List String :=
  [foldName target.baseName, foldName target.name]

/-- The last component of the file part, as names are compared. -/
def foldedFileName (l : LinkRef) : String :=
  let file := (percentDecode l.path.filePath).toList
  foldName (String.ofList (((splitLast '/' file).map Prod.snd).getD file))

/-- Whether the file part or the text shown for a link is a name of a document. -/
def isNamedAs (l : LinkRef) (target : SourceRef) : Bool :=
  (l.foldedFileName != "" && (namesOf target).contains l.foldedFileName) ||
    l.displayText.any fun shown => (namesOf target).contains (foldName (Unicode.trimText shown))

/-- Whether a link in the document `origin` points at a document. -/
def targets (notes : Notes) (l : LinkRef) (origin target : SourceRef) : Bool :=
  l.resolvesTo notes origin target || l.isNamedAs target

/-- Whether a reference into the document of a fact means the fact: a block its block, a heading the
last heading above it. -/
def reaches (notes : Notes) (anchor : String) (i : LayerInfo) : Bool :=
  match (notes.outline? i.source).bind (·.resolveAnchor anchor) with
  | some (.block b) => i.block.any fun own => own.id == b.id
  | some (.heading h) => i.heading == some h
  | none => false

/-- Whether a link in the document `origin` points at a layer. References choose among the places of
a document; geometries and facts about the whole document are always meant. -/
def pointsAt (notes : Notes) (l : LinkRef) (origin : SourceRef) (layer : Layer) : Bool :=
  match layer.info? with
  | none => false
  | some i =>
    l.targets notes origin i.source &&
      (i.isDocumentLevel || layer.kind == .geometry ||
        match l.anchor with
        | none => true
        | some anchor => (i.heading.isSome || i.block.isSome) && reaches notes anchor i)

end Gazetteer.LinkRef
