import Gazetteer.Index.Basic

/-!
# Reconciling an index

Freshly built layers are compared with the indexed ones before anything changes. Of several
candidates with one id the first counts. An indexed layer that says the same as its candidate is
kept; a candidate that says something else takes its place, one with a new id is added, and indexed
layers without a candidate are removed. The next index is made of the layers that stay.
-/

namespace Gazetteer

/-- What becomes of indexed layers and candidates. -/
structure Reconciliation where
  /-- Indexed layers that stay as they are. -/
  kept : List Layer := []
  /-- Candidates with new ids. -/
  added : List Layer := []
  /-- Candidates that take the place of indexed layers. -/
  updated : List Layer := []
  /-- Indexed layers without candidates. -/
  removed : List Layer := []

namespace Reconciliation

/-- Whether the index stays as it is. -/
def isUnchanged (r : Reconciliation) : Bool :=
  r.added.isEmpty && r.updated.isEmpty && r.removed.isEmpty

def present (r : Reconciliation) : List Layer :=
  r.kept ++ r.added ++ r.updated

/-- The index of the layers that stay. -/
def toIndex (r : Reconciliation) : LayerIndex :=
  LayerIndex.empty.addAll r.present

end Reconciliation

/-- The layers that have ids, each id once, where `seen` ids do not count any more. -/
def distinctLayers (seen : List String) : List Layer → List Layer
  | [] => []
  | l :: ls =>
    if l.isFloating || seen.contains l.id then distinctLayers seen ls
    else l :: distinctLayers (l.id :: seen) ls

namespace LayerIndex

/-- The indexed layer that a candidate says nothing new about. -/
def kept? (i : LayerIndex) (candidate : Layer) : Option Layer :=
  (i.get? candidate.id).filter fun old => old.sameContent false candidate

/-- Whether a candidate says something else than the indexed layer with its id. -/
def isUpdate (i : LayerIndex) (candidate : Layer) : Bool :=
  i.contains candidate.id && (i.kept? candidate).isNone

/-- Compare candidates with the index; of the indexed layers only `existing` ones can be removed. -/
def reconcileWith (i : LayerIndex) (existing candidates : List Layer) : Reconciliation :=
  let fresh := distinctLayers [] candidates
  { kept := fresh.filterMap i.kept?
    added := fresh.filter fun l => !i.contains l.id
    updated := fresh.filter i.isUpdate
    removed := existing.filter fun old => !fresh.any fun l => l.id == old.id }

def reconcile (i : LayerIndex) (candidates : List Layer) : Reconciliation :=
  i.reconcileWith i.layers candidates

/-- Compare candidates from one note with the layers of that note. -/
def reconcileSource (i : LayerIndex) (path : String) (candidates : List Layer) : Reconciliation :=
  i.reconcileWith (i.layersOf path) candidates

/-- Put the outcome of a comparison in the place of the layers of a note. An id that layers of other
notes use stays with them. -/
def applySource (i : LayerIndex) (path : String) (r : Reconciliation) : LayerIndex :=
  (i.deleteSource path).addAll r.present

end LayerIndex

end Gazetteer
