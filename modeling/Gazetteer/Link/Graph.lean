import Gazetteer.Link.Target

/-!
# The link graph

Two markers are related if a link between their notes points from one at the other. The relation has
no direction, and no marker is related to itself, so the graph is a map from pairs of distinct ids;
the value of a pair is the handle of the line drawn for it, if there is one. `LinkGraph.ofLayers`
relates markers as the links of their notes say: it walks from note to note along the links and
comes to every note with markers once.
-/

namespace Gazetteer

/-- Two distinct ids, the smaller one first. -/
structure IdPair where
  low : String
  high : String
  low_lt_high : low < high
  deriving DecidableEq

namespace IdPair

/-- The pair of two ids, if they differ. -/
def of? (a b : String) : Option IdPair :=
  if h : a < b then some ⟨a, b, h⟩
  else if h : b < a then some ⟨b, a, h⟩
  else none

/-- Pairs are ordered by their smaller ids, then by their larger ones. -/
instance : Ord IdPair := ⟨compareLex (compareOn IdPair.low) (compareOn IdPair.high)⟩

instance : Std.TransOrd IdPair :=
  inferInstanceAs (Std.TransCmp (compareLex (compareOn IdPair.low) (compareOn IdPair.high)))

instance : Std.LawfulEqOrd IdPair where
  eq_of_compare {a b} h := by
    obtain ⟨h1, h2⟩ := Ordering.then_eq_eq.1 h
    cases a
    cases b
    simp only [IdPair.mk.injEq]
    exact ⟨Std.LawfulEqOrd.eq_of_compare h1, Std.LawfulEqOrd.eq_of_compare h2⟩

/-- The order of the two ids does not matter. -/
theorem of?_comm (a b : String) : of? a b = of? b a := by
  unfold of?
  by_cases h1 : a < b
  · have h2 : ¬b < a := fun h2 => String.lt_asymm h1 h2
    simp [h1, h2]
  · by_cases h2 : b < a <;> simp [h1, h2]

/-- The id that a pair has beside another one. -/
def other? (p : IdPair) (id : String) : Option String :=
  if p.low = id then some p.high
  else if p.high = id then some p.low
  else none

end IdPair

structure LinkGraph where
  edges : SortedMap IdPair (Option Nat)

/-- A relation as one of its markers sees it. -/
structure Edge where
  /-- The other marker. -/
  other : String
  /-- The handle of the line drawn for the relation. -/
  handle : Option Nat
  deriving DecidableEq, Repr

namespace LinkGraph

def empty : LinkGraph := ⟨.empty⟩

def contains (g : LinkGraph) (a b : String) : Bool :=
  (IdPair.of? a b).any g.edges.contains

/-- Whether relating two markers would be new: they are distinct and not related. -/
def isNew (g : LinkGraph) (a b : String) : Bool :=
  (IdPair.of? a b).any fun p => !g.edges.contains p

/-- Relate two markers. A relation that exists keeps its line. -/
def relate (g : LinkGraph) (a b : String) : LinkGraph :=
  match IdPair.of? a b with
  | some p => if g.edges.contains p then g else ⟨g.edges.insert p none⟩
  | none => g

def size (g : LinkGraph) : Nat := g.edges.size

def pairs (g : LinkGraph) : List IdPair := g.edges.keys

/-- The relations of a marker, in the order of the other markers. -/
def edgesOf (g : LinkGraph) (id : String) : List Edge :=
  g.edges.entries.filterMap fun (p, handle) => (p.other? id).map fun other => ⟨other, handle⟩

/-- The number of relations of a marker. -/
def degree (g : LinkGraph) (id : String) : Nat :=
  (g.edgesOf id).length

/-- The handle of the line drawn for a relation. -/
def handle? (g : LinkGraph) (a b : String) : Option Nat :=
  ((IdPair.of? a b).bind g.edges.get?).join

/-- Draw a line for a relation, in place of the one that was drawn before; markers that are not
related stay so. -/
def setHandle (g : LinkGraph) (a b : String) (handle : Nat) : LinkGraph :=
  match IdPair.of? a b with
  | some p => if g.edges.contains p then ⟨g.edges.insert p (some handle)⟩ else g
  | none => g

/-- The handles of the lines drawn for the relations of a marker. -/
def handlesOf (g : LinkGraph) (id : String) : List Nat :=
  (g.edgesOf id).filterMap (·.handle)

def erase (g : LinkGraph) (id : String) : LinkGraph :=
  ⟨g.edges.filter fun p _ => (p.other? id).isNone⟩

/-! ## From layers -/

def markersOf (ls : List Layer) : List Marker :=
  ls.filterMap Layer.marker?

/-- The markers of each note that has any, in their order. -/
def markerTable (ms : List Marker) : SortedMap SourceRef (List Marker) :=
  ms.foldl (fun t m => t.insert m.info.source ((t.get? m.info.source).getD [] ++ [m])) .empty

/-- Relate every one of some markers to every one of some others. -/
def relateAll (g : LinkGraph) (own reached : List Marker) : LinkGraph :=
  reached.foldl (fun g m => own.foldl (fun g o => g.relate o.info.id m.info.id) g) g

/-- How far a walk along the links has come. -/
structure Walk where
  /-- The notes with markers that the walk has not come to. -/
  unvisited : List SourceRef
  /-- Where the walk goes next, the next note first. -/
  stack : List SourceRef
  graph : LinkGraph

namespace Walk

variable (notes : Notes) (table : SortedMap SourceRef (List Marker))

/-- Follow a link of a note: relate the markers of the note to those it points at, and go there
later unless the walk was there. A link to nowhere, or to a note without markers, is passed over. -/
def follow (source : SourceRef) (w : Walk) (l : LinkRef) : Walk :=
  match notes.resolve l.link source with
  | none => w
  | some target =>
    match table.get? target with
    | none => w
    | some ms =>
      { w with
        stack := if w.unvisited.contains target then target :: w.stack else w.stack
        graph := w.graph.relateAll ((table.get? source).getD [])
          (ms.filter fun m => l.pointsAt notes source (.marker m)) }

/-- Visit a note: follow its links in their order. -/
def visit (source : SourceRef) (w : Walk) : Walk :=
  let w := { w with unvisited := w.unvisited.filter (· != source) }
  match notes.outline? source with
  | none => w
  | some o => o.allLinks.foldl (follow notes table source) w

theorem unvisited_follow (source : SourceRef) (w : Walk) (l : LinkRef) :
    (w.follow notes table source l).unvisited = w.unvisited := by
  unfold follow
  split
  · rfl
  · split <;> rfl

theorem unvisited_foldl_follow (source : SourceRef) (ls : List LinkRef) (w : Walk) :
    (ls.foldl (follow notes table source) w).unvisited = w.unvisited := by
  induction ls generalizing w with
  | nil => rfl
  | cons l ls ih => rw [List.foldl_cons, ih, unvisited_follow]

theorem unvisited_visit (source : SourceRef) (w : Walk) :
    (w.visit notes table source).unvisited = w.unvisited.filter (· != source) := by
  unfold visit
  split
  · rfl
  · rw [unvisited_foldl_follow]

/-- Walk on until there is nowhere left to go. A note is visited the first time the walk comes to
it.
-/
def run (w : Walk) : Walk :=
  match _hs : w.stack with
  | [] => w
  | source :: stack =>
    if _hu : source ∈ w.unvisited then run (visit notes table source { w with stack })
    else run { w with stack }
termination_by (w.unvisited.length, w.stack.length)
decreasing_by
  · apply Prod.Lex.left
    rw [unvisited_visit]
    exact List.length_filter_lt_length_iff_exists.2 ⟨source, _hu, by simp⟩
  · apply Prod.Lex.right
    simp [_hs]

end Walk

/-- Relate the markers among some layers as the links of their notes say. The walk starts anew from
every note with markers, so it comes to all of them. -/
def ofLayers (notes : Notes) (ls : List Layer) : LinkGraph :=
  let table := markerTable (markersOf ls)
  (table.keys.foldl (fun w start => Walk.run notes table { w with stack := [start] })
    ⟨table.keys, [], empty⟩).graph

/-- A marker with the number of its relations. -/
def stampMarker (g : LinkGraph) (m : Marker) : Marker :=
  { m with edgeCount := g.degree m.info.id }

/-- A layer with the number of its relations. -/
def stamp (g : LinkGraph) : Layer → Layer
  | .marker m => .marker (g.stampMarker m)
  | l => l

end LinkGraph

end Gazetteer
