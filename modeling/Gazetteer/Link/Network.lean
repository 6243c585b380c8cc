import Gazetteer.Link.Graph

/-!
# Networks

Another way to keep a graph of relations: a store of labelled nodes with lines between them, and
next to it a table that says which node stands for which id. The store numbers its nodes and lines
as it likes, and lists them in any order; in particular it may number a new node like one that was
removed. What the store does itself is left open (`NodeStore`).
-/

namespace Gazetteer

/-- A line between two nodes of a store, with the handle of what is drawn for it. -/
structure NodeLine where
  number : Nat
  source : Nat
  target : Nat
  handle : Option Nat

namespace NodeLine

def joins (l : NodeLine) (m n : Nat) : Bool :=
  (l.source == m && l.target == n) || (l.source == n && l.target == m)

def touches (l : NodeLine) (n : Nat) : Bool :=
  l.source == n || l.target == n

/-- The node at the other end of a line. -/
def across (l : NodeLine) (n : Nat) : Nat :=
  if l.source = n then l.target else l.source

end NodeLine

/-- What a store of nodes and lines can do. -/
structure NodeStore (σ : Type) where
  empty : σ
  /-- Add a node with a label, under a number that the store chooses. -/
  addNode : σ → String → Nat × σ
  /-- Remove a node and all lines that touch it. -/
  removeNode : σ → Nat → σ
  addLine : σ → Nat → Nat → σ
  /-- Set the handle of the line with a number. -/
  setHandle : σ → Nat → Nat → σ
  nodes : σ → List (Nat × String)
  lines : σ → List NodeLine

structure Network (σ : Type) where
  store : σ
  /-- The nodes that stand for the ids. -/
  numbers : SortedMap String Nat

namespace Network

variable {σ : Type} (S : NodeStore σ)

def empty : Network σ := ⟨S.empty, .empty⟩

/-- The node of an id; an id that has none gets one. -/
def node (x : Network σ) (id : String) : Nat × Network σ :=
  match x.numbers.get? id with
  | some n => (n, x)
  | none =>
    let (n, store) := S.addNode x.store id
    (n, ⟨store, x.numbers.insert id n⟩)

/-- The line between two nodes. -/
def lineBetween? (x : Network σ) (m n : Nat) : Option NodeLine :=
  (S.lines x.store).find? (·.joins m n)

def label (x : Network σ) (n : Nat) : String :=
  ((S.nodes x.store).lookup n).getD ""

def linesAt (x : Network σ) (n : Nat) : List NodeLine :=
  (S.lines x.store).filter (·.touches n)

/-- Relate two ids; the flag says whether they were not related before. -/
def relate (x : Network σ) (a b : String) : Bool × Network σ :=
  if a = b then (false, x)
  else
    let (m, x) := x.node S a
    let (n, x) := x.node S b
    match x.lineBetween? S m n with
    | some _ => (false, x)
    | none => (true, { x with store := S.addLine x.store m n })

def contains (x : Network σ) (a b : String) : Bool :=
  match x.numbers.get? a, x.numbers.get? b with
  | some m, some n => (x.lineBetween? S m n).isSome
  | _, _ => false

def edgesOf (x : Network σ) (id : String) : List Edge :=
  match x.numbers.get? id with
  | none => []
  | some n =>
    ((x.linesAt S n).map fun l => ⟨x.label S (l.across n), l.handle⟩).mergeSort
      fun e e' => e.other ≤ e'.other

def degree (x : Network σ) (id : String) : Nat :=
  match x.numbers.get? id with
  | none => 0
  | some n => (x.linesAt S n).length

def size (x : Network σ) : Nat := (S.lines x.store).length

/-- The two labels of a line, the smaller one first. -/
def labels (x : Network σ) (l : NodeLine) : String × String :=
  let a := x.label S l.source
  let b := x.label S l.target
  if a ≤ b then (a, b) else (b, a)

def pairs (x : Network σ) : List (String × String) :=
  ((S.lines x.store).map (x.labels S)).mergeSort
    fun p q => p.1 < q.1 ∨ p.1 = q.1 ∧ p.2 ≤ q.2

/-- Draw a line for a relation; the handle that it had before is the answer. -/
def setHandle (x : Network σ) (a b : String) (handle : Nat) : Option Nat × Network σ :=
  match x.numbers.get? a, x.numbers.get? b with
  | some m, some n =>
    match x.lineBetween? S m n with
    | some l => (l.handle, { x with store := S.setHandle x.store l.number handle })
    | none => (none, x)
  | _, _ => (none, x)

/-- Remove an id with all its relations; the handles of what was drawn for them are the answer. -/
def erase (x : Network σ) (id : String) : List Nat × Network σ :=
  match x.numbers.get? id with
  | none => ([], x)
  | some n =>
    ((x.linesAt S n).filterMap (·.handle), ⟨S.removeNode x.store n, x.numbers.erase id⟩)

end Network

end Gazetteer
