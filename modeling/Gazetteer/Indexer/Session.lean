import Gazetteer.Indexer.Basic

/-!
# Sessions

An indexer at work. The notes change, changes of the index are prepared, any number of them may wait
to be applied, and they are applied in any order. What is reported is kept in the order in which it
was sent.
-/

namespace Gazetteer

namespace Indexer

def prepare (x : Indexer) (notes : Notes) : UpdateScope → Indexer × Except Error PendingUpdate
  | .full =>
    let (x, p) := x.prepareFull notes
    (x, .ok p)
  | .file source => x.prepareFile notes source
  | .removal source =>
    let (x, p) := x.prepareRemoval notes source
    (x, .ok p)

/-- Prepare a change of some scope and apply it at once. -/
def update (x : Indexer) (notes : Notes) (scope : UpdateScope) : Except Error Applied :=
  let (x, p) := x.prepare notes scope
  p.bind x.apply

end Indexer

structure Session where
  indexer : Indexer
  /-- The notes as they are now. -/
  notes : Notes
  /-- The changes that were prepared and wait to be applied, the oldest first. -/
  pending : List PendingUpdate
  /-- What was reported so far, the oldest first. -/
  events : List LayerEvent

/-- What happens in a session. -/
inductive Action where
  /-- The notes are other ones from now on. -/
  | edit (notes : Notes)
  | prepare (scope : UpdateScope)
  /-- Apply a change that waits, counted from the oldest. -/
  | apply (k : Nat)

/-- Whether an action prepares a change, with or without success. -/
def Action.isPrepare : Action → Bool
  | .prepare _ => true
  | _ => false

namespace Session

/-- A session with an indexer that has not prepared anything. -/
def start (x : Indexer) (notes : Notes) : Session := ⟨x, notes, [], []⟩

/-- The session after an action. A change that could not be prepared does not wait; one that is
applied does not wait any longer, whether it was stale or not. -/
def step (s : Session) : Action → Session
  | .edit notes => { s with notes }
  | .prepare scope =>
    match s.indexer.prepare s.notes scope with
    | (x, .ok p) => { s with indexer := x, pending := s.pending ++ [p] }
    | (x, .error _) => { s with indexer := x }
  | .apply k =>
    match s.pending[k]? with
    | none => s
    | some p =>
      let s := { s with pending := s.pending.eraseIdx k }
      match s.indexer.apply p with
      | .ok done => { s with indexer := done.indexer, events := s.events ++ done.events }
      | .error _ => s

def run (s : Session) (as : List Action) : Session :=
  as.foldl step s

/-- The sessions that an indexer can come to, from the first one on. -/
inductive Reachable : Session → Prop
  | start {config : Config} {x : Indexer} (h : Indexer.new config = .ok x) (notes : Notes) :
      Reachable (start x notes)
  | step {s : Session} (h : Reachable s) (a : Action) : Reachable (s.step a)

theorem Reachable.run {s : Session} (h : Reachable s) (as : List Action) :
    Reachable (s.run as) := by
  induction as generalizing s with
  | nil => exact h
  | cons a as ih => exact ih (h.step a)

end Session

end Gazetteer
