import Gazetteer.Query.Predicate
import Gazetteer.Query.Token

/-!
# Queries

A query is predicates combined by `NOT`, `AND` and `OR`, of which `NOT` binds tightest and `OR`
loosest, with parentheses as usual. It is compiled once, into a list of steps for a stack machine: a
predicate puts its value on the stack, an operator takes its operands from the stack and puts its
result there. `Query.compile` refuses a text whose steps would not leave one value; the empty query
has no steps and matches every layer.
-/

namespace Gazetteer

namespace Query

/-- One step of a compiled query. -/
inductive Step where
  | test (p : Predicate)
  | apply (op : Operator)
  deriving DecidableEq, Repr

def Step.text : Step → String
  | .test p => toString p
  | .apply op => op.word

/-! ## From tokens to steps -/

/-- What waits for the operands behind it. -/
inductive Pending where
  | op (o : Operator)
  /-- An open parenthesis and the number of steps in front of it. -/
  | group (start : Nat)
  deriving DecidableEq, Repr

/-- The steps so far, the latest first, and what waits, the latest first. -/
structure Yard where
  steps : List Step := []
  pending : List Pending := []
  deriving DecidableEq, Repr

/-- Apply the operators that wait, the latest first, as long as they pass a test. -/
def applyWhile (test : Operator → Bool) (steps : List Step) :
    List Pending → List Step × List Pending
  | .op o :: pending =>
    if test o then applyWhile test (.apply o :: steps) pending else (steps, .op o :: pending)
  | pending => (steps, pending)

def Yard.push (y : Yard) : Token → Except Fault Yard
  | .word w => do
    let p ← Predicate.ofWord w
    return { y with steps := .test p :: y.steps }
  | .op .not => .ok { y with pending := .op .not :: y.pending }
  | .op o =>
    let binds (top : Operator) : Bool := decide (o.precedence ≤ top.precedence)
    let (steps, pending) := applyWhile binds y.steps y.pending
    .ok ⟨steps, .op o :: pending⟩
  | .open => .ok { y with pending := .group y.steps.length :: y.pending }
  | .close =>
    match applyWhile (fun _ => true) y.steps y.pending with
    | (steps, .group start :: pending) =>
      if start = steps.length then .error .emptyGroup else .ok ⟨steps, pending⟩
    | _ => .error .unbalancedClose

/-- The steps, once there are no more tokens. -/
def Yard.finish (y : Yard) : Except Fault (List Step) :=
  match applyWhile (fun _ => true) y.steps y.pending with
  | (steps, []) => .ok steps.reverse
  | _ => .error .unbalancedOpen

/-- The steps of a sequence of tokens. -/
def postfixOf (ts : List Token) : Except Fault (List Step) := do
  let y ← ts.foldlM Yard.push {}
  y.finish

/-! ## Checking -/

/-- The number of values on the stack after a step. -/
def depthAfter (depth : Nat) : Step → Except Fault Nat
  | .test _ => .ok (depth + 1)
  | .apply .not => if 1 ≤ depth then .ok depth else .error (.missingOperand .not)
  | .apply op => if 2 ≤ depth then .ok (depth - 1) else .error (.missingOperand op)

/-- Check that every operator finds its operands and that not more than one value is left. -/
def checkArity (steps : List Step) : Except Fault Unit := do
  let depth ← steps.foldlM depthAfter 0
  if depth ≤ 1 then .ok () else .error .unjoined

end Query

structure Query where
  /-- The text it was compiled from. -/
  text : String
  steps : List Query.Step
  deriving DecidableEq, Repr

namespace Query

def all : Query := ⟨"", []⟩

def compile (text : String) : Except Fault Query := do
  let ts ← tokens (quoteAtoms text.toList)
  let steps ← postfixOf ts
  checkArity steps
  return ⟨text, steps⟩

def isEmpty (q : Query) : Bool := q.steps.isEmpty

protected def toString (q : Query) : String :=
  " ".intercalate (q.steps.map Step.text)

instance : ToString Query := ⟨Query.toString⟩

/-! ## Evaluation -/

/-- What a step does to the stack, unless an operand is missing. -/
def Step.run (value : Predicate → Bool) (stack : List Bool) : Step → Option (List Bool)
  | .test p => some (value p :: stack)
  | .apply .not =>
    match stack with
    | a :: rest => some ((!a) :: rest)
    | _ => none
  | .apply .and =>
    match stack with
    | b :: a :: rest => some ((a && b) :: rest)
    | _ => none
  | .apply .or =>
    match stack with
    | b :: a :: rest => some ((a || b) :: rest)
    | _ => none

/-- What some steps do to the stack. -/
def run (value : Predicate → Bool) (steps : List Step) (stack : List Bool) : Option (List Bool) :=
  steps.foldlM (Step.run value) stack

def isMatch (notes : Notes) (q : Query) (layer : Layer) : Bool :=
  q.steps.isEmpty ||
    match run (fun p => p.holds notes layer) q.steps [] with
    | some (value :: _) => value
    | _ => false

end Query

end Gazetteer
