import Gazetteer.Error

/-!
# Faults of queries

Why a text is no query.
-/

namespace Gazetteer.Query

/-- The operators, by which queries are combined. -/
inductive Operator where
  | not
  | and
  | or
  deriving DecidableEq, Repr

namespace Operator

def precedence : Operator → Nat
  | .not => 3
  | .and => 2
  | .or => 1

def word : Operator → String
  | .not => "NOT"
  | .and => "AND"
  | .or => "OR"

end Operator

/-- Why a text is no query. -/
inductive Fault where
  /-- A quote that is never closed, at a byte position. -/
  | unterminated (position : Nat)
  /-- A word that is no predicate. -/
  | unsupported (word : String)
  /-- A value of `lines` that is no range. -/
  | badRange (value : String)
  /-- A line number that does not fit 64 bits. -/
  | badNumber (digits : String)
  | unbalancedClose
  | unbalancedOpen
  | emptyGroup
  /-- An operator without enough operands. -/
  | missingOperand (op : Operator)
  /-- Terms with no operator between them. -/
  | unjoined
  deriving DecidableEq, Repr

namespace Fault

def message : Fault → String
  | .unterminated position => s!"Unterminated string starting at {position}"
  | .unsupported word => s!"Unsupported query format '{word}'"
  | .badRange value => s!"Invalid line range '{value}', expected from-to"
  | .badNumber digits => s!"Invalid line number '{digits}': number too large to fit in target type"
  | .unbalancedClose => "Unbalanced ')' in query"
  | .unbalancedOpen => "Unbalanced '(' in query"
  | .emptyGroup => "Malformed boolean expression: empty parentheses"
  | .missingOperand op => s!"Malformed boolean expression: {op.word} is missing an operand"
  | .unjoined => "Malformed boolean expression: terms must be joined with AND or OR"

def toError (f : Fault) : Error :=
  .query f.message

end Fault

end Gazetteer.Query
