import Gazetteer.Query.Fault
import Gazetteer.Text.Utf8
import Gazetteer.Unicode.Alphabetic
import Gazetteer.Unicode.Blank

/-!
# The words of a query

A query is read in two steps. First every atom `key:value` is put between quotes (`quoteAtoms`), so
that a value that was quoted itself becomes one word with its key. Then the text is cut into tokens
(`tokens`).
-/

namespace Gazetteer.Query

def isDelimiter (c : Char) : Bool :=
  Unicode.isBlank c || c == '(' || c == ')' || c == '"'

def isWordChar (c : Char) : Bool := !isDelimiter c

def isKeyChar (c : Char) : Bool :=
  Unicode.isAlphanumeric c || c == '_' || c == '-'

/-- What stands between quotes at the start of a text, and what follows. -/
def readQuoted : List Char → Option (List Char × List Char)
  | '"' :: cs =>
    match cs.dropWhile (· != '"') with
    | _ :: rest => some (cs.takeWhile (· != '"'), rest)
    | [] => none
  | _ => none

/-- The value at the start of a text, quoted or not, and what follows. -/
def readValue (cs : List Char) : List Char × List Char :=
  (readQuoted cs).getD (cs.takeWhile isWordChar, cs.dropWhile isWordChar)

/-- The atom at the start of a text, without quotes, and what follows. -/
def readAtom (cs : List Char) : Option (List Char × List Char) :=
  match cs.takeWhile isKeyChar, cs.dropWhile isKeyChar with
  | k :: ks, ':' :: rest =>
    let (value, rest) := readValue rest
    some (k :: ks ++ ':' :: value, rest)
  | _, _ => none

def quoted (cs : List Char) : List Char :=
  '"' :: cs ++ ['"']

/-- The next piece of a text that is not empty, its atom quoted, and what follows. -/
def readPiece (c : Char) (cs : List Char) : List Char × List Char :=
  match (readQuoted (c :: cs)).or (readAtom (c :: cs)) with
  | some (content, rest) => (quoted content, rest)
  | none =>
    if isWordChar c then (c :: cs.takeWhile isWordChar, cs.dropWhile isWordChar)
    else ([c], cs)

theorem length_readQuoted {cs a rest : List Char} (h : readQuoted cs = some (a, rest)) :
    rest.length < cs.length := by
  unfold readQuoted at h
  split at h
  · rename_i cs
    split at h
    · rename_i x r hr
      simp only [Option.some.injEq, Prod.mk.injEq] at h
      have := (List.dropWhile_sublist (l := cs) (· != '"')).length_le
      rw [hr] at this
      simp only [List.length_cons] at this ⊢
      rw [← h.2]
      omega
    · cases h
  · cases h

theorem length_readValue (cs : List Char) : (readValue cs).2.length ≤ cs.length := by
  unfold readValue
  cases h : readQuoted cs with
  | none => exact (List.dropWhile_sublist _).length_le
  | some r => exact Nat.le_of_lt (length_readQuoted (a := r.1) h)

theorem length_readAtom {cs a rest : List Char} (h : readAtom cs = some (a, rest)) :
    rest.length < cs.length := by
  unfold readAtom at h
  split at h
  · rename_i k ks r hk hr
    simp only [Option.some.injEq, Prod.mk.injEq] at h
    have h1 := (List.dropWhile_sublist (l := cs) isKeyChar).length_le
    rw [hr, List.length_cons] at h1
    have h2 := length_readValue r
    rw [← h.2]
    omega
  · cases h

/-- A piece takes at least one character. -/
theorem length_readPiece (c : Char) (cs : List Char) :
    (readPiece c cs).2.length < (c :: cs).length := by
  unfold readPiece
  split
  · rename_i content rest h
    rcases Option.or_eq_some_iff.1 h with h | ⟨_, h⟩
    · exact length_readQuoted h
    · exact length_readAtom h
  · split
    · exact Nat.lt_succ_of_le (List.dropWhile_sublist _).length_le
    · exact Nat.lt_succ_self _

/-- A query with every atom between quotes. -/
def quoteAtoms : List Char → List Char
  | [] => []
  | c :: cs => (readPiece c cs).1 ++ quoteAtoms (readPiece c cs).2
  termination_by cs => cs.length
  decreasing_by exact length_readPiece c cs

/-! ## Tokens -/

/-- A token of a query. -/
inductive Token where
  | open
  | close
  | op (o : Operator)
  /-- A word, or a text between quotes. -/
  | word (text : String)
  deriving DecidableEq, Repr

/-- What a word stands for; case does not matter in operators. -/
def Token.ofWord (cs : List Char) : Token :=
  match String.ofList (cs.map Char.toUpper) with
  | "AND" => .op .and
  | "OR" => .op .or
  | "NOT" => .op .not
  | _ => .word (String.ofList cs)

/-- The token at the start of a text, and what follows; there is none where a quote is not
closed. -/
def readToken (c : Char) (cs : List Char) : Option (Token × List Char) :=
  if c = '(' then some (.open, cs)
  else if c = ')' then some (.close, cs)
  else if c = '"' then
    (readQuoted (c :: cs)).map fun (text, rest) => (.word (String.ofList text), rest)
  else some (.ofWord (c :: cs.takeWhile isWordChar), cs.dropWhile isWordChar)

theorem length_readToken {c : Char} {cs rest : List Char} {t : Token}
    (h : readToken c cs = some (t, rest)) : rest.length < (c :: cs).length := by
  unfold readToken at h
  split at h
  · simp only [Option.some.injEq, Prod.mk.injEq] at h
    rw [← h.2]
    exact Nat.lt_succ_self _
  · split at h
    · simp only [Option.some.injEq, Prod.mk.injEq] at h
      rw [← h.2]
      exact Nat.lt_succ_self _
    · split at h
      · obtain ⟨r, hr, he⟩ := Option.map_eq_some_iff.1 h
        simp only [Prod.mk.injEq] at he
        rw [← he.2]
        exact length_readQuoted (a := r.1) hr
      · simp only [Option.some.injEq, Prod.mk.injEq] at h
        rw [← h.2]
        exact Nat.lt_succ_of_le (List.dropWhile_sublist _).length_le

/-- The tokens of a text up to a quote that is not closed, and the text from that quote on. -/
def scan : List Char → List Token × List Char
  | [] => ([], [])
  | c :: cs =>
    if Unicode.isBlank c then scan cs
    else
      match _h : readToken c cs with
      | some (t, rest) =>
        let (ts, unread) := scan rest
        (t :: ts, unread)
      | none => ([], c :: cs)
  termination_by cs => cs.length
  decreasing_by
    · exact Nat.lt_succ_self _
    · exact length_readToken ‹_›

def tokens (cs : List Char) : Except Fault (List Token) :=
  match scan cs with
  | (ts, []) => .ok ts
  | (_, unread) => .error (.unterminated (Text.utf8Length cs - Text.utf8Length unread))

end Gazetteer.Query
