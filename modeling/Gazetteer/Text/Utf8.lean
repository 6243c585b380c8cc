/-!
# UTF-8 text

Positions in a note are counted in bytes as well as in characters. `utf8Length` is the length of a
text in bytes, `ByteTable.byteOf` is the byte where a character starts, `splitBytes` and
`sliceBytes` cut at byte positions, and `decode` reads bytes that may not be text at all, putting
U+FFFD in place of each part that is no character.
-/

namespace Gazetteer.Text

/-- The number of bytes of a text. -/
def utf8Length : List Char → Nat
  | [] => 0
  | c :: cs => c.utf8Size + utf8Length cs

@[simp] theorem utf8Length_append (s t : List Char) :
    utf8Length (s ++ t) = utf8Length s + utf8Length t := by
  induction s with
  | nil => simp [utf8Length]
  | cons c s ih => simp [utf8Length, ih, Nat.add_assoc]

@[simp] theorem utf8Length_reverse (s : List Char) : utf8Length s.reverse = utf8Length s := by
  induction s with
  | nil => rfl
  | cons c s ih =>
    rw [List.reverse_cons, utf8Length_append, ih]
    simp only [utf8Length]
    omega

/-- The bytes where the characters of a text start, if it starts at byte `pos`, and its end. -/
def bytesFrom (pos : Nat) : List Char → List Nat
  | [] => [pos]
  | c :: cs => pos :: bytesFrom (pos + c.utf8Size) cs

/-- The bytes where the characters of a text start, in order, and behind them its end. -/
structure ByteTable where
  bytes : Array Nat

namespace ByteTable

def ofText (cs : List Char) : ByteTable :=
  ⟨(bytesFrom 0 cs).toArray⟩

/-- The byte where the character with a number starts; behind the end of the text, its end. -/
def byteOf (t : ByteTable) (index : Nat) : Nat :=
  (t.bytes[index]?.or t.bytes.back?).getD 0

end ByteTable

/-- The text cut at byte `n`, or nothing if the cut falls inside a character or behind the end. -/
def splitBytes : List Char → Nat → Option (List Char × List Char)
  | cs, 0 => some ([], cs)
  | [], _ + 1 => none
  | c :: cs, n + 1 =>
    if c.utf8Size ≤ n + 1 then (splitBytes cs (n + 1 - c.utf8Size)).map fun (a, b) => (c :: a, b)
    else none

/-- A cut loses nothing and falls where it should. -/
theorem eq_append_of_splitBytes {cs a b : List Char} {n : Nat}
    (h : splitBytes cs n = some (a, b)) : cs = a ++ b ∧ utf8Length a = n := by
  induction cs generalizing n a with
  | nil =>
    cases n with
    | zero =>
      simp only [splitBytes, Option.some.injEq, Prod.mk.injEq] at h
      simp [← h.1, ← h.2, utf8Length]
    | succ n => simp [splitBytes] at h
  | cons c cs ih =>
    cases n with
    | zero =>
      simp only [splitBytes, Option.some.injEq, Prod.mk.injEq] at h
      simp [← h.1, ← h.2, utf8Length]
    | succ n =>
      simp only [splitBytes] at h
      split at h
      · obtain ⟨⟨a', b'⟩, hs, he⟩ := Option.map_eq_some_iff.1 h
        simp only [Prod.mk.injEq] at he
        obtain ⟨rfl, rfl⟩ := he
        obtain ⟨h1, h2⟩ := ih hs
        exact ⟨by rw [h1, List.cons_append], by simp only [utf8Length, h2]; omega⟩
      · cases h

/-- A text can be cut behind any of its prefixes. -/
theorem splitBytes_append (a b : List Char) : splitBytes (a ++ b) (utf8Length a) = some (a, b) := by
  induction a with
  | nil =>
    show splitBytes b 0 = some ([], b)
    unfold splitBytes
    rfl
  | cons c a ih =>
    have hpos := c.utf8Size_pos
    obtain ⟨n, hn⟩ : ∃ n, utf8Length (c :: a) = n + 1 := ⟨utf8Length (c :: a) - 1, by
      simp only [utf8Length]
      omega⟩
    have hrest : n + 1 - c.utf8Size = utf8Length a := by
      simp only [utf8Length] at hn
      omega
    have hle : c.utf8Size ≤ n + 1 := by
      simp only [utf8Length] at hn
      omega
    rw [List.cons_append, hn, splitBytes, if_pos hle, hrest, ih]
    rfl

/-- The part of a text between two byte positions, or nothing if one of them is no place to cut. -/
def sliceBytes (cs : List Char) (start stop : Nat) : Option (List Char) :=
  if start ≤ stop then do
    let (_, rest) ← splitBytes cs start
    let (slice, _) ← splitBytes rest (stop - start)
    return slice
  else none

theorem sliceBytes_append (a w b : List Char) :
    sliceBytes (a ++ (w ++ b)) (utf8Length a) (utf8Length a + utf8Length w) = some w := by
  unfold sliceBytes
  rw [if_pos (Nat.le_add_right ..), splitBytes_append, Nat.add_sub_cancel_left]
  simp [splitBytes_append]

/-! ## Reading bytes -/

/-- What the first byte of a character says: how many bytes follow it, the range of the second one,
and its own part of the code point. -/
def leadByte (b : Nat) : Option (Nat × Nat × Nat × Nat) :=
  if b < 0x80 then some (0, 0, 0, b)
  else if b < 0xC2 then none
  else if b < 0xE0 then some (1, 0x80, 0xBF, b - 0xC0)
  else if b < 0xF0 then
    some (2, if b = 0xE0 then 0xA0 else 0x80, if b = 0xED then 0x9F else 0xBF, b - 0xE0)
  else if b < 0xF5 then
    some (3, if b = 0xF0 then 0x90 else 0x80, if b = 0xF4 then 0x8F else 0xBF, b - 0xF0)
  else none

/-- Read `k` more bytes of a character, the first of them between `lo` and `hi`. Bytes that cannot
continue the character are left for the next one. -/
def readTail : Nat → Nat → Nat → Nat → List UInt8 → Option Nat × List UInt8
  | 0, _, _, code, bs => (some code, bs)
  | _ + 1, _, _, _, [] => (none, [])
  | k + 1, lo, hi, code, b :: bs =>
    if lo ≤ b.toNat ∧ b.toNat ≤ hi then readTail k 0x80 0xBF (code * 64 + b.toNat % 64) bs
    else (none, b :: bs)

theorem length_readTail (k lo hi code : Nat) (bs : List UInt8) :
    (readTail k lo hi code bs).2.length ≤ bs.length := by
  induction k generalizing lo hi code bs with
  | zero => simp [readTail]
  | succ k ih =>
    cases bs with
    | nil => simp [readTail]
    | cons b bs =>
      simp only [readTail]
      split
      · exact Nat.le_succ_of_le (ih _ _ _ _)
      · exact Nat.le_refl _

/-- Read the character that starts with byte `b`, if it is one. -/
def readChar (b : UInt8) (bs : List UInt8) : Option Char × List UInt8 :=
  match leadByte b.toNat with
  | some (k, lo, hi, code) =>
    let (found, rest) := readTail k lo hi code bs
    (found.map Char.ofNat, rest)
  | none => (none, bs)

theorem length_readChar (b : UInt8) (bs : List UInt8) :
    (readChar b bs).2.length ≤ bs.length := by
  unfold readChar
  split
  · exact length_readTail ..
  · exact Nat.le_refl _

/-- The characters of a sequence of bytes; nothing stands for a part that is no character. -/
def decodeParts : List UInt8 → List (Option Char)
  | [] => []
  | b :: bs => (readChar b bs).1 :: decodeParts (readChar b bs).2
  termination_by bs => bs.length
  decreasing_by exact Nat.lt_succ_of_le (length_readChar b bs)

/-- The text of a sequence of bytes, with U+FFFD for each part that is no character. -/
def decodeLossy (bs : List UInt8) : List Char :=
  (decodeParts bs).map fun c => c.getD '\uFFFD'

/-- The text of a sequence of bytes, if all of it is text. -/
def decode (bs : List UInt8) : Option (List Char) :=
  (decodeParts bs).mapM id

end Gazetteer.Text
