import Gazetteer.Text.Hex

/-!
# Content digests

The digest that stands for the content of a geometry in its id: the first bytes, in hexadecimal, of
the SHA-256 hash of its text.
-/

namespace Gazetteer.Digest

/-- The round constants: the first 32 bits of the fractional parts of the cube roots of the first 64
primes. -/
def roundConstants : List UInt32 := [
  0x428a2f98, 0x71374491, 0xb5c0fbcf, 0xe9b5dba5, 0x3956c25b, 0x59f111f1, 0x923f82a4, 0xab1c5ed5,
  0xd807aa98, 0x12835b01, 0x243185be, 0x550c7dc3, 0x72be5d74, 0x80deb1fe, 0x9bdc06a7, 0xc19bf174,
  0xe49b69c1, 0xefbe4786, 0x0fc19dc6, 0x240ca1cc, 0x2de92c6f, 0x4a7484aa, 0x5cb0a9dc, 0x76f988da,
  0x983e5152, 0xa831c66d, 0xb00327c8, 0xbf597fc7, 0xc6e00bf3, 0xd5a79147, 0x06ca6351, 0x14292967,
  0x27b70a85, 0x2e1b2138, 0x4d2c6dfc, 0x53380d13, 0x650a7354, 0x766a0abb, 0x81c2c92e, 0x92722c85,
  0xa2bfe8a1, 0xa81a664b, 0xc24b8b70, 0xc76c51a3, 0xd192e819, 0xd6990624, 0xf40e3585, 0x106aa070,
  0x19a4c116, 0x1e376c08, 0x2748774c, 0x34b0bcb5, 0x391c0cb3, 0x4ed8aa4a, 0x5b9cca4f, 0x682e6ff3,
  0x748f82ee, 0x78a5636f, 0x84c87814, 0x8cc70208, 0x90befffa, 0xa4506ceb, 0xbef9a3f7, 0xc67178f2]

/-- The eight words of the hash while it is computed. -/
structure Words where
  a : UInt32
  b : UInt32
  c : UInt32
  d : UInt32
  e : UInt32
  f : UInt32
  g : UInt32
  h : UInt32

/-- The words before the first block: the first 32 bits of the fractional parts of the square roots
of the first eight primes. -/
def Words.initial : Words :=
  ⟨0x6a09e667, 0xbb67ae85, 0x3c6ef372, 0xa54ff53a, 0x510e527f, 0x9b05688c, 0x1f83d9ab, 0x5be0cd19⟩

def Words.toList (w : Words) : List UInt32 :=
  [w.a, w.b, w.c, w.d, w.e, w.f, w.g, w.h]

def Words.add (v w : Words) : Words :=
  ⟨v.a + w.a, v.b + w.b, v.c + w.c, v.d + w.d, v.e + w.e, v.f + w.f, v.g + w.g, v.h + w.h⟩

def rotate (x : UInt32) (n : UInt32) : UInt32 :=
  (x >>> n) ||| (x <<< (32 - n))

/-- One round, with the constant `k` and the schedule word `w`. -/
def Words.round (s : Words) (k w : UInt32) : Words :=
  let s1 := rotate s.e 6 ^^^ rotate s.e 11 ^^^ rotate s.e 25
  let choice := (s.e &&& s.f) ^^^ (~~~s.e &&& s.g)
  let t1 := s.h + s1 + choice + k + w
  let s0 := rotate s.a 2 ^^^ rotate s.a 13 ^^^ rotate s.a 22
  let majority := (s.a &&& s.b) ^^^ (s.a &&& s.c) ^^^ (s.b &&& s.c)
  ⟨t1 + s0 + majority, s.a, s.b, s.c, s.d + t1, s.e, s.f, s.g⟩

/-- The word that follows the last sixteen words of the schedule, the latest of them first. -/
def nextWord : List UInt32 → UInt32
  | [_, w2, _, _, _, _, w7, _, _, _, _, _, _, _, w15, w16] =>
    let s0 := rotate w15 7 ^^^ rotate w15 18 ^^^ (w15 >>> 3)
    let s1 := rotate w2 17 ^^^ rotate w2 19 ^^^ (w2 >>> 10)
    w16 + s0 + w7 + s1
  | _ => 0

def extendSchedule (last : List UInt32) : Nat → List UInt32
  | 0 => []
  | n + 1 =>
    let w := nextWord last
    w :: extendSchedule (w :: last.take 15) n

/-- Take in a block of sixteen words. -/
def Words.block (s : Words) (ws : List UInt32) : Words :=
  let schedule := ws ++ extendSchedule ws.reverse 48
  s.add ((roundConstants.zip schedule).foldl (fun t kw => t.round kw.1 kw.2) s)

/-- Join bytes to words, the most significant byte first. -/
def joinBytes : List UInt8 → List UInt32
  | a :: b :: c :: d :: rest =>
    ((a.toUInt32 <<< 24) ||| (b.toUInt32 <<< 16) ||| (c.toUInt32 <<< 8) ||| d.toUInt32) ::
      joinBytes rest
  | _ => []

/-- The `n` low bytes of a number, the most significant first. -/
def numberBytes (n : Nat) : Nat → List UInt8
  | 0 => []
  | k + 1 => UInt8.ofNat (n / Nat.pow 256 k % 256) :: numberBytes n k

/-- A message filled up to whole blocks: a one bit, zeros, and the length in bits. -/
def padded (bytes : List UInt8) : List UInt8 :=
  let zeros := (55 + 64 - bytes.length % 64) % 64
  bytes ++ 0x80 :: List.replicate zeros 0 ++ numberBytes (8 * bytes.length) 8

/-- Take in all blocks of a padded message. -/
def blocks (s : Words) (ws : List UInt32) : Words :=
  if _h : ws.length < 16 then s
  else blocks (s.block (ws.take 16)) (ws.drop 16)
  termination_by ws.length
  decreasing_by
    simp only [List.length_drop]
    omega

def sha256 (bytes : List UInt8) : List UInt8 :=
  (blocks .initial (joinBytes (padded bytes))).toList.flatMap fun w => numberBytes w.toNat 4

/-- The digest of a text: the first eight bytes of its hash. -/
def ofText (s : String) : String :=
  String.ofList (((sha256 s.toUTF8.toList).take 8).flatMap Text.hexByte)

/-! ## Lengths -/

theorem length_numberBytes (n k : Nat) : (numberBytes n k).length = k := by
  induction k with
  | zero => rfl
  | succ k ih => rw [numberBytes, List.length_cons, ih]

theorem length_sha256 (bytes : List UInt8) : (sha256 bytes).length = 32 := by
  simp only [sha256, Words.toList, List.flatMap_cons, List.flatMap_nil, List.length_append,
    length_numberBytes, List.length_nil]

/-- All digests have the same length. -/
theorem length_ofText (s : String) : (ofText s).length = 16 := by
  have hbytes : ((sha256 s.toUTF8.toList).take 8).length = 8 := by
    rw [List.length_take, length_sha256]
    rfl
  have hdigits : ∀ bs : List UInt8, (bs.flatMap Text.hexByte).length = 2 * bs.length := by
    intro bs
    induction bs with
    | nil => rfl
    | cons b bs ih =>
      rw [List.flatMap_cons, List.length_append, ih, List.length_cons]
      show 2 + 2 * bs.length = _
      omega
  rw [ofText, String.length_ofList, hdigits, hbytes]

end Gazetteer.Digest
