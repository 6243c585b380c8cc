import Gazetteer.Proofs.Text.Utf8
import Gazetteer.Text.Lines

/-!
# Looking up lines

The table of a text finds for every byte the line that is counted for it: the number of line feeds
in front of the byte (`LineTable.lineOf_ofText`). What the search in the table comes to is told by
the number of lines that start up to a byte (`LineTable.search_eq`). The first line starts with the
text, so this number is never zero, and no line is looked for in front of the first one
(`LineTable.search_ofText_ne`).
-/

namespace Gazetteer.Text

variable {cs before rest : List Char} {c : Char} {b : UInt8} {pos n : Nat}

/-! ## Counting line feeds -/

/-- The bytes of a character are its code point or none of ASCII. -/
theorem toNat_of_mem_utf8EncodeChar (h : b ∈ String.utf8EncodeChar c) :
    b.toNat = c.toNat ∨ 128 ≤ b.toNat := by
  have hlarge : ∀ n, 128 ≤ n → n < 256 → b = UInt8.ofNat n → 128 ≤ b.toNat := by
    rintro n hn hlt rfl
    rwa [UInt8.toNat_ofNat_of_lt' hlt]
  unfold String.utf8EncodeChar at h
  simp only at h
  split at h
  · rename_i hv
    rw [List.mem_singleton.1 h, UInt8.toNat_ofNat_of_lt' (by show _ < 256; omega)]
    exact .inl rfl
  · refine .inr ?_
    split at h
    · simp only [List.mem_cons, List.not_mem_nil, or_false] at h
      rcases h with h | h <;> exact hlarge _ (by omega) (by omega) h
    · split at h
      · simp only [List.mem_cons, List.not_mem_nil, or_false] at h
        rcases h with h | h | h <;> exact hlarge _ (by omega) (by omega) h
      · simp only [List.mem_cons, List.not_mem_nil, or_false] at h
        rcases h with h | h | h | h <;> exact hlarge _ (by omega) (by omega) h

/-- No byte of another character is a line feed. -/
theorem lineFeed_notMem_utf8EncodeChar (hc : c ≠ '\n') : 0x0A ∉ String.utf8EncodeChar c := by
  intro h
  rcases toNat_of_mem_utf8EncodeChar h with h | h
  · exact hc (by rw [← Char.ofNat_toNat c, ← h]; rfl)
  · exact absurd h (by decide)

theorem lineFeedsBefore_zero (cs : List Char) : lineFeedsBefore cs 0 = 0 := by
  simp [lineFeedsBefore]

theorem lineFeedsBefore_lineFeed (cs : List Char) (n : Nat) :
    lineFeedsBefore ('\n' :: cs) (n + 1) = lineFeedsBefore cs n + 1 := by
  have hbytes : String.utf8EncodeChar '\n' = [0x0A] := by decide
  rw [lineFeedsBefore, List.flatMap_cons, hbytes, List.singleton_append, List.take_succ_cons,
    List.count_cons_self, lineFeedsBefore]

/-- A character without line feeds is passed over. -/
theorem lineFeedsBefore_cons (hc : c ≠ '\n') (cs : List Char) (n : Nat) :
    lineFeedsBefore (c :: cs) n = lineFeedsBefore cs (n - c.utf8Size) := by
  have hnone : ((String.utf8EncodeChar c).take n).count 0x0A = 0 :=
    List.count_eq_zero_of_not_mem fun hmem =>
      lineFeed_notMem_utf8EncodeChar hc (List.mem_of_mem_take hmem)
  rw [lineFeedsBefore, List.flatMap_cons, List.take_append, List.count_append, hnone, Nat.zero_add,
    String.length_utf8EncodeChar, lineFeedsBefore]

theorem lineFeedsBefore_mono (cs : List Char) {m n : Nat} (h : m ≤ n) :
    lineFeedsBefore cs m ≤ lineFeedsBefore cs n :=
  (List.take_sublist_take_left h).count_le _

/-- In front of a character, bytes are counted as characters are. -/
theorem lineFeedsBefore_append (before rest : List Char) :
    lineFeedsBefore (before ++ rest) (utf8Length before) = before.count '\n' := by
  induction before with
  | nil => exact lineFeedsBefore_zero rest
  | cons c before ih =>
    rw [List.cons_append]
    by_cases hc : c = '\n'
    · subst hc
      rw [utf8Length, show Char.utf8Size '\n' = 1 from rfl, Nat.add_comm, lineFeedsBefore_lineFeed,
        ih, List.count_cons_self]
    · rw [utf8Length, lineFeedsBefore_cons hc, Nat.add_sub_cancel_left, ih,
        List.count_cons_of_ne hc]

/-! ## Starts of lines -/

theorem lt_of_mem_startsFrom (h : n ∈ startsFrom pos cs) : pos < n := by
  induction cs generalizing pos with
  | nil => cases h
  | cons c cs ih =>
    have hpos := c.utf8Size_pos
    have hrest : n ∈ startsFrom (pos + c.utf8Size) cs → pos < n := fun h => by
      have := ih h
      omega
    rw [startsFrom] at h
    split at h
    · rcases List.mem_cons.1 h with rfl | h
      · omega
      · exact hrest h
    · exact hrest h

theorem pairwise_startsFrom (pos : Nat) (cs : List Char) :
    (startsFrom pos cs).Pairwise (· < ·) := by
  induction cs generalizing pos with
  | nil => exact .nil
  | cons c cs ih =>
    rw [startsFrom]
    split
    · exact .cons (fun _ => lt_of_mem_startsFrom) (ih _)
    · exact ih _

/-- The number of lines among some starts that start up to an offset. -/
def startsUpTo (starts : List Nat) (offset : Nat) : Nat :=
  starts.countP fun start => decide (start ≤ offset)

theorem startsUpTo_cons {start : Nat} (h : start ≤ n) (starts : List Nat) :
    startsUpTo (start :: starts) n = startsUpTo starts n + 1 :=
  List.countP_cons_of_pos (decide_eq_true h)

theorem startsUpTo_eq_zero (h : n ≤ pos) : startsUpTo (startsFrom pos cs) n = 0 := by
  refine List.countP_eq_zero.2 fun start hstart => ?_
  have := lt_of_mem_startsFrom hstart
  rw [decide_eq_true_eq]
  omega

/-- Behind the first one, the lines that start up to a byte are as many as the line feeds in front
of it. -/
theorem startsUpTo_startsFrom (pos n : Nat) (cs : List Char) :
    startsUpTo (startsFrom pos cs) (pos + n) = lineFeedsBefore cs n := by
  induction cs generalizing pos n with
  | nil => simp [startsFrom, startsUpTo, lineFeedsBefore]
  | cons c cs ih =>
    by_cases hc : c = '\n'
    · subst hc
      cases n with
      | zero => rw [lineFeedsBefore_zero, Nat.add_zero, startsUpTo_eq_zero (Nat.le_refl pos)]
      | succ n =>
        rw [startsFrom, if_pos rfl, lineFeedsBefore_lineFeed,
          show Char.utf8Size '\n' = 1 from rfl, startsUpTo_cons (by omega), ← ih (pos + 1) n,
          Nat.add_right_comm pos 1 n, Nat.add_assoc]
    · rw [startsFrom, if_neg hc, lineFeedsBefore_cons hc]
      by_cases hn : c.utf8Size ≤ n
      · rw [← ih (pos + c.utf8Size), show pos + c.utf8Size + (n - c.utf8Size) = pos + n by omega]
      · rw [startsUpTo_eq_zero (by omega), show n - c.utf8Size = 0 by omega, lineFeedsBefore_zero]

/-! ## Searching -/

namespace LineTable

section Search

variable {t : LineTable} {starts : Array Nat} {offset base size i j : Nat}

/-- The lines of a table start behind each other. -/
def Increasing (starts : Array Nat) : Prop := starts.toList.Pairwise (· < ·)

theorem Increasing.lt (h : Increasing starts) (hij : i < j) (hj : j < starts.size) :
    starts.getD i 0 < starts.getD j 0 := by
  have hlt := List.pairwise_iff_getElem.1 h i j (by simp; omega) (by simpa using hj) hij
  rwa [Array.getElem_toList, Array.getElem_toList, Array.getElem_eq_getD 0,
    Array.getElem_eq_getD 0] at hlt

/-- What narrowing down keeps of the lines from `base` on: the first of them starts up to the
offset, and the lines behind them start behind the offset. -/
structure Surrounds (starts : Array Nat) (offset base size : Nat) : Prop where
  size_pos : 0 < size
  end_le : base + size ≤ starts.size
  first : starts.getD base 0 ≤ offset
  behind : ∀ i, base + size ≤ i → i < starts.size → offset < starts.getD i 0

theorem Surrounds.upper (h : Surrounds starts offset base size) (hsize : 1 < size)
    (hmid : starts.getD (base + size / 2) 0 ≤ offset) :
    Surrounds starts offset (base + size / 2) (size - size / 2) := by
  have hend := h.end_le
  exact ⟨by omega, by omega, hmid, fun i hi => h.behind i (by omega)⟩

theorem Surrounds.lower (hstarts : Increasing starts) (h : Surrounds starts offset base size)
    (hsize : 1 < size) (hmid : ¬starts.getD (base + size / 2) 0 ≤ offset) :
    Surrounds starts offset base (size - size / 2) := by
  have hend := h.end_le
  refine ⟨by omega, by omega, h.first, fun i hi hlt => ?_⟩
  rcases Nat.eq_or_lt_of_le (show base + size / 2 ≤ i by omega) with rfl | hmidlt
  · omega
  · have := hstarts.lt hmidlt hlt
    omega

theorem Surrounds.narrow (hstarts : Increasing starts) (h : Surrounds starts offset base size) :
    Surrounds starts offset (narrow starts offset base size) 1 := by
  fun_induction LineTable.narrow starts offset base size with
  | case1 base size hsize half mid ih =>
    refine ih ?_
    split
    · rename_i hmid
      exact h.upper hsize hmid
    · rename_i hmid
      exact h.lower hstarts hsize hmid
  | case2 base size hsize =>
    have hpos := h.size_pos
    rwa [show size = 1 by omega] at h

/-- A line that starts up to an offset, with none behind it that does, ends the lines that start up
to the offset. -/
theorem Surrounds.startsUpTo_eq (hstarts : Increasing starts) (h : Surrounds starts offset base 1) :
    startsUpTo starts.toList offset = base + 1 := by
  have htake : (starts.toList.take (base + 1)).countP (fun start => decide (start ≤ offset)) =
      base + 1 := by
    rw [List.countP_eq_length.2 fun start hstart => ?_, List.length_take, Array.length_toList,
      Nat.min_eq_left h.end_le]
    obtain ⟨j, hj, rfl⟩ := List.mem_take_iff_getElem.1 hstart
    rw [Array.length_toList, Nat.lt_min] at hj
    have hle : starts.getD j 0 ≤ offset := by
      rcases Nat.eq_or_lt_of_le (Nat.le_of_lt_succ hj.1) with rfl | hlt
      · exact h.first
      · exact Nat.le_trans (Nat.le_of_lt (hstarts.lt hlt h.end_le)) h.first
    rw [decide_eq_true_eq, Array.getElem_toList, Array.getElem_eq_getD 0]
    exact hle
  have hdrop : (starts.toList.drop (base + 1)).countP (fun start => decide (start ≤ offset)) =
      0 := by
    refine List.countP_eq_zero.2 fun start hstart => ?_
    obtain ⟨j, hj, rfl⟩ := List.mem_drop_iff_getElem.1 hstart
    rw [Array.length_toList, Nat.add_comm] at hj
    rw [decide_eq_true_eq, Array.getElem_toList, Array.getElem_eq_getD 0]
    exact Nat.not_le_of_lt (h.behind (base + 1 + j) (by omega) hj)
  rw [startsUpTo, ← List.take_append_drop (base + 1) starts.toList, List.countP_append, htake,
    hdrop, Nat.add_zero]

theorem Surrounds.mem_iff (hstarts : Increasing starts) (h : Surrounds starts offset base 1) :
    offset ∈ starts.toList ↔ starts.getD base 0 = offset := by
  have hbase : base < starts.size := h.end_le
  have hfirst := h.first
  constructor
  · intro hmem
    obtain ⟨j, hj, rfl⟩ := List.mem_iff_getElem.1 hmem
    rw [Array.length_toList] at hj
    rw [Array.getElem_toList, Array.getElem_eq_getD 0] at hfirst ⊢
    have hle := h.behind j
    rcases Nat.lt_trichotomy j base with hlt | rfl | hlt
    · exact absurd hfirst (Nat.not_le_of_lt (hstarts.lt hlt hbase))
    · rfl
    · rw [Array.getElem_toList, Array.getElem_eq_getD 0] at hle
      exact absurd (hle hlt hj) (Nat.lt_irrefl _)
  · intro heq
    rw [← heq, ← Array.getElem_eq_getD 0 (h := hbase)]
    exact Array.getElem_mem_toList _

/-- The search finds the last of the lines that start up to an offset if it starts there, and else
the place behind it. -/
theorem search_eq (hstarts : Increasing t.starts) (hfirst : t.starts[0]? = some 0) (offset : Nat) :
    ∃ line, startsUpTo t.starts.toList offset = line + 1 ∧
      t.search offset = if offset ∈ t.starts.toList then .hit line else .miss (line + 1) := by
  obtain ⟨hsize, hzero⟩ := Array.getElem?_eq_some_iff.1 hfirst
  have hall : Surrounds t.starts offset 0 t.starts.size := by
    refine ⟨hsize, by omega, ?_, fun i hi hlt => by omega⟩
    rw [← Array.getElem_eq_getD 0 (h := hsize), hzero]
    exact Nat.zero_le offset
  have hone := hall.narrow hstarts
  have hline : narrow t.starts offset 0 t.starts.size < t.starts.size := hone.end_le
  have hle := hone.first
  refine ⟨_, hone.startsUpTo_eq hstarts, ?_⟩
  simp only [hone.mem_iff hstarts, search, Array.getElem?_eq_getElem hline]
  rw [← Array.getElem_eq_getD 0 (h := hline)] at hle ⊢
  split
  · rfl
  · rw [if_pos (Nat.lt_of_le_of_ne hle (by assumption))]

end Search

/-! ## The lines of a text -/

theorem toList_ofText (cs : List Char) : (ofText cs).starts.toList = 0 :: startsFrom 0 cs := rfl

theorem startsUpTo_ofText (cs : List Char) (offset : Nat) :
    startsUpTo (ofText cs).starts.toList offset = lineFeedsBefore cs offset + 1 := by
  rw [toList_ofText, startsUpTo_cons (Nat.zero_le offset), ← startsUpTo_startsFrom 0,
    Nat.zero_add]

/-- A byte where a line starts is found, and any other one is looked for behind the line it lies
on. -/
theorem search_ofText (cs : List Char) (offset : Nat) :
    (ofText cs).search offset =
      if offset ∈ (ofText cs).starts.toList then .hit (lineFeedsBefore cs offset)
      else .miss (lineFeedsBefore cs offset + 1) := by
  have hstarts : Increasing (ofText cs).starts :=
    .cons (fun _ => lt_of_mem_startsFrom) (pairwise_startsFrom 0 cs)
  obtain ⟨line, hcount, hsearch⟩ := search_eq hstarts rfl offset
  rw [startsUpTo_ofText, Nat.succ_inj] at hcount
  rw [hsearch, hcount]

/-- No line is looked for in front of the first one. -/
theorem search_ofText_ne (cs : List Char) (offset : Nat) : (ofText cs).search offset ≠ .miss 0 := by
  rw [search_ofText]
  split <;> simp

theorem lineOf_ofText (cs : List Char) (offset : Nat) :
    (ofText cs).lineOf offset = lineFeedsBefore cs offset := by
  rw [lineOf, search_ofText]
  by_cases hmem : offset ∈ (ofText cs).starts.toList
  · rw [if_pos hmem]
  · rw [if_neg hmem]
    rfl

end LineTable

/-! ## The bytes of characters -/

theorem bytesFrom_getElem? (pos : Nat) (cs : List Char) {i : Nat} (hi : i ≤ cs.length) :
    (bytesFrom pos cs)[i]? = some (pos + utf8Length (cs.take i)) := by
  induction cs generalizing pos i with
  | nil =>
    obtain rfl : i = 0 := Nat.eq_zero_of_le_zero hi
    rfl
  | cons c cs ih =>
    cases i with
    | zero => rfl
    | succ i =>
      rw [bytesFrom, List.getElem?_cons_succ, ih _ (Nat.le_of_succ_le_succ hi), List.take_succ_cons,
        utf8Length, Nat.add_assoc]

theorem length_bytesFrom (pos : Nat) (cs : List Char) :
    (bytesFrom pos cs).length = cs.length + 1 := by
  induction cs generalizing pos with
  | nil => rfl
  | cons c cs ih => rw [bytesFrom, List.length_cons, ih, List.length_cons]

theorem utf8Length_take_mono (cs : List Char) {i j : Nat} (h : i ≤ j) :
    utf8Length (cs.take i) ≤ utf8Length (cs.take j) := by
  obtain ⟨rest, hrest⟩ := List.take_prefix_take_left h (l := cs)
  rw [← hrest, utf8Length_append]
  exact Nat.le_add_right ..

/-- The byte of a character is the length of the text in front of it. -/
theorem ByteTable.byteOf_ofText (cs : List Char) (i : Nat) :
    (ByteTable.ofText cs).byteOf i = utf8Length (cs.take i) := by
  rw [byteOf, ofText, List.getElem?_toArray]
  rcases Nat.lt_or_ge cs.length i with hlt | hle
  · have hnone : (bytesFrom 0 cs)[i]? = none := by
      rw [List.getElem?_eq_none_iff, length_bytesFrom]
      exact hlt
    rw [hnone, Option.none_or, List.back?_toArray, List.getLast?_eq_getElem?, length_bytesFrom,
      Nat.add_sub_cancel, bytesFrom_getElem? 0 cs (Nat.le_refl _), List.take_length,
      List.take_of_length_le (Nat.le_of_lt hlt)]
    simp
  · rw [bytesFrom_getElem? 0 cs hle]
    simp

end Gazetteer.Text
