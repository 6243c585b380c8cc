import Gazetteer.Proofs.Number.Magnitude
import Gazetteer.Proofs.Number.Plain
import Gazetteer.Proofs.Yaml.Entries
import Gazetteer.Unicode.Letter
import Gazetteer.Yaml.Reader

/-!
# Words and numbers as plain scalars

What is written for a latitude or a longitude is a plain scalar that stands for that number: a whole
number if there is no point in it, a decimal otherwise (`exists_plainValue_showPlain`). A word of
letters, in any script, is a key as it stands (`IsWord.isLabel`).
-/

namespace Gazetteer

namespace Unicode

variable {c : Char} {n : Nat} {rs : List (Nat × Nat)}

theorem exists_of_inRanges (h : inRanges rs n = true) : ∃ r ∈ rs, r.1 ≤ n ∧ n ≤ r.2 := by
  induction rs with
  | nil => cases h
  | cons r rest ih =>
    obtain ⟨lo, hi⟩ := r
    by_cases hn : n < lo
    · simp [inRanges, hn] at h
    · simp only [inRanges, hn, if_false, Bool.or_eq_true, decide_eq_true_eq] at h
      rcases h with h | h
      · exact ⟨(lo, hi), List.mem_cons_self, Nat.le_of_not_lt hn, h⟩
      · obtain ⟨r, hr, hbounds⟩ := ih h
        exact ⟨r, List.mem_cons_of_mem _ hr, hbounds⟩

/-- Where letters are: not among the controls, the marks of ASCII and the line separators. -/
theorem code_of_isLetter (h : isLetter c = true) :
    (65 ≤ c.toNat ∧ c.toNat ≤ 90) ∨ (97 ≤ c.toNat ∧ c.toNat ≤ 122) ∨
      (0xA0 ≤ c.toNat ∧ c.toNat < 0x2028) ∨ (0x2029 < c.toNat ∧ c.toNat ≤ 0xD7FF) ∨
      (0xE000 ≤ c.toNat ∧ c.toNat < 0xFEFF) ∨ (0xFEFF < c.toNat ∧ c.toNat ≤ 0xFFFD) ∨
      0x10000 ≤ c.toNat := by
  have hranges : ∀ r ∈ letterRanges, (0xA0 ≤ r.1 ∧ r.2 < 0x2028) ∨ (0x2029 < r.1 ∧ r.2 ≤ 0xD7FF) ∨
      (0xE000 ≤ r.1 ∧ r.2 < 0xFEFF) ∨ (0xFEFF < r.1 ∧ r.2 ≤ 0xFFFD) ∨ 0x10000 ≤ r.1 := by
    decide +kernel
  unfold isLetter at h
  split at h
  · simp only [Char.isAlpha, Char.isUpper, Char.isLower, Bool.or_eq_true, Bool.and_eq_true,
      decide_eq_true_eq] at h
    rcases h with ⟨hlow, hhigh⟩ | ⟨hlow, hhigh⟩
    · exact Or.inl ⟨hlow, hhigh⟩
    · exact Or.inr (Or.inl ⟨hlow, hhigh⟩)
  · obtain ⟨r, hr, hbounds⟩ := exists_of_inRanges h
    have hr := hranges r hr
    omega

end Unicode

namespace Number

variable {x y : Float} {n : Nat} {c : Char} {cs ds sign whole fraction : List Char}
  {negative : Bool}

/-! ## The text of a number -/

theorem Parts.cases_of_mem (h : Parts sign whole fraction) (hc : c ∈ sign ++ (whole ++ fraction)) :
    c.isDigit = true ∨ c = '.' ∨ c = '-' := by
  rcases Pattern.allows_decimal_iff.1 (h.isDecimal.allows_of_mem hc) with
    hplus | hminus | hdot | hdigit
  · exact absurd hplus (h.ne_plus hc)
  · exact Or.inr (Or.inr hminus)
  · exact Or.inr (Or.inl hdot)
  · exact Or.inl hdigit

/-- The digits and the point of a number. -/
theorem Parts.cases_of_mem_body (h : Parts sign whole fraction) (hc : c ∈ whole ++ fraction) :
    c.isDigit = true ∨ c = '.' := by
  rcases List.mem_append.1 hc with hc | hc
  · rcases h.whole with rfl | ⟨ds, hds, rfl⟩
    · cases hc
    · rcases List.mem_append.1 hc with hc | hc
      · exact Or.inl (hds c hc)
      · exact Or.inr (List.mem_singleton.1 hc)
  · exact Or.inl (h.isDigit c hc)

theorem Parts.body_ne_nil (h : Parts sign whole fraction) : whole ++ fraction ≠ [] := by
  simp [h.ne_nil]

theorem splitSign_parts (h : Parts sign whole fraction) :
    splitSign (sign ++ (whole ++ fraction)) = (decide (sign = ['-']), whole ++ fraction) := by
  obtain ⟨c, rest, hcons⟩ := List.exists_cons_of_ne_nil h.body_ne_nil
  have hc := h.cases_of_mem_body (hcons ▸ List.mem_cons_self)
  rw [hcons]
  rcases h.sign with rfl | rfl
  · unfold splitSign
    split <;> simp_all
  · rfl

/-- The last character of a number is a digit. -/
theorem Parts.getLast (h : Parts sign whole fraction) :
    ∃ c ∈ (sign ++ (whole ++ fraction)).getLast?, c.isDigit = true := by
  refine ⟨fraction.getLast h.ne_nil, ?_, h.isDigit _ (List.getLast_mem _)⟩
  simp [List.getLast?_append, List.getLast?_eq_some_getLast h.ne_nil]

/-! ## Digits -/

theorem ne_of_isDigit (hc : c.isDigit = true) {d : Char} (hd : d.isDigit = false) : c ≠ d := by
  rintro rfl
  rw [hc] at hd
  cases hd

theorem toLower_of_isDigit (hc : c.isDigit = true) : c.toLower = c := by
  obtain ⟨h, h'⟩ := Bool.and_eq_true_iff.1 hc
  have hle : c.toNat ≤ 57 := of_decide_eq_true h'
  unfold Char.toLower
  split
  · rename_i hupper
    have : 65 ≤ c.toNat := hupper.1
    omega
  · rfl

/-- Digits are none of the words that stand for numbers. -/
theorem readSpecial_of_isDigit (hc : c.isDigit = true) (negative : Bool) (cs : List Char) :
    readSpecial negative (c :: cs) = none := by
  have hne : ∀ d ds, d.isDigit = false →
      String.ofList ((c :: cs).map Char.toLower) ≠ String.ofList (d :: ds) := by
    intro d ds hd heq
    have hcons := String.ofList_injective heq
    rw [List.map_cons, toLower_of_isDigit hc] at hcons
    exact ne_of_isDigit hc hd (List.cons.inj hcons).1
  refine (if_neg (not_or.2 ⟨hne 'i' "nf".toList rfl, hne 'i' "nfinity".toList rfl⟩)).trans ?_
  exact if_neg (hne 'n' "an".toList rfl)

theorem readUnsigned_digits (hds : ∀ c ∈ ds, c.isDigit = true) (hne : ds ≠ []) (negative : Bool) :
    readUnsigned negative ds = some (nearestDecimal negative (ofDigits 0 ds) 0) := by
  have htake : ds.takeWhile Char.isDigit = ds := List.takeWhile_eq_self_iff.2 hds
  have hdrop : ds.dropWhile Char.isDigit = [] := List.dropWhile_eq_nil_iff.2 hds
  have hempty : ds.isEmpty = false := by simp [hne]
  unfold readUnsigned
  simp [htake, hdrop, hempty, readExponent]

theorem read_digits (hds : ∀ c ∈ ds, c.isDigit = true) (hne : ds ≠ [])
    (hsplit : splitSign cs = (negative, ds)) :
    read cs = .ok (nearestDecimal negative (ofDigits 0 ds) 0) := by
  obtain ⟨c, rest, rfl⟩ := List.exists_cons_of_ne_nil hne
  have hempty : cs.isEmpty = false := by
    cases cs with
    | nil => cases hsplit
    | cons => rfl
  unfold read
  rw [hempty, hsplit]
  simp [readSpecial_of_isDigit (hds c List.mem_cons_self), readUnsigned_digits hds hne]

/-- A whole number that is finite is the double nearest to it. -/
theorem nearestDecimal_zero (hfinite : (nearestDecimal negative n 0).isFinite = true) :
    nearestDecimal negative n 0 = nearest negative n 1 := by
  have hinfinite : ∀ negative, (nearest negative (Nat.pow 2 1024) 1).isFinite = false := by
    decide +kernel
  unfold nearestDecimal at hfinite ⊢
  simp only at hfinite ⊢
  split at hfinite
  · rename_i hsmall
    have hzero : n = 0 := hsmall.resolve_right (by omega)
    rw [if_pos hsmall, hzero]
  · rename_i hsmall
    rw [if_neg hsmall]
    split at hfinite
    · rw [hinfinite] at hfinite
      cases hfinite
    · rename_i hlarge
      rw [if_neg hlarge]
      simp

end Number

namespace Yaml

open Number
open Scanner (IsItem IsLabel isFlowMark isIndicator lineText lineText_of_not_blank)
open Unicode (code_of_isLetter isLetter)

variable {x y : Float} {n : Int} {c : Char} {cs ds sign whole fraction : List Char}
  {negative : Bool} {key : String}

/-! ## Indicators -/

/-- The characters with a meaning of their own. -/
def indicators : List Char :=
  [',', '[', ']', '\x7b', '\x7d', '-', '?', ':', '#', '&', '*', '!', '|', '>', '\'', '"', '%', '@',
    Char.ofNat 0x60, ' ', '\t', '\n', '\r', '\x85', '\u2028', '\u2029']

theorem isIndicator_iff : isIndicator c = true ↔ c ∈ indicators := by
  simp [isIndicator, isFlowMark, isBlank, isBreak, indicators, or_assoc]

/-- A kind of characters that no indicator is of. -/
theorem isIndicator_eq_false {test : Char → Bool} (h : ∀ d ∈ indicators, test d = false)
    (hc : test c = true) : isIndicator c = false := by
  rw [Bool.eq_false_iff, ne_eq, isIndicator_iff]
  intro hmem
  rw [h c hmem] at hc
  cases hc

theorem isIndicator_of_isDigit (hc : c.isDigit = true) : isIndicator c = false :=
  isIndicator_eq_false (by simp [indicators]) hc

/-- Inside a scalar what is no indicator is just text. -/
theorem line_of_not_indicator (hc : isIndicator c = false) :
    isBreak c = false ∧ c ≠ ':' ∧ c ≠ '#' ∧ isFlowMark c = false ∧ isBlank c = false := by
  simp only [isIndicator, Bool.or_eq_false_iff, beq_eq_false_iff_ne] at hc
  simp_all

/-! ## Whole numbers -/

theorem hexValue_of_isDigit (hc : c.isDigit = true) : Text.hexValue c = some (digitValue c) :=
  if_pos hc

/-- The other digits of larger bases are none of base ten. -/
theorem hexValue_of_not_isDigit (hc : c.isDigit = false) :
    ((Text.hexValue c).any fun v => decide (v < 10)) = false := by
  unfold Text.hexValue
  rw [hc, if_neg Bool.false_ne_true]
  split
  · simp
  · split <;> simp

theorem foldl_hexValue (hds : ∀ c ∈ ds, c.isDigit = true) (n : Nat) :
    ds.foldl (fun n c => 10 * n + (Text.hexValue c).getD 0) n = ofDigits n ds := by
  induction ds generalizing n with
  | nil => rfl
  | cons c ds ih =>
    rw [List.foldl_cons, hexValue_of_isDigit (hds c List.mem_cons_self),
      ih fun d hd => hds d (List.mem_cons_of_mem _ hd)]
    rfl

/-- The sign of a whole number, and its digits. -/
theorem wholeNumber_eq (cs : List Char) : wholeNumber cs =
    (match basedDigits (splitSign cs).2 with
      | some (base, ds) => ofBase base ds
      | none => if isPaddedDigits (splitSign cs).2 then none else ofBase 10 (splitSign cs).2).map
        fun (n : Nat) => if (splitSign cs).1 then -(n : Int) else n := by
  have hcast : ∀ (m : Option Nat) (f : Int → Int),
      Option.map f (m.bind fun a => pure (a : Int)) =
        m.map fun (a : Nat) => f a := by
    intro m f
    cases m <;> rfl
  unfold wholeNumber
  split
  rename_i heq
  rw [show splitSign cs = _ from heq]
  exact hcast _ _

theorem basedDigits_of_digits (hds : ∀ c ∈ ds, c.isDigit = true ∨ c = '.') :
    basedDigits ds = none := by
  unfold basedDigits
  split <;> simp_all

/-- A number without a point is read as the whole number that its digits spell. -/
theorem wholeNumber_parts (h : Parts sign whole fraction)
    (hn : wholeNumber (sign ++ (whole ++ fraction)) = some n) :
    (∀ c ∈ whole ++ fraction, c.isDigit = true) ∧
      n = if decide (sign = ['-']) then -(ofDigits 0 (whole ++ fraction) : Int)
        else ofDigits 0 (whole ++ fraction) := by
  rw [wholeNumber_eq, splitSign_parts h, basedDigits_of_digits fun c => h.cases_of_mem_body] at hn
  obtain ⟨m, hm, rfl⟩ := Option.map_eq_some_iff.1 hn
  have hbase : ofBase 10 (whole ++ fraction) = some m := by
    by_cases hpadded : isPaddedDigits (whole ++ fraction) = true
    · simp [hpadded] at hm
    · simpa [hpadded] using hm
  unfold ofBase at hbase
  simp only at hbase
  split at hbase
  · rename_i hall
    have hdigits : ∀ c ∈ whole ++ fraction, c.isDigit = true := by
      intro c hc
      refine (h.cases_of_mem_body hc).resolve_right ?_
      rintro rfl
      have hdot := List.all_eq_true.1 (Bool.and_eq_true_iff.1 hall).2 _ hc
      cases hdot
    rw [foldl_hexValue hdigits] at hbase
    obtain rfl := Option.some.inj hbase
    exact ⟨hdigits, rfl⟩
  · cases hbase

/-! ## The value of a number -/

/-- A scalar that ends in a digit is none of the words with a meaning. -/
theorem plainValue_of_isDigit {text : String} (h : ∃ c ∈ text.toList.getLast?, c.isDigit = true) :
    plainValue text =
      (let orOther : Option Json :=
        if isPaddedDigits text.toList then some (.str text)
        else
          match otherNumber text.toList with
          | some x => some (Json.ofFloat x)
          | none => some (.str text)
      match wholeNumber text.toList with
      | some n =>
        if Int64.minValue.toInt ≤ n ∧ n < UInt64.size then some (.int n)
        else if -Int.pow 2 127 ≤ n ∧ n < Int.pow 2 128 then none
        else orOther
      | none => orOther) := by
  obtain ⟨c, hlast, hc⟩ := h
  have hne : ∀ word : String, word.toList.getLast?.all (!·.isDigit) = true → text ≠ word := by
    rintro word hword rfl
    rw [hlast] at hword
    simp [hc] at hword
  refine (if_neg ?_).trans ((if_neg ?_).trans (if_neg ?_))
  · rintro (h | h | h | h | h) <;> exact hne _ rfl h
  · rintro (h | h | h) <;> exact hne _ rfl h
  · rintro (h | h | h) <;> exact hne _ rfl h

/-- A number that is not read as a whole one is read as any text of a number is. -/
theorem otherNumber_parts (h : Parts sign whole fraction)
    (hread : Number.read (sign ++ (whole ++ fraction)) = .ok x) (hfinite : x.isFinite = true) :
    otherNumber (sign ++ (whole ++ fraction)) = some x := by
  obtain ⟨c, hlast, hc⟩ := h.getLast
  have hplus : ∀ d ∈ sign ++ (whole ++ fraction), d ≠ '+' := fun d => h.ne_plus
  generalize sign ++ (whole ++ fraction) = cs at hlast hplus hread
  have hne : ∀ word : String, word.toList.getLast?.all (!·.isDigit) = true →
      String.ofList cs ≠ word := by
    rintro word hword rfl
    rw [String.toList_ofList, hlast] at hword
    simp [hc] at hword
  unfold otherNumber
  simp only
  split
  · exact absurd rfl (hplus '+' List.mem_cons_self)
  refine (if_neg ?_).trans ((if_neg ?_).trans ((if_neg ?_).trans ?_))
  · rintro (h | h | h) <;> exact hne _ rfl h
  · rintro (h | h | h) <;> exact hne _ rfl h
  · rintro (h | h | h) <;> exact hne _ rfl h
  · split
    · exact absurd rfl (hplus '+' List.mem_cons_self)
    · exact absurd rfl (hplus '+' List.mem_cons_self)
    · simp [hread, hfinite]

theorem beq_self_of_isFinite (h : x.isFinite = true) : (x == x) = true := by
  rw [Float.beq_self_iff]
  rintro rfl
  exact absurd h (by decide +kernel)

/-- A whole number among latitudes and longitudes stands for itself as an integer of 64 bits. -/
theorem int_of_isHalf {m : Nat} (h : IsHalf (Number.nearest negative m 1)) {n : Int}
    (hn : n = if negative then -(m : Int) else m) :
    (Int64.minValue.toInt ≤ n ∧ n < UInt64.size) ∧
      ∃ y, LatLng.numberOf (.int n) = some y ∧ (y == Number.nearest negative m 1) = true := by
  have hsmall : m < Nat.pow 2 63 := lt_of_isHalf h
  have hmin : Int64.minValue.toInt = -Nat.pow 2 63 := rfl
  have hmax : UInt64.size = 2 * Nat.pow 2 63 := rfl
  refine ⟨?_, _, rfl, ?_⟩
  · rw [hmin, hmax]
    cases negative <;> simp at hn <;> omega
  by_cases hzero : m = 0
  · -- zero and its negative are equal
    have hequal : ∀ negative,
        (Number.nearest false 0 1 == Number.nearest negative 0 1) = true := by decide +kernel
    subst hzero
    obtain rfl : n = 0 := by cases negative <;> simpa using hn
    exact hequal negative
  · have hsign : decide (n < 0) = negative := by
      cases negative <;> simp at hn ⊢ <;> omega
    have habs : n.natAbs = m := by
      cases negative <;> simp at hn <;> omega
    rw [hsign, habs]
    exact beq_self_of_isFinite h.isFinite

/-- **What is written for a latitude or a longitude stands for that number**, as a whole number or
as a decimal. -/
theorem exists_plainValue_showPlain (h : IsHalf x)
    (hread : Number.read (showPlain x).toList = .ok x) :
    ∃ j y, plainValue (showPlain x) = some j ∧ LatLng.numberOf j = some y ∧ (y == x) = true := by
  obtain ⟨sign, whole, fraction, htext, hparts⟩ := exists_parts_showPlain h.isFinite hread
  have hother : ∃ j, (if isPaddedDigits (showPlain x).toList then some (.str (showPlain x))
      else
        match otherNumber (showPlain x).toList with
        | some x => some (Json.ofFloat x)
        | none => some (.str (showPlain x))) = some j ∧ LatLng.numberOf j = some x := by
    split
    · exact ⟨_, rfl, by simp [LatLng.numberOf, trim_showPlain, hread, Except.toOption]⟩
    · rw [htext] at hread ⊢
      rw [otherNumber_parts hparts hread h.isFinite]
      exact ⟨_, rfl, by simp [Json.ofFloat, h.isFinite, LatLng.numberOf]⟩
  rw [plainValue_of_isDigit (htext ▸ hparts.getLast)]
  cases hwhole : wholeNumber (showPlain x).toList with
  | none =>
    obtain ⟨j, hj, hx⟩ := hother
    exact ⟨j, x, hj, hx, beq_self_of_isFinite h.isFinite⟩
  | some n =>
    rw [htext] at hwhole hread
    obtain ⟨hdigits, hn⟩ := wholeNumber_parts hparts hwhole
    rw [read_digits hdigits hparts.body_ne_nil (splitSign_parts hparts)] at hread
    obtain rfl := Except.ok.inj hread
    have hnearest := nearestDecimal_zero h.isFinite
    obtain ⟨hfits, y, hy, hequal⟩ := int_of_isHalf (hnearest ▸ h) hn
    exact ⟨.int n, y, if_pos hfits, hy, hnearest.symm ▸ hequal⟩

/-- The text of a number is one in a flow sequence. -/
theorem isItem_parts (h : Parts sign whole fraction) : IsItem (sign ++ (whole ++ fraction)) := by
  obtain ⟨c, rest, hcons⟩ := List.exists_cons_of_ne_nil h.body_ne_nil
  have hc : isIndicator c = false := by
    rcases h.cases_of_mem_body (hcons ▸ List.mem_cons_self) with hdigit | rfl
    · exact isIndicator_of_isDigit hdigit
    · rfl
  refine ⟨?_, fun d hd => ?_⟩
  · rcases h.sign with rfl | rfl
    · exact ⟨c, rest, hcons, Or.inl hc⟩
    · refine ⟨'-', whole ++ fraction, rfl, Or.inr ⟨rfl, ?_⟩⟩
      obtain ⟨hbreak, -, -, -, hblank⟩ := line_of_not_indicator hc
      rw [hcons, endsWord, hbreak, hblank, Bool.or_self]
  · rcases h.cases_of_mem hd with hdigit | rfl | rfl
    · obtain ⟨hbreak, hcolon, hhash, hmark, -⟩ :=
        line_of_not_indicator (isIndicator_of_isDigit hdigit)
      exact ⟨hbreak, hcolon, hhash, hmark⟩
    · decide
    · decide

theorem isAllowed_parts (h : Parts sign whole fraction) :
    (sign ++ (whole ++ fraction)).all isAllowed = true := by
  refine List.all_eq_true.2 fun c hc => ?_
  rcases h.cases_of_mem hc with hdigit | rfl | rfl
  · obtain ⟨hlow, hhigh⟩ := Bool.and_eq_true_iff.1 hdigit
    have hlow : 48 ≤ c.toNat := of_decide_eq_true hlow
    have hhigh : c.toNat ≤ 57 := of_decide_eq_true hhigh
    simp only [isAllowed, Bool.or_eq_true, beq_iff_eq, decide_eq_true_eq]
    omega
  · decide
  · decide

theorem lineText_showPlain (x : Float) : lineText (showPlain x).toList = showPlain x := by
  rw [lineText_of_not_blank, String.ofList_toList]
  intro c hc
  have hblank := isBlank_of_mem_showPlain hc
  by_contra h
  simp only [Bool.not_eq_false, isBlank, Bool.or_eq_true, beq_iff_eq] at h
  rcases h with rfl | rfl <;> cases hblank

/-! ## Letters -/

theorem ne_of_isLetter (h : isLetter c = true) (hd : isLetter d = false) : c ≠ d := by
  rintro rfl
  rw [h] at hd
  cases hd

theorem isIndicator_of_isLetter (h : isLetter c = true) : isIndicator c = false := by
  refine isIndicator_eq_false (fun d hd => ?_) h
  have hcodes : ∀ d ∈ indicators, d.toNat < 65 ∨ (90 < d.toNat ∧ d.toNat < 97) ∨
      (122 < d.toNat ∧ d.toNat < 0xA0) ∨ d.toNat = 0x2028 ∨ d.toNat = 0x2029 := by
    simp [indicators]
  by_contra hletter
  have hcode := code_of_isLetter (Bool.not_eq_false _ ▸ hletter)
  have hmark := hcodes d hd
  omega

theorem isDigit_of_isLetter (h : isLetter c = true) : c.isDigit = false := by
  by_contra hdigit
  obtain ⟨hlow, hhigh⟩ := Bool.and_eq_true_iff.1 (Bool.not_eq_false _ ▸ hdigit)
  have hhigh : c.toNat ≤ 57 := of_decide_eq_true hhigh
  have hcode := code_of_isLetter h
  omega

theorem isAllowed_of_isLetter (h : isLetter c = true) : isAllowed c = true := by
  have hcode := code_of_isLetter h
  simp only [isAllowed, Bool.or_eq_true, beq_iff_eq, decide_eq_true_eq]
  omega

/-- A scalar that is no whole number has a value. -/
theorem exists_plainValue (h : wholeNumber key.toList = none) : ∃ k, plainValue key = some k := by
  unfold plainValue
  simp only [h]
  split
  · exact ⟨_, rfl⟩
  split
  · exact ⟨_, rfl⟩
  split
  · exact ⟨_, rfl⟩
  split
  · exact ⟨_, rfl⟩
  split <;> exact ⟨_, rfl⟩

theorem wholeNumber_of_isLetter (h : isLetter c = true) (cs : List Char) :
    wholeNumber (c :: cs) = none := by
  have hminus : c ≠ '-' := ne_of_isLetter h (by decide)
  have hplus : c ≠ '+' := ne_of_isLetter h (by decide)
  have hzero : c ≠ '0' := ne_of_isLetter h (by decide)
  have hsign : splitSign (c :: cs) = (false, c :: cs) := by
    unfold splitSign
    split <;> simp_all
  have hbased : basedDigits (c :: cs) = none := by
    unfold basedDigits
    split <;> simp_all
  have hten : ofBase 10 (c :: cs) = none := by
    refine if_neg fun hall => ?_
    have hten := List.all_eq_true.1 (Bool.and_eq_true_iff.1 hall).2 c List.mem_cons_self
    rw [hexValue_of_not_isDigit (isDigit_of_isLetter h)] at hten
    cases hten
  rw [wholeNumber_eq, hsign, hbased, hten]
  simp

/-! ## Keys -/

/-- A key that is a word: letters, and no more of them than a key can have. -/
structure IsWord (key : String) : Prop where
  letters : ∀ c ∈ key.toList, isLetter c = true
  ne_nil : key.toList ≠ []
  length : key.toList.length ≤ 1024

theorem isWord_iff : IsWord key ↔ key.toList.all isLetter = true ∧ key.toList ≠ [] ∧
    key.toList.length ≤ 1024 :=
  ⟨fun h => ⟨List.all_eq_true.2 h.letters, h.ne_nil, h.length⟩,
    fun ⟨h₁, h₂, h₃⟩ => ⟨List.all_eq_true.1 h₁, h₂, h₃⟩⟩

instance (key : String) : Decidable (IsWord key) := decidable_of_iff _ isWord_iff.symm

variable (h : IsWord key)
include h

theorem IsWord.isLabel : IsLabel key.toList := by
  obtain ⟨c, rest, hcons⟩ := List.exists_cons_of_ne_nil h.ne_nil
  have hc := h.letters c (hcons ▸ List.mem_cons_self)
  refine ⟨⟨c, rest, hcons, isIndicator_of_isLetter hc, ne_of_isLetter hc (by decide)⟩,
    fun d hd => ?_, h.length⟩
  obtain ⟨hbreak, hcolon, hhash, -⟩ :=
    line_of_not_indicator (isIndicator_of_isLetter (h.letters d hd))
  exact ⟨hbreak, hcolon, hhash⟩

theorem IsWord.lineText_eq : lineText key.toList = key := by
  rw [lineText_of_not_blank, String.ofList_toList]
  intro d hd
  obtain ⟨-, -, -, -, hblank⟩ := line_of_not_indicator (isIndicator_of_isLetter (h.letters d hd))
  exact hblank

theorem IsWord.not_mem_newline : '\n' ∉ key.toList :=
  fun hmem => ne_of_isLetter (h.letters _ hmem) (by decide) rfl

theorem IsWord.isAllowed : key.toList.all isAllowed = true :=
  List.all_eq_true.2 fun c hc => isAllowed_of_isLetter (h.letters c hc)

theorem IsWord.exists_plainValue : ∃ k, plainValue key = some k := by
  obtain ⟨c, rest, hcons⟩ := List.exists_cons_of_ne_nil h.ne_nil
  refine Yaml.exists_plainValue ?_
  rw [hcons]
  exact wholeNumber_of_isLetter (h.letters c (hcons ▸ List.mem_cons_self)) rest

end Yaml

end Gazetteer
