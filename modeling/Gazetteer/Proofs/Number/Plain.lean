import Gazetteer.Coordinate
import Gazetteer.Proofs.Note.Links

/-!
# Places as they are written

A finite number is written as a decimal, with at most a minus sign in front
(`exists_parts_showPlain`). So where the numbers of a place read back as themselves, what is written
for the place is read as that place.
-/

namespace Gazetteer

/-! ## Trimming -/

namespace Unicode

variable {c : Char} {cs : List Char}

theorem mem_of_mem_trim (h : c ∈ trim cs) : c ∈ cs := by
  unfold trim trimEnd trimStart at h
  have h := (List.dropWhile_sublist _).subset (List.mem_reverse.1 h)
  exact (List.dropWhile_sublist _).subset (List.mem_reverse.1 h)

theorem isBlank_head_dropWhile (cs : List Char) :
    ∀ c ∈ (cs.dropWhile isBlank).head?, isBlank c = false :=
  fun _ => of_mem_head?_dropWhile

theorem trim_cons_ne_nil (h : isBlank c = false) (cs : List Char) : trim (c :: cs) ≠ [] := by
  rw [trim, trimStart, List.dropWhile_cons_of_neg (by simp [h]), trimEnd, ne_eq,
    List.reverse_eq_nil_iff, List.dropWhile_eq_nil_iff]
  intro hall
  have hc := hall c (by simp)
  rw [h] at hc
  cases hc

theorem trim_eq_self (hhead : ∀ c ∈ cs.head?, isBlank c = false)
    (hlast : ∀ c ∈ cs.reverse.head?, isBlank c = false) : trim cs = cs := by
  rw [trim, trimStart, dropWhile_of_head hhead, trimEnd, dropWhile_of_head hlast,
    List.reverse_reverse]

theorem trim_trim (cs : List Char) : trim (trim cs) = trim cs := by
  refine trim_eq_self (fun c hc => ?_) fun c hc => ?_
  · -- what is left starts as it did before its end was taken off
    have hprefix : trim cs <+: trimStart cs := by
      unfold trim trimEnd
      rw [← List.reverse_suffix, List.reverse_reverse]
      exact List.dropWhile_suffix _
    obtain ⟨rest, hrest⟩ := List.head?_eq_some_iff.1 hc
    rw [hrest] at hprefix
    obtain ⟨tail, htail⟩ := hprefix
    exact isBlank_head_dropWhile cs c (by rw [← trimStart, ← htail]; rfl)
  · rw [trim, trimEnd, List.reverse_reverse] at hc
    exact isBlank_head_dropWhile _ c hc

end Unicode

/-! ## Decimals -/

namespace Number

open Pattern
open Unicode (isBlank)

variable {x : Float} {d : Decimal} {sign whole fraction : List Char} {c : Char} {half : String}

/-- A decimal is made of an optional minus sign, optional digits with a point behind them, and
digits. -/
structure Parts (sign whole fraction : List Char) : Prop where
  sign : sign = [] ∨ sign = ['-']
  whole : whole = [] ∨ ∃ ds, (∀ c ∈ ds, c.isDigit = true) ∧ whole = ds ++ ['.']
  isDigit : ∀ c ∈ fraction, c.isDigit = true
  ne_nil : fraction ≠ []

theorem Parts.isDecimal (h : Parts sign whole fraction) :
    IsDecimal (sign ++ (whole ++ fraction)) := by
  have hfraction : (all [digits]).Reads fraction [] := reads_many1_char.2 ⟨h.ne_nil, h.isDigit, rfl⟩
  have hwhole : (opt (.seq (many (.char Char.isDigit)) (lit "."))).Reads whole [] := by
    rcases h.whole with rfl | ⟨ds, hds, rfl⟩
    · exact reads_opt.2 (Or.inr ⟨rfl, rfl⟩)
    · have hpoint : (all [many (.char Char.isDigit), lit "."]).Reads (ds ++ ['.']) [] :=
        (reads_all_cons rfl rfl).2
          ⟨ds, ['.'], [], [], rfl, rfl, reads_many_char.2 ⟨hds, rfl⟩, reads_lit.2 ⟨rfl, rfl⟩⟩
      exact reads_opt.2 (Or.inl hpoint)
  have hsign : (opt (oneOf "+-")).Reads sign [] := by
    rcases h.sign with rfl | rfl
    · exact reads_opt.2 (Or.inr ⟨rfl, rfl⟩)
    · exact reads_opt.2 (Or.inl (reads_char.2 ⟨'-', by decide, rfl, rfl⟩))
  exact (reads_all_cons rfl rfl).2 ⟨_, _, [], [], rfl, rfl, hsign,
    (reads_all_cons rfl rfl).2 ⟨_, _, [], [], rfl, rfl, hwhole, hfraction⟩⟩

theorem isDigit_of_mem_digitChars {n : Nat} (h : c ∈ digitChars n) : c.isDigit = true :=
  Nat.isDigit_of_mem_toDigits (by decide) (Nat.le_refl _) h

theorem digitChars_ne_nil (n : Nat) : digitChars n ≠ [] := Nat.toDigits_ne_nil

theorem exists_parts_positional (d : Decimal) :
    ∃ whole fraction, Style.plain.positional d = whole ++ fraction ∧ Parts [] whole fraction := by
  have hzeros : ∀ n, ∀ c ∈ List.replicate n '0', c.isDigit = true := fun n c hc => by
    rw [List.eq_of_mem_replicate hc]
    rfl
  have hdigits : ∀ c ∈ digitChars d.digits, c.isDigit = true := fun c => isDigit_of_mem_digitChars
  have hne := digitChars_ne_nil d.digits
  unfold Style.positional
  simp only
  split
  · refine ⟨[], _, (List.nil_append _).symm, Or.inl rfl, Or.inl rfl, fun c hc => ?_, ?_⟩
    · rcases List.mem_append.1 hc with hc | hc
      · exact (List.mem_append.1 hc).elim (hdigits c) (hzeros _ c)
      · cases hc
    · simp [hne]
  · rename_i hexponent
    split
    · refine ⟨_, _, (List.append_cons ..), Or.inl rfl,
        Or.inr ⟨_, fun c hc => hdigits c (List.mem_of_mem_take hc), rfl⟩,
        fun c hc => hdigits c (List.mem_of_mem_drop hc), ?_⟩
      rw [ne_eq, List.drop_eq_nil_iff]
      omega
    · refine ⟨['0', '.'], _, rfl, Or.inl rfl, Or.inr ⟨['0'], by simp, rfl⟩, fun c hc => ?_, ?_⟩
      · exact (List.mem_append.1 hc).elim (hzeros _ c) (hdigits c)
      · simp [hne]

/-- A finite number is written as a decimal. -/
theorem exists_parts_of_finite {negative : Bool} {m : Nat} {q : Int}
    (h : Binary64.ofFloat x = .finite negative m q) :
    ∃ sign whole fraction, (showPlain x).toList = sign ++ (whole ++ fraction) ∧
      Parts sign whole fraction := by
  have hbody : ∃ whole fraction, (if m = 0 then '0' :: Style.plain.wholeMark.toList
      else if Style.plain.inPlace ((digitChars (shortest m q).digits).length +
        (shortest m q).exponent) then Style.plain.positional (shortest m q)
      else Style.plain.scientific (shortest m q)) = whole ++ fraction ∧
        Parts [] whole fraction := by
    split
    · exact ⟨[], ['0'], rfl, Or.inl rfl, Or.inl rfl, by simp, by simp⟩
    · exact exists_parts_positional _
  obtain ⟨whole, fraction, hbody, hparts⟩ := hbody
  unfold showPlain Style.render
  simp only [h, hbody, String.toList_ofList]
  cases negative with
  | false => exact ⟨[], whole, fraction, rfl, hparts⟩
  | true =>
    exact ⟨['-'], whole, fraction, rfl, Or.inr rfl, hparts.whole, hparts.isDigit, hparts.ne_nil⟩

/-- A number that reads back as a finite one is written as a decimal. -/
theorem exists_parts_showPlain (hfinite : x.isFinite = true)
    (hread : read (showPlain x).toList = .ok x) :
    ∃ sign whole fraction, (showPlain x).toList = sign ++ (whole ++ fraction) ∧
      Parts sign whole fraction := by
  cases hx : Binary64.ofFloat x with
  | finite negative m q => exact exists_parts_of_finite hx
  | notANumber =>
    unfold showPlain Style.render at hread
    rw [hx] at hread
    obtain rfl : 0.0 / 0.0 = x := Except.ok.inj ((rfl : read "NaN".toList = _).symm.trans hread)
    exact absurd hfinite (by decide +kernel)
  | infinite negative =>
    unfold showPlain Style.render at hread
    rw [hx] at hread
    cases negative with
    | false =>
      obtain rfl : 1.0 / 0.0 = x := Except.ok.inj ((rfl : read "inf".toList = _).symm.trans hread)
      exact absurd hfinite (by decide +kernel)
    | true =>
      obtain rfl : -(1.0 / 0.0) = x :=
        Except.ok.inj ((rfl : read "-inf".toList = _).symm.trans hread)
      exact absurd hfinite (by decide +kernel)

/-- A decimal without a plus sign. -/
theorem Parts.ne_plus (h : Parts sign whole fraction) (hc : c ∈ sign ++ (whole ++ fraction)) :
    c ≠ '+' := by
  rintro rfl
  simp only [List.mem_append] at hc
  rcases hc with hc | hc | hc
  · rcases h.sign with rfl | rfl
    · cases hc
    · exact absurd hc (by decide)
  · rcases h.whole with rfl | ⟨ds, hds, rfl⟩
    · cases hc
    · rcases List.mem_append.1 hc with hc | hc
      · exact absurd (hds _ hc) (by decide)
      · exact absurd hc (by decide)
  · exact absurd (h.isDigit _ hc) (by decide)

/-- No blank is in what is written for a number, finite or not. -/
theorem isBlank_of_mem_showPlain (hc : c ∈ (showPlain x).toList) : isBlank c = false := by
  cases hx : Binary64.ofFloat x with
  | finite negative m q =>
    obtain ⟨sign, whole, fraction, heq, hparts⟩ := exists_parts_of_finite hx
    rw [heq] at hc
    exact isBlank_of_allows_decimal (hparts.isDecimal.allows_of_mem hc)
  | notANumber =>
    have hword : "NaN".toList.all (!isBlank ·) = true := by decide
    rw [showPlain, Style.render, hx] at hc
    simpa using List.all_eq_true.1 hword c hc
  | infinite negative =>
    have hword : ∀ negative : Bool,
        (if negative then "-inf" else "inf").toList.all (!isBlank ·) = true := by decide
    rw [showPlain, Style.render, hx] at hc
    simpa using List.all_eq_true.1 (hword negative) c hc

theorem trim_showPlain (x : Float) :
    Unicode.trim (showPlain x).toList = (showPlain x).toList :=
  Unicode.trim_eq_self (fun _ hc => isBlank_of_mem_showPlain (List.mem_of_mem_head? hc))
    fun _ hc => isBlank_of_mem_showPlain (List.mem_reverse.1 (List.mem_of_mem_head? hc))

end Number

namespace LatLng

open Pattern Number

variable {x : Float} {p : LatLng} {half : String}

/-- The numbers of a place are read back as they are written. -/
structure ReadsBack (p : LatLng) : Prop where
  lat : Number.read (Number.showPlain p.lat).toList = .ok p.lat
  lng : Number.read (Number.showPlain p.lng).toList = .ok p.lng

theorem isDecimal_showPlain (hfinite : x.isFinite = true)
    (hread : Number.read (showPlain x).toList = .ok x) : IsDecimal (showPlain x).toList := by
  obtain ⟨sign, whole, fraction, heq, hparts⟩ := exists_parts_showPlain hfinite hread
  rw [heq]
  exact hparts.isDecimal

theorem readHalf_showPlain (hfinite : x.isFinite = true)
    (hread : Number.read (showPlain x).toList = .ok x) :
    readHalf half (showPlain x).toList = .ok x := by
  obtain ⟨sign, whole, fraction, heq, hparts⟩ := exists_parts_showPlain hfinite hread
  have hplus : (showPlain x).toList.dropWhile (· == '+') = (showPlain x).toList :=
    dropWhile_of_head fun c hc => by
      simpa using hparts.ne_plus (heq ▸ List.mem_of_mem_head? hc)
  unfold readHalf
  rw [trim_showPlain, hplus, hread]
  exact if_pos hfinite

/-- A place is read back as it is written. -/
theorem read_showPlain (hp : p.IsPlace) (hback : p.ReadsBack) :
    read (showPlain p.lat).toList (showPlain p.lng).toList = .ok p := by
  unfold LatLng.read
  rw [readHalf_showPlain hp.1 hback.lat, readHalf_showPlain hp.2.1 hback.lng]
  exact check_eq_ok_iff.2 ⟨rfl, hp⟩

end LatLng

end Gazetteer
