import Gazetteer.Note.Outline
import Mathlib.Data.List.Forall2
import Mathlib.Order.Bounds.Defs

/-!
# Heading paths

A heading path names headings one behind another, and it is followed from the top: each component is
looked for behind the heading of the component before it, and the first heading found is kept. No
choice made that way is ever in the way of a later one, since every other choice lies further down
(`leadsTo_of_first`). So a path is followed wherever one can be, and as high up in the note as can
be (`Outline.resolveAnchor_eq_heading`).
-/

namespace Gazetteer

/-- A component of a heading path is found at a position: the heading there has its anchor. -/
def IsFoundAt (hs : List Heading) (c : String) (i : Nat) : Prop :=
  ∃ h, hs[i]? = some h ∧ toAnchor h.text = toAnchor c

/-- Positions, one behind another, at which the components of a heading path are found. -/
structure IsHeadingChain (hs : List Heading) (cs : List String) (positions : List Nat) : Prop where
  increasing : positions.Pairwise (· < ·)
  found : List.Forall₂ (IsFoundAt hs) cs positions

/-- A chain for the components, none of it above `start`, ends at `last`. -/
def LeadsTo (hs : List Heading) (start : Nat) (cs : List String) (last : Nat) : Prop :=
  ∃ positions, IsHeadingChain hs cs positions ∧ (∀ i ∈ positions, start ≤ i) ∧
    positions.getLast? = some last

variable {hs : List Heading} {c : String} {cs : List String} {start i last : Nat}
  {positions : List Nat}

/-! ## Chains -/

theorem IsHeadingChain.nil_iff : IsHeadingChain hs [] positions ↔ positions = [] :=
  ⟨fun h => List.forall₂_nil_left_iff.1 h.found, by rintro rfl; exact ⟨.nil, .nil⟩⟩

theorem IsHeadingChain.cons_iff : IsHeadingChain hs (c :: cs) (i :: positions) ↔
    IsFoundAt hs c i ∧ (∀ j ∈ positions, i + 1 ≤ j) ∧ IsHeadingChain hs cs positions := by
  constructor
  · rintro ⟨hincreasing, hfound⟩
    obtain ⟨hi, hpositions⟩ := List.pairwise_cons.1 hincreasing
    obtain ⟨hc, hcs⟩ := List.forall₂_cons.1 hfound
    exact ⟨hc, hi, hpositions, hcs⟩
  · rintro ⟨hc, hi, hpositions, hcs⟩
    exact ⟨List.pairwise_cons.2 ⟨hi, hpositions⟩, .cons hc hcs⟩

theorem IsHeadingChain.exists_cons (h : IsHeadingChain hs (c :: cs) positions) :
    ∃ i positions', positions = i :: positions' := by
  obtain ⟨i, positions', -, -, rfl⟩ := List.forall₂_cons_left_iff.1 h.found
  exact ⟨i, positions', rfl⟩

theorem leadsTo_singleton : LeadsTo hs start [c] last ↔ start ≤ last ∧ IsFoundAt hs c last := by
  constructor
  · rintro ⟨positions, hchain, hstart, hlast⟩
    obtain ⟨i, positions, rfl⟩ := hchain.exists_cons
    obtain ⟨hfound, -, hrest⟩ := IsHeadingChain.cons_iff.1 hchain
    obtain rfl := IsHeadingChain.nil_iff.1 hrest
    obtain rfl := Option.some.inj hlast
    exact ⟨hstart i List.mem_cons_self, hfound⟩
  · rintro ⟨hstart, hfound⟩
    exact ⟨[last], IsHeadingChain.cons_iff.2 ⟨hfound, by simp, IsHeadingChain.nil_iff.2 rfl⟩,
      by simpa using hstart, rfl⟩

theorem leadsTo_cons_cons {c' : String} : LeadsTo hs start (c :: c' :: cs) last ↔
    ∃ i, start ≤ i ∧ IsFoundAt hs c i ∧ LeadsTo hs (i + 1) (c' :: cs) last := by
  constructor
  · rintro ⟨positions, hchain, hstart, hlast⟩
    obtain ⟨i, positions, rfl⟩ := hchain.exists_cons
    obtain ⟨hfound, hbehind, hrest⟩ := IsHeadingChain.cons_iff.1 hchain
    obtain ⟨j, positions, rfl⟩ := hrest.exists_cons
    exact ⟨i, hstart i List.mem_cons_self, hfound, _, hrest, hbehind, by simpa using hlast⟩
  · rintro ⟨i, hstart, hfound, positions, hrest, hbehind, hlast⟩
    obtain ⟨j, positions, rfl⟩ := hrest.exists_cons
    refine ⟨i :: j :: positions, IsHeadingChain.cons_iff.2 ⟨hfound, hbehind, hrest⟩, ?_,
      by simpa using hlast⟩
    intro k hk
    rcases List.mem_cons.1 hk with rfl | hk
    · exact hstart
    · exact Nat.le_trans hstart (Nat.le_of_succ_le (hbehind k hk))

/-- Starting further up leaves every chain as it is. -/
theorem LeadsTo.mono {start' : Nat} (h : LeadsTo hs start cs last) (hle : start' ≤ start) :
    LeadsTo hs start' cs last := by
  obtain ⟨positions, hchain, hstart, hlast⟩ := h
  exact ⟨positions, hchain, fun i hi => Nat.le_trans hle (hstart i hi), hlast⟩

/-! ## Following a heading path -/

/-- Looking for a component from a position on, the first heading with its anchor is found. -/
theorem dropWhile_headings (hs : List Heading) (c : String) (start : Nat) :
    ((hs.drop start).dropWhile (fun h => toAnchor h.text != toAnchor c) = [] ∧
        ∀ i, start ≤ i → ¬IsFoundAt hs c i) ∨
      ∃ i h, (hs.drop start).dropWhile (fun h => toAnchor h.text != toAnchor c) =
          h :: hs.drop (i + 1) ∧ hs[i]? = some h ∧
        IsLeast {i | start ≤ i ∧ IsFoundAt hs c i} i := by
  induction hn : hs.length - start generalizing start with
  | zero =>
    refine Or.inl ⟨by rw [List.drop_eq_nil_of_le (by omega)]; rfl, ?_⟩
    rintro i hi ⟨h, hget, -⟩
    exact absurd (List.getElem?_eq_some_iff.1 hget).1 (by omega)
  | succ n ih =>
    have hlt : start < hs.length := by omega
    have hget : hs[start]? = some hs[start] := List.getElem?_eq_getElem hlt
    rw [List.drop_eq_getElem_cons hlt, List.dropWhile_cons]
    by_cases heq : toAnchor hs[start].text = toAnchor c
    · rw [if_neg (by simpa using heq)]
      exact Or.inr ⟨start, hs[start], rfl, hget, ⟨Nat.le_refl _, _, hget, heq⟩, fun j hj => hj.1⟩
    · rw [if_pos (by simpa using heq)]
      have hbehind : ∀ i, start ≤ i → IsFoundAt hs c i → start + 1 ≤ i := by
        rintro i hi ⟨h, hi', hfound⟩
        rcases Nat.eq_or_lt_of_le hi with rfl | hlt
        · exact absurd (Option.some.inj (hget.symm.trans hi') ▸ hfound) heq
        · exact hlt
      rcases ih (start + 1) (by omega) with ⟨hnil, hnone⟩ | ⟨i, h, hcons, hi, hleast⟩
      · exact Or.inl ⟨hnil, fun i hi hfound => hnone i (hbehind i hi hfound) hfound⟩
      · exact Or.inr ⟨i, h, hcons, hi, ⟨Nat.le_of_succ_le hleast.1.1, hleast.1.2⟩,
          fun j hj => hleast.2 ⟨hbehind j hj.1 hj.2, hj.2⟩⟩

/-- The first heading for a component may stand in for any other one: what a chain reaches behind
the other is reached behind the first. -/
theorem leadsTo_of_first {c' : String} (hfirst : IsLeast {i | start ≤ i ∧ IsFoundAt hs c i} i)
    (h : LeadsTo hs start (c :: c' :: cs) last) : LeadsTo hs (i + 1) (c' :: cs) last := by
  obtain ⟨j, hj, hfound, hrest⟩ := leadsTo_cons_cons.1 h
  exact hrest.mono (Nat.succ_le_succ (hfirst.2 ⟨hj, hfound⟩))

/-- **A heading path is followed to the first position that a chain leads to**, and nowhere only if
there is no chain. -/
theorem followHeadings_cons (hs : List Heading) (c : String) (cs : List String) (start : Nat)
    (found : Option Heading) :
    (Outline.followHeadings found (c :: cs) (hs.drop start) = none ∧
        ∀ i, ¬LeadsTo hs start (c :: cs) i) ∨
      ∃ i h, Outline.followHeadings found (c :: cs) (hs.drop start) = some h ∧ hs[i]? = some h ∧
        IsLeast {i | LeadsTo hs start (c :: cs) i} i := by
  induction cs generalizing c start found with
  | nil =>
    simp only [leadsTo_singleton]
    unfold Outline.followHeadings
    rcases dropWhile_headings hs c start with ⟨hnil, hnone⟩ | ⟨i, h, hcons, hi, hleast⟩
    · rw [hnil]
      exact Or.inl ⟨rfl, fun i hi => hnone i hi.1 hi.2⟩
    · rw [hcons]
      exact Or.inr ⟨i, h, rfl, hi, hleast⟩
  | cons c' cs ih =>
    unfold Outline.followHeadings
    rcases dropWhile_headings hs c start with ⟨hnil, hnone⟩ | ⟨i, h, hcons, -, hleast⟩
    · rw [hnil]
      refine Or.inl ⟨rfl, fun last hlast => ?_⟩
      obtain ⟨i, hi, hfound, -⟩ := leadsTo_cons_cons.1 hlast
      exact hnone i hi hfound
    · rw [hcons]
      -- exactly the ends of chains behind the first heading found are ends of chains
      have hiff : ∀ last, LeadsTo hs start (c :: c' :: cs) last ↔
          LeadsTo hs (i + 1) (c' :: cs) last := fun last =>
        ⟨leadsTo_of_first hleast, fun h => leadsTo_cons_cons.2 ⟨i, hleast.1.1, hleast.1.2, h⟩⟩
      simp only [hiff]
      exact ih c' (i + 1) (some h)

/-- From the top, the components of a heading path lead somewhere exactly if there are some and
there is a chain for them, and then to the first end of a chain. -/
theorem followHeadings_none (hs : List Heading) (cs : List String) :
    (Outline.followHeadings none cs hs = none ∧
        ¬(cs ≠ [] ∧ ∃ positions, IsHeadingChain hs cs positions)) ∨
      ∃ i h, Outline.followHeadings none cs hs = some h ∧ hs[i]? = some h ∧ cs ≠ [] ∧
        IsLeast {i | ∃ positions, IsHeadingChain hs cs positions ∧
          positions.getLast? = some i} i := by
  cases cs with
  | nil => exact Or.inl ⟨rfl, fun h => h.1 rfl⟩
  | cons c cs =>
    have hleads : ∀ last, LeadsTo hs 0 (c :: cs) last ↔
        ∃ positions, IsHeadingChain hs (c :: cs) positions ∧ positions.getLast? = some last := by
      simp [LeadsTo]
    have hfollow := followHeadings_cons hs c cs 0 none
    simp only [hleads, List.drop_zero] at hfollow
    rcases hfollow with ⟨hnone, hno⟩ | ⟨i, h, hsome, hi, hleast⟩
    · refine Or.inl ⟨hnone, ?_⟩
      rintro ⟨-, positions, hchain⟩
      obtain ⟨i, positions, rfl⟩ := hchain.exists_cons
      exact hno _ ⟨_, hchain, List.getLast?_eq_some_getLast (List.cons_ne_nil i positions)⟩
    · exact Or.inr ⟨i, h, hsome, hi, List.cons_ne_nil c cs, hleast⟩

namespace Outline

variable {anchor : String}

theorem resolveAnchor_of_head?_ne (o : Outline)
    (h : (percentDecode anchor).toList.head? ≠ some '^') :
    o.resolveAnchor anchor =
      (followHeadings none (anchorComponents (percentDecode anchor).toList) o.headings).map
        .heading := by
  unfold resolveAnchor
  split
  · rename_i id heq
    exact absurd (by rw [heq]; rfl) h
  · rfl

/-- **A reference to a heading is resolved exactly if its components name headings one behind
another**, and it points at the first heading in which such a chain can end. -/
theorem resolveAnchor_eq_heading (o : Outline)
    (h : (percentDecode anchor).toList.head? ≠ some '^') :
    let cs := anchorComponents (percentDecode anchor).toList
    ((∃ heading, o.resolveAnchor anchor = some (.heading heading)) ↔
        cs ≠ [] ∧ ∃ positions, IsHeadingChain o.headings cs positions) ∧
      ∀ target, o.resolveAnchor anchor = some target → ∃ heading i,
        target = .heading heading ∧ o.headings[i]? = some heading ∧
          IsLeast {i | ∃ positions, IsHeadingChain o.headings cs positions ∧
            positions.getLast? = some i} i := by
  intro cs
  have hresolve : o.resolveAnchor anchor = (followHeadings none cs o.headings).map .heading :=
    resolveAnchor_of_head?_ne o h
  rw [hresolve]
  rcases followHeadings_none o.headings cs with ⟨hnone, hno⟩ | ⟨i, heading, hsome, hi, hcs, hleast⟩
  · rw [hnone]
    exact ⟨iff_of_false (by simp) hno, by simp⟩
  · obtain ⟨positions, hchain, -⟩ := hleast.1
    rw [hsome]
    refine ⟨iff_of_true ⟨heading, rfl⟩ ⟨hcs, positions, hchain⟩, ?_⟩
    rintro target ⟨⟩
    exact ⟨heading, i, rfl, hi, hleast⟩

/-- Of three equal titles, the second is meant behind the heading that stands in front of it. -/
theorem resolveAnchor_repeated_titles :
    let o : Outline := { empty with
      headings := [⟨"Trips", 1, 0⟩, ⟨"North", 1, 2⟩, ⟨"Trips", 2, 4⟩, ⟨"Trips", 2, 6⟩] }
    (percentDecode "north##Trips").toList.head? ≠ some '^' ∧
      (∃ heading i, o.resolveAnchor "north##Trips" = some (.heading heading) ∧
        o.headings[i]? = some heading ∧
        IsLeast {i | ∃ positions, IsHeadingChain o.headings ["north", "Trips"] positions ∧
          positions.getLast? = some i} i) ∧
      o.resolveAnchor "north##Trips" = some (.heading ⟨"Trips", 2, 4⟩) := by
  intro o
  have h : (percentDecode "north##Trips").toList.head? ≠ some '^' := by decide +kernel
  have hcs : anchorComponents (percentDecode "north##Trips").toList = ["north", "Trips"] := by
    decide +kernel
  have hchain : IsHeadingChain o.headings ["north", "Trips"] [1, 2] :=
    ⟨by decide, .cons ⟨_, rfl, by decide +kernel⟩ (.cons ⟨_, rfl, by decide +kernel⟩ .nil)⟩
  have hspec := resolveAnchor_eq_heading o h
  simp only [hcs] at hspec
  obtain ⟨heading, hresolve⟩ := hspec.1.2 ⟨by simp, _, hchain⟩
  obtain ⟨_, i, heq, hi, hleast⟩ := hspec.2 _ hresolve
  obtain rfl := AnchorTarget.heading.inj heq
  exact ⟨h, ⟨_, i, hresolve, hi, hleast⟩, by decide +kernel⟩

end Outline

end Gazetteer
