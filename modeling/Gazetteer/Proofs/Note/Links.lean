import Gazetteer.Pattern.Note
import Gazetteer.Proofs.Pattern.Forms
import Gazetteer.Proofs.Data.Lists

/-!
# How links are matched

A place that is written as a link is matched in one way only up to its closing parenthesis
(`LinkText`, `first?_inlineLocation`); behind it the longest run of tag items belongs to the match,
if there is one (`first?_trailingTags_iff`). How wide the gap in front of the tags is does not
matter.
-/

namespace Gazetteer

namespace Pattern

open Unicode (isBlank)

variable {p : Pattern} {test : Char → Bool} {u v w s u' v' : List Char}
  {g : List (String × List Char)} {o t : Outcome} {c : Char}

/-! ## Runs of characters -/

theorem forall_mem_head?_append {P : Char → Prop} (hu : ∀ c ∈ u, P c)
    (hv : ∀ c ∈ v.head?, P c) : ∀ c ∈ (u ++ v).head?, P c := by
  cases u with
  | nil => exact hv
  | cons x u =>
    intro c hc
    obtain rfl := Option.some.inj hc
    exact hu x List.mem_cons_self

/-! ## Decimals -/

/-- A text of the form of a decimal number. -/
def IsDecimal (w : List Char) : Prop := decimal.Reads w []

theorem allows_decimal_iff :
    decimal.allows c = true ↔ c = '+' ∨ c = '-' ∨ c = '.' ∨ c.isDigit = true := by
  simp [decimal, all, opt, oneOf, many, lit, digits, many1, allows]
  tauto

/-- No blank, comma or parenthesis is in a decimal. -/
theorem IsDecimal.allows_of_mem (h : IsDecimal w) (hc : c ∈ w) : decimal.allows c = true :=
  allows_of_mem_text h hc

theorem isBlank_of_allows_decimal (h : decimal.allows c = true) : isBlank c = false := by
  have hcode : 43 ≤ c.toNat ∧ c.toNat ≤ 57 := by
    rcases allows_decimal_iff.1 h with rfl | rfl | rfl | hc
    · decide
    · decide
    · decide
    · obtain ⟨h1, h2⟩ := Bool.and_eq_true_iff.1 hc
      have h1 : 48 ≤ c.toNat := of_decide_eq_true h1
      have h2 : c.toNat ≤ 57 := of_decide_eq_true h2
      omega
  simp [isBlank]
  omega

theorem IsDecimal.ne_nil (h : IsDecimal w) : w ≠ [] := by
  obtain ⟨sign, v, _, _, rfl, _, _, hv⟩ := (reads_all_cons rfl rfl).1 h
  obtain ⟨whole, fraction, _, g, rfl, _, _, hfraction⟩ := (reads_all_cons rfl rfl).1 hv
  have hdigits : (many1 (.char Char.isDigit)).Reads fraction g := hfraction
  simp [(reads_many1_char.1 hdigits).1]

theorem reads_group_decimal {name : String} :
    (Pattern.group name decimal).Reads w g ↔ g = [(name, w)] ∧ IsDecimal w := by
  rw [reads_group]
  constructor
  · rintro ⟨g', rfl, h⟩
    obtain rfl := groups_eq_nil (p := decimal) rfl h
    exact ⟨rfl, h⟩
  · rintro ⟨rfl, h⟩
    exact ⟨[], rfl, h⟩

/-! ## Parts in front of others -/

section Front

variable {ps : List Pattern} {name t : String} (hps : (all ps).isAnchored = false)
include hps

theorem reads_lit_cons (ht : (lit t).isAnchored = false) :
    (all (lit t :: ps)).Reads w g ↔ ∃ v, w = t.toList ++ v ∧ (all ps).Reads v g := by
  rw [reads_all_cons hps ht]
  constructor
  · rintro ⟨_, v, _, gv, rfl, rfl, hlit, hv⟩
    obtain ⟨rfl, rfl⟩ := reads_lit.1 hlit
    exact ⟨v, rfl, (List.append_nil gv).symm ▸ hv⟩
  · rintro ⟨v, rfl, hv⟩
    exact ⟨_, v, [], g, rfl, (List.append_nil g).symm, reads_lit.2 ⟨rfl, rfl⟩, hv⟩

theorem reads_many_cons :
    (all (many (.char test) :: ps)).Reads w g ↔
      ∃ u v, w = u ++ v ∧ (∀ c ∈ u, test c = true) ∧ (all ps).Reads v g := by
  rw [reads_all_cons hps rfl]
  constructor
  · rintro ⟨u, v, _, gv, rfl, rfl, hmany, hv⟩
    obtain ⟨hu, rfl⟩ := reads_many_char.1 hmany
    exact ⟨u, v, rfl, hu, (List.append_nil gv).symm ▸ hv⟩
  · rintro ⟨u, v, rfl, hu, hv⟩
    exact ⟨u, v, [], g, rfl, (List.append_nil g).symm, reads_many_char.2 ⟨hu, rfl⟩, hv⟩

theorem reads_group_many_cons :
    (all (.group name (many (.char test)) :: ps)).Reads w g ↔
      ∃ u v g', w = u ++ v ∧ g = g' ++ [(name, u)] ∧ (∀ c ∈ u, test c = true) ∧
        (all ps).Reads v g' := by
  rw [reads_all_cons hps rfl]
  constructor
  · rintro ⟨u, v, _, gv, rfl, rfl, hgroup, hv⟩
    obtain ⟨_, rfl, hmany⟩ := reads_group.1 hgroup
    obtain ⟨hu, rfl⟩ := reads_many_char.1 hmany
    exact ⟨u, v, gv, rfl, rfl, hu, hv⟩
  · rintro ⟨u, v, g', rfl, rfl, hu, hv⟩
    exact ⟨u, v, [(name, u)], g', rfl, rfl, reads_group.2 ⟨[], rfl, reads_many_char.2 ⟨hu, rfl⟩⟩,
      hv⟩

theorem reads_group_decimal_cons :
    (all (.group name decimal :: ps)).Reads w g ↔
      ∃ u v g', w = u ++ v ∧ g = g' ++ [(name, u)] ∧ IsDecimal u ∧ (all ps).Reads v g' := by
  rw [reads_all_cons hps rfl]
  constructor
  · rintro ⟨u, v, _, gv, rfl, rfl, hgroup, hv⟩
    obtain ⟨rfl, hu⟩ := reads_group_decimal.1 hgroup
    exact ⟨u, v, gv, rfl, rfl, hu, hv⟩
  · rintro ⟨u, v, g', rfl, rfl, hu, hv⟩
    exact ⟨u, v, [(name, u)], g', rfl, rfl, reads_group_decimal.2 ⟨rfl, hu⟩, hv⟩

end Front

/-- Two decimals with a comma between them, and blanks around it. -/
theorem reads_coordinates :
    coordinates.Reads w g ↔ ∃ lat blanks₂ blanks₃ lng,
      w = lat ++ (blanks₂ ++ (",".toList ++ (blanks₃ ++ lng))) ∧
      g = [("lng", lng), ("lat", lat)] ∧ IsDecimal lat ∧ (∀ c ∈ blanks₂, isBlank c = true) ∧
      (∀ c ∈ blanks₃, isBlank c = true) ∧ IsDecimal lng := by
  unfold coordinates
  rw [reads_group_decimal_cons rfl]
  constructor
  · rintro ⟨lat, _, _, rfl, rfl, hlat, h₁⟩
    obtain ⟨blanks₂, _, rfl, hblanks₂, h₂⟩ := (reads_many_cons rfl).1 h₁
    obtain ⟨_, rfl, h₃⟩ := (reads_lit_cons rfl rfl).1 h₂
    obtain ⟨blanks₃, lng, rfl, hblanks₃, h₄⟩ := (reads_many_cons rfl).1 h₃
    obtain ⟨rfl, hlng⟩ := reads_group_decimal.1 h₄
    exact ⟨lat, blanks₂, blanks₃, lng, rfl, rfl, hlat, hblanks₂, hblanks₃, hlng⟩
  · rintro ⟨lat, blanks₂, blanks₃, lng, rfl, rfl, hlat, hblanks₂, hblanks₃, hlng⟩
    refine ⟨lat, _, [("lng", lng)], rfl, rfl, hlat, ?_⟩
    refine (reads_many_cons rfl).2 ⟨blanks₂, _, rfl, hblanks₂, ?_⟩
    refine (reads_lit_cons rfl rfl).2 ⟨_, rfl, ?_⟩
    exact (reads_many_cons rfl).2 ⟨blanks₃, lng, rfl, hblanks₃, reads_group_decimal.2 ⟨rfl, hlng⟩⟩

/-! ## Up to the parenthesis -/

/-- A character that may stand in the name of a link. -/
def isNameChar (c : Char) : Bool := c != ']' && c != '\n'

/-- The pattern of a link in front of the tags. -/
def linkParts : List Pattern :=
  [lit "[", .group "name" (many (.char isNameChar)), lit "](geo:", blanks, coordinates, blanks,
    lit ")"]

theorem inlineLocation_eq : inlineLocation = all (linkParts ++ [trailingTags]) := rfl

end Pattern

open Pattern
open Unicode (isBlank)

/-- The parts of a link up to its closing parenthesis; the blanks are those behind `geo:`, around
the comma and in front of the parenthesis. -/
@[ext]
structure LinkText where
  name : List Char
  blanks₁ : List Char
  lat : List Char
  blanks₂ : List Char
  blanks₃ : List Char
  lng : List Char
  blanks₄ : List Char
  name_ok : ∀ c ∈ name, isNameChar c = true
  blank₁ : ∀ c ∈ blanks₁, isBlank c = true
  isDecimal_lat : IsDecimal lat
  blank₂ : ∀ c ∈ blanks₂, isBlank c = true
  blank₃ : ∀ c ∈ blanks₃, isBlank c = true
  isDecimal_lng : IsDecimal lng
  blank₄ : ∀ c ∈ blanks₄, isBlank c = true

namespace LinkText

variable {k k' : LinkText} {w s s' u u' v v' : List Char} {g : List (String × List Char)}
  {o : Outcome} {test : Char → Bool}

/-- The text behind the name. -/
def target (k : LinkText) : List Char :=
  "](geo:".toList ++ (k.blanks₁ ++ (k.lat ++ (k.blanks₂ ++
    (",".toList ++ (k.blanks₃ ++ (k.lng ++ (k.blanks₄ ++ ")".toList)))))))

def text (k : LinkText) : List Char := "[".toList ++ (k.name ++ k.target)

def groups (k : LinkText) : List (String × List Char) :=
  [("lng", k.lng), ("lat", k.lat), ("name", k.name)]

theorem reads_linkParts :
    (all linkParts).Reads w g ↔ ∃ k : LinkText, w = k.text ∧ g = k.groups := by
  unfold linkParts
  rw [reads_lit_cons rfl rfl]
  constructor
  · rintro ⟨_, rfl, h₁⟩
    obtain ⟨name, _, _, rfl, rfl, name_ok, h₂⟩ := (reads_group_many_cons rfl).1 h₁
    obtain ⟨_, rfl, h₃⟩ := (reads_lit_cons rfl rfl).1 h₂
    obtain ⟨blanks₁, _, rfl, blank₁, h₄⟩ := (reads_many_cons rfl).1 h₃
    obtain ⟨_, _, _, _, rfl, rfl, hcoordinates, h₅⟩ := (reads_all_cons rfl rfl).1 h₄
    obtain ⟨lat, blanks₂, blanks₃, lng, rfl, rfl, isDecimal_lat, blank₂, blank₃, isDecimal_lng⟩ :=
      reads_coordinates.1 hcoordinates
    obtain ⟨blanks₄, _, rfl, blank₄, h₆⟩ := (reads_many_cons rfl).1 h₅
    obtain ⟨rfl, rfl⟩ := reads_lit.1 h₆
    refine ⟨⟨name, blanks₁, lat, blanks₂, blanks₃, lng, blanks₄, name_ok, blank₁, isDecimal_lat,
      blank₂, blank₃, isDecimal_lng, blank₄⟩, ?_, rfl⟩
    unfold text target
    simp only [List.append_assoc]
  · rintro ⟨k, rfl, rfl⟩
    have hcoordinates : coordinates.Reads
        (k.lat ++ (k.blanks₂ ++ (",".toList ++ (k.blanks₃ ++ k.lng))))
        [("lng", k.lng), ("lat", k.lat)] :=
      reads_coordinates.2 ⟨_, _, _, _, rfl, rfl, k.isDecimal_lat, k.blank₂, k.blank₃,
        k.isDecimal_lng⟩
    have hclose : (all [blanks, lit ")"]).Reads (k.blanks₄ ++ ")".toList) [] :=
      (reads_many_cons rfl).2 ⟨_, _, rfl, k.blank₄, reads_lit.2 ⟨rfl, rfl⟩⟩
    refine ⟨_, rfl, (reads_group_many_cons rfl).2
      ⟨k.name, k.target, [("lng", k.lng), ("lat", k.lat)], rfl, rfl, k.name_ok, ?_⟩⟩
    refine (reads_lit_cons rfl rfl).2 ⟨_, rfl, ?_⟩
    refine (reads_many_cons rfl).2 ⟨_, _, rfl, k.blank₁, ?_⟩
    exact (reads_all_cons rfl rfl).2 ⟨_, _, [("lng", k.lng), ("lat", k.lat)], [],
      by simp only [List.append_assoc], rfl, hcoordinates, hclose⟩

/-! ### Only one way -/

theorem isBlank_head_decimal (h : IsDecimal w) (s : List Char) :
    ∀ c ∈ (w ++ s).head?, isBlank c = false := by
  obtain ⟨x, w, rfl⟩ := List.exists_cons_of_ne_nil h.ne_nil
  intro c hc
  obtain rfl := Option.some.inj hc
  exact isBlank_of_allows_decimal (h.allows_of_mem List.mem_cons_self)

theorem allows_decimal_head_blanks (hw : ∀ c ∈ w, isBlank c = true)
    (hs : ∀ c ∈ s.head?, decimal.allows c = false) :
    ∀ c ∈ (w ++ s).head?, decimal.allows c = false := by
  refine forall_mem_head?_append (fun c hc => ?_) hs
  by_contra hallows
  rw [Bool.not_eq_false] at hallows
  have hblank := isBlank_of_allows_decimal hallows
  rw [hw c hc] at hblank
  cases hblank

/-- A text begins with one link at most. -/
theorem text_append_inj (h : k.text ++ s = k'.text ++ s') : k = k' ∧ s = s' := by
  unfold text target at h
  simp only [List.append_assoc] at h
  have h := List.append_cancel_left h
  obtain ⟨hname, h⟩ := append_inj_of_head k.name_ok k'.name_ok (by rintro _ ⟨⟩; rfl)
    (by rintro _ ⟨⟩; rfl) h
  have h := List.append_cancel_left h
  obtain ⟨hblanks₁, h⟩ := append_inj_of_head k.blank₁ k'.blank₁
    (isBlank_head_decimal k.isDecimal_lat _) (isBlank_head_decimal k'.isDecimal_lat _) h
  obtain ⟨hlat, h⟩ := append_inj_of_head (fun c => k.isDecimal_lat.allows_of_mem)
    (fun c => k'.isDecimal_lat.allows_of_mem)
    (allows_decimal_head_blanks k.blank₂ (by rintro _ ⟨⟩; rfl))
    (allows_decimal_head_blanks k'.blank₂ (by rintro _ ⟨⟩; rfl)) h
  obtain ⟨hblanks₂, h⟩ := append_inj_of_head k.blank₂ k'.blank₂ (by rintro _ ⟨⟩; rfl)
    (by rintro _ ⟨⟩; rfl) h
  have h := List.append_cancel_left h
  obtain ⟨hblanks₃, h⟩ := append_inj_of_head k.blank₃ k'.blank₃
    (isBlank_head_decimal k.isDecimal_lng _) (isBlank_head_decimal k'.isDecimal_lng _) h
  obtain ⟨hlng, h⟩ := append_inj_of_head (fun c => k.isDecimal_lng.allows_of_mem)
    (fun c => k'.isDecimal_lng.allows_of_mem)
    (allows_decimal_head_blanks k.blank₄ (by rintro _ ⟨⟩; rfl))
    (allows_decimal_head_blanks k'.blank₄ (by rintro _ ⟨⟩; rfl)) h
  obtain ⟨hblanks₄, h⟩ := append_inj_of_head k.blank₄ k'.blank₄ (by rintro _ ⟨⟩; rfl)
    (by rintro _ ⟨⟩; rfl) h
  exact ⟨LinkText.ext hname hblanks₁ hlat hblanks₂ hblanks₃ hlng hblanks₄,
    List.append_cancel_left h⟩

/-- What comes of a link as far as its parenthesis. -/
def outcome (k : LinkText) (s : List Char) : Outcome := ⟨k.text, s, k.groups⟩

theorem mem_outcomes_linkParts :
    o ∈ (all linkParts).outcomes w ↔
      ∃ k : LinkText, w = k.text ++ o.rest ∧ o = k.outcome o.rest := by
  rw [mem_outcomes_iff rfl, reads_linkParts]
  constructor
  · rintro ⟨hw, k, htext, hgroups⟩
    exact ⟨k, htext ▸ hw, Outcome.ext htext rfl hgroups⟩
  · rintro ⟨k, hw, ho⟩
    obtain ⟨htext, -, hgroups⟩ := Outcome.ext_iff.1 ho
    exact ⟨hw.trans (congrArg (· ++ o.rest) htext.symm), k, htext, hgroups⟩

/-- A place written as a link is what is written up to the parenthesis, and the tags behind it. -/
theorem first?_inlineLocation (k : LinkText) (s : List Char) :
    inlineLocation.first? (k.text ++ s) = (trailingTags.first? s).map (k.outcome s).andThen := by
  rw [inlineLocation_eq]
  refine first?_all_concat
    ((mem_outcomes_linkParts (o := k.outcome s)).2 ⟨k, rfl, rfl⟩) (fun o ho => ?_) trailingTags
  obtain ⟨k', heq, ho⟩ := mem_outcomes_linkParts.1 ho
  obtain ⟨rfl, hs⟩ := text_append_inj heq
  rw [ho, ← hs]
  rfl

theorem exists_of_first?_inlineLocation (h : inlineLocation.first? w = some o) :
    ∃ k s t, w = LinkText.text k ++ s ∧ trailingTags.first? s = some t ∧
      o = (k.outcome s).andThen t := by
  have ho := mem_outcomes_of_first? h
  rw [inlineLocation_eq, outcomes_all_concat, List.mem_flatMap] at ho
  obtain ⟨o₁, ho₁, -⟩ := ho
  obtain ⟨k, rfl, -⟩ := mem_outcomes_linkParts.1 ho₁
  rw [first?_inlineLocation, Option.map_eq_some_iff] at h
  obtain ⟨t, ht, ho⟩ := h
  exact ⟨k, o₁.rest, t, rfl, ht, ho.symm⟩

end LinkText

/-! ## Tags behind the parenthesis -/

namespace Pattern

variable {s tags rest gap : List Char} {o t : Outcome} {c : Char}

/-- A character that may stand in front of tags. -/
def isGap (c : Char) : Bool := " \t".toList.contains c

/-- The tag items behind the gap. -/
def tagRun : Pattern :=
  .group "tags" (many1 (.seq tagItem (many (oneOf " \t,"))))

theorem trailingTags_eq : trailingTags = opt (.seq (many (.char isGap)) tagRun) := rfl

/-- A text goes on with tag items if there is at least one character of a tag. -/
def TagsFollow (s : List Char) : Prop :=
  ∃ c rest, s.dropWhile isGap = "tag:".toList ++ c :: rest ∧ isTagChar c = true

theorem tagsFollow_iff :
    TagsFollow s ↔ (("tag:".toList.isPrefixOf? (s.dropWhile isGap)).bind List.head?).any isTagChar =
      true := by
  unfold TagsFollow
  cases hrest : "tag:".toList.isPrefixOf? (s.dropWhile isGap) with
  | none =>
    refine iff_of_false ?_ (by simp)
    rintro ⟨c, rest, heq, -⟩
    rw [List.isPrefixOf?_eq_some_iff_append_eq.2 heq.symm] at hrest
    cases hrest
  | some rest =>
    rw [← List.isPrefixOf?_eq_some_iff_append_eq.1 hrest]
    cases rest with
    | nil => simp
    | cons c rest => simp

instance (s : List Char) : Decidable (TagsFollow s) :=
  decidable_of_iff _ tagsFollow_iff.symm

theorem exists_mem_outcomes_seq {p q : Pattern} :
    (∃ o, o ∈ (Pattern.seq p q).outcomes s) ↔
      ∃ o ∈ p.outcomes s, ∃ o', o' ∈ q.outcomes o.rest := by
  constructor
  · rintro ⟨_, ho⟩
    obtain ⟨o, ho, ho'⟩ := List.mem_flatMap.1 ho
    obtain ⟨o', ho', -⟩ := List.mem_map.1 ho'
    exact ⟨o, ho, o', ho'⟩
  · rintro ⟨o, ho, o', ho'⟩
    exact ⟨_, List.mem_flatMap.2 ⟨o, ho, List.mem_map_of_mem ho'⟩⟩

/-- A repetition may stop at once. -/
theorem stay_mem_outcomes_star (lazily : Bool) (p : Pattern) (s : List Char) :
    Outcome.stay s ∈ (Pattern.star lazily p).outcomes s := by
  unfold outcomes
  cases s.length with
  | zero => exact List.mem_singleton_self _
  | succ n => exact mem_outcomesOfRounds_succ.2 (Or.inl rfl)

theorem exists_mem_outcomes_tagItem :
    (∃ o, o ∈ tagItem.outcomes s) ↔
      ∃ c rest, s = "tag:".toList ++ c :: rest ∧ isTagChar c = true := by
  have htagChars : ∀ s, (∃ o, o ∈ (many1 (.char isTagChar)).outcomes s) ↔
      ∃ c rest, s = c :: rest ∧ isTagChar c = true := fun s => by
    show (∃ o, o ∈ (Pattern.seq (.char isTagChar) (.star false (.char isTagChar))).outcomes s) ↔ _
    rw [exists_mem_outcomes_seq]
    constructor
    · rintro ⟨o, ho, -⟩
      obtain ⟨c, hc, rfl, -⟩ := mem_outcomes_char.1 ho
      exact ⟨c, o.rest, rfl, hc⟩
    · rintro ⟨c, rest, rfl, hc⟩
      exact ⟨⟨[c], rest, []⟩, mem_outcomes_char.2 ⟨c, hc, rfl, rfl, rfl⟩, _,
        stay_mem_outcomes_star ..⟩
  show (∃ o, o ∈ (Pattern.seq (lit "tag:") (many1 (.char isTagChar))).outcomes s) ↔ _
  simp only [exists_mem_outcomes_seq, htagChars]
  constructor
  · rintro ⟨o, ho, c, rest, hrest, hc⟩
    exact ⟨c, rest, hrest ▸ (mem_outcomes_lit.1 ho).1, hc⟩
  · rintro ⟨c, rest, rfl, hc⟩
    exact ⟨⟨"tag:".toList, c :: rest, []⟩, mem_outcomes_lit.2 ⟨rfl, rfl, rfl⟩, c, rest, rfl, hc⟩

theorem exists_mem_outcomes_tagRun :
    (∃ o, o ∈ tagRun.outcomes s) ↔
      ∃ c rest, s = "tag:".toList ++ c :: rest ∧ isTagChar c = true := by
  rw [← exists_mem_outcomes_tagItem]
  have hgroup : (∃ o, o ∈ tagRun.outcomes s) ↔
      ∃ o, o ∈ (many1 (Pattern.seq tagItem (many (oneOf " \t,")))).outcomes s := by
    simp only [tagRun, mem_outcomes_group]
    exact ⟨fun ⟨_, o, ho, _⟩ => ⟨o, ho⟩, fun ⟨o, ho⟩ => ⟨_, o, ho, rfl⟩⟩
  rw [hgroup, many1, exists_mem_outcomes_seq]
  constructor
  · rintro ⟨o, ho, -⟩
    obtain ⟨o', ho', -⟩ := exists_mem_outcomes_seq.1 ⟨o, ho⟩
    exact ⟨o', ho'⟩
  · rintro ⟨o, ho⟩
    obtain ⟨o', ho'⟩ := (exists_mem_outcomes_seq (q := many (oneOf " \t,"))).2
      ⟨o, ho, _, stay_mem_outcomes_star ..⟩
    exact ⟨o', ho', _, stay_mem_outcomes_star ..⟩

/-- Tags do not start with a gap. -/
theorem outcomes_tagRun_of_isGap (c : Char) (s : List Char) (hc : isGap c = true) :
    tagRun.outcomes (c :: s) = [] := by
  refine List.eq_nil_iff_forall_not_mem.2 fun o ho => ?_
  obtain ⟨x, rest, heq, -⟩ := exists_mem_outcomes_tagRun.1 ⟨o, ho⟩
  obtain ⟨rfl, -⟩ := List.cons.inj (heq : c :: s = 't' :: ("ag:".toList ++ x :: rest))
  exact absurd hc (by decide)

theorem prefix_of_mem_outcomes_seq {p q : Pattern} (h : ∀ o ∈ p.outcomes s, w <+: o.text)
    (ho : o ∈ (Pattern.seq p q).outcomes s) : w <+: o.text := by
  obtain ⟨o₁, ho₁, ho⟩ := List.mem_flatMap.1 ho
  obtain ⟨o₂, -, rfl⟩ := List.mem_map.1 ho
  exact (h o₁ ho₁).trans (List.prefix_append ..)

/-- Tags start with the mark of a tag. -/
theorem prefix_of_mem_outcomes_tagRun (ho : o ∈ tagRun.outcomes s) : "tag:".toList <+: o.text := by
  obtain ⟨o', ho', rfl⟩ := mem_outcomes_group.1 ho
  show "tag:".toList <+: o'.text
  refine prefix_of_mem_outcomes_seq (fun o ho => ?_) ho'
  refine prefix_of_mem_outcomes_seq (fun o ho => ?_) ho
  refine prefix_of_mem_outcomes_seq (fun o ho => ?_) ho
  exact (mem_outcomes_lit.1 ho).2.1 ▸ List.prefix_refl _

theorem eq_of_mem_outcomes_tagRun (ho : o ∈ tagRun.outcomes s) :
    o = ⟨o.text, o.rest, [("tags", o.text)]⟩ := by
  obtain ⟨o', ho', rfl⟩ := mem_outcomes_group.1 ho
  rw [groups_eq_nil rfl ho']

theorem first?_trailingTags (s : List Char) :
    trailingTags.first? s = some (((tagRun.first? (s.dropWhile isGap)).map
      (Outcome.mk (s.takeWhile isGap) (s.dropWhile isGap) []).andThen).getD (.stay s)) := by
  have hrun : (Pattern.seq (many (.char isGap)) tagRun).outcomes s = _ :=
    outcomes_many_char_seq outcomes_tagRun_of_isGap s
  rw [trailingTags_eq]
  show ((Pattern.seq (many (.char isGap)) tagRun).outcomes s ++ [Outcome.stay s]).head? = _
  rw [hrun, first?]
  cases tagRun.outcomes (s.dropWhile isGap) <;> rfl

/-- Behind a parenthesis there is a gap and the longest run of tags, or no tags follow and nothing
is matched. -/
theorem first?_trailingTags_iff :
    trailingTags.first? s = some t ↔
      (∃ gap tags rest, (∀ c ∈ gap, isGap c = true) ∧
        tagRun.first? (tags ++ rest) = some ⟨tags, rest, [("tags", tags)]⟩ ∧
        s = gap ++ (tags ++ rest) ∧ t = ⟨gap ++ tags, rest, [("tags", tags)]⟩) ∨
      ¬TagsFollow s ∧ t = .stay s := by
  have hnone : tagRun.first? (s.dropWhile isGap) = none ↔ ¬TagsFollow s := by
    rw [TagsFollow, ← exists_mem_outcomes_tagRun, first?, List.head?_eq_none_iff,
      List.eq_nil_iff_forall_not_mem, not_exists]
  rw [first?_trailingTags, Option.some.injEq]
  constructor
  · rintro rfl
    cases hrun : tagRun.first? (s.dropWhile isGap) with
    | none => exact Or.inr ⟨hnone.1 hrun, rfl⟩
    | some o =>
      have ho := mem_outcomes_of_first? hrun
      have hs := text_append_rest ho
      rw [eq_of_mem_outcomes_tagRun ho] at hrun ⊢
      refine Or.inl ⟨s.takeWhile isGap, o.text, o.rest, ?_, ?_, ?_, rfl⟩
      · exact fun c hc => List.all_eq_true.1 List.all_takeWhile c hc
      · rw [hs, hrun]
      · rw [hs, List.takeWhile_append_dropWhile]
  · rintro (⟨gap, tags, rest, hgap, hrun, rfl, rfl⟩ | ⟨hno, rfl⟩)
    · have hhead : ∀ c ∈ (tags ++ rest).head?, isGap c = false := fun c hc => by
        by_contra hisGap
        obtain ⟨s, hs⟩ := List.head?_eq_some_iff.1 hc
        rw [hs, first?, outcomes_tagRun_of_isGap c s (Bool.not_eq_false _ ▸ hisGap)] at hrun
        cases hrun
      rw [takeWhile_run hgap hhead, dropWhile_run hgap hhead, hrun]
      rfl
    · rw [hnone.2 hno]
      rfl

end Pattern

end Gazetteer
