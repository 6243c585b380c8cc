import Gazetteer.Proofs.Note.Links
import Mathlib.Data.List.Sort

/-!
# Which links are found

A link that could be matched where it stands is found unless a bracket in front of it is open: the
match of that bracket has the link in its name (`mem_occurrences_inlineLocation_iff`). So whether a
link is found goes by what stands in front of it and by itself. A change of the text behind it
leaves it alone (`mem_occurrences_in_front`), and so does a change in front of it that leaves no
bracket open (`mem_occurrences_behind`).
-/

namespace Gazetteer

open Pattern

variable {u v w x y s a b text : List Char} {k : LinkText} {o t : Outcome} {m m' : Match}
  {c d : Char}

/-- A character of two texts in a row belongs to one of them. -/
theorem split_of_append_eq (h : u ++ v = x ++ c :: w) :
    (∃ z, x = u ++ z ∧ v = z ++ c :: w) ∨ ∃ z, u = x ++ c :: z ∧ w = z ++ v := by
  rcases List.append_eq_append_iff.1 h with ⟨z, hx, hv⟩ | ⟨z, hu, hz⟩
  · exact Or.inl ⟨z, hx, hv⟩
  · cases z with
    | nil => exact Or.inl ⟨[], by simpa using hu.symm, hz.symm⟩
    | cons d z =>
      obtain ⟨rfl, hw⟩ := List.cons.inj hz
      exact Or.inr ⟨z, hu, hw⟩

/-- The longer one of two fronts of a text goes on behind the shorter one. -/
theorem exists_append_of_le (h : u ++ v = x ++ w) (hle : u.length ≤ x.length) :
    ∃ z, x = u ++ z ∧ v = z ++ w := by
  obtain ⟨z, rfl⟩ := List.prefix_of_prefix_length_le ⟨v, h⟩ ⟨w, rfl⟩ hle
  rw [List.append_assoc] at h
  exact ⟨z, rfl, List.append_cancel_left h⟩

/-! ## Brackets -/

/-- A bracket is open at the end of a text: what stands behind it can be the start of a name. -/
def OpenAtEnd (u : List Char) : Prop :=
  ∃ v w, u = v ++ '[' :: w ∧ ∀ c ∈ w, isNameChar c = true

/-- A closing bracket behind all opening ones. -/
def ClosedAtEnd (u : List Char) : Prop :=
  ∃ v w, u = v ++ ']' :: w ∧ '[' ∉ w

theorem openAtEnd_iff : OpenAtEnd u ↔ '[' ∈ u.reverse.takeWhile isNameChar := by
  constructor
  · rintro ⟨v, w, rfl, hw⟩
    rw [List.reverse_append, List.reverse_cons, List.append_assoc,
      List.takeWhile_append_of_pos fun c hc => hw c (List.mem_reverse.1 hc)]
    exact List.mem_append_right _ List.mem_cons_self
  · intro h
    obtain ⟨x, y, hxy⟩ := List.append_of_mem h
    refine ⟨(y ++ u.reverse.dropWhile isNameChar).reverse, x.reverse, ?_, fun c hc => ?_⟩
    · rw [← List.reverse_inj, List.reverse_append, List.reverse_cons, List.reverse_reverse,
        List.reverse_reverse, List.append_assoc, List.singleton_append, ← List.cons_append,
        ← List.append_assoc, ← hxy, List.takeWhile_append_dropWhile]
    · have hin : c ∈ u.reverse.takeWhile isNameChar := by
        rw [hxy]
        exact List.mem_append_left _ (List.mem_reverse.1 hc)
      exact List.all_eq_true.1 List.all_takeWhile c hin

instance (u : List Char) : Decidable (OpenAtEnd u) :=
  decidable_of_iff _ openAtEnd_iff.symm

theorem OpenAtEnd.append_left (h : OpenAtEnd u) (v : List Char) : OpenAtEnd (v ++ u) := by
  obtain ⟨w, x, rfl, hx⟩ := h
  exact ⟨v ++ w, x, by rw [List.append_assoc], hx⟩

theorem ClosedAtEnd.append_left (h : ClosedAtEnd u) (v : List Char) : ClosedAtEnd (v ++ u) := by
  obtain ⟨w, x, rfl, hx⟩ := h
  exact ⟨v ++ w, x, by rw [List.append_assoc], hx⟩

/-- Behind a closing bracket, only what stands there can leave a bracket open. -/
theorem ClosedAtEnd.openAtEnd_append (h : ClosedAtEnd u) (hopen : OpenAtEnd (u ++ v)) :
    OpenAtEnd v := by
  obtain ⟨x, y, rfl, hy⟩ := h
  obtain ⟨z, w, heq, hw⟩ := hopen
  rw [List.append_assoc, List.cons_append] at heq
  rcases split_of_append_eq heq with ⟨z, -, hz⟩ | ⟨z', -, rfl⟩
  · -- the open bracket stands behind the closing one
    rcases split_of_append_eq (u := ']' :: y) hz with ⟨z', -, rfl⟩ | ⟨z', hz', -⟩
    · exact ⟨z', w, rfl, hw⟩
    · cases z with
      | nil => cases hz'
      | cons d z =>
        obtain ⟨-, rfl⟩ := List.cons.inj hz'
        exact absurd (List.mem_append_right z List.mem_cons_self) hy
  · -- the closing bracket would stand behind the open one
    exact absurd (hw ']' (by simp)) (by decide)

namespace LinkText

/-- Behind the name of a link there are blanks, numbers and the marks between them. -/
theorem mem_target (h : c ∈ k.target) :
    c ∈ "](geo:,)".toList ∨ Unicode.isBlank c = true ∨ decimal.allows c = true := by
  have hlit : ∀ {cs : List Char}, cs.all ("](geo:,)".toList.contains ·) = true → c ∈ cs →
      c ∈ "](geo:,)".toList ∨ Unicode.isBlank c = true ∨ decimal.allows c = true :=
    fun hcs hc => Or.inl (List.contains_iff_mem.1 (List.all_eq_true.1 hcs c hc))
  unfold target at h
  simp only [List.mem_append] at h
  rcases h with h | h | h | h | h | h | h | h | h
  · exact hlit (by decide) h
  · exact Or.inr (Or.inl (k.blank₁ c h))
  · exact Or.inr (Or.inr (k.isDecimal_lat.allows_of_mem h))
  · exact Or.inr (Or.inl (k.blank₂ c h))
  · exact hlit (by decide) h
  · exact Or.inr (Or.inl (k.blank₃ c h))
  · exact Or.inr (Or.inr (k.isDecimal_lng.allows_of_mem h))
  · exact Or.inr (Or.inl (k.blank₄ c h))
  · exact hlit (by decide) h

theorem not_mem_target (k : LinkText) : '[' ∉ k.target := by
  intro h
  rcases mem_target h with h | h | h <;> exact absurd h (by decide)

theorem text_eq (k : LinkText) : k.text = '[' :: (k.name ++ k.target) := rfl

/-- The link that an open bracket in front of a link begins: it has the text up to the name of that
link in its own name. -/
def widen (k : LinkText) (w : List Char) (hw : ∀ c ∈ w, isNameChar c = true) : LinkText :=
  { k with
    name := w ++ '[' :: k.name
    name_ok := List.forall_mem_append.2 ⟨hw, List.forall_mem_cons.2 ⟨rfl, k.name_ok⟩⟩ }

theorem text_widen (k : LinkText) (hw : ∀ c ∈ w, isNameChar c = true) :
    (k.widen w hw).text = '[' :: (w ++ k.text) :=
  congrArg ('[' :: ·) (List.append_assoc w ('[' :: k.name) k.target)

/-- A bracket inside a link, or in the tags behind it, stands in its name. -/
theorem name_of_bracket (ht : '[' ∉ x) (h : k.text ++ x = u ++ '[' :: v) :
    u = [] ∨ ∃ u', u = '[' :: u' ∧ (∀ c ∈ u', isNameChar c = true) ∧ ']' ∈ v := by
  have hnot : '[' ∉ k.target ++ x := by simp [k.not_mem_target, ht]
  cases u with
  | nil => exact Or.inl rfl
  | cons c u =>
    rw [text_eq, List.cons_append, List.append_assoc] at h
    obtain ⟨rfl, hrest⟩ := List.cons.inj h
    rcases split_of_append_eq hrest with ⟨z, -, hz⟩ | ⟨z, hname, rfl⟩
    · rw [hz] at hnot
      exact absurd (List.mem_append_right z List.mem_cons_self) hnot
    · refine Or.inr ⟨u, rfl, fun c hc => k.name_ok c ?_, ?_⟩
      · rw [hname]
        exact List.mem_append_left _ hc
      · unfold target
        simp

theorem closedAtEnd (ht : '[' ∉ x) : ClosedAtEnd (k.text ++ x) := by
  refine ⟨"[".toList ++ k.name, k.target.tail ++ x, ?_, ?_⟩
  · unfold text target
    simp
  · rw [List.mem_append, not_or]
    exact ⟨fun h => k.not_mem_target (List.mem_of_mem_tail h), ht⟩

end LinkText

/-! ## Links in a text -/

/-- No tags go on with a bracket. -/
theorem allows_trailingTags_bracket : trailingTags.allows '[' = false := by
  decide +kernel

theorem not_mem_of_trailingTags (h : trailingTags.first? s = some t) : '[' ∉ t.text := by
  intro hin
  have hallows := allows_of_mem_text (mem_outcomes_of_first? h) hin
  rw [allows_trailingTags_bracket] at hallows
  cases hallows

/-- The match of a link behind some text, with what is matched behind the link. -/
def LinkText.toMatch (k : LinkText) (a : List Char) (t : Outcome) : Match :=
  ⟨a.length, Text.utf8Length a, k.text ++ t.text, t.groups ++ k.groups⟩

theorem LinkText.take_start (k : LinkText) (a s : List Char) (t : Outcome) :
    (a ++ s).take (k.toMatch a t).start = a :=
  List.take_left

/-- A link stands in a text where it is written. -/
theorem standsIn_inlineLocation_iff :
    m.StandsIn inlineLocation text ↔ ∃ a k s t, text = a ++ (LinkText.text k ++ s) ∧
      trailingTags.first? s = some t ∧ k.toMatch a t = m := by
  rw [standsIn_iff rfl]
  constructor
  · rintro ⟨a, _, o, rfl, ho, rfl⟩
    obtain ⟨k, s, t, rfl, ht, rfl⟩ := LinkText.exists_of_first?_inlineLocation ho
    exact ⟨a, k, s, t, rfl, ht, rfl⟩
  · rintro ⟨a, k, s, t, rfl, ht, rfl⟩
    exact ⟨a, _, _, rfl, by rw [LinkText.first?_inlineLocation, ht, Option.map_some], rfl⟩

theorem exists_first?_trailingTags (s : List Char) : ∃ t, trailingTags.first? s = some t :=
  ⟨_, first?_trailingTags s⟩

/-- A bracket that stands inside a link stands in its name. -/
theorem inside_link (hm : m.StandsIn inlineLocation (v ++ '[' :: w)) (hlt : m.start < v.length)
    (hlt' : v.length < m.start + m.text.length) :
    OpenAtEnd v ∧ ∃ y b, w = y ++ b ∧ ']' ∈ y ∧
      v.length + 1 + y.length = m.start + m.text.length := by
  obtain ⟨a, k, s, t, htext, ht, rfl⟩ := standsIn_inlineLocation_iff.1 hm
  have hs := text_append_rest (mem_outcomes_of_first? ht)
  have hlt : a.length < v.length := hlt
  have hlt' : v.length < a.length + (k.text ++ t.text).length := hlt'
  rw [← hs, ← List.append_assoc k.text] at htext
  obtain ⟨v, rfl, hrest⟩ := exists_append_of_le htext.symm (Nat.le_of_lt hlt)
  rcases split_of_append_eq hrest with ⟨z, rfl, -⟩ | ⟨y, hlink, rfl⟩
  · simp only [List.length_append] at hlt'
    omega
  · have hlen : v.length + 1 + y.length = (k.text ++ t.text).length := by
      rw [hlink, List.length_append, List.length_cons]
      omega
    rcases k.name_of_bracket (not_mem_of_trailingTags ht) hlink with rfl | ⟨x, rfl, hx, hclose⟩
    · simp at hlt
    · refine ⟨⟨a, x, rfl, hx⟩, y, t.rest, rfl, hclose, ?_⟩
      show _ = a.length + (k.text ++ t.text).length
      rw [← hlen, List.length_append]
      omega

/-- A link is not found behind an open bracket: either that begins a link which reaches into this
one, or it stands in the name of one that is found. -/
theorem not_mem_occurrences_of_openAtEnd (ht : trailingTags.first? s = some t)
    (hopen : OpenAtEnd a) : k.toMatch a t ∉ inlineLocation.occurrences (a ++ (k.text ++ s)) := by
  intro hm
  obtain ⟨v, w, rfl, hw⟩ := hopen
  have hms := successive_occurrences (p := inlineLocation) rfl ((v ++ '[' :: w) ++ (k.text ++ s))
  have htext : (v ++ '[' :: w) ++ (k.text ++ s) = v ++ ((k.widen w hw).text ++ s) := by
    rw [k.text_widen]
    simp
  have hstands : ((k.widen w hw).toMatch v t).StandsIn inlineLocation
      ((v ++ '[' :: w) ++ (k.text ++ s)) :=
    standsIn_inlineLocation_iff.2 ⟨v, k.widen w hw, s, t, htext, ht, rfl⟩
  have hlt : v.length < (v ++ '[' :: w).length := by
    rw [List.length_append, List.length_cons]
    omega
  rcases hms.mem_or_inside hstands (Nat.zero_le _) with hm' | ⟨m', hm', hstart, hend⟩
  · have hle : v.length + ((k.widen w hw).text ++ t.text).length ≤ (v ++ '[' :: w).length :=
      hms.end_le_of_start_lt hm' hm hlt
    rw [k.text_widen] at hle
    simp only [List.length_append, List.length_cons, LinkText.text_eq] at hle
    omega
  · have hle : m'.start + m'.text.length ≤ (v ++ '[' :: w).length :=
      hms.end_le_of_start_lt hm' hm (Nat.lt_trans hstart hlt)
    have hsplit : (v ++ '[' :: w) ++ (k.text ++ s) = v ++ '[' :: (w ++ (k.text ++ s)) := by simp
    obtain ⟨-, y, b, hy, hclose, hlen⟩ := inside_link (hsplit ▸ hms.standsIn m' hm') hstart hend
    have hfront : y <+: w := by
      refine List.prefix_of_prefix_length_le ⟨b, hy.symm⟩ ⟨k.text ++ s, rfl⟩ ?_
      rw [List.length_append, List.length_cons] at hle
      omega
    exact absurd (hw ']' (hfront.subset hclose)) (by decide)

/-- **A link is found unless a bracket in front of it is open.** -/
theorem mem_occurrences_inlineLocation_iff :
    m ∈ inlineLocation.occurrences text ↔
      m.StandsIn inlineLocation text ∧ ¬OpenAtEnd (text.take m.start) := by
  have hms := successive_occurrences (p := inlineLocation) rfl text
  constructor
  · intro hm
    have hstands := hms.standsIn m hm
    refine ⟨hstands, fun hopen => ?_⟩
    obtain ⟨a, k, s, t, rfl, ht, rfl⟩ := standsIn_inlineLocation_iff.1 hstands
    rw [k.take_start] at hopen
    exact not_mem_occurrences_of_openAtEnd ht hopen hm
  · rintro ⟨hstands, hclosed⟩
    rcases hms.mem_or_inside hstands (Nat.zero_le _) with hm | ⟨m', hm', hlt, hlt'⟩
    · exact hm
    · obtain ⟨a, k, s, t, rfl, ht, rfl⟩ := standsIn_inlineLocation_iff.1 hstands
      rw [k.take_start] at hclosed
      exact absurd (inside_link (hms.standsIn m' hm') hlt hlt').1 hclosed

/-- A link that is written behind some text is found if no bracket is open there. -/
theorem LinkText.mem_occurrences_iff (k : LinkText) (a : List Char)
    (ht : trailingTags.first? s = some t) :
    k.toMatch a t ∈ inlineLocation.occurrences (a ++ (k.text ++ s)) ↔ ¬OpenAtEnd a := by
  rw [mem_occurrences_inlineLocation_iff, k.take_start]
  exact and_iff_right (standsIn_inlineLocation_iff.2 ⟨a, k, s, t, rfl, ht, rfl⟩)

/-! ## Changes of a text -/

/-- A match with other text in front of it. -/
def Pattern.Match.shift (m : Match) (u u' : List Char) : Match :=
  { m with
    start := m.start - u.length + u'.length
    byteStart := m.byteStart - Text.utf8Length u + Text.utf8Length u' }

theorem Pattern.Match.StandsIn.shift {p : Pattern} (hp : p.isAnchored = false)
    (h : m.StandsIn p (u ++ s)) (hle : u.length ≤ m.start) (u' : List Char) :
    (m.shift u u').StandsIn p (u' ++ s) := by
  obtain ⟨a, s', o, heq, ho, rfl⟩ := (standsIn_iff hp).1 h
  obtain ⟨a, rfl, rfl⟩ := exists_append_of_le heq hle
  refine (standsIn_iff hp).2 ⟨u' ++ a, s', o, by rw [List.append_assoc], ho, ?_⟩
  simp only [Outcome.toMatch, Match.shift, List.length_append, Text.utf8Length_append,
    Match.mk.injEq, and_self, and_true]
  omega

/-- A link that ends in front of a change is found after it too. Neither the character at which the
text changes nor the one that comes in its place can belong to tags. -/
theorem mem_occurrences_in_front (hm : m ∈ inlineLocation.occurrences (u ++ c :: v))
    (hle : m.start + m.text.length ≤ u.length) (hc : trailingTags.allows c = false)
    (hd : trailingTags.allows d = false) (w : List Char) :
    m ∈ inlineLocation.occurrences (u ++ d :: w) := by
  obtain ⟨hstands, hclosed⟩ := mem_occurrences_inlineLocation_iff.1 hm
  have hstart : m.start ≤ u.length := by omega
  refine mem_occurrences_inlineLocation_iff.2 ⟨?_, ?_⟩
  · obtain ⟨a, k, s, t, heq, ht, rfl⟩ := standsIn_inlineLocation_iff.1 hstands
    have hlen : a.length + k.text.length ≤ u.length := by
      have hle : a.length + (k.text ++ t.text).length ≤ u.length := hle
      rw [List.length_append] at hle
      omega
    rw [← List.append_assoc] at heq
    obtain ⟨s', rfl, rfl⟩ := exists_append_of_le heq.symm (by rwa [List.length_append])
    rw [first?_append_cons rfl hc, Option.map_eq_some_iff] at ht
    obtain ⟨t, ht, rfl⟩ := ht
    refine standsIn_inlineLocation_iff.2 ⟨a, k, s' ++ d :: w, t.extend (d :: w), ?_, ?_, rfl⟩
    · simp
    · rw [first?_append_cons rfl hd, ht, Option.map_some]
  · rw [List.take_append_of_le_length hstart] at hclosed ⊢
    exact hclosed

/-- A link behind a change is found after it too, if the change leaves no bracket open. -/
theorem mem_occurrences_behind (hm : m ∈ inlineLocation.occurrences (u ++ s))
    (hle : u.length ≤ m.start) {u' : List Char} (hu' : ClosedAtEnd u') :
    m.shift u u' ∈ inlineLocation.occurrences (u' ++ s) := by
  obtain ⟨hstands, hclosed⟩ := mem_occurrences_inlineLocation_iff.1 hm
  refine mem_occurrences_inlineLocation_iff.2 ⟨hstands.shift rfl hle u', fun hopen => hclosed ?_⟩
  have htake : (u' ++ s).take (m.shift u u').start = u' ++ s.take (m.start - u.length) := by
    show (u' ++ s).take (m.start - u.length + u'.length) = _
    rw [Nat.add_comm, List.take_length_add_append]
  have htake' : (u ++ s).take m.start = u ++ s.take (m.start - u.length) := by
    rw [← Nat.add_sub_cancel' hle, List.take_length_add_append, Nat.add_sub_cancel_left]
  rw [htake] at hopen
  rw [htake']
  exact (hu'.openAtEnd_append hopen).append_left u

/-- A link stands in the place of another one. -/
structure Exchanged (a b : List Char) (r r' : Match) : Prop where
  mem : r ∈ inlineLocation.occurrences (a ++ (r.text ++ b))
  mem' : r' ∈ inlineLocation.occurrences (a ++ (r'.text ++ b))
  start : r.start = a.length
  start' : r'.start = a.length

/-- A link can be exchanged for any other one. -/
theorem Exchanged.of_link {r : Match} (hr : r ∈ inlineLocation.occurrences (a ++ (r.text ++ b)))
    (hstart : r.start = a.length) (k : LinkText) (ht : trailingTags.first? (t.text ++ b) = some t) :
    Exchanged a b r (k.toMatch a t) where
  mem := hr
  mem' := by
    have hclosed := (mem_occurrences_inlineLocation_iff.1 hr).2
    rw [hstart, List.take_left] at hclosed
    have hmem := (k.mem_occurrences_iff a ht).2 hclosed
    rwa [← List.append_assoc k.text] at hmem
  start := hstart
  start' := rfl

/-- What becomes of a match when one is exchanged for another: those in front of it stay and those
behind it move. -/
def Pattern.Match.exchange (m : Match) (a : List Char) (r r' : Match) : Match :=
  if m.start < a.length then m
  else if m.start = a.length then r'
  else m.shift (a ++ r.text) (a ++ r'.text)

theorem Pattern.Match.start_exchange (m : Match) (a : List Char) (r r' : Match) :
    (m.exchange a r r').start =
      if m.start < a.length then m.start
      else if m.start = a.length then r'.start
      else m.start - (a.length + r.text.length) + (a.length + r'.text.length) := by
  unfold exchange shift
  split_ifs <;> simp only [List.length_append]

namespace Exchanged

variable {r r' : Match}

theorem symm (h : Exchanged a b r r') : Exchanged a b r' r := ⟨h.mem', h.mem, h.start', h.start⟩

theorem successive (_ : Exchanged a b r r') :
    Successive inlineLocation (a ++ (r.text ++ b)) 0
      (inlineLocation.occurrences (a ++ (r.text ++ b))) :=
  successive_occurrences rfl _

/-- A link starts with a bracket and leaves none open. -/
theorem bracket_and_closed (h : Exchanged a b r r') :
    (∃ v, r.text = '[' :: v) ∧ ClosedAtEnd r.text := by
  obtain ⟨a', k, s, t, -, ht, heq⟩ :=
    standsIn_inlineLocation_iff.1 (mem_occurrences_inlineLocation_iff.1 h.mem).1
  have htext : r.text = k.text ++ t.text := by
    rw [← heq]
    rfl
  rw [htext]
  exact ⟨⟨_, by rw [LinkText.text_eq, List.cons_append]⟩,
    k.closedAtEnd (not_mem_of_trailingTags ht)⟩

/-- The other links are in front of the one that is exchanged or behind it. -/
theorem cases (h : Exchanged a b r r')
    (hm : m ∈ inlineLocation.occurrences (a ++ (r.text ++ b))) :
    m.start + m.text.length ≤ a.length ∧ m.start < a.length ∨ m = r ∨
      a.length + r.text.length ≤ m.start ∧ Text.utf8Length (a ++ r.text) ≤ m.byteStart := by
  have hms := h.successive
  have hmr := h.start
  rcases Nat.lt_trichotomy m.start r.start with hlt | heq | hlt
  · have := hms.end_le_of_start_lt hm h.mem hlt
    exact Or.inl ⟨by omega, by omega⟩
  · exact Or.inr (Or.inl ((hms.standsIn m hm).unique (hms.standsIn r h.mem) heq))
  · have hle := hms.end_le_of_start_lt h.mem hm hlt
    have hstands : m.StandsIn inlineLocation ((a ++ r.text) ++ b) := by
      rw [List.append_assoc]
      exact hms.standsIn m hm
    exact Or.inr (Or.inr
      ⟨by omega, hstands.utf8Length_le (by rw [List.length_append]; omega)⟩)

theorem length_pos (h : Exchanged a b r r') : 0 < r.text.length := by
  obtain ⟨⟨v, hv⟩, -⟩ := h.bracket_and_closed
  rw [hv, List.length_cons]
  omega

theorem exchange_eq (h : Exchanged a b r r')
    (hm : m ∈ inlineLocation.occurrences (a ++ (r.text ++ b))) :
    m.exchange a r r' =
      if m.start < a.length then m
      else if m = r then r' else m.shift (a ++ r.text) (a ++ r'.text) := by
  have hms := h.successive
  have heq : m.start = a.length ↔ m = r := by
    rw [← h.start]
    exact ⟨(hms.standsIn m hm).unique (hms.standsIn r h.mem), congrArg _⟩
  unfold Match.exchange
  simp only [heq]

theorem mem_exchange (h : Exchanged a b r r')
    (hm : m ∈ inlineLocation.occurrences (a ++ (r.text ++ b))) :
    m.exchange a r r' ∈ inlineLocation.occurrences (a ++ (r'.text ++ b)) := by
  obtain ⟨⟨v, hv⟩, -⟩ := h.bracket_and_closed
  obtain ⟨⟨v', hv'⟩, hclosed⟩ := h.symm.bracket_and_closed
  rw [h.exchange_eq hm]
  rcases h.cases hm with ⟨hle, hlt⟩ | rfl | ⟨hle, -⟩
  · rw [if_pos hlt]
    rw [hv] at hm
    rw [hv']
    exact mem_occurrences_in_front hm hle allows_trailingTags_bracket allows_trailingTags_bracket _
  · rw [if_neg (by rw [h.start]; omega), if_pos rfl]
    exact h.mem'
  · have hne : m ≠ r := by
      rintro rfl
      have := h.start
      have := h.length_pos
      omega
    rw [if_neg (by omega), if_neg hne, ← List.append_assoc]
    rw [← List.append_assoc] at hm
    exact mem_occurrences_behind hm (by rwa [List.length_append]) (hclosed.append_left a)

theorem exchange_exchange (h : Exchanged a b r r')
    (hm : m ∈ inlineLocation.occurrences (a ++ (r.text ++ b))) :
    (m.exchange a r r').exchange a r' r = m := by
  have hpos := h.symm.length_pos
  rcases h.cases hm with ⟨hle, hlt⟩ | rfl | ⟨hle, hbyte⟩
  · unfold Match.exchange
    rw [if_pos hlt, if_pos hlt]
  · have hstart := h.start
    have hstart' := h.start'
    have hlt : ¬a.length < a.length := Nat.lt_irrefl _
    simp only [Match.exchange, hstart, hlt, if_false, if_true, hstart']
  · have hpos' := h.length_pos
    have hshift : m.exchange a r r' = m.shift (a ++ r.text) (a ++ r'.text) := by
      unfold Match.exchange
      rw [if_neg (by omega), if_neg (by omega)]
    rw [hshift]
    unfold Match.exchange Match.shift
    simp only [List.length_append]
    rw [if_neg (by omega), if_neg (by omega)]
    congr 1 <;> omega

/-- **Exchanging one link for another leaves the others as they are.** -/
theorem occurrences_eq (h : Exchanged a b r r') :
    inlineLocation.occurrences (a ++ (r'.text ++ b)) =
      (inlineLocation.occurrences (a ++ (r.text ++ b))).map (·.exchange a r r') := by
  have hms := h.successive
  have hms' := h.symm.successive
  have hordered : ∀ {text : List Char} {ms : List Match}, Successive inlineLocation text 0 ms →
      ms.Pairwise fun m m' => m.start < m'.start := fun hms =>
    hms.pairwise.imp_of_mem fun {m m'} hm _ hle => by
      obtain ⟨_, _, -, -, -, hw, -⟩ := hms.standsIn m hm
      have := List.length_pos_iff.2 (hw.ne_nil rfl)
      omega
  refine (hordered hms').eq_of_mem_iff
    (List.pairwise_map.2 ((hordered hms).imp_of_mem fun {m m'} hm hm' hlt => ?_)) fun m' => ?_
  · have hpos := h.length_pos
    have hpos' := h.symm.length_pos
    have hstart' := h.start'
    have hstart := h.start
    rw [Match.start_exchange, Match.start_exchange]
    rcases h.cases hm with ⟨-, hm⟩ | rfl | ⟨hm, -⟩ <;>
      rcases h.cases hm' with ⟨-, hm'⟩ | rfl | ⟨hm', -⟩ <;> split_ifs <;> omega
  · rw [List.mem_map]
    constructor
    · exact fun hm' => ⟨_, h.symm.mem_exchange hm', h.symm.exchange_exchange hm'⟩
    · rintro ⟨m, hm, rfl⟩
      exact h.mem_exchange hm

end Exchanged

end Gazetteer
