import Gazetteer.Proofs.Pattern.Outcomes

/-!
# What groups hold

Wherever a pattern matches, also if it asks where the text starts or ends, a group of the match
holds nothing but characters that the group allows (`groupAllows_of_find?`).
-/

namespace Gazetteer.Pattern

variable {p q : Pattern} {c c' : Cursor} {o o' : Outcome} {m : Match} {name : String} {x : Char}

/-- Whether a pattern allows a character in what a group with a name matches. -/
def groupAllows : Pattern → String → Char → Bool
  | .seq p q, name, x | .alt p q, name, x => groupAllows p name x || groupAllows q name x
  | .star _ p, name, x => groupAllows p name x
  | .group own p, name, x => (own == name && p.allows x) || groupAllows p name x
  | _, _, _ => false

namespace Outcome

/-- What is matched consists of characters that the pattern allows, and so does each group. -/
structure AllowedBy (o : Outcome) (p : Pattern) : Prop where
  text : ∀ x ∈ o.text, p.allows x = true
  groups : ∀ g ∈ o.groups, ∀ x ∈ g.2, p.groupAllows g.1 x = true

theorem AllowedBy.stay (p : Pattern) (s : List Char) : (stay s).AllowedBy p where
  text := by simp [Outcome.stay]
  groups := by simp [Outcome.stay]

theorem AllowedBy.andThen (h : o.AllowedBy p) (h' : o'.AllowedBy p) : (o.andThen o').AllowedBy p :=
  ⟨fun x hx => (List.mem_append.1 hx).elim (h.text x) (h'.text x),
    fun g hg => (List.mem_append.1 hg).elim (h'.groups g) (h.groups g)⟩

theorem AllowedBy.group (h : o.AllowedBy p) (name : String) :
    { o with groups := (name, o.text) :: o.groups : Outcome }.AllowedBy (.group name p) where
  text := h.text
  groups := by
    refine List.forall_mem_cons.2 ⟨fun x hx => ?_, fun g hg x hx => ?_⟩
    · simp [groupAllows, h.text x hx]
    · simp [groupAllows, h.groups g hg x hx]

/-- A pattern that allows more. -/
theorem AllowedBy.mono (h : o.AllowedBy p) (hallows : ∀ x, p.allows x = true → q.allows x = true)
    (hgroups : ∀ name x, p.groupAllows name x = true → q.groupAllows name x = true) :
    o.AllowedBy q :=
  ⟨fun x hx => hallows x (h.text x hx), fun g hg x hx => hgroups g.1 x (h.groups g hg x hx)⟩

end Outcome

/-- Every way to match a pattern comes to an outcome that the pattern allows. -/
theorem exists_reaches_of_mem_ways (h : c' ∈ p.ways c) :
    ∃ o, c.Reaches c' o ∧ o.AllowedBy p := by
  induction p generalizing c c' with
  | empty =>
    rw [List.mem_singleton.1 h]
    exact ⟨_, .refl c, .stay _ _⟩
  | char test =>
    obtain ⟨x, rest, hrest, hx, rfl⟩ := mem_ways_char_iff.1 h
    refine ⟨⟨[x], rest, []⟩, ⟨⟨by simp, rfl, hrest⟩, rfl, [], rfl, by simp, rfl⟩, ?_, by simp⟩
    simpa [allows] using hx
  | seq p q ihp ihq =>
    obtain ⟨c₁, hc₁, hc'⟩ := List.mem_flatMap.1 h
    obtain ⟨o, hreach, ho⟩ := ihp hc₁
    obtain ⟨o', hreach', ho'⟩ := ihq hc'
    refine ⟨o.andThen o', hreach.trans hreach', .andThen (ho.mono ?_ ?_) (ho'.mono ?_ ?_)⟩ <;>
      simp +contextual [allows, groupAllows]
  | alt p q ihp ihq =>
    rcases List.mem_append.1 h with h | h
    · obtain ⟨o, hreach, ho⟩ := ihp h
      refine ⟨o, hreach, ho.mono ?_ ?_⟩ <;> simp +contextual [allows, groupAllows]
    · obtain ⟨o, hreach, ho⟩ := ihq h
      refine ⟨o, hreach, ho.mono ?_ ?_⟩ <;> simp +contextual [allows, groupAllows]
  | star lazily p ih =>
    refine mem_ways_star_induction
      (R := fun c c' => ∃ o, c.Reaches c' o ∧ o.AllowedBy (.star lazily p))
      (fun c => ⟨_, .refl c, .stay _ _⟩) (fun hc₁ _ hmore => ?_) h
    obtain ⟨o, hreach, ho⟩ := ih hc₁
    obtain ⟨o', hreach', ho'⟩ := hmore
    exact ⟨o.andThen o', hreach.trans hreach', .andThen ⟨ho.text, ho.groups⟩ ho'⟩
  | group name p ih =>
    obtain ⟨c₁, hc₁, rfl⟩ := List.mem_map.1 h
    obtain ⟨o, hreach, ho⟩ := ih hc₁
    exact ⟨_, hreach.group name, ho.group name⟩
  | atStart =>
    obtain ⟨-, rfl⟩ := mem_ways_atStart_iff.1 h
    exact ⟨_, .refl c', .stay _ _⟩
  | atEnd =>
    obtain ⟨-, rfl⟩ := mem_ways_atEnd_iff.1 h
    exact ⟨_, .refl c', .stay _ _⟩

theorem groupAllows_of_matchAt (h : p.matchAt c = some m) (hx : x ∈ m.group name) :
    p.groupAllows name x = true := by
  rw [matchAt_eq] at h
  obtain ⟨c', hc', rfl⟩ := Option.map_eq_some_iff.1 h
  obtain ⟨o, hreach, ho⟩ := exists_reaches_of_mem_ways (List.mem_of_mem_head? hc')
  obtain ⟨parts, hparts, -, hgroups⟩ := hreach.parts
  rw [List.append_nil] at hparts
  rw [Match.group, Match.group?, hparts, hgroups] at hx
  cases hfind : o.groups.find? (·.1 == name) with
  | none => simp [hfind] at hx
  | some g =>
    rw [hfind] at hx
    have hname : g.1 = name := by simpa using List.find?_some hfind
    exact hname ▸ ho.groups g (List.mem_of_find?_eq_some hfind) x hx

/-- **A group of a match holds characters that the group allows.** -/
theorem groupAllows_of_find? {text : List Char} (h : p.find? text = some m)
    (hx : x ∈ m.group name) : p.groupAllows name x = true := by
  unfold find? at h
  generalize ([] : List Char) = before at h
  generalize 0 = pos at h
  induction text generalizing before pos with
  | nil => cases h
  | cons y text ih =>
    rw [findFrom] at h
    split at h
    · rename_i m' hmatch
      obtain rfl := Option.some.inj h
      exact groupAllows_of_matchAt hmatch hx
    · exact ih _ _ h

end Gazetteer.Pattern
