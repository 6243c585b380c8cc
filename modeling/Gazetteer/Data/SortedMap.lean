/-!
# Maps in key order

A finite map is the list of its entries in increasing key order, so listing a map needs no sorting.
The operations on entry lists come first; `SortedMap` packages a list with the proof of its order.
Each operation is described by what it does to look-ups: `get?_insert`, `get?_erase`, `get?_filter`.
So are the lists of keys and values: `mem_keys_iff`, `mem_values_iff`.
-/

namespace Gazetteer

universe u v

/-! ## Entry lists -/

namespace Entries

variable {κ : Type u} {α : Type v} [Ord κ]

/-- The entries are in strictly increasing key order. -/
def Ordered (es : List (κ × α)) : Prop :=
  es.Pairwise fun a b => compare a.1 b.1 = .lt

def get? (k : κ) : List (κ × α) → Option α
  | [] => none
  | (k', a) :: es =>
    match compare k k' with
    | .eq => some a
    | _ => get? k es

/-- Set the value of a key, at the key's place in the order. -/
def insert (k : κ) (a : α) : List (κ × α) → List (κ × α)
  | [] => [(k, a)]
  | (k', a') :: es =>
    match compare k k' with
    | .lt => (k, a) :: (k', a') :: es
    | .eq => (k, a) :: es
    | .gt => (k', a') :: insert k a es

def erase (k : κ) : List (κ × α) → List (κ × α)
  | [] => []
  | (k', a') :: es =>
    match compare k k' with
    | .eq => es
    | _ => (k', a') :: erase k es

variable {k k' : κ} {a : α} {es : List (κ × α)}

theorem mem_insert {e : κ × α} (h : e ∈ insert k a es) : e = (k, a) ∨ e ∈ es := by
  induction es with
  | nil => simpa [insert] using h
  | cons x es ih =>
    simp only [insert] at h
    split at h
    · simpa using h
    · rcases List.mem_cons.1 h with h | h
      · exact Or.inl h
      · exact Or.inr (List.mem_cons_of_mem _ h)
    · rcases List.mem_cons.1 h with h | h
      · exact Or.inr (h ▸ List.mem_cons_self)
      · exact (ih h).imp id (List.mem_cons_of_mem _)

theorem erase_sublist (k : κ) (es : List (κ × α)) : (erase k es).Sublist es := by
  induction es with
  | nil => exact .slnil
  | cons x es ih =>
    simp only [erase]
    split
    · exact List.sublist_cons_self ..
    · exact ih.cons_cons _

theorem Ordered.erase (h : Ordered es) (k : κ) : Ordered (erase k es) :=
  List.Pairwise.sublist (erase_sublist k es) h

theorem get?_eq_none_of_lt (h : ∀ e ∈ es, compare k e.1 = .lt) : get? k es = none := by
  induction es with
  | nil => rfl
  | cons x es ih =>
    simp only [get?, h x List.mem_cons_self]
    exact ih fun e he => h e (List.mem_cons_of_mem _ he)

section Order

variable [Std.TransOrd κ]

theorem Ordered.insert (h : Ordered es) (k : κ) (a : α) : Ordered (Entries.insert k a es) := by
  induction es with
  | nil => exact List.pairwise_singleton ..
  | cons x es ih =>
    obtain ⟨k', a'⟩ := x
    have hx := List.pairwise_cons.1 h
    simp only [Entries.insert]
    split
    · rename_i hc
      refine List.pairwise_cons.2 ⟨fun e he => ?_, h⟩
      rcases List.mem_cons.1 he with rfl | he
      · exact hc
      · exact Std.TransCmp.lt_trans hc (hx.1 e he)
    · rename_i hc
      exact List.pairwise_cons.2
        ⟨fun e he => Std.TransCmp.lt_of_eq_of_lt hc (hx.1 e he), hx.2⟩
    · rename_i hc
      refine List.pairwise_cons.2 ⟨fun e he => ?_, ih hx.2⟩
      rcases mem_insert he with rfl | he
      · exact Std.OrientedCmp.lt_of_gt hc
      · exact hx.1 e he

end Order

variable [Std.LawfulEqOrd κ]

theorem get?_insert (k k' : κ) (a : α) (es : List (κ × α)) :
    get? k' (insert k a es) = if compare k' k = .eq then some a else get? k' es := by
  induction es with
  | nil => cases hk : compare k' k <;> simp [insert, get?, hk]
  | cons x es ih =>
    obtain ⟨k₁, a₁⟩ := x
    simp only [insert]
    split
    · cases hk : compare k' k <;> simp [get?, hk]
    · rename_i hc
      rw [Std.LawfulEqOrd.eq_of_compare hc]
      cases hk : compare k' k₁ <;> simp [get?, hk]
    · rename_i hc
      by_cases hk : compare k' k = .eq
      · have he := Std.LawfulEqOrd.eq_of_compare hk
        subst he
        simp only [get?, hc, ih, Std.ReflOrd.compare_self, if_true]
      · simp only [get?, ih, if_neg hk]

theorem get?_eq_some_iff (h : Ordered es) : get? k es = some a ↔ (k, a) ∈ es := by
  induction es with
  | nil => simp [get?]
  | cons x es ih =>
    obtain ⟨k₁, a₁⟩ := x
    have hx := List.pairwise_cons.1 h
    simp only [get?]
    split
    · rename_i hc
      have he := Std.LawfulEqOrd.eq_of_compare hc
      subst he
      simp only [Option.some.injEq, List.mem_cons, Prod.mk.injEq, true_and]
      refine ⟨fun h => Or.inl h.symm, ?_⟩
      rintro (h | h)
      · exact h.symm
      · have := hx.1 _ h
        simp [Std.ReflOrd.compare_self] at this
    · rename_i hc
      rw [ih hx.2, List.mem_cons]
      refine ⟨Or.inr, ?_⟩
      rintro (h | h)
      · simp only [Prod.mk.injEq] at h
        obtain ⟨rfl, rfl⟩ := h
        exact absurd Std.ReflOrd.compare_self hc
      · exact h

theorem get?_erase (h : Ordered es) (k k' : κ) :
    get? k' (Entries.erase k es) = if compare k' k = .eq then none else get? k' es := by
  induction es with
  | nil => cases hk : compare k' k <;> simp [Entries.erase, get?]
  | cons x es ih =>
    obtain ⟨k₁, a₁⟩ := x
    have hx := List.pairwise_cons.1 h
    simp only [Entries.erase]
    split
    · rename_i hc
      have he := Std.LawfulEqOrd.eq_of_compare hc
      subst he
      by_cases hk : compare k' k = .eq
      · have he := Std.LawfulEqOrd.eq_of_compare hk
        subst he
        rw [if_pos hk]
        exact get?_eq_none_of_lt hx.1
      · cases hk' : compare k' k <;> simp_all [get?]
    · rename_i hc
      by_cases hk : compare k' k = .eq
      · have he := Std.LawfulEqOrd.eq_of_compare hk
        subst he
        rw [if_pos hk]
        have hr := ih hx.2
        rw [if_pos hk] at hr
        cases hk₁ : compare k' k₁ with
        | eq => exact absurd hk₁ hc
        | lt => simp [get?, hk₁, hr]
        | gt => simp [get?, hk₁, hr]
      · have hr := ih hx.2
        rw [if_neg hk] at hr ⊢
        simp only [get?, hr]

end Entries

/-! ## Maps -/

/-- A finite map, as the list of its entries in key order. -/
structure SortedMap (κ : Type u) (α : Type v) [Ord κ] where
  entries : List (κ × α)
  ordered : Entries.Ordered entries

namespace SortedMap

variable {κ : Type u} {α : Type v} [Ord κ]

def empty : SortedMap κ α := ⟨[], List.Pairwise.nil⟩

instance : Inhabited (SortedMap κ α) := ⟨empty⟩

theorem ext_entries {m n : SortedMap κ α} (h : m.entries = n.entries) : m = n := by
  cases m
  cases n
  cases h
  rfl

def get? (m : SortedMap κ α) (k : κ) : Option α :=
  Entries.get? k m.entries

def contains (m : SortedMap κ α) (k : κ) : Bool :=
  (m.get? k).isSome

def keys (m : SortedMap κ α) : List κ :=
  m.entries.map Prod.fst

def values (m : SortedMap κ α) : List α :=
  m.entries.map Prod.snd

def size (m : SortedMap κ α) : Nat :=
  m.entries.length

def erase (m : SortedMap κ α) (k : κ) : SortedMap κ α :=
  ⟨Entries.erase k m.entries, m.ordered.erase k⟩

def filter (p : κ → α → Bool) (m : SortedMap κ α) : SortedMap κ α :=
  ⟨m.entries.filter fun e => p e.1 e.2, List.Pairwise.sublist List.filter_sublist m.ordered⟩

@[simp] theorem get?_empty (k : κ) : (empty : SortedMap κ α).get? k = none := rfl

variable {m n : SortedMap κ α} {k k' : κ} {a : α}

theorem contains_iff : m.contains k = true ↔ ∃ a, m.get? k = some a :=
  Option.isSome_iff_exists

theorem keys_filter (q : κ → Bool) (m : SortedMap κ α) :
    (m.filter fun k _ => q k).keys = m.keys.filter q := by
  rw [keys, keys, List.filter_map]
  rfl

variable [Std.LawfulEqOrd κ]

theorem get?_eq_some_iff : m.get? k = some a ↔ (k, a) ∈ m.entries :=
  Entries.get?_eq_some_iff m.ordered

theorem get?_erase [DecidableEq κ] :
    (m.erase k).get? k' = if k' = k then none else m.get? k' := by
  rw [get?, erase, Entries.get?_erase m.ordered]
  by_cases h : k' = k
  · rw [if_pos h, if_pos (h ▸ Std.ReflOrd.compare_self)]
  · rw [if_neg h, if_neg fun hc => h (Std.LawfulEqOrd.eq_of_compare hc)]
    rfl

theorem get?_filter (p : κ → α → Bool) :
    (m.filter p).get? k = (m.get? k).filter (p k) := by
  apply Option.ext
  intro a
  rw [get?_eq_some_iff, filter, List.mem_filter, ← get?_eq_some_iff, Option.filter_eq_some_iff]

theorem mem_keys_iff : k ∈ m.keys ↔ m.contains k = true := by
  simp only [keys, List.mem_map, contains_iff, get?_eq_some_iff, Prod.exists, exists_and_right,
    exists_eq_right]

theorem mem_values_iff : a ∈ m.values ↔ ∃ k, m.get? k = some a := by
  simp only [values, List.mem_map, get?_eq_some_iff, Prod.exists, exists_eq_right]

theorem nodup_keys (m : SortedMap κ α) : m.keys.Nodup := by
  refine List.pairwise_map.2 (m.ordered.imp fun {a b} hab he => ?_)
  rw [he, Std.ReflOrd.compare_self] at hab
  cases hab

variable [Std.TransOrd κ]

def insert (m : SortedMap κ α) (k : κ) (a : α) : SortedMap κ α :=
  ⟨Entries.insert k a m.entries, m.ordered.insert k a⟩

/-- Insert entries one after the other; of two with the same key the later one stays. -/
def insertAll (m : SortedMap κ α) (es : List (κ × α)) : SortedMap κ α :=
  es.foldl (fun m e => m.insert e.1 e.2) m

/-- The map with the given entries; of two with the same key the later one stays. -/
def ofList (es : List (κ × α)) : SortedMap κ α :=
  empty.insertAll es

theorem get?_insert [DecidableEq κ] :
    (m.insert k a).get? k' = if k' = k then some a else m.get? k' := by
  rw [get?, insert, Entries.get?_insert]
  by_cases h : k' = k
  · rw [if_pos h, if_pos (h ▸ Std.ReflOrd.compare_self)]
  · rw [if_neg h, if_neg fun hc => h (Std.LawfulEqOrd.eq_of_compare hc)]
    rfl

end SortedMap

end Gazetteer
