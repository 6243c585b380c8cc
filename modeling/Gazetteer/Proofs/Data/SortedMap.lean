import Gazetteer.Data.SortedMap
import Mathlib.Data.List.Sort

/-!
# Maps by their look-ups

Entries in key order are determined by which entries there are, so maps with the same look-ups are
equal (`SortedMap.ext_get?`) and maps with the same keys list them in the same order
(`SortedMap.keys_congr`).
-/

namespace Gazetteer.SortedMap

universe u v w

variable {κ : Type u} {α : Type v} {β : Type w} [Ord κ] [Std.TransOrd κ] [Std.LawfulEqOrd κ]
  {m : SortedMap κ α}

/-- Maps with the same look-ups are equal. -/
theorem ext_get? {n : SortedMap κ α} (h : ∀ k, m.get? k = n.get? k) : m = n := by
  have hasymm : Std.Asymm fun a b : κ × α => compare a.1 b.1 = .lt :=
    ⟨fun _ _ => Std.OrientedCmp.not_lt_of_lt⟩
  refine ext_entries (m.ordered.eq_of_mem_iff n.ordered fun e => ?_)
  rw [← get?_eq_some_iff, ← get?_eq_some_iff, h]

/-- Maps with the same keys list them in the same order. -/
theorem keys_congr {n : SortedMap κ β} (h : ∀ k, m.contains k = n.contains k) :
    m.keys = n.keys := by
  have hasymm : Std.Asymm fun a b : κ => compare a b = .lt :=
    ⟨fun _ _ => Std.OrientedCmp.not_lt_of_lt⟩
  have hm : m.keys.Pairwise fun a b => compare a b = .lt := List.pairwise_map.2 m.ordered
  have hn : n.keys.Pairwise fun a b => compare a b = .lt := List.pairwise_map.2 n.ordered
  exact hm.eq_of_mem_iff hn fun k => by rw [mem_keys_iff, mem_keys_iff, h]

end Gazetteer.SortedMap
