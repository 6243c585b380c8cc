import Gazetteer.Display.Rules

/-!
# What decides a property

Laying one styling over another is the same for each of its properties (`Styling.get?_overlay`), and
a styling is no more than its properties (`Styling.ext_get?`). So overlaying is associative, the
empty styling changes nothing, and a sequence of rules gives each property the last value that one
of them sets (`DisplayRules.stylingFor_get?`), whether they are laid over one another one by one or
in groups.
-/

namespace Gazetteer

namespace Styling

/-- The properties of icons and strokes. -/
inductive Property where
  | iconSet
  | icon
  | markerColor
  | shape
  | emoji
  | iconOpacity
  | color
  | weight
  | opacity
  | dashArray
  | fillColor
  | fillOpacity
  deriving DecidableEq, Repr

/-- What the values of a property are. -/
def Property.Value : Property → Type
  | .iconOpacity | .weight | .opacity | .fillOpacity => Float
  | _ => String

/-- The value that a styling sets for a property. -/
def get? (s : Styling) : (p : Property) → Option p.Value
  | .iconSet => s.icon.iconSet
  | .icon => s.icon.icon
  | .markerColor => s.icon.markerColor
  | .shape => s.icon.shape
  | .emoji => s.icon.emoji
  | .iconOpacity => s.icon.opacity
  | .color => s.stroke.color
  | .weight => s.stroke.weight
  | .opacity => s.stroke.opacity
  | .dashArray => s.stroke.dashArray
  | .fillColor => s.stroke.fillColor
  | .fillOpacity => s.stroke.fillOpacity

/-- Some stylings laid over one another, the last one on top. -/
def overlayAll (ss : List Styling) : Styling :=
  ss.foldl overlay empty

variable {p : Property} {r s t : Styling} {ss : List Styling}

/-- Stylings with the same properties are equal. -/
theorem ext_get? (h : ∀ p, s.get? p = t.get? p) : s = t := by
  obtain ⟨⟨_, _, _, _, _, _⟩, ⟨_, _, _, _, _, _⟩⟩ := s
  obtain ⟨⟨_, _, _, _, _, _⟩, ⟨_, _, _, _, _, _⟩⟩ := t
  simp only [mk.injEq, Icon.mk.injEq, Stroke.mk.injEq]
  exact ⟨⟨h .iconSet, h .icon, h .markerColor, h .shape, h .emoji, h .iconOpacity⟩,
    h .color, h .weight, h .opacity, h .dashArray, h .fillColor, h .fillOpacity⟩

theorem get?_empty (p : Property) : empty.get? p = none := by
  cases p <;> rfl

/-- The upper styling decides the properties that it sets. -/
theorem get?_overlay (s t : Styling) (p : Property) :
    (s.overlay t).get? p = (t.get? p).or (s.get? p) := by
  cases p <;> rfl

/-! ## Laws -/

theorem overlay_assoc (r s t : Styling) : (r.overlay s).overlay t = r.overlay (s.overlay t) :=
  ext_get? fun p => by simp only [get?_overlay, Option.or_assoc]

theorem overlay_empty (s : Styling) : s.overlay empty = s :=
  ext_get? fun p => by rw [get?_overlay, get?_empty, Option.none_or]

theorem empty_overlay (s : Styling) : empty.overlay s = s :=
  ext_get? fun p => by rw [get?_overlay, get?_empty, Option.or_none]

/-! ## Sequences -/

/-- Some stylings together are laid over what is below them. -/
theorem foldl_overlay (ss : List Styling) (s : Styling) :
    ss.foldl overlay s = s.overlay (overlayAll ss) := by
  induction ss generalizing s with
  | nil => exact (overlay_empty s).symm
  | cons t ss ih =>
    rw [overlayAll, List.foldl_cons, List.foldl_cons, ih (s.overlay t), ih (empty.overlay t),
      empty_overlay, overlay_assoc]

theorem overlayAll_cons (s : Styling) (ss : List Styling) :
    overlayAll (s :: ss) = s.overlay (overlayAll ss) := by
  rw [overlayAll, List.foldl_cons, empty_overlay, foldl_overlay]

theorem overlayAll_append (ss ts : List Styling) :
    overlayAll (ss ++ ts) = (overlayAll ss).overlay (overlayAll ts) := by
  rw [overlayAll, List.foldl_append, foldl_overlay ts]
  rfl

/-- Stylings may be laid over one another in groups. -/
theorem overlayAll_flatten (groups : List (List Styling)) :
    overlayAll groups.flatten = overlayAll (groups.map overlayAll) := by
  induction groups with
  | nil => rfl
  | cons g groups ih =>
    rw [List.flatten_cons, overlayAll_append, ih, List.map_cons, overlayAll_cons]

/-- The last value that is set counts. -/
theorem get?_overlayAll (ss : List Styling) (p : Property) :
    (overlayAll ss).get? p = ss.reverse.findSome? (·.get? p) := by
  induction ss with
  | nil => exact get?_empty p
  | cons s ss ih =>
    rw [overlayAll_cons, get?_overlay, ih, List.reverse_cons, List.findSome?_append,
      List.findSome?_singleton]

end Styling

/-! ## Icons and strokes -/

section Laws

variable (a b c : Icon) (x y z : Stroke)

theorem Icon.overlay_assoc : (a.overlay b).overlay c = a.overlay (b.overlay c) :=
  congrArg Styling.icon (Styling.overlay_assoc ⟨a, .empty⟩ ⟨b, .empty⟩ ⟨c, .empty⟩)

theorem Icon.overlay_empty : a.overlay .empty = a :=
  congrArg Styling.icon (Styling.overlay_empty ⟨a, .empty⟩)

theorem Icon.empty_overlay : Icon.empty.overlay a = a :=
  congrArg Styling.icon (Styling.empty_overlay ⟨a, .empty⟩)

theorem Stroke.overlay_assoc : (x.overlay y).overlay z = x.overlay (y.overlay z) :=
  congrArg Styling.stroke (Styling.overlay_assoc ⟨.empty, x⟩ ⟨.empty, y⟩ ⟨.empty, z⟩)

theorem Stroke.overlay_empty : x.overlay .empty = x :=
  congrArg Styling.stroke (Styling.overlay_empty ⟨.empty, x⟩)

theorem Stroke.empty_overlay : Stroke.empty.overlay x = x :=
  congrArg Styling.stroke (Styling.empty_overlay ⟨.empty, x⟩)

end Laws

/-! ## Rules -/

namespace DisplayRules

open Styling (Property overlayAll)

/-- A value is the last one that some rules set for a property. -/
def SetsLast (rules : List CompiledRule) (p : Property) (v : p.Value) : Prop :=
  ∃ before r after, rules = before ++ r :: after ∧ r.styling.get? p = some v ∧
    ∀ r' ∈ after, r'.styling.get? p = none

variable {rules : List CompiledRule} {p : Property}

theorem get?_overlayAll_eq_some_iff {v : p.Value} :
    (overlayAll (rules.map (·.styling))).get? p = some v ↔ SetsLast rules p v := by
  rw [Styling.get?_overlayAll, ← List.map_reverse, List.findSome?_map, List.findSome?_eq_some_iff]
  constructor
  · rintro ⟨after, r, before, hrules, hr, hafter⟩
    refine ⟨before.reverse, r, after.reverse, ?_, hr,
      fun r' hr' => hafter r' (List.mem_reverse.1 hr')⟩
    simpa using congrArg List.reverse hrules
  · rintro ⟨before, r, after, rfl, hr, hafter⟩
    exact ⟨after.reverse, r, before.reverse, by simp, hr,
      fun r' hr' => hafter r' (List.mem_reverse.1 hr')⟩

theorem get?_overlayAll_eq_none_iff :
    (overlayAll (rules.map (·.styling))).get? p = none ↔
      ∀ r ∈ rules, r.styling.get? p = none := by
  rw [Styling.get?_overlayAll, ← List.map_reverse, List.findSome?_map, List.findSome?_eq_none_iff]
  simp only [List.mem_reverse]
  rfl

/-- **The last rule that sets a property decides it.** The presets count first and then the other
rules that match the layer, each in their order; a property that none of them sets is left open.
Icons and strokes are laid over one another associatively, and the empty ones change nothing, so
rules may be put together in groups first. -/
theorem stylingFor_get? (rs : DisplayRules) (notes : Notes) (l : Layer) :
    let counting := rs.rules.filter (·.preset) ++
      rs.rules.filter fun r => !r.preset && r.query.isMatch notes l
    (∀ p v, (rs.stylingFor notes l).get? p = some v ↔ SetsLast counting p v) ∧
      (∀ p, (rs.stylingFor notes l).get? p = none ↔ ∀ r ∈ counting, r.styling.get? p = none) ∧
      (∀ s t : Styling, (∀ p, s.get? p = t.get? p) → s = t) ∧
      (∀ a b c : Icon, (a.overlay b).overlay c = a.overlay (b.overlay c)) ∧
      (∀ a : Icon, a.overlay .empty = a ∧ Icon.empty.overlay a = a) ∧
      (∀ x y z : Stroke, (x.overlay y).overlay z = x.overlay (y.overlay z)) ∧
      (∀ x : Stroke, x.overlay .empty = x ∧ Stroke.empty.overlay x = x) ∧
      ∀ groups : List (List Styling), groups.flatten = counting.map (·.styling) →
        overlayAll (groups.map overlayAll) = rs.stylingFor notes l := by
  intro counting
  have hstyling : rs.stylingFor notes l = overlayAll (counting.map (·.styling)) := rfl
  rw [hstyling]
  refine ⟨fun p v => get?_overlayAll_eq_some_iff, fun p => get?_overlayAll_eq_none_iff,
    fun s t => Styling.ext_get?, Icon.overlay_assoc, fun a => ⟨a.overlay_empty, a.empty_overlay⟩,
    Stroke.overlay_assoc, fun x => ⟨x.overlay_empty, x.empty_overlay⟩, fun groups hgroups => ?_⟩
  rw [← Styling.overlayAll_flatten, hgroups]

/-- A preset gives way to a rule in front of it. -/
example (notes : Notes) (l : Layer) :
    stylingFor ⟨[⟨.all, false, ⟨.empty, { color := some "red" }⟩⟩,
      ⟨.all, true, ⟨.empty, { color := some "blue", dashArray := some "4" }⟩⟩]⟩ notes l =
        ⟨.empty, { color := some "red", dashArray := some "4" }⟩ :=
  rfl

end DisplayRules

end Gazetteer
