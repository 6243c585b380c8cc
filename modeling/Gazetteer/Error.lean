/-!
# Errors

What callers of the library are told when an operation fails: which kind of thing went wrong, and a
text that says what. Each module has its own type of causes and words them; here they become one
type, with the wording of the kind in front.
-/

namespace Gazetteer

inductive Error where
  /-- The settings cannot be used. -/
  | config (text : String)
  /-- The operation makes no sense for its subject. -/
  | custom (text : String)
  /-- A text is no geometry document, or one with impossible positions. -/
  | geometry (text : String)
  /-- A place is no place on earth. -/
  | invalidLocation (text : String)
  /-- The files could not be read or written. -/
  | io (text : String)
  /-- Something that was asked for does not exist. -/
  | notFound (text : String)
  /-- The files may not be read or written. -/
  | permissionDenied
  /-- A text is no query. -/
  | query (text : String)
  /-- A text does not hold the data that was expected. -/
  | serialization (text : String)
  /-- A prepared update came too late: a newer one was prepared since. -/
  | staleUpdate (got current : Nat)
  deriving DecidableEq, Repr

namespace Error

def message : Error → String
  | .config text => s!"Configuration error: {text}"
  | .custom text => s!"Custom error: {text}"
  | .geometry text => s!"Invalid geometry: {text}"
  | .invalidLocation text => s!"Invalid location: {text}"
  | .io text => s!"File System error: {text}"
  | .notFound text => s!"Item Not Found: {text}"
  | .permissionDenied => "You do not have permission to access this resource"
  | .query text => s!"Query error: {text}"
  | .serialization text => s!"(De)Serialization error: {text}"
  | .staleUpdate got current => s!"Update generation {got} superseded by generation {current}"

/-- The name of the kind of an error. -/
def kind : Error → String
  | .config _ => "Config"
  | .custom _ => "Custom"
  | .geometry _ => "Geometry"
  | .invalidLocation _ => "InvalidLocation"
  | .io _ => "Io"
  | .notFound _ => "NotFound"
  | .permissionDenied => "PermissionDenied"
  | .query _ => "Query"
  | .serialization _ => "Serialization"
  | .staleUpdate _ _ => "StaleUpdate"

/-- What there is to say about an error beside its kind. -/
def text? : Error → Option String
  | .config text | .custom text | .geometry text | .invalidLocation text | .io text
  | .notFound text | .query text | .serialization text => some text
  | .permissionDenied | .staleUpdate _ _ => none

def isQueryError : Error → Bool
  | .query _ => true
  | _ => false

end Error

/-- A sequence of two steps succeeds if both of them do. -/
theorem exists_of_bind_eq_ok {ε α β : Type} {m : Except ε α} {f : α → Except ε β} {b : β}
    (h : m >>= f = .ok b) : ∃ a, m = .ok a ∧ f a = .ok b := by
  cases m with
  | error e => cases h
  | ok a => exact ⟨a, rfl, h⟩

theorem bind_of_eq_ok {ε α β : Type} {m : Except ε α} {f : α → Except ε β} {a : α}
    (h : m = .ok a) : m >>= f = f a := by
  rw [h]
  rfl

theorem toOption_bind {ε α β : Type} (m : Except ε α) (f : α → Except ε β) :
    (m >>= f).toOption = m.toOption.bind fun a => (f a).toOption := by
  cases m <;> rfl

/-- A step for each element of a list succeeds if it does for every one. -/
theorem forM_eq_ok_iff {ε α : Type} {f : α → Except ε Unit} {as : List α} :
    as.forM f = .ok () ↔ ∀ a ∈ as, f a = .ok () := by
  induction as with
  | nil => simp [pure, Except.pure]
  | cons a as ih =>
    rw [List.forall_mem_cons, ← ih]
    constructor
    · intro h
      obtain ⟨⟨⟩, ha, has⟩ := exists_of_bind_eq_ok h
      exact ⟨ha, has⟩
    · rintro ⟨ha, has⟩
      exact (bind_of_eq_ok ha).trans has

/-- A result with some property is a success. -/
theorem exists_of_any_toOption {ε α : Type} {m : Except ε α} {q : α → Bool}
    (h : m.toOption.any q = true) : ∃ a, m = .ok a ∧ q a = true := by
  cases m with
  | error e => cases h
  | ok a => exact ⟨a, rfl, h⟩

end Gazetteer
