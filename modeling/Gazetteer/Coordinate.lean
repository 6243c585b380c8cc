import Gazetteer.Error
import Gazetteer.Json.Writer
import Gazetteer.Number.Reading
import Gazetteer.Number.Style
import Gazetteer.Pattern.Note

/-!
# Coordinates

A place on earth as latitude and longitude in degrees. `LatLng.check` accepts exactly the places
with a latitude in `[-90, 90]` and a longitude in `[-180, 180]` (`LatLng.IsPlace`); every way to
read a place from text ends with it.
-/

namespace Gazetteer

/-- A latitude and a longitude in degrees. -/
structure LatLng where
  lat : Float
  lng : Float
  deriving Repr, Inhabited

namespace LatLng

/-! ## Checking -/

/-- Why something is no place. -/
inductive Fault where
  /-- One half of a coordinate is no number. -/
  | notANumber (half text : String) (reason : Number.ReadFault)
  /-- One half of a coordinate is infinite or not a number. -/
  | halfNotFinite (half text : String)
  /-- A coordinate is infinite or not a number. -/
  | notFinite (place : String)
  | latitudeOutOfRange (lat : String)
  | longitudeOutOfRange (lng : String)
  /-- A text does not have the form of a coordinate. -/
  | notACoordinate (text : String)
  /-- A front matter value does not have the form of a coordinate. -/
  | notAPlaceValue (value : String)
  deriving DecidableEq, Repr

def Fault.message : Fault → String
  | .notANumber half text reason => s!"{half} '{text}' is not a number: {reason.message}"
  | .halfNotFinite half text => s!"{half} '{text}' is not finite"
  | .notFinite place => s!"{place} is not a finite coordinate"
  | .latitudeOutOfRange lat => s!"Latitude {lat} is out of range [-90, 90]"
  | .longitudeOutOfRange lng => s!"Longitude {lng} is out of range [-180, 180]"
  | .notACoordinate text => s!"'{text}' is not a 'lat,lng' coordinate"
  | .notAPlaceValue value => s!"unsupported front matter location {value}"

def Fault.toError (f : Fault) : Error :=
  .invalidLocation f.message

protected def toString (p : LatLng) : String :=
  s!"{Number.showPlain p.lat},{Number.showPlain p.lng}"

instance : ToString LatLng := ⟨LatLng.toString⟩

/-- The text that stands for the place in ids and comparisons. -/
def toIdString (p : LatLng) : String :=
  Number.showPlain p.lat ++ Number.showPlain p.lng

def isLatitude (x : Float) : Bool :=
  decide (-90.0 ≤ x) && decide (x ≤ 90.0)

/-- A longitude within half a turn of the prime meridian. -/
def isLongitude (x : Float) : Bool :=
  decide (-180.0 ≤ x) && decide (x ≤ 180.0)

def IsPlace (p : LatLng) : Prop :=
  p.lat.isFinite = true ∧ p.lng.isFinite = true ∧ isLatitude p.lat = true ∧ isLongitude p.lng = true

instance (p : LatLng) : Decidable p.IsPlace :=
  inferInstanceAs (Decidable (_ ∧ _ ∧ _ ∧ _))

def check (p : LatLng) : Except Fault LatLng :=
  if !p.lat.isFinite || !p.lng.isFinite then .error (.notFinite p.toString)
  else if !isLatitude p.lat then .error (.latitudeOutOfRange (Number.showPlain p.lat))
  else if !isLongitude p.lng then .error (.longitudeOutOfRange (Number.showPlain p.lng))
  else .ok p

/-- A check accepts the places on earth, each as it is. -/
theorem check_eq_ok_iff {p q : LatLng} : p.check = .ok q ↔ q = p ∧ p.IsPlace := by
  unfold check IsPlace
  cases p.lat.isFinite <;> cases p.lng.isFinite <;> cases isLatitude p.lat <;>
    cases isLongitude p.lng <;> simp [eq_comm]

/-! ## Reading -/

/-- Read one half of a coordinate. A plus sign in front is passed over. -/
def readHalf (half : String) (cs : List Char) : Except Fault Float :=
  match Number.read ((Unicode.trim cs).dropWhile (· == '+')) with
  | .error reason => .error (.notANumber half (String.ofList cs) reason)
  | .ok x => if x.isFinite then .ok x else .error (.halfNotFinite half (String.ofList cs))

/-- Read a place from its two halves. -/
def read (lat lng : List Char) : Except Fault LatLng := do
  let lat ← readHalf "latitude" lat
  let lng ← readHalf "longitude" lng
  check ⟨lat, lng⟩

/-- Read a place from a text of the form `lat,lng`. -/
def readText (s : String) : Except Fault LatLng :=
  match Pattern.coordinateString.find? s.toList with
  | some m => read (m.group "lat") (m.group "lng")
  | none => .error (.notACoordinate s)

/-! ## Front matter -/

/-- The number a front matter value stands for. -/
def numberOf : Json → Option Float
  | .int n => some (Number.nearest (decide (n < 0)) n.natAbs 1)
  | .num x => some x
  | .str s => (Number.read (Unicode.trim s.toList)).toOption
  | _ => none

/-- The place a front matter value stands for: two numbers, or a text of the form `lat,lng`, which
may stand alone in a list. -/
def ofValue (value : Json) : Except Fault LatLng :=
  match value with
  | .arr [a, b] =>
    match numberOf a, numberOf b with
    | some lat, some lng => check ⟨lat, lng⟩
    | _, _ => .error (.notAPlaceValue value.write)
  | .arr [.str s] => readText s
  | .str s => readText s
  | _ => .error (.notAPlaceValue value.write)

/-- The place that a front matter holds under a key. A value that is no place counts as none. -/
def ofFrontMatter (frontMatter : Json) (key : String) : Option LatLng :=
  (frontMatter.field? key).bind fun value => (ofValue value).toOption

end LatLng

end Gazetteer
