import TaskPipeline.Catalog
import TaskPipeline.Number.Shortest
import TaskPipeline.Time.Printer

/-!
# Tags

A task carries named values: texts, places and times.  `Tags` holds them by name.
-/

namespace TaskPipeline

/-- A place on the globe. -/
structure GeoLocation where
  /-- Degrees north. -/
  latitude : Double
  /-- Degrees east. -/
  longitude : Double
  /-- A postal address, or nothing. -/
  address : String
deriving DecidableEq

/-- Whether two places are the same; the coordinates are compared as numbers. -/
def GeoLocation.same (place other : GeoLocation) : Bool :=
  place.latitude.same other.latitude && place.longitude.same other.longitude &&
    place.address == other.address

/-- The value of a tag. -/
inductive TagValue where
  /-- A text. -/
  | text (s : String)
  /-- A place. -/
  | location (place : GeoLocation)
  /-- A time. -/
  | time (t : Instant)
deriving DecidableEq

namespace TagValue

/-- The name of the kind of value. -/
def kind : TagValue → String
  | text _ => "text"
  | location _ => "location"
  | time _ => "time"

/-- The value as the user is shown it. -/
def display : TagValue → String
  | text s => s
  | location ⟨latitude, longitude, address⟩ =>
    let position := latitude.plainText ++ "," ++ longitude.plainText
    if address = "" then position else address ++ " (" ++ position ++ ")"
  | time t => t.offsetText

/-- Whether two values are the same; places are compared by `GeoLocation.same`. -/
def same : TagValue → TagValue → Bool
  | location place, location other => place.same other
  | v, w => v == w

end TagValue

/-- A named value. -/
structure Tag where
  /-- The name. -/
  key : String
  /-- The value. -/
  value : TagValue
deriving DecidableEq

instance : Keyed Tag := ⟨Tag.key⟩

/-- The tags of a task, by name. -/
abbrev Tags := Catalog Tag

/-- Adds other tags; where both sides have a name, `overwrite` lets the added tag win. -/
def Tags.merge (tags added : Tags) (overwrite : Bool) : Tags :=
  added.toList.foldl
    (fun tags tag => if overwrite || !tags.contains tag.key then tags.insert tag else tags) tags

/-- Whether two tasks' tags are the same: the same names, and for each name the same value.  Tags with
a coordinate that is NaN are not the same as themselves. -/
def Tags.same (tags other : Tags) : Bool :=
  tags.size == other.size &&
    (tags.toList.zip other.toList).all fun (tag, tag') =>
      tag.key == tag'.key && tag.value.same tag'.value

end TaskPipeline
