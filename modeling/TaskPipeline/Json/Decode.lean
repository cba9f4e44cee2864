import TaskPipeline.Json.Number

/-!
# Reading records

A record is read from an object or from an array.  In an object the names of the record's fields may
appear once each, in any order, and other names are ignored.  In an array the values stand in the
order of the fields; values may be missing at the end and none may be left over.  `Fields` holds
what was found, and each field then says whether it may be missing.
-/

namespace TaskPipeline.Json

/-- A way to read a value; `none` if the value has another form. -/
abbrev Decoder (α : Type) := Value → Option α

namespace Decode

/-- A truth value. -/
def bool : Decoder Bool
  | .bool b => some b
  | _ => none

/-- A text. -/
def string : Decoder String
  | .string s => some s
  | _ => none

/-- A natural number below a bound. -/
def nat (bound : Nat) : Decoder Nat
  | .number n => n.nat? bound
  | _ => none

/-- A double; what was written for NaN or an infinity is refused. -/
def double : Decoder Double
  | .number n => n.double?.map .finite
  | _ => none

/-- A value that may be `null`. -/
def option (f : Decoder α) : Decoder (Option α)
  | .null => some none
  | v => (f v).map some

/-- The values of a list, all read the same way. -/
def each (f : Decoder α) : List Value → Option (List α)
  | [] => some []
  | v :: vs => do
    let a ← f v
    let as ← each f vs
    return a :: as

/-- An array whose items are all read the same way. -/
def list (f : Decoder α) : Decoder (List α)
  | .array items => each f items
  | _ => none

/-- The members of a list, their values all read the same way. -/
def eachMember (f : Decoder α) : List (String × Value) → Option (List (String × α))
  | [] => some []
  | (k, v) :: ms => do
    let a ← f v
    let as ← eachMember f ms
    return (k, a) :: as

/-- An object whose values are all read the same way, in the order in which they were written. -/
def members (f : Decoder α) : Decoder (List (String × α))
  | .object ms => eachMember f ms
  | _ => none

/-- One of several names: the name itself, or an object that maps the name to `null`. -/
def name (f : String → Option α) : Decoder α
  | .string s => f s
  | .object [(s, .null)] => f s
  | _ => none

end Decode

/-- The values found for the fields of a record, by name. -/
structure Fields where
  /-- The fields that are present. -/
  found : List (String × Value)

namespace Fields

/-- Keeps the members that are fields; a field that appears twice is refused. -/
def ofMembers? (names : List String) : List (String × Value) → Option (List (String × Value))
  | [] => some []
  | (k, v) :: rest => do
    let found ← ofMembers? names rest
    if names.contains k then
      if found.any (·.1 == k) then none else some ((k, v) :: found)
    else some found

/-- Reads the fields of a record. -/
def ofValue? (names : List String) : Value → Option Fields
  | .object members => (ofMembers? names members).map (⟨·⟩)
  | .array items => if items.length ≤ names.length then some ⟨names.zip items⟩ else none
  | _ => none

/-- The value of a field, if it is present. -/
def get? (fields : Fields) (name : String) : Option Value :=
  (fields.found.find? (·.1 == name)).map (·.2)

/-- A field that must be present. -/
def required (fields : Fields) (name : String) (f : Decoder α) : Option α := fields.get? name >>= f

/-- A field that has a value when it is missing. -/
def defaulted (fields : Fields) (name : String) (f : Decoder α) (default : α) : Option α :=
  match fields.get? name with
  | none => some default
  | some v => f v

end Fields

end TaskPipeline.Json
