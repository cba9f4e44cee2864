import TaskPipeline.Json.Token

/-!
# Reading JSON

`Json.read?` reads a text as one JSON value.  `Builder.step?` takes one token at a time; the arrays
and objects that are still open wait on a stack, so values may be nested to any depth.
-/

namespace TaskPipeline.Json

/-- An array or object that is still open. -/
inductive Frame where
  /-- An array and its items so far, last first. -/
  | array (items : List Value)
  /-- An object, its members so far, last first, and the name of the value under way.  `sound` says
  whether every member name has a value as text. -/
  | object (members : List (String × Value)) (sound : Bool) (name : String)

/-- What may come next. -/
inductive Builder where
  /-- A value; `fresh` says that a closing bracket may stand here instead. -/
  | value (stack : List Frame) (fresh : Bool)
  /-- A member name; `fresh` says that a closing brace may stand here instead. -/
  | name (stack : List Frame) (members : List (String × Value)) (sound fresh : Bool)
  /-- The colon after a member name. -/
  | colon (stack : List Frame) (members : List (String × Value)) (sound : Bool) (name : String)
  /-- A comma or the end of the innermost open array or object. -/
  | next (stack : List Frame) (value : Value)

/-- The object with these members, last first. -/
def closeObject (members : List (String × Value)) (sound : Bool) : Value :=
  if sound then .object members.reverse else .garbled

/-- Takes one token. -/
def Builder.step? : Builder → Token → Option Builder
  | .value stack _, .null => some (.next stack .null)
  | .value stack _, .bool b => some (.next stack (.bool b))
  | .value stack _, .number n => some (.next stack (.number n))
  | .value stack _, .text (some s) => some (.next stack (.string s))
  | .value stack _, .text none => some (.next stack .garbled)
  | .value stack _, .openArray => some (.value (.array [] :: stack) true)
  | .value stack _, .openObject => some (.name stack [] true true)
  | .value (.array items :: stack) true, .closeArray => some (.next stack (.array items.reverse))
  | .name stack members sound _, .text (some s) => some (.colon stack members sound s)
  | .name stack members _ _, .text none => some (.colon stack members false "")
  | .name stack members sound true, .closeObject => some (.next stack (closeObject members sound))
  | .colon stack members sound s, .colon => some (.value (.object members sound s :: stack) false)
  | .next (.array items :: stack) v, .comma => some (.value (.array (v :: items) :: stack) false)
  | .next (.array items :: stack) v, .closeArray =>
    some (.next stack (.array (v :: items).reverse))
  | .next (.object members sound s :: stack) v, .comma =>
    some (.name stack ((s, v) :: members) sound false)
  | .next (.object members sound s :: stack) v, .closeObject =>
    some (.next stack (closeObject ((s, v) :: members) sound))
  | _, _ => none

/-- Takes tokens one after the other. -/
def Builder.run? : Builder → List Token → Option Builder
  | b, [] => some b
  | b, t :: ts => (b.step? t).bind (·.run? ts)

/-- The value, if it is complete and nothing is open. -/
def Builder.result? : Builder → Option Value
  | .next [] v => some v
  | _ => none

/-- Reads a text as one JSON value. -/
def read? (s : String) : Option Value := do
  let ts ← tokens? s
  let b ← (Builder.value [] false).run? ts
  b.result?

end TaskPipeline.Json
