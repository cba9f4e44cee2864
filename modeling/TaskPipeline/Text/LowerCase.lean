import TaskPipeline.Text.CaseTable

/-!
# Lower-casing

`lowerCase` maps a text to lower case by Unicode's full mapping.  Two letters are special: the
capital I with a dot becomes two characters, and a capital sigma becomes the final form `ς` at the
end of a word and `σ` elsewhere.  Because of the sigma, lower-casing the front part of a text need
not give the front part of the lower-cased text.
-/

namespace TaskPipeline.Text

/-- Unicode's `Cased` property. -/
def isCased (c : Char) : Bool :=
  if c.toNat < 0x80 then c.isAlpha else casedRanges.contains c.toNat

/-- Unicode's `Case_Ignorable` property. -/
def isCaseIgnorable (c : Char) : Bool :=
  if c.toNat < 0x80 then c == '\'' || c == '.' || c == ':' || c == '^' || c.toNat == 0x60
  else caseIgnorableRanges.contains c.toNat

/-- The small letters of one character, apart from the capital sigma's two forms. -/
def lowerChar (c : Char) : List Char :=
  let n := c.toNat
  if n < 0x80 then [c.toLower]
  else if n == 0x130 then ['i', Char.ofNat 0x307]
  else
    match lowerRuns.find? fun r => r.1 ≤ n && n ≤ r.2.1 && (n - r.1) % r.2.2.1 == 0 with
    | some r => [Char.ofNat (r.2.2.2 + (n - r.1))]
    | none => [c]

/-- Whether the first character that case-mapping does not skip is a cased letter. -/
def meetsCased (cs : List Char) : Bool :=
  match cs.dropWhile isCaseIgnorable with
  | c :: _ => isCased c
  | [] => false

/-- Lower-cases a list of characters; `before` holds the characters already passed, last first. -/
def lowerChars (before : List Char) : List Char → List Char
  | [] => []
  | c :: rest =>
    let small :=
      if c == 'Σ' then
        if meetsCased before && !meetsCased rest then ['ς'] else ['σ']
      else lowerChar c
    small ++ lowerChars (c :: before) rest

/-- The text in lower case. -/
def lowerCase (s : String) : String := String.ofList (lowerChars [] s.toList)

/-- Whether two texts agree up to the case of ASCII letters. -/
def eqIgnoringAsciiCase (s t : String) : Bool :=
  s.toList.map Char.toLower == t.toList.map Char.toLower

end TaskPipeline.Text
