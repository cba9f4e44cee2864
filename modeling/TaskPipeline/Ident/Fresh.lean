import TaskPipeline.Ident.Basic

/-!
# Fresh identifiers

Identifiers for new tasks are made from a counter.  The counter is scrambled, so that the identifiers
of tasks made one after the other differ in their first digits already and can be abbreviated.
-/

namespace TaskPipeline.Ident

/-- Scrambles a word.  The factor is odd, so different words stay different. -/
def scramble (w : UInt32) : UInt32 := w * 2654435761

/-- The digit with a value below sixteen. -/
def hexDigit (n : Nat) : Char := (Nat.toDigits 16 n).headD '0'

/-- The eight hexadecimal digits of a word. -/
def hexWord (w : UInt32) : String :=
  String.ofList ((List.range 8).map fun i => hexDigit (w.toNat / Nat.pow 16 (7 - i) % 16))

/-- The identifier of the task that is made when the counter stands at a number. -/
def minted (n : Nat) : TaskId :=
  (read? ("t-" ++ hexWord (scramble n.toUInt32))).getD ⟨"t", by decide, by decide⟩

end TaskPipeline.Ident
