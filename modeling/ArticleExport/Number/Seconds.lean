import ArticleExport.Json.Basic
import ArticleExport.Number.Binary
import ArticleExport.Number.Whole

/-!
# Seconds

Points in time and spans between them, whole or with a fraction.  Whole seconds stay whole as long as
nothing with a fraction is added to them.
-/

namespace ArticleExport

/-- A number of seconds. -/
inductive Seconds where
  /-- Whole seconds. -/
  | whole (n : Int)
  /-- Seconds with a fraction. -/
  | real (x : Float)
deriving DecidableEq, Repr

namespace Seconds

instance : Inhabited Seconds := ⟨whole 0⟩

/-- The number as a floating-point number; one that is too large has none. -/
def toFloat? : Seconds → Option Float
  | whole n => floatOfInt? n
  | real x => some x

/-- The sum of two numbers; there is none where a whole number is too large to be added to a fraction. -/
def add? : Seconds → Seconds → Option Seconds
  | whole a, whole b => some (whole (a + b))
  | a, b => do return real ((← a.toFloat?) + (← b.toFloat?))

/-- A multiple of a number; there is none where the factor is too large to be multiplied with a fraction. -/
def times? (s : Seconds) (n : Nat) : Option Seconds :=
  match s with
  | whole a => some (whole (a * n))
  | real x => (floatOfInt? n).map fun y => real (x * y)

/-- Whether a number can be written: a whole one may not have too many digits. -/
def isWritable : Seconds → Bool
  | whole n => hasFewDigits n.natAbs
  | real _ => true

/-- Whether a number is at most another one. -/
def le : Seconds → Seconds → Bool
  | whole a, whole b => decide (a ≤ b)
  | whole a, real y => intLeFloat a y
  | real x, whole b => floatLeInt x b
  | real x, real y => decide (x ≤ y)

/-- The whole seconds, the fraction dropped. -/
def truncate : Seconds → Int
  | whole n => n
  | real x => (truncate? x).getD 0

/-- The number as JSON. -/
def toJson : Seconds → Json
  | whole n => .int n
  | real x => .float x

/-- The number that a JSON value is, where it is one. -/
def ofJson? : Json → Option Seconds
  | .int n => some (whole n)
  | .float x => some (real x)
  | .bool b => some (whole (if b then 1 else 0))
  | _ => none

end Seconds

end ArticleExport
