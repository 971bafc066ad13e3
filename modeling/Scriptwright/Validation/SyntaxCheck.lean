import Scriptwright.GenerationError
import Scriptwright.Health

/-!
Asking whether a script is well formed.
-/
namespace Scriptwright

inductive Verdict where
  | passed
  /-- The checker refuses the script, with its words. -/
  | failed (diagnostic : String)
  /-- The checker could not give an answer. -/
  | unavailable (notice : String)
deriving DecidableEq, Repr

structure SyntaxCheck where
  code : String
  language : Language
deriving DecidableEq, Repr

/-- A checker runs programs of the system, so it may answer the same question differently another
time; `answer n` is its answer when it has answered `n` times before. -/
structure SyntaxChecker where
  answer : Nat → SyntaxCheck → Except GenerationError Verdict
  probe : Moment → ComponentHealth

end Scriptwright
