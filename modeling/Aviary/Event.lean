/-!
# Events

What a user does to a window.
-/

namespace Aviary

/-- The keys that mean something to the program, and all others. -/
inductive Key where
  | enter
  | keypadEnter
  | backspace
  | pageUp
  | pageDown
  | escape
  | tab
  | f1
  | other
  deriving DecidableEq

inductive Event where
  /-- Text that was typed. -/
  | text (typed : String)
  | keyDown (key : Key)
  | keyUp (key : Key)
  /-- The wheel turned by `steps` away from the user. -/
  | wheel (steps : Int)
  | motion
  /-- The window is to be closed. -/
  | quit
  deriving DecidableEq

end Aviary
