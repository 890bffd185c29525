import Aviary.Memory
import Aviary.Number.Kind
import Aviary.Text.Quoted

/-!
# Faults

Whatever can go wrong is a `Fault`: a command that the console refuses, a configuration that an engine refuses, an
engine that fails, a number that has no integer or no float, a surface that cannot be made, memory that there is not.
`Fault.message` has all the wording.

Main statement: what asks for memory gets it exactly if there is memory for each of its requests
(`Memory.grant_eq_ok_iff`).
-/

namespace Aviary

/-- What went wrong. -/
inductive Fault where
  /-- A line with a square bracket, which only the help text uses. -/
  | squareBracket
  | unknownCommand
  /-- An argument of a command that takes none. -/
  | noParameters
  /-- A second argument of a command that takes at most one. -/
  | oneParameter
  | unknownParameter (name : String)
  | missingValue (name : String)
  /-- The text given for a parameter is not a number of its kind. -/
  | badValue (name : String) (kind : Kind) (text : String)
  /-- The text given for a number of generations is no integer. -/
  | badCount (text : String)
  /-- An engine refused to build a simulation. -/
  | construction (cause : Fault)
  /-- A configuration lacks a field that is read. -/
  | missingField (name : String)
  | noEyeCells
  | negativePopulation
  | foodSizeNotPositive
  /-- A number of things to make is a float. -/
  | fractionalCount
  /-- An eye has more cells than readings. -/
  | missingReading
  /-- A fault in an engine's own words, under a label of its own. -/
  | reported (label text : String)
  /-- A module whose name starts with a dot. -/
  | relativeModule (name : String)
  /-- Something other than an engine was asked for its defaults. -/
  | notAnEngine
  /-- Something that only looks like an engine was asked for its defaults. -/
  | unusableEngine
  | unknownScenario
  | undefinedInteger
  | infiniteInteger
  | integerTooLarge
  | quotientTooLarge
  | divisionByZero
  | zeroLineHeight
  | outsideDomain
  | undefinedLength
  | excessiveLength
  /-- A number of things that no address reaches. -/
  | oversizedLength
  /-- A number of things that there is no memory for, with the kind of their elements if they make up an array. -/
  | noMemory (length : Nat) (element : Option Kind)
  | noColumns (columns : Int)
  /-- A line that is to be broken into rows is missing. -/
  | missingLine
  /-- An integer is too large for the coordinate of a pixel. -/
  | notCoordinate
  /-- An integer is too large for the size of a surface. -/
  | notSize
  | surfaceSize
  /-- There is no memory for the pixels of a surface. -/
  | noPixels
  /-- A frame was asked for before there was anything to draw it on. -/
  | notBuilt
  deriving DecidableEq

namespace Fault

/-- The text shown for a fault. -/
def message : Fault → String
  | squareBracket =>
    "square brackets are just for documentation purposes - you don't have to write them, e.g.: reset animals=100"
  | unknownCommand => "unknown command"
  | noParameters => "this command accepts no parameters"
  | oneParameter => "this command accepts at most one parameter"
  | unknownParameter name => "unknown parameter: " ++ name
  | missingValue name => "missing value for parameter: " ++ name
  | badValue name kind text => "parameter " ++ name ++ " expects " ++ kind.phrase ++ ", got: " ++ Text.quoted text
  | badCount text => "expected a number of generations, got: " ++ Text.quoted text
  | construction cause => cause.message
  | missingField name => Text.quoted name
  | noEyeCells => "eye_cells must be at least 1"
  | negativePopulation => "world size cannot be negative"
  | foodSizeNotPositive => "food_size must be positive"
  | fractionalCount => "a count has to be an integer"
  | missingReading => "an eye cell has no reading"
  | reported _ text => text
  | relativeModule name => "cannot import relative module " ++ Text.quoted name
  | notAnEngine => "not an engine"
  | unusableEngine => "an engine without a defaults table"
  | unknownScenario => "no such scenario"
  | undefinedInteger => "cannot convert float NaN to integer"
  | infiniteInteger => "cannot convert float infinity to integer"
  | integerTooLarge => "int too large to convert to float"
  | quotientTooLarge => "integer division result too large for a float"
  | divisionByZero => "division by zero"
  | zeroLineHeight => "integer division or modulo by zero"
  | outsideDomain => "math domain error"
  | undefinedLength => "arange: cannot compute length"
  | excessiveLength => "Maximum allowed size exceeded"
  | oversizedLength =>
    "array is too big; \x60arr.size * arr.dtype.itemsize\x60 is larger than the maximum possible size."
  | noMemory _ none => ""
  | noMemory length (some kind) =>
    "Unable to allocate " ++ Memory.text (length * Memory.numberBytes) ++ " for an array with shape ("
      ++ toString length ++ ",) and data type " ++ kind.element
  | noColumns columns => "invalid width " ++ toString columns ++ " (must be > 0)"
  | missingLine => "a missing line has no rows"
  | notCoordinate => "an integer is too large for a coordinate"
  | notSize => "size needs to be (number width, number height)"
  | surfaceSize => "Invalid resolution for Surface"
  | noPixels => "Out of memory"
  | notBuilt => "nothing to draw on"

/-- Whether a fault is one that the console reports about a command: all others come from engines, numbers and
surfaces. -/
def isRefusal : Fault → Bool
  | squareBracket | unknownCommand | noParameters | oneParameter | unknownParameter _ | missingValue _
  | badValue _ _ _ | badCount _ | construction _ => true
  | _ => false

/-- Two steps go through if the first does, and then the second. -/
theorem bind_eq_ok_iff {α β : Type} {x : Except Fault α} {f : α → Except Fault β} {b : β} :
    (x >>= f) = .ok b ↔ ∃ a, x = .ok a ∧ f a = .ok b := by
  cases x <;> simp [bind, Except.bind]

/-- A list is mapped to the end if each of its elements is. -/
theorem mapM_eq_map {α β : Type} {xs : List α} {f : α → Except Fault β} {g : α → β}
    (h : ∀ x ∈ xs, f x = .ok (g x)) : xs.mapM f = .ok (xs.map g) := by
  induction xs with
  | nil => rfl
  | cons x xs ih =>
    have hx := h x (List.mem_cons_self ..)
    have hxs := ih fun z hz => h z (List.mem_cons_of_mem _ hz)
    rw [List.mapM_cons, bind_eq_ok_iff]
    exact ⟨g x, hx, bind_eq_ok_iff.mpr ⟨xs.map g, hxs, rfl⟩⟩

end Fault

/-- The fault of a request that there is no memory for. -/
def Request.fault : Request → Fault
  | pixels _ _ => .noPixels
  | arrays _ length kind => .noMemory length (some kind)
  | list length _ => .noMemory length none

namespace Memory

variable [Memory]

/-- Asks for memory for one thing after the other, up to the first that there is none for. -/
def grant : List Request → Except Fault Unit
  | [] => .ok ()
  | r :: requests => if holds r then grant requests else .error r.fault

theorem grant_eq_ok_iff {requests : List Request} : grant requests = .ok () ↔ ∀ r ∈ requests, holds r = true := by
  induction requests with
  | nil => simp [grant]
  | cons r requests ih =>
    rw [List.forall_mem_cons, ← ih, grant]
    cases holds r <;> simp

theorem grant_singleton_iff {r : Request} : grant [r] = .ok () ↔ holds r = true := by
  rw [grant_eq_ok_iff]
  exact List.forall_mem_singleton

/-- Memory is denied with the fault of a request that there is none for. -/
theorem exists_of_grant_eq_error {requests : List Request} {fault : Fault} (h : grant requests = .error fault) :
    ∃ r ∈ requests, holds r = false ∧ r.fault = fault := by
  induction requests with
  | nil => cases h
  | cons r requests ih =>
    rw [grant] at h
    cases hr : holds r with
    | false =>
      rw [hr] at h
      exact ⟨r, List.mem_cons_self .., hr, Except.error.inj h⟩
    | true =>
      rw [hr] at h
      obtain ⟨r', hmem, hr'⟩ := ih h
      exact ⟨r', List.mem_cons_of_mem _ hmem, hr'⟩

end Memory

end Aviary
