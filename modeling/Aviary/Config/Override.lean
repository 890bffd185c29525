import Aviary.Config
import Aviary.Number.Literal

/-!
# Overrides

An override is an argument `name=value` that gives a field of a configuration another number.  The name is
`i:` or `f:` and the name of a field, which is then read as an integer or as a float, or a short name for one of four
integer fields.  The name is judged before the value.

Main statement: an argument splits at its first equals sign (`splitArgument_append`).
-/

namespace Aviary.Config

/-- The short names and the fields that they stand for.  All of these hold integers. -/
def shortNames : List (String × String) :=
  [("a", "world_animals"), ("animals", "world_animals"), ("f", "world_foods"), ("foods", "world_foods"),
   ("n", "brain_neurons"), ("neurons", "brain_neurons"), ("p", "eye_cells"), ("photoreceptors", "eye_cells")]

/-- The field that a name stands for and the kind of number it is given, whether or not the field exists. -/
def target? (name : String) : Option (String × Kind) :=
  match name.toList with
  | 'i' :: ':' :: field => some (String.ofList field, .whole)
  | 'f' :: ':' :: field => some (String.ofList field, .real)
  | _ => (shortNames.lookup name).map (·, .whole)

/-- The field of `c` that a name stands for and the kind of number it is given. -/
def resolve (c : Config) (name : String) : Except Fault (String × Kind) :=
  match target? name with
  | some (field, kind) => if c.has field then .ok (field, kind) else .error (.unknownParameter name)
  | none => .error (.unknownParameter name)

/-- Reads a number of the given kind. -/
def readValue? : Kind → List Char → Option Number
  | .whole, cs => (Literal.integer? cs).map .whole
  | .real, cs => (Literal.float? cs).map .real

/-- The part of an argument before its first equals sign, and the part after it if there is one. -/
def splitArgument (arg : String) : String × Option (List Char) :=
  (String.ofList (arg.toList.takeWhile (· != '=')),
    match arg.toList.dropWhile (· != '=') with
    | [] => none
    | _ :: rest => some rest)

/-- The field that an argument is about, and the number it gives it. -/
def assignment (c : Config) (arg : String) : Except Fault (String × Number) := do
  let (name, text?) := splitArgument arg
  let (field, kind) ← c.resolve name
  match text? with
  | none => .error (.missingValue name)
  | some text =>
    match readValue? kind text with
    | none => .error (.badValue name kind (String.ofList text))
    | some value => .ok (field, value)

/-- Applies one argument to a configuration. -/
def override (c : Config) (arg : String) : Except Fault Config := do
  let (field, value) ← c.assignment arg
  c.set field value

/-- Applies arguments from left to right, up to the first that does not apply. -/
def build (defaults : Config) (args : List String) : Except Fault Config := args.foldlM override defaults

/-- An argument splits at its first equals sign. -/
theorem splitArgument_append {name : String} (h : '=' ∉ name.toList) (text : List Char) :
    splitArgument (name ++ "=" ++ String.ofList text) = (name, some text) := by
  have key : (name ++ "=" ++ String.ofList text).toList = name.toList ++ '=' :: text := by simp
  have ht : ∀ c ∈ name.toList, (c != '=') = true := fun c hc => by
    simp only [bne_iff_ne]
    exact fun e => h (e ▸ hc)
  simp [splitArgument, key, List.takeWhile_append_of_pos ht, List.dropWhile_append_of_pos ht]

end Aviary.Config
