import Aviary.Number

/-!
# Configurations

A configuration is a list of named numbers in which no name occurs twice.  Its fields are fixed when it is built: a
field can be given another number, but none can be added.  The view of a configuration is `get?`.

Main statements: only a field that is there can be set (`set_eq_ok_iff`), and setting it keeps the names and their order
(`names_set`).  A field that was put has the number it was given (`get?_put_self`), and the others stay as they are
(`get?_put_of_ne`).
-/

namespace Aviary

/-- A flat, ordered table of named numbers. -/
structure Config where
  fields : List (String × Number)
  nodup : (fields.map Prod.fst).Nodup

namespace Config

/-- The fields with the number of `name` replaced. -/
def replace (name : String) (value : Number) (fields : List (String × Number)) : List (String × Number) :=
  fields.map fun f => if f.1 = name then (f.1, value) else f

private theorem map_fst_replace (name : String) (value : Number) (fields : List (String × Number)) :
    (replace name value fields).map Prod.fst = fields.map Prod.fst := by
  simp only [replace, List.map_map]
  congr 1
  funext f
  simp only [Function.comp]
  split <;> rfl

private theorem lookup_replace_self {name : String} {fields : List (String × Number)} (value : Number)
    (h : name ∈ fields.map Prod.fst) : (replace name value fields).lookup name = some value := by
  induction fields with
  | nil => simp at h
  | cons f fields ih =>
    obtain ⟨k, v⟩ := f
    by_cases hk : k = name
    · simp [replace, hk]
    · have hn : (name == k) = false := by simpa using fun e : name = k => hk e.symm
      have h' : name ∈ fields.map Prod.fst := by simpa [Ne.symm hk] using h
      simpa [replace, hk, List.lookup_cons, hn] using ih h'

private theorem lookup_replace_of_ne {name other : String} (value : Number) (fields : List (String × Number))
    (h : other ≠ name) : (replace name value fields).lookup other = fields.lookup other := by
  induction fields with
  | nil => rfl
  | cons f fields ih =>
    obtain ⟨k, v⟩ := f
    simp only [replace] at ih
    by_cases hk : k = name
    · have hn : (other == k) = false := by simpa [hk] using h
      have hn' : (other == name) = false := by simpa using h
      simp [replace, hk, List.lookup_cons, hn', ih]
    · simp [replace, hk, List.lookup_cons, ih]

/-- The names of the fields, in order. -/
def names (c : Config) : List String := c.fields.map Prod.fst

def size (c : Config) : Nat := c.fields.length

def has (c : Config) (name : String) : Bool := c.names.contains name

/-- The number of a field. -/
def get? (c : Config) (name : String) : Option Number := c.fields.lookup name

/-- The number of a field that is read by its name. -/
def get (c : Config) (name : String) : Except Fault Number :=
  match c.get? name with
  | some value => .ok value
  | none => .error (.missingField name)

def empty : Config := ⟨[], by simp⟩

/-- The configuration with `value` in the field `name`, which comes last if it is new. -/
def put (c : Config) (name : String) (value : Number) : Config :=
  if h : name ∈ c.names then
    ⟨replace name value c.fields, by rw [map_fst_replace]; exact c.nodup⟩
  else
    ⟨c.fields ++ [(name, value)], by
      rw [List.map_append, List.map_singleton, List.nodup_append]
      refine ⟨c.nodup, by simp, ?_⟩
      intro a ha b hb e
      rw [e, List.mem_singleton.1 hb] at ha
      exact h ha⟩

/-- The configuration with the given fields.  A repeated name keeps its first place and its last number. -/
def ofList (fields : List (String × Number)) : Config := fields.foldl (fun c f => c.put f.1 f.2) empty

/-- Gives an existing field another number. -/
def set (c : Config) (name : String) (value : Number) : Except Fault Config :=
  if c.has name then .ok (c.put name value) else .error (.unknownParameter name)

/-- The kind of a field's number. -/
def kind (c : Config) (name : String) : Except Fault Kind := (c.get name).map Number.kind

/-- Whether `other` has the field `name` with the same value as `value`. -/
def agrees (other : Config) (name : String) (value : Number) : Bool :=
  match other.get? name with
  | some v => value.same v
  | none => false

/-- The names of the fields that `other` lacks or holds with another value, in order. -/
def diff (c other : Config) : List String :=
  (c.fields.filter fun f => !other.agrees f.1 f.2).map Prod.fst

/-- Whether two configurations have the same fields with the same values, in any order. -/
def same (c other : Config) : Bool :=
  c.size == other.size && c.fields.all fun f => other.agrees f.1 f.2

/-- The written form of a configuration. -/
def text (c : Config) : String :=
  "Config(" ++ ", ".intercalate (c.fields.map fun f => f.1 ++ "=" ++ f.2.text) ++ ")"

theorem has_iff {c : Config} {name : String} : c.has name = true ↔ name ∈ c.names := by
  simp [has]

/-- Every field has a number. -/
theorem exists_get?_of_mem {c : Config} {name : String} (h : name ∈ c.names) : ∃ value, c.get? name = some value := by
  obtain ⟨f, hf, rfl⟩ := List.mem_map.1 h
  exact Option.isSome_iff_exists.1 (List.lookup_isSome_iff.2 ⟨f, hf, beq_self_eq_true f.1⟩)

theorem get_of_get? {c : Config} {name : String} {value : Number} (h : c.get? name = some value) :
    c.get name = .ok value := by
  unfold get
  rw [h]

theorem names_put_of_mem {c : Config} {name : String} (value : Number) (h : name ∈ c.names) :
    (c.put name value).names = c.names := by
  unfold put
  rw [dif_pos h]
  exact map_fst_replace name value c.fields

theorem get?_put_self {c : Config} {name : String} (value : Number) (h : name ∈ c.names) :
    (c.put name value).get? name = some value := by
  unfold put
  rw [dif_pos h]
  exact lookup_replace_self value h

theorem get?_put_of_ne {c : Config} {name other : String} (value : Number) (h : name ∈ c.names)
    (hne : other ≠ name) : (c.put name value).get? other = c.get? other := by
  unfold put
  rw [dif_pos h]
  exact lookup_replace_of_ne value c.fields hne

/-- A field can be set exactly if it exists. -/
theorem set_eq_ok_iff {c d : Config} {name : String} {value : Number} :
    c.set name value = .ok d ↔ name ∈ c.names ∧ d = c.put name value := by
  unfold set
  by_cases h : c.has name = true
  · simp [h, has_iff.1 h, eq_comm]
  · have hn : name ∉ c.names := fun m => h (has_iff.2 m)
    simp [h, hn]

/-- Setting a field keeps the names and their order. -/
theorem names_set {c d : Config} {name : String} {value : Number} (h : c.set name value = .ok d) :
    d.names = c.names := by
  obtain ⟨hm, rfl⟩ := set_eq_ok_iff.1 h
  exact names_put_of_mem value hm

end Config

end Aviary
