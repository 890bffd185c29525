import Aviary.Config.Override

/-!
# Configurations on a shelf

A shelf holds configurations under labels.  Every number that is entered into one of them is an entry of its own, and a
copy holds the entries of what it was copied from.  Two configurations on a shelf are alike if their fields hold the
same entries or the same values, so a copy is like its source even where a number is undefined.

Main statement: configurations with the same values are alike (`alike_of_same`).
-/

namespace Aviary

/-- A configuration and the serial number of the entry that each of its fields holds. -/
structure Shelf.Item where
  config : Config
  entries : List (String × Nat)
  isSome_entry : ∀ name ∈ config.names, (entries.lookup name).isSome

structure Shelf where
  items : List (String × Shelf.Item)
  /-- How many entries were made so far. -/
  made : Nat

namespace Shelf.Item

private theorem isSome_lookup_zipIdx {names : List String} {name : String} (first : Nat) (h : name ∈ names) :
    ((names.zipIdx first).lookup name).isSome := by
  induction names generalizing first with
  | nil => simp at h
  | cons n names ih =>
    rw [List.zipIdx_cons, List.lookup_cons]
    split
    · rfl
    · rename_i hn
      exact ih (first + 1) ((List.mem_cons.1 h).resolve_left fun e => by simp [e] at hn)

/-- A configuration whose numbers are all new entries, numbered from `first` on. -/
def enter (config : Config) (first : Nat) : Item :=
  ⟨config, config.names.zipIdx first, fun _ h => isSome_lookup_zipIdx first h⟩

/-- The item with a new entry in an existing field. -/
def set (a : Item) (name : String) (value : Number) (entry : Nat) : Except Fault Item :=
  if h : name ∈ a.config.names then
    .ok ⟨a.config.put name value, (name, entry) :: a.entries, fun n hn => by
      rw [Config.names_put_of_mem value h] at hn
      rw [List.lookup_cons]
      split
      · rfl
      · exact a.isSome_entry n hn⟩
  else .error (.unknownParameter name)

/-- Whether the field `name` holds the same entry in both. -/
def shares (a b : Item) (name : String) : Bool :=
  match a.entries.lookup name, b.entries.lookup name with
  | some i, some j => i == j
  | _, _ => false

/-- Whether two configurations have the same fields with the same entries or the same values, in any order. -/
def alike (a b : Item) : Bool :=
  a.config.size == b.config.size &&
    a.config.fields.all fun f => (b.config.has f.1 && a.shares b f.1) || b.config.agrees f.1 f.2

theorem alike_of_same {a b : Item} (h : a.config.same b.config = true) : a.alike b = true := by
  simp only [Config.same, Bool.and_eq_true, List.all_eq_true] at h
  simp only [alike, Bool.and_eq_true, List.all_eq_true, Bool.or_eq_true]
  exact ⟨h.1, fun f hf => .inr (h.2 f hf)⟩

end Shelf.Item

namespace Shelf

/-- The shelf with one configuration, under the given label. -/
def single (label : String) (config : Config) : Shelf := ⟨[(label, .enter config 0)], config.size⟩

/-- What is held under a label; an empty configuration if there is nothing. -/
def item (s : Shelf) (label : String) : Item := (s.items.lookup label).getD (.enter .empty 0)

def config (s : Shelf) (label : String) : Config := (s.item label).config

/-- Puts a copy of what is held under `source` under `target`. -/
def copy (s : Shelf) (source target : String) : Shelf := { s with items := (target, s.item source) :: s.items }

/-- Enters a number into a field of the configuration under a label. -/
def set (s : Shelf) (label name : String) (value : Number) : Except Fault Shelf := do
  let item ← (s.item label).set name value s.made
  return ⟨(label, item) :: s.items, s.made + 1⟩

/-- Applies an argument to the configuration under a label. -/
def override (s : Shelf) (label arg : String) : Except Fault Shelf := do
  let (field, value) ← (s.config label).assignment arg
  s.set label field value

/-- Whether the configurations under two labels are alike. -/
def alike (s : Shelf) (a b : String) : Bool := (s.item a).alike (s.item b)

/-- Whether the configuration under a label is like one whose numbers are entered for the comparison. -/
def alikeEntered (s : Shelf) (label : String) (other : Config) : Bool :=
  (s.item label).alike (.enter other s.made)

end Shelf

end Aviary
