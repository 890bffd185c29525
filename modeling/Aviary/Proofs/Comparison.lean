import Mathlib.Data.List.Perm.Subperm
import Aviary.Config.Shelf

/-!
# Comparing configurations

A configuration in which no number is undefined gives every name an exact value or none (`Config.value?`), and both
comparisons go by that: `diff` lists the names of a configuration whose values the other one does not have (`diff_eq`),
and two configurations are the same if and only if every name has the same value in both (`same_iff_value?`).  On a
shelf, two fields that hold the same entry hold the same number (`Stocked.alike_eq`), so being alike is the same there.
The main statement is `same_and_diff`.
-/

namespace Aviary

namespace Config

/-- The exact value of a field, none if there is no such field. -/
def value? (c : Config) (name : String) : Option Value := (c.get? name).map Number.value

/-- Whether no field holds an undefined number. -/
def Defined (c : Config) : Prop := ∀ f ∈ c.fields, f.2.value ≠ .undefined

instance (c : Config) : Decidable c.Defined := by unfold Defined; infer_instance

variable {a b c : Config} {name : String}

/-! ### Fields -/

private theorem get?_eq_some_iff {value : Number} : c.get? name = some value ↔ (name, value) ∈ c.fields := by
  unfold get?
  rw [List.lookup_eq_some_iff]
  constructor
  · rintro ⟨before, after, hfields, -⟩
    rw [hfields]
    exact List.mem_append_right _ List.mem_cons_self
  · intro h
    obtain ⟨before, after, hfields⟩ := List.append_of_mem h
    refine ⟨before, after, hfields, fun f hf => ?_⟩
    have hnodup := c.nodup
    rw [hfields, List.map_append, List.nodup_append] at hnodup
    have hne := hnodup.2.2 f.1 (List.mem_map_of_mem hf) name (by simp)
    simpa [bne_iff_ne] using hne.symm

private theorem value?_eq_none_iff : c.value? name = none ↔ name ∉ c.names := by
  unfold value?
  rw [Option.map_eq_none_iff]
  constructor
  · intro h hm
    obtain ⟨value, hvalue⟩ := exists_get?_of_mem hm
    rw [h] at hvalue
    cases hvalue
  · intro hm
    by_contra h
    obtain ⟨value, hvalue⟩ := Option.ne_none_iff_exists'.1 h
    exact hm (List.mem_map_of_mem (get?_eq_some_iff.1 hvalue))

private theorem value?_of_mem {f : String × Number} (h : f ∈ c.fields) : c.value? f.1 = some f.2.value := by
  unfold value?
  rw [get?_eq_some_iff.2 h]
  rfl

/-- The order of the fields does not matter to their values. -/
private theorem value?_of_perm (h : a.fields.Perm b.fields) (name : String) : a.value? name = b.value? name := by
  have hget : a.get? name = b.get? name := Option.ext fun value => by
    rw [get?_eq_some_iff, get?_eq_some_iff, h.mem_iff]
  unfold value?
  rw [hget]

private theorem Defined.of_perm (h : a.fields.Perm b.fields) (hb : b.Defined) : a.Defined :=
  fun f hf => hb f (h.mem_iff.1 hf)

/-! ### Both comparisons -/

private theorem agrees_iff {value : Number} (h : value.value ≠ .undefined) :
    b.agrees name value = true ↔ b.value? name = some value.value := by
  unfold agrees value?
  cases b.get? name with
  | none => simp
  | some other =>
    rw [Number.same_iff]
    simp [h, eq_comm]

/-- The names that are listed are those of the fields whose values the other configuration does not have, in order. -/
theorem diff_eq (ha : a.Defined) : a.diff b = a.names.filter fun name => b.value? name ≠ a.value? name := by
  have hagrees : ∀ f ∈ a.fields, (!b.agrees f.1 f.2) = decide (b.value? f.1 ≠ a.value? f.1) := by
    intro f hf
    rw [value?_of_mem hf, Bool.eq_iff_iff, Bool.not_eq_true', decide_eq_true_iff, ne_eq, ← agrees_iff (ha f hf),
      Bool.not_eq_true]
  unfold diff names
  rw [List.filter_map, List.filter_congr hagrees]
  rfl

private theorem diff_eq_nil_iff (ha : a.Defined) : a.diff b = [] ↔ ∀ name ∈ a.names, b.value? name = a.value? name := by
  rw [diff_eq ha, List.filter_eq_nil_iff]
  simp

/-- Two configurations are the same if they are of the same size and the first has no field that the second lacks or
holds with another value. -/
private theorem same_iff_size_diff : a.same b = true ↔ a.size = b.size ∧ a.diff b = [] := by
  unfold same diff
  rw [Bool.and_eq_true, beq_iff_eq, List.map_eq_nil_iff, List.filter_eq_nil_iff, List.all_eq_true]
  simp

/-- Two configurations are the same if and only if every name has the same value in both. -/
theorem same_iff_value? (ha : a.Defined) : a.same b = true ↔ ∀ name, a.value? name = b.value? name := by
  rw [same_iff_size_diff, diff_eq_nil_iff ha]
  constructor
  · rintro ⟨hsize, hvalues⟩ name
    by_cases hm : name ∈ a.names
    · exact (hvalues name hm).symm
    · have hsub : a.names ⊆ b.names := by
        intro other ho
        by_contra hn
        have hvalue := hvalues other ho
        rw [value?_eq_none_iff.2 hn, eq_comm, value?_eq_none_iff] at hvalue
        exact hvalue ho
      -- as many names as in the second configuration are all of its names
      have hlength : b.names.length ≤ a.names.length := by simpa [names, size] using Nat.le_of_eq hsize.symm
      have hperm := (List.subperm_of_subset a.nodup hsub).perm_of_length_le hlength
      rw [value?_eq_none_iff.2 hm, value?_eq_none_iff.2 fun hb => hm (hperm.mem_iff.2 hb)]
  · intro hvalues
    refine ⟨?_, fun name _ => (hvalues name).symm⟩
    have hmem : ∀ name, name ∈ a.names ↔ name ∈ b.names := by
      intro name
      rw [← not_iff_not, ← value?_eq_none_iff, hvalues, value?_eq_none_iff]
    have hperm := (List.perm_ext_iff_of_nodup a.nodup b.nodup).2 hmem
    simpa [names, size] using hperm.length_eq

/-- Two configurations are the same if and only if neither has a field that the other lacks or holds with another
value. -/
private theorem same_iff_diff (ha : a.Defined) (hb : b.Defined) : a.same b = true ↔ a.diff b = [] ∧ b.diff a = [] := by
  rw [same_iff_value? ha, diff_eq_nil_iff ha, diff_eq_nil_iff hb]
  constructor
  · exact fun h => ⟨fun name _ => (h name).symm, fun name _ => h name⟩
  · rintro ⟨hab, hba⟩ name
    by_cases hm : name ∈ a.names
    · exact (hab name hm).symm
    · by_cases hm' : name ∈ b.names
      · exact hba name hm'
      · rw [value?_eq_none_iff.2 hm, value?_eq_none_iff.2 hm']

end Config

namespace Shelf

open Config

/-! ### Shelves -/

/-- The shelves that come about when configurations are copied and numbers are entered. -/
inductive Stocked : Shelf → Prop
  | single (label : String) (config : Config) : Stocked (single label config)
  | copy {s : Shelf} (h : Stocked s) (source target : String) : Stocked (s.copy source target)
  | set {s t : Shelf} {label name : String} {value : Number} (h : Stocked s) (hset : s.set label name value = .ok t) :
      Stocked t

/-- An override enters a number, so what it leaves is such a shelf again. -/
theorem Stocked.override {s t : Shelf} {label arg : String} (h : Stocked s) (ho : s.override label arg = .ok t) :
    Stocked t := by
  obtain ⟨_, -, hset⟩ := Fault.bind_eq_ok_iff.1 ho
  exact h.set hset

/-- Whether the entries of an item were made before `made`, and each field holds the number that the ledger has for its
entry. -/
def Item.Follows (a : Item) (ledger : Nat → Number) (made : Nat) : Prop :=
  ∀ name entry, a.entries.lookup name = some entry → entry < made ∧ a.config.get? name = some (ledger entry)

/-- Whether all items of a shelf follow a ledger. -/
def Keeps (s : Shelf) (ledger : Nat → Number) : Prop := ∀ label, (s.item label).Follows ledger s.made

namespace Item

variable {a b : Item} {ledger ledger' : Nat → Number} {made made' : Nat}

private theorem Follows.mono (h : a.Follows ledger made) (hmade : made ≤ made')
    (hledger : ∀ entry < made, ledger' entry = ledger entry) : a.Follows ledger' made' := by
  intro name entry hentry
  obtain ⟨hlt, hget⟩ := h name entry hentry
  exact ⟨Nat.lt_of_lt_of_le hlt hmade, by rw [hledger entry hlt, hget]⟩

/-- Numbers that are entered together follow any ledger that has them in the order of the fields. -/
private theorem follows_enter {config : Config} {first : Nat}
    (h : ∀ entry f, first ≤ entry → config.fields[entry - first]? = some f → ledger entry = f.2) :
    (enter config first).Follows ledger (first + config.size) := by
  intro name entry hentry
  obtain ⟨before, after, hzip, -⟩ := List.lookup_eq_some_iff.1 hentry
  have hmem : (name, entry) ∈ config.names.zipIdx first := by
    rw [show config.names.zipIdx first = _ from hzip]
    exact List.mem_append_right _ List.mem_cons_self
  obtain ⟨hle, hname⟩ := List.mk_mem_zipIdx_iff_le_and_getElem?_sub.1 hmem
  unfold names at hname
  rw [List.getElem?_map, Option.map_eq_some_iff] at hname
  obtain ⟨f, hf, rfl⟩ := hname
  have hlt : entry - first < config.fields.length := (List.getElem?_eq_some_iff.1 hf).1
  refine ⟨?_, ?_⟩
  · unfold size
    omega
  · rw [h entry f hle hf]
    exact get?_eq_some_iff.2 (List.mem_of_getElem? hf)

/-- A new entry goes into the ledger behind the others. -/
private theorem Follows.set {name : String} {value : Number} (h : a.Follows ledger made)
    (hset : a.set name value made = .ok b) : b.Follows (Function.update ledger made value) (made + 1) := by
  unfold Item.set at hset
  split at hset
  · rename_i hm
    obtain rfl := Except.ok.inj hset
    intro other entry hentry
    rw [List.lookup_cons] at hentry
    split at hentry
    · rename_i hother
      obtain rfl := eq_of_beq hother
      obtain rfl := Option.some.inj hentry
      exact ⟨Nat.lt_succ_self _, by rw [Function.update_self]; exact get?_put_self value hm⟩
    · rename_i hother
      obtain ⟨hlt, hget⟩ := h other entry hentry
      refine ⟨Nat.lt_succ_of_lt hlt, ?_⟩
      rw [Function.update_of_ne (Nat.ne_of_lt hlt), ← hget]
      exact get?_put_of_ne value hm fun heq => by simp [heq] at hother
  · cases hset

/-- Items that follow one ledger are alike if and only if their configurations are the same. -/
private theorem Follows.alike_eq (ha : a.Follows ledger made) (hb : b.Follows ledger made) (hdef : a.config.Defined) :
    a.alike b = a.config.same b.config := by
  rw [Bool.eq_iff_iff]
  refine ⟨fun h => ?_, alike_of_same⟩
  simp only [alike, Bool.and_eq_true, List.all_eq_true, Bool.or_eq_true] at h
  obtain ⟨hsize, hfields⟩ := h
  simp only [same, Bool.and_eq_true, List.all_eq_true]
  refine ⟨hsize, fun f hf => ?_⟩
  rcases hfields f hf with ⟨-, hshares⟩ | hagrees
  · unfold shares at hshares
    split at hshares
    · rename_i i j hi hj
      obtain rfl := eq_of_beq hshares
      have hnumber : some f.2 = some (ledger i) := (get?_eq_some_iff.2 hf).symm.trans (ha f.1 i hi).2
      rw [agrees_iff (hdef f hf), value?, (hb f.1 i hj).2, ← hnumber]
      rfl
    · cases hshares
  · exact hagrees

end Item

private theorem item_cons (label other : String) (a : Item) (items : List (String × Item)) (made : Nat) :
    item ⟨(label, a) :: items, made⟩ other = if other = label then a else item ⟨items, made⟩ other := by
  unfold item
  rw [List.lookup_cons]
  by_cases h : other = label
  · rw [if_pos h, beq_iff_eq.2 h]
    rfl
  · rw [if_neg h, beq_eq_false_iff_ne.2 h]

private theorem follows_nothing (ledger : Nat → Number) (made : Nat) : (Item.enter .empty 0).Follows ledger made :=
  nofun

/-- On every shelf the entries stand for numbers. -/
private theorem Stocked.exists_keeps {s : Shelf} (h : Stocked s) : ∃ ledger, s.Keeps ledger := by
  induction h with
  | single label config =>
    let ledger : Nat → Number := fun entry => (config.fields[entry]?.map Prod.snd).getD default
    have hentered : (Item.enter config 0).Follows ledger (0 + config.size) := by
      refine Item.follows_enter fun entry f _ hf => ?_
      show (config.fields[entry]?.map Prod.snd).getD default = _
      rw [show config.fields[entry]? = some f from hf]
      rfl
    refine ⟨ledger, fun other => ?_⟩
    unfold Shelf.single
    rw [item_cons]
    split
    · rwa [Nat.zero_add] at hentered
    · exact follows_nothing _ _
  | @copy s _ source target ih =>
    obtain ⟨ledger, hs⟩ := ih
    refine ⟨ledger, fun other => ?_⟩
    unfold Shelf.copy
    rw [item_cons]
    split
    · exact hs source
    · exact hs other
  | @set s t label name value _ hset ih =>
    obtain ⟨ledger, hs⟩ := ih
    obtain ⟨item, hitem, ht⟩ := Fault.bind_eq_ok_iff.1 hset
    obtain rfl := Except.ok.inj ht
    refine ⟨Function.update ledger s.made value, fun other => ?_⟩
    rw [item_cons]
    split
    · exact (hs label).set hitem
    · exact (hs other).mono (Nat.le_succ _) fun entry hlt => Function.update_of_ne (Nat.ne_of_lt hlt) ..

/-- On a shelf, configurations are alike if and only if they are the same. -/
theorem Stocked.alike_eq {s : Shelf} (h : Stocked s) {label : String} (hdef : (s.config label).Defined)
    (other : String) : s.alike label other = (s.config label).same (s.config other) := by
  obtain ⟨ledger, hs⟩ := h.exists_keeps
  exact (hs label).alike_eq (hs other) hdef

/-- A configuration whose numbers are entered for the comparison is alike if and only if it is the same. -/
private theorem Stocked.alikeEntered_eq {s : Shelf} (h : Stocked s) {label : String} (hdef : (s.config label).Defined)
    (other : Config) : s.alikeEntered label other = (s.config label).same other := by
  obtain ⟨ledger, hs⟩ := h.exists_keeps
  let ledger' : Nat → Number := fun entry =>
    if entry < s.made then ledger entry else (other.fields[entry - s.made]?.map Prod.snd).getD default
  have hentered : (Item.enter other s.made).Follows ledger' (s.made + other.size) := by
    refine Item.follows_enter fun entry f hle hf => ?_
    show (if entry < s.made then _ else _) = _
    rw [if_neg (Nat.not_lt.2 hle), hf]
    rfl
  have hitem : (s.item label).Follows ledger' (s.made + other.size) :=
    (hs label).mono (Nat.le_add_right _ _) fun entry hlt => if_pos hlt
  exact hitem.alike_eq hentered hdef

end Shelf

namespace Config

/-- Configurations without undefined numbers are compared by the exact values of their fields, whatever the kinds and
the order.  They are the same if and only if neither lists a difference from the other, which is an equivalence; the
differences are the fields that the other configuration lacks or holds with another value, in order and each once.  On a
shelf, being alike is being the same. -/
theorem same_and_diff {a b : Config} (ha : a.Defined) (hb : b.Defined) :
    (a.same b = true ↔ ∀ name, a.value? name = b.value? name) ∧
    (a.same b = true ↔ a.diff b = [] ∧ b.diff a = []) ∧
    (a.same a = true ∧ a.same b = b.same a ∧ ∀ c, a.same b = true → b.same c = true → a.same c = true) ∧
    (∀ a' b' : Config, a'.fields.Perm a.fields → b'.fields.Perm b.fields → a'.same b' = a.same b) ∧
    (a.diff b = a.names.filter (fun name => b.value? name ≠ a.value? name) ∧ (a.diff b).Nodup) ∧
    ((∀ name, name ∈ a.names ↔ name ∈ b.names) → ∀ name, name ∈ a.diff b ↔ name ∈ b.diff a) ∧
    ∀ (s : Shelf) (label : String), s.Stocked → s.config label = a →
      s.alikeEntered label b = a.same b ∧ ∀ other, s.config other = b → s.alike label other = a.same b := by
  have hsame : a.same b = b.same a := by
    rw [Bool.eq_iff_iff, same_iff_value? ha, same_iff_value? hb]
    exact forall_congr' fun name => eq_comm
  have htrans : ∀ c, a.same b = true → b.same c = true → a.same c = true := by
    intro c hab hbc
    rw [same_iff_value? ha] at hab ⊢
    rw [same_iff_value? hb] at hbc
    exact fun name => (hab name).trans (hbc name)
  refine ⟨same_iff_value? ha, same_iff_diff ha hb, ⟨(same_iff_value? ha).2 fun _ => rfl, hsame, htrans⟩, ?_,
    ⟨diff_eq ha, ?_⟩, ?_, ?_⟩
  · intro a' b' hpa hpb
    rw [Bool.eq_iff_iff, same_iff_value? ha, same_iff_value? (ha.of_perm hpa)]
    exact forall_congr' fun name => by rw [value?_of_perm hpa, value?_of_perm hpb]
  · rw [diff_eq ha]
    exact a.nodup.filter _
  · intro hnames name
    rw [diff_eq ha, diff_eq hb, List.mem_filter, List.mem_filter, hnames]
    exact and_congr_right fun _ => by rw [decide_eq_true_iff, decide_eq_true_iff, ne_comm]
  · rintro s label hs rfl
    refine ⟨hs.alikeEntered_eq ha b, ?_⟩
    rintro other rfl
    exact hs.alike_eq ha other

/-- An integer beyond which floats have gaps equals its float, and zeros of both signs are equal; the next integer has
no float of its own, and differs from the float that is nearest to it. -/
theorem same_and_diff_gap :
    let a := ofList [("x", .whole 9007199254740992), ("y", .real 0.0)]
    let b := ofList [("y", .real (-0.0)), ("x", .real 9007199254740992.0)]
    let c := ofList [("x", .whole 9007199254740993), ("y", .whole 0)]
    a.Defined ∧ b.Defined ∧ c.Defined ∧ a.same b = true ∧ a.diff b = [] ∧ b.diff a = [] ∧ c.diff b = ["x"] ∧
      c.same b = false := by
  intro a b c
  have ha : a.Defined := by decide +kernel
  have hb : b.Defined := by decide +kernel
  have hc : c.Defined := by decide +kernel
  have hab : a.same b = true := by decide +kernel
  obtain ⟨-, hnone, -⟩ := same_and_diff ha hb
  obtain ⟨-, hempty, -, -, ⟨hdiff, -⟩, -⟩ := same_and_diff hc hb
  have hx : c.diff b = ["x"] := hdiff.trans (by decide +kernel)
  have hcb : c.same b = false := by
    rw [Bool.eq_false_iff, ne_eq, hempty, hx]
    exact fun h => List.cons_ne_nil _ _ h.1
  exact ⟨ha, hb, hc, hab, (hnone.1 hab).1, (hnone.1 hab).2, hx, hcb⟩

end Config

end Aviary
