import Aviary.Proofs.History
import Aviary.Proofs.Override
import Aviary.Proofs.Sample

/-!
# The kinds of numbers in a configuration

An argument announces a kind of number by its name, and the field that it is about gets a number of that kind, whatever
kind the field had before.  So arguments keep the kinds of a configuration exactly if they are in keeping with it: the
last one about each field announces the kind that the field has (`keepsKinds_build_iff`).  The configuration that is
installed at some time of a session comes from the defaults by the overrides of the last reset (`build_lastOverrides`),
so it is they that decide whether its kinds are those of the defaults (`keepsKinds_iff`).
-/

namespace Aviary

namespace Config

variable {c d : Config} {arg field : String} {args : List String} {kind : Kind} {value : Number}

/-- Whether every field of `d` has a number of the same kind in `c`. -/
def KeepsKinds (d c : Config) : Prop := ∀ field ∈ d.names, c.kind field = d.kind field

/-- An argument is about a field of `d`, and its name announces a kind of number. -/
def Announces (d : Config) (arg field : String) (kind : Kind) : Prop :=
  ∃ name text?, Splits arg name text? ∧ Stands d name field kind

/-- Whether the last argument about each field of `d` announces the kind that the field has in `d`. -/
def InKeeping (d : Config) (args : List String) : Prop :=
  ∀ before arg after field kind, args = before ++ arg :: after → Announces d arg field kind →
    (∀ a ∈ after, ∀ k, ¬ Announces d a field k) → d.kind field = .ok kind

/-! ### Announced kinds and the numbers that are given -/

private theorem kind_of_get? (h : c.get? field = some value) : c.kind field = .ok value.kind := by
  unfold Config.kind
  rw [get_of_get? h]
  rfl

private theorem kind_congr (h : c.get? field = d.get? field) : c.kind field = d.kind field := by
  unfold Config.kind get
  rw [h]

private theorem kind_of_readValue? {text : List Char} (h : readValue? kind text = some value) : value.kind = kind := by
  cases kind with
  | whole =>
    obtain ⟨n, -, rfl⟩ := Option.map_eq_some_iff.1 h
    rfl
  | real =>
    obtain ⟨x, -, rfl⟩ := Option.map_eq_some_iff.1 h
    rfl

/-- A number that an argument gives is of the kind that it announces. -/
private theorem Assigns.announces (h : Assigns d arg field value) : Announces d arg field value.kind := by
  obtain ⟨name, text, kind, hs, hn, hv⟩ := h
  rw [kind_of_readValue? hv]
  exact ⟨name, some text, hs, hn⟩

private theorem Announces.exists_assigns (h : Announces d arg field kind) (ha : Applies d arg) :
    ∃ value, Assigns d arg field value ∧ value.kind = kind := by
  obtain ⟨name, text?, hs, hn⟩ := h
  obtain ⟨field', value, name', text, kind', hs', hn', hv⟩ := ha
  obtain ⟨rfl, -⟩ := hs.unique hs'
  obtain ⟨rfl, rfl⟩ := hn.unique hn'
  exact ⟨value, ⟨name, text, kind, hs', hn, hv⟩, kind_of_readValue? hv⟩

/-! ### Arguments one after the other -/

/-- There is only one last element with a property in a list. -/
private theorem last_unique {α : Type} {P : α → Prop} {x y : α} {before before' after after' : List α}
    (e : before ++ x :: after = before' ++ y :: after') (hx : P x) (hy : P y) (ha : ∀ z ∈ after, ¬ P z)
    (ha' : ∀ z ∈ after', ¬ P z) : x = y := by
  rcases List.append_eq_append_iff.1 e with ⟨between, -, h⟩ | ⟨between, -, h⟩
  · cases between with
    | nil => exact (List.cons.inj h).1
    | cons z between =>
      have hmem : y ∈ after := by
        rw [(List.cons.inj h).2]
        simp
      exact absurd hy (ha y hmem)
  · cases between with
    | nil => exact (List.cons.inj h).1.symm
    | cons z between =>
      have hmem : x ∈ after' := by
        rw [(List.cons.inj h).2]
        simp
      exact absurd hx (ha' x hmem)

/-- Arguments leave a field with one number. -/
private theorem Ends.unique {own result result' : Option Number} (h : Ends d args field own result)
    (h' : Ends d args field own result') : result = result' := by
  cases h with
  | @given before after a value e ha hl =>
    cases h' with
    | @given before' after' a' value' e' ha' hl' =>
      obtain rfl := last_unique (P := fun a => ∃ v, Assigns d a field v) (e.symm.trans e') ⟨value, ha⟩ ⟨value', ha'⟩
        (fun b hb ⟨v, hv⟩ => hl b hb v hv) (fun b hb ⟨v, hv⟩ => hl' b hb v hv)
      rw [(ha.unique ha').2]
    | kept hk => exact absurd ha (hk a (by simp [e]) value)
  | kept hk =>
    cases h' with
    | @given before' after' a' value' e' ha' => exact absurd ha' (hk a' (by simp [e']) value')
    | kept => rfl

/-- Arguments that went through all apply, and give each field the number of the last one about it. -/
private theorem ends_of_build (h : d.build args = .ok c) :
    (∀ arg ∈ args, Applies d arg) ∧ ∀ field, Ends d args field (d.get? field) (c.get? field) := by
  by_cases ha : ∀ arg ∈ args, Applies d arg
  · obtain ⟨e, he, -, hends⟩ := build_of_applies rfl ha
    obtain rfl := Except.ok.inj (h.symm.trans he)
    exact ⟨ha, hends⟩
  · obtain ⟨before, arg, after, fault, rfl, hb, hr⟩ := exists_first_refuses ha
    rw [build_of_refuses hb hr after] at h
    cases h

/-- Arguments that went through keep the kinds exactly if they are in keeping with the configuration. -/
theorem keepsKinds_build_iff (h : d.build args = .ok c) : KeepsKinds d c ↔ InKeeping d args := by
  obtain ⟨happlies, hends⟩ := ends_of_build h
  constructor
  · intro hkeeps before arg after field kind e hann hlast
    obtain ⟨value, ha, rfl⟩ := hann.exists_assigns (happlies arg (by simp [e]))
    have hgiven : Ends d args field (d.get? field) (some value) :=
      .given e ha fun a hm v hv => hlast a hm v.kind hv.announces
    rw [← hkeeps field ha.mem, kind_of_get? ((hends field).unique hgiven)]
  · intro hin field _
    have key := hends field
    generalize hr : c.get? field = result at key
    cases key with
    | @given before after arg value e ha hl =>
      rw [kind_of_get? hr]
      refine (hin before arg after field value.kind e ha.announces fun a hm k hk => ?_).symm
      obtain ⟨v, hv, -⟩ := hk.exists_assigns (happlies a (by simp [e, hm]))
      exact hl a hm v hv
    | kept => exact kind_congr hr

end Config

/-! ### The configuration that is installed -/

def Deed.overrides? : Deed → Option (List String)
  | installed overrides => some overrides
  | _ => none

/-- The overrides of the last reset, and none if there was no reset. -/
def History.lastOverrides (records : History) : List String :=
  (records.reverse.findSome? (·.deed.overrides?)).getD []

private theorem History.lastOverrides_concat (records : History) (record : Record) :
    lastOverrides (records ++ [record]) = record.deed.overrides?.getD records.lastOverrides := by
  unfold lastOverrides
  rw [List.reverse_concat, List.findSome?_cons]
  cases record.deed.overrides? <;> rfl

namespace Session

variable {E : Engine} {s t : Session E} {record : Record} {records : History} {active : Bool}

/-- Whatever is recorded, the configuration is still the one that the last reset asked for. -/
private theorem build_concat_of_does (hE : E.KeepsConfig) (h : E.defaults.build records.lastOverrides = .ok s.config)
    (hd : s.Does record t) : E.defaults.build (History.lastOverrides (records ++ [record])) = .ok t.config := by
  rw [History.lastOverrides_concat]
  cases hd with
  | refused => exact h
  | failed =>
    rw [config_trained hE]
    exact h
  | paused => exact h
  | trained =>
    rw [config_trained hE]
    exact h
  | installed _ hc hb => exact hc.trans (congrArg Except.ok (hE.build _ _ _ _ hb).symm)
  | stepped => exact h.trans (congrArg Except.ok (hE.step s.simulation.state).symm)
  | rested => exact h

/-- The configuration of a session that started with the defaults is the one that the last reset asked for. -/
theorem build_lastOverrides [Memory] (hE : E.KeepsConfig) (h : Session.start E E.defaults active = .ok s)
    (actions : List Action) :
    E.defaults.build (s.history actions).lastOverrides = .ok (s.after actions).config := by
  refine history_of_does (P := fun records s => E.defaults.build records.lastOverrides = .ok s.config)
    (fun records s record t hs hd => build_concat_of_does hE hs hd) ?_ actions
  obtain ⟨state, factory, hb, rfl⟩ := eq_of_start h
  exact congrArg Except.ok (hE.build _ _ _ _ hb).symm

end Session

namespace Config

/-- Arguments that go through keep the kinds of a configuration exactly if they are in keeping with it.  If it is the
defaults of an engine, this holds of the overrides of the last reset at every time of a session. -/
theorem keepsKinds_iff [Memory] (d : Config) :
    (∀ args c, d.build args = .ok c → (KeepsKinds d c ↔ InKeeping d args)) ∧
    ∀ (E : Engine) (active : Bool) (s : Session E), E.KeepsConfig → E.defaults = d →
      Session.start E d active = .ok s → ∀ actions,
        (KeepsKinds d (s.after actions).config ↔ InKeeping d (s.history actions).lastOverrides) := by
  constructor
  · intro args c h
    exact keepsKinds_build_iff h
  · rintro E active s hE rfl h actions
    exact keepsKinds_build_iff (Session.build_lastOverrides hE h actions)

/-- An integer field that is given a float and then an integer, and a float field that is given an integer. -/
theorem keepsKinds_foods_and_size :
    ∃ c s, Engine.Sample.defaults.build ["f:world_foods=2.5", "foods=1"] = .ok c ∧
      (KeepsKinds Engine.Sample.defaults c ↔ InKeeping Engine.Sample.defaults ["f:world_foods=2.5", "foods=1"]) ∧
      Engine.sample.KeepsConfig ∧ Engine.sample.defaults = Engine.Sample.defaults ∧
      Session.start Engine.sample Engine.Sample.defaults true = .ok s ∧
      (KeepsKinds Engine.Sample.defaults (s.after [.line "r i:food_size=1"]).config ↔
        InKeeping Engine.Sample.defaults (s.history [.line "r i:food_size=1"]).lastOverrides) := by
  obtain ⟨hbuild, hsession⟩ := keepsKinds_iff Engine.Sample.defaults
  exact ⟨_, _, rfl, hbuild _ _ rfl, Engine.Sample.keepsConfig, rfl, rfl,
    hsession Engine.sample true _ Engine.Sample.keepsConfig rfl rfl _⟩

/-- Arguments turn an integer field into one with a float and a float field into one with an integer, and a reset
installs the outcome. -/
theorem exists_build_kind_ne :
    (∃ c, Engine.Sample.defaults.build ["f:world_foods=0", "i:food_size=1"] = .ok c ∧
      Engine.Sample.defaults.kind "world_foods" = .ok .whole ∧ c.kind "world_foods" = .ok .real ∧
      Engine.Sample.defaults.kind "food_size" = .ok .real ∧ c.kind "food_size" = .ok .whole) ∧
    ∃ s, Session.start Engine.sample Engine.sample.defaults true = .ok s ∧
      ¬ KeepsKinds Engine.sample.defaults (s.after [.line "r f:world_foods=0"]).config := by
  refine ⟨⟨_, rfl, rfl, rfl, rfl, rfl⟩, _, rfl, fun h => ?_⟩
  have key := h "world_foods" (by decide +kernel)
  cases key

end Config

end Aviary
