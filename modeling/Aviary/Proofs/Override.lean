import Mathlib.Data.List.TakeWhile
import Aviary.Config.Override
import Aviary.Proofs.Literal

/-!
# What arguments mean

The meaning of a list of arguments, said without applying them one after the other.  An argument is cut at its first
equals sign (`Splits`), its name stands for a field (`Stands`), and so it gives the field a number (`Assigns`) or is
refused (`Refuses`).  Both depend on the names of the fields only, which no argument changes, so what becomes of an
argument does not depend on the arguments before it.  The key facts: a list of arguments that all apply gives every
field the number of the last argument about it, and any other list is refused as its first bad argument is
(`build_ends_or_refuses`).
-/

namespace Aviary.Config

/-- An argument, its name, and the text after its first equals sign if it has one. -/
inductive Splits : String → String → Option String → Prop
  | bare {name : String} (h : '=' ∉ name.toList) : Splits name name none
  | pair {name text : String} (h : '=' ∉ name.toList) : Splits (name ++ "=" ++ text) name (some text)

/-- The names for a field of `d`, with the kind of number that they announce. -/
inductive Stands (d : Config) : String → String → Kind → Prop
  | whole {field : String} (h : field ∈ d.names) : Stands d ("i:" ++ field) field .whole
  | real {field : String} (h : field ∈ d.names) : Stands d ("f:" ++ field) field .real
  | short {name field : String} (hs : (name, field) ∈ shortNames) (h : field ∈ d.names) :
      Stands d name field .whole

/-- An argument gives a field of `d` a number. -/
def Assigns (d : Config) (arg field : String) (value : Number) : Prop :=
  ∃ name text kind, Splits arg name (some text) ∧ Stands d name field kind ∧
    readValue? kind text.toList = some value

/-- An argument applies to `d`. -/
def Applies (d : Config) (arg : String) : Prop := ∃ field value, Assigns d arg field value

/-- Why an argument does not apply to `d`; a bad name goes before everything else. -/
inductive Refuses (d : Config) (arg : String) : Fault → Prop
  | unknown {name : String} {text? : Option String} (h : Splits arg name text?)
      (hn : ∀ field kind, ¬ Stands d name field kind) : Refuses d arg (.unknownParameter name)
  | missing {name field : String} {kind : Kind} (h : Splits arg name none) (hn : Stands d name field kind) :
      Refuses d arg (.missingValue name)
  | bad {name text field : String} {kind : Kind} (h : Splits arg name (some text)) (hn : Stands d name field kind)
      (hv : readValue? kind text.toList = none) : Refuses d arg (.badValue name kind text)

/-- What a field holds after arguments that apply to `d`: the number that the last argument about it gives, or its
`own` if there is no such argument. -/
inductive Ends (d : Config) (args : List String) (field : String) (own : Option Number) : Option Number → Prop
  | given {before after : List String} {arg : String} {value : Number} (e : args = before ++ arg :: after)
      (h : Assigns d arg field value) (hl : ∀ a ∈ after, ∀ v, ¬ Assigns d a field v) :
      Ends d args field own (some value)
  | kept (h : ∀ a ∈ args, ∀ v, ¬ Assigns d a field v) : Ends d args field own own

/-! ### Cutting an argument -/

private theorem splits_splitArgument (arg : String) :
    Splits arg (splitArgument arg).1 ((splitArgument arg).2.map String.ofList) := by
  have hname : '=' ∉ arg.toList.takeWhile (· != '=') := by
    intro h
    simpa using List.mem_takeWhile_imp h
  have hjoin := List.takeWhile_append_dropWhile (p := (· != '=')) (l := arg.toList)
  -- What is left after the name is empty if there is no equals sign, and starts with the first one otherwise.
  cases hd : arg.toList.dropWhile (· != '=') with
  | nil =>
    have e : String.ofList (arg.toList.takeWhile (· != '=')) = arg := by
      rw [hd, List.append_nil] at hjoin
      rw [hjoin, String.ofList_toList]
    have key : splitArgument arg = (arg, none) := by simp only [splitArgument, hd, e]
    rw [key]
    refine .bare ?_
    rw [← e, String.toList_ofList]
    exact hname
  | cons c rest =>
    have hc : c = '=' := by
      have := List.head_dropWhile_not (· != '=') (l := arg.toList) (by simp [hd])
      simpa [hd] using this
    subst hc
    have e : arg = String.ofList (arg.toList.takeWhile (· != '=')) ++ "=" ++ String.ofList rest := by
      rw [hd] at hjoin
      rw [← String.toList_inj]
      simp [hjoin]
    have key : splitArgument arg = (String.ofList (arg.toList.takeWhile (· != '=')), some rest) := by
      simp only [splitArgument, hd]
    rw [key]
    conv => arg 1; rw [e]
    exact .pair (by rwa [String.toList_ofList])

private theorem splits_iff {arg name : String} {text? : Option String} :
    Splits arg name text? ↔ splitArgument arg = (name, text?.map String.toList) := by
  constructor
  · intro h
    cases h with
    | bare h =>
      have ht : ∀ c ∈ arg.toList, (c != '=') = true := fun c hc => by
        simp only [bne_iff_ne]
        exact fun e => h (e ▸ hc)
      simp [splitArgument, List.takeWhile_eq_self_iff.2 ht, List.dropWhile_eq_nil_iff.2 ht]
    | @pair name text h =>
      have key := splitArgument_append h text.toList
      rwa [String.ofList_toList] at key
  · intro h
    have key := splits_splitArgument arg
    rw [h] at key
    cases text? <;> simpa using key

theorem Splits.unique {arg name name' : String} {text? text?' : Option String} (h : Splits arg name text?)
    (h' : Splits arg name' text?') : name = name' ∧ text? = text?' := by
  have e := (splits_iff.1 h).symm.trans (splits_iff.1 h')
  simp only [Prod.mk.injEq] at e
  exact ⟨e.1, Option.map_injective (fun _ _ => String.toList_injective) e.2⟩

/-! ### Names -/

private theorem target?_whole (field : String) : target? ("i:" ++ field) = some (field, .whole) := by
  simp [target?]

private theorem target?_real (field : String) : target? ("f:" ++ field) = some (field, .real) := by
  simp [target?]

private theorem target?_short : ∀ e ∈ shortNames, target? e.1 = some (e.2, .whole) := by
  -- No short name starts with a prefix, and none is listed twice.
  decide +kernel

private theorem target?_cases {name field : String} {kind : Kind} (h : target? name = some (field, kind)) :
    (name = "i:" ++ field ∧ kind = .whole) ∨ (name = "f:" ++ field ∧ kind = .real) ∨
      ((name, field) ∈ shortNames ∧ kind = .whole) := by
  unfold target? at h
  split at h
  · rename_i cs hn
    simp only [Option.some.injEq, Prod.mk.injEq] at h
    obtain ⟨rfl, rfl⟩ := h
    refine .inl ⟨?_, rfl⟩
    rw [← String.toList_inj, hn]
    simp
  · rename_i cs hn
    simp only [Option.some.injEq, Prod.mk.injEq] at h
    obtain ⟨rfl, rfl⟩ := h
    refine .inr (.inl ⟨?_, rfl⟩)
    rw [← String.toList_inj, hn]
    simp
  · simp only [Option.map_eq_some_iff, Prod.mk.injEq] at h
    obtain ⟨target, ht, rfl, rfl⟩ := h
    obtain ⟨before, after, e, -⟩ := List.lookup_eq_some_iff.1 ht
    exact .inr (.inr ⟨by simp [e], rfl⟩)

private theorem stands_iff {d : Config} {name field : String} {kind : Kind} :
    Stands d name field kind ↔ target? name = some (field, kind) ∧ field ∈ d.names := by
  constructor
  · intro h
    cases h with
    | whole h => exact ⟨target?_whole field, h⟩
    | real h => exact ⟨target?_real field, h⟩
    | short hs h => exact ⟨target?_short _ hs, h⟩
  · rintro ⟨ht, h⟩
    rcases target?_cases ht with ⟨rfl, rfl⟩ | ⟨rfl, rfl⟩ | ⟨hs, rfl⟩
    · exact .whole h
    · exact .real h
    · exact .short hs h

theorem Stands.unique {d : Config} {name field field' : String} {kind kind' : Kind}
    (h : Stands d name field kind) (h' : Stands d name field' kind') : field = field' ∧ kind = kind' := by
  have e := (stands_iff.1 h).1.symm.trans (stands_iff.1 h').1
  simpa using e

/-- A name is resolved to what it stands for, and is unknown if it stands for nothing. -/
private theorem resolve_cases (d : Config) (name : String) :
    (∃ field kind, Stands d name field kind ∧ d.resolve name = .ok (field, kind)) ∨
    ((∀ field kind, ¬ Stands d name field kind) ∧ d.resolve name = .error (.unknownParameter name)) := by
  unfold resolve
  cases ht : target? name with
  | none =>
    refine .inr ⟨fun field kind h => ?_, rfl⟩
    rw [(stands_iff.1 h).1] at ht
    cases ht
  | some target =>
    obtain ⟨field, kind⟩ := target
    by_cases hm : field ∈ d.names
    · exact .inl ⟨field, kind, stands_iff.2 ⟨ht, hm⟩, by simp [has_iff.2 hm]⟩
    · have hf : d.has field = false := by simpa [← has_iff] using hm
      refine .inr ⟨fun field' kind' h => ?_, by simp [hf]⟩
      obtain ⟨ht', hm'⟩ := stands_iff.1 h
      rw [ht] at ht'
      simp only [Option.some.injEq, Prod.mk.injEq] at ht'
      exact hm (ht'.1 ▸ hm')

/-! ### One argument -/

/-- An argument gives a field a number or is refused, and is read accordingly. -/
private theorem assignment_cases (d : Config) (arg : String) :
    (∃ field value, Assigns d arg field value ∧ d.assignment arg = .ok (field, value)) ∨
    (∃ fault, Refuses d arg fault ∧ d.assignment arg = .error fault) := by
  have hs := splits_splitArgument arg
  unfold assignment
  generalize splitArgument arg = parts at hs ⊢
  obtain ⟨name, text?⟩ := parts
  rcases resolve_cases d name with ⟨field, kind, hn, hr⟩ | ⟨hn, hr⟩
  · simp only [hr]
    cases text? with
    | none => exact .inr ⟨_, .missing hs hn, rfl⟩
    | some text =>
      cases hv : readValue? kind text with
      | none =>
        refine .inr ⟨_, .bad hs hn (by simpa using hv), ?_⟩
        simp [bind, Except.bind, hv]
      | some value =>
        refine .inl ⟨field, value, ⟨name, _, kind, hs, hn, by simpa using hv⟩, ?_⟩
        simp [bind, Except.bind, hv]
  · exact .inr ⟨_, .unknown hs hn, by simp [hr, bind, Except.bind]⟩

theorem Assigns.unique {d : Config} {arg field field' : String} {value value' : Number}
    (h : Assigns d arg field value) (h' : Assigns d arg field' value') : field = field' ∧ value = value' := by
  obtain ⟨name, text, kind, hs, hn, hv⟩ := h
  obtain ⟨name', text', kind', hs', hn', hv'⟩ := h'
  obtain ⟨rfl, e⟩ := hs.unique hs'
  obtain rfl : text = text' := by simpa using e
  obtain ⟨rfl, rfl⟩ := hn.unique hn'
  rw [hv] at hv'
  exact ⟨rfl, by simpa using hv'⟩

theorem Assigns.mem {d : Config} {arg field : String} {value : Number} (h : Assigns d arg field value) :
    field ∈ d.names := by
  obtain ⟨name, text, kind, hs, hn, hv⟩ := h
  exact (stands_iff.1 hn).2

private theorem Refuses.not_applies {d : Config} {arg : String} {fault : Fault} (h : Refuses d arg fault) :
    ¬ Applies d arg := by
  rintro ⟨field, value, name, text, kind, hs, hn, hv⟩
  cases h with
  | unknown h hn' =>
    obtain ⟨rfl, -⟩ := h.unique hs
    exact hn' _ _ hn
  | missing h _ => exact absurd (h.unique hs).2 (by simp)
  | bad h hn' hv' =>
    obtain ⟨rfl, e⟩ := h.unique hs
    obtain rfl := Option.some.inj e
    obtain ⟨-, rfl⟩ := hn'.unique hn
    rw [hv] at hv'
    cases hv'

private theorem Refuses.unique {d : Config} {arg : String} {fault fault' : Fault} (h : Refuses d arg fault)
    (h' : Refuses d arg fault') : fault = fault' := by
  cases h with
  | unknown hs hn =>
    cases h' with
    | unknown hs' _ => rw [(hs.unique hs').1]
    | missing hs' hn' => exact absurd ((hs.unique hs').1 ▸ hn') (hn _ _)
    | bad hs' hn' _ => exact absurd ((hs.unique hs').1 ▸ hn') (hn _ _)
  | missing hs hn =>
    cases h' with
    | unknown hs' hn' => exact absurd ((hs.unique hs').1 ▸ hn) (hn' _ _)
    | missing hs' _ => rw [(hs.unique hs').1]
    | bad hs' _ _ => exact absurd (hs.unique hs').2 (by simp)
  | bad hs hn hv =>
    cases h' with
    | unknown hs' hn' => exact absurd ((hs.unique hs').1 ▸ hn) (hn' _ _)
    | missing hs' _ => exact absurd (hs.unique hs').2 (by simp)
    | bad hs' hn' _ =>
      obtain ⟨rfl, e⟩ := hs.unique hs'
      rw [Option.some.inj e, (hn.unique hn').2]

/-- What an argument means depends on the names of the fields only. -/
private theorem assignment_congr {c d : Config} (h : c.names = d.names) (arg : String) :
    c.assignment arg = d.assignment arg := by
  have hr : c.resolve = d.resolve := by
    funext name
    unfold resolve has
    rw [h]
  unfold assignment
  rw [hr]

/-- An argument that gives a field a number does so to any configuration with the same fields. -/
private theorem override_of_assigns {c d : Config} {arg field : String} {value : Number} (hc : c.names = d.names)
    (h : Assigns d arg field value) : c.override arg = .ok (c.put field value) := by
  have hm : field ∈ c.names := hc ▸ h.mem
  rcases assignment_cases d arg with ⟨field', value', h', ha⟩ | ⟨fault, h', -⟩
  · obtain ⟨rfl, rfl⟩ := h.unique h'
    unfold override
    rw [assignment_congr hc, ha]
    exact set_eq_ok_iff.2 ⟨hm, rfl⟩
  · exact absurd ⟨field, value, h⟩ h'.not_applies

/-- An argument that is refused is refused by any configuration with the same fields, for the same reason. -/
private theorem override_of_refuses {c d : Config} {arg : String} {fault : Fault} (hc : c.names = d.names)
    (h : Refuses d arg fault) : c.override arg = .error fault := by
  rcases assignment_cases d arg with ⟨field, value, h', -⟩ | ⟨fault', h', ha⟩
  · exact absurd ⟨field, value, h'⟩ h.not_applies
  · obtain rfl := h.unique h'
    unfold override
    rw [assignment_congr hc, ha]
    rfl

private theorem exists_refuses {d : Config} {arg : String} (h : ¬ Applies d arg) : ∃ fault, Refuses d arg fault := by
  rcases assignment_cases d arg with ⟨field, value, h', -⟩ | ⟨fault, h', -⟩
  · exact absurd ⟨field, value, h'⟩ h
  · exact ⟨fault, h'⟩

private theorem names_override {d c : Config} {arg : String} (h : d.override arg = .ok c) : c.names = d.names := by
  unfold override at h
  cases ha : d.assignment arg with
  | error fault =>
    rw [ha] at h
    cases h
  | ok pair =>
    rw [ha] at h
    exact names_set h

/-! ### Arguments one after the other -/

private theorem build_cons_of_ok {c c' : Config} {arg : String} (h : c.override arg = .ok c') (args : List String) :
    c.build (arg :: args) = c'.build args := by
  unfold build
  rw [List.foldlM_cons, h]
  rfl

private theorem Ends.cons {d c : Config} {args : List String} {arg field : String} {value : Number}
    (h : Assigns d arg field value) (hm : field ∈ c.names) {other : String} {result : Option Number}
    (hr : Ends d args other ((c.put field value).get? other) result) :
    Ends d (arg :: args) other (c.get? other) result := by
  cases hr with
  | @given before after a v e ha hl =>
    exact .given (show arg :: args = (arg :: before) ++ a :: after by rw [e, List.cons_append]) ha hl
  | kept hk =>
    -- No later argument is about the field `other`, so only the one in front can be.
    by_cases ho : other = field
    · subst other
      rw [get?_put_self value hm]
      exact .given (show arg :: args = [] ++ arg :: args from rfl) h hk
    · rw [get?_put_of_ne value hm ho]
      refine .kept fun a ha v hv => ?_
      rcases List.mem_cons.1 ha with rfl | ha
      · exact ho (hv.unique h).1
      · exact hk a ha v hv

/-- Arguments that apply to `d` can be applied to any configuration with the same fields. -/
theorem build_of_applies {d c : Config} {args : List String} (hc : c.names = d.names)
    (h : ∀ arg ∈ args, Applies d arg) :
    ∃ e, c.build args = .ok e ∧ e.names = d.names ∧
      ∀ field, Ends d args field (c.get? field) (e.get? field) := by
  -- The configuration changes from argument to argument, its fields and their order do not: that carries the induction.
  induction args generalizing c with
  | nil => exact ⟨c, rfl, hc, fun field => .kept (by simp)⟩
  | cons arg args ih =>
    obtain ⟨field, value, ha⟩ := h arg List.mem_cons_self
    have hm : field ∈ c.names := hc ▸ ha.mem
    have hput : (c.put field value).names = d.names := (names_put_of_mem value hm).trans hc
    obtain ⟨e, he, hn, hends⟩ := ih hput fun a ha => h a (List.mem_cons_of_mem _ ha)
    refine ⟨e, ?_, hn, fun other => Ends.cons ha hm (hends other)⟩
    rw [build_cons_of_ok (override_of_assigns hc ha), he]

theorem names_build {d c : Config} {args : List String} (h : d.build args = .ok c) : c.names = d.names := by
  unfold build at h
  induction args generalizing d with
  | nil => rw [← Except.ok.inj h]
  | cons arg args ih =>
    rw [List.foldlM_cons] at h
    cases ho : d.override arg with
    | error fault =>
      rw [ho] at h
      cases h
    | ok e =>
      rw [ho] at h
      rw [ih h, names_override ho]

/-- Arguments can be applied up to the first that is refused, and that one ends it. -/
theorem build_of_refuses {d : Config} {before : List String} {arg : String} {fault : Fault}
    (hb : ∀ a ∈ before, Applies d a) (h : Refuses d arg fault) (after : List String) :
    d.build (before ++ arg :: after) = .error fault := by
  obtain ⟨e, he, hn, -⟩ := build_of_applies rfl hb
  unfold build at he ⊢
  rw [List.foldlM_append, he]
  show (arg :: after).foldlM override e = _
  rw [List.foldlM_cons, override_of_refuses hn h]
  rfl

theorem exists_first_refuses {d : Config} {args : List String} (h : ¬ ∀ a ∈ args, Applies d a) :
    ∃ before arg after fault, args = before ++ arg :: after ∧ (∀ a ∈ before, Applies d a) ∧
      Refuses d arg fault := by
  induction args with
  | nil => exact absurd (by simp) h
  | cons arg args ih =>
    by_cases ha : Applies d arg
    · obtain ⟨before, arg', after, fault, e, hb, hr⟩ := ih fun hn => h (List.forall_mem_cons.2 ⟨ha, hn⟩)
      exact ⟨arg :: before, arg', after, fault, by rw [e, List.cons_append], List.forall_mem_cons.2 ⟨ha, hb⟩, hr⟩
    · obtain ⟨fault, hr⟩ := exists_refuses ha
      exact ⟨[], arg, args, fault, rfl, by simp, hr⟩

/-- Arguments that all apply keep the fields and their order, and give each field the number of the last argument
about it.  Otherwise the first argument that does not apply is refused as it is when it stands alone. -/
theorem build_ends_or_refuses (d : Config) (args : List String) :
    ((∀ arg ∈ args, Applies d arg) →
      ∃ c, d.build args = .ok c ∧ c.names = d.names ∧
        ∀ field ∈ d.names, Ends d args field (d.get? field) (c.get? field)) ∧
    (∀ before arg after, args = before ++ arg :: after → (∀ a ∈ before, Applies d a) → ¬ Applies d arg →
      ∃ fault, Refuses d arg fault ∧ d.override arg = .error fault ∧ d.build args = .error fault) := by
  constructor
  · intro h
    obtain ⟨c, hc, hn, hends⟩ := build_of_applies rfl h
    exact ⟨c, hc, hn, fun field _ => hends field⟩
  · intro before arg after e hb ha
    obtain ⟨fault, hr⟩ := exists_refuses ha
    refine ⟨fault, hr, override_of_refuses rfl hr, ?_⟩
    rw [e]
    exact build_of_refuses hb hr after

/-- The last number given to a field counts, by whichever name. -/
example : ((ofList [("world_animals", .whole 4)]).build ["a=1", "i:world_animals=02"]).toOption.bind
    (·.get? "world_animals") = some (.whole 2) := by
  decide +kernel

/-! ### Spelled integers -/

/-- Whether an argument gives a field of `d` a number and nothing else: the fields, their order and the numbers of the
other fields are as they were. -/
def Overrides (d : Config) (arg field : String) (value : Number) : Prop :=
  ∃ c, d.override arg = .ok c ∧ c.names = d.names ∧ c.get? field = some value ∧
    ∀ other, other ≠ field → c.get? other = d.get? other

private theorem overrides_of_assigns {d : Config} {arg field : String} {value : Number}
    (h : Assigns d arg field value) : d.Overrides arg field value :=
  ⟨d.put field value, override_of_assigns rfl h, names_put_of_mem value h.mem, get?_put_self value h.mem,
    fun _ hne => get?_put_of_ne value h.mem hne⟩

private theorem overrides_of_integer? {d : Config} {name field text : String} {n : Int} (hname : '=' ∉ name.toList)
    (hn : Stands d name field .whole) (hread : Literal.integer? text.toList = some n) :
    d.Overrides (name ++ "=" ++ text) field (.whole n) := by
  have hvalue : readValue? .whole text.toList = some (.whole n) := by
    show (Literal.integer? text.toList).map Number.whole = _
    rw [hread]
    rfl
  exact overrides_of_assigns ⟨name, text, .whole, .pair hname, hn, hvalue⟩

/-- An integer field is given an integer by each of its spellings that has at most `maxDigits` digits, leading zeros
counted and underscores not, and by no other: a longer spelling is refused, and there is no new configuration.  So the
text that an integer is written with gives that integer back, unless it is too long. -/
theorem override_spelled {d : Config} {name field : String} (hname : '=' ∉ name.toList)
    (hn : Stands d name field .whole) :
    (∀ (text : String) (n : Int), Literal.Spells text.toList n →
      (Literal.digitCount text.toList ≤ Literal.maxDigits → d.Overrides (name ++ "=" ++ text) field (.whole n)) ∧
      (Literal.maxDigits < Literal.digitCount text.toList →
        d.override (name ++ "=" ++ text) = .error (.badValue name .whole text))) ∧
    ∀ n : Int, n.natAbs < 10 ^ Literal.maxDigits → d.Overrides (name ++ "=" ++ toString n) field (.whole n) := by
  refine ⟨fun text n hspells => ⟨fun hshort => ?_, fun hlong => ?_⟩, fun n hsmall => ?_⟩
  · have hread : Literal.integer? text.toList = some n := by rw [Literal.integer?_of_spells hspells, if_pos hshort]
    exact overrides_of_integer? hname hn hread
  · have hread : Literal.integer? text.toList = none := by
      rw [Literal.integer?_of_spells hspells, if_neg (Nat.not_le.2 hlong)]
    have hvalue : readValue? .whole text.toList = none := by
      show (Literal.integer? text.toList).map Number.whole = _
      rw [hread]
      rfl
    exact override_of_refuses rfl (.bad (.pair hname) hn hvalue)
  · exact overrides_of_integer? hname hn (Literal.integer?_toString hsmall)

private theorem numeral_zeros (k : Nat) : Literal.Numeral (List.replicate (k + 1) '0') 0 := by
  induction k with
  | zero => exact .digit rfl
  | succ k ih =>
    rw [List.replicate_succ']
    exact ih.next rfl

/-- A short name takes a spelling with a sign, leading zeros and an underscore; of zeros alone it takes as many as there
may be digits, and not one more. -/
theorem override_spelled_zeros :
    let d := ofList [("world_animals", .whole 4), ("world_foods", .whole 3)]
    let zeros (k : Nat) := String.ofList (List.replicate k '0')
    '=' ∉ "a".toList ∧ Stands d "a" "world_animals" .whole ∧
      d.Overrides ("a" ++ "=" ++ "-0_07") "world_animals" (.whole (-7)) ∧
      d.Overrides ("a" ++ "=" ++ zeros 4300) "world_animals" (.whole 0) ∧
      d.override ("a" ++ "=" ++ zeros 4301) = .error (.badValue "a" .whole (zeros 4301)) ∧
      d.Overrides ("a" ++ "=" ++ toString (-120 : Int)) "world_animals" (.whole (-120)) := by
  intro d zeros
  have hname : '=' ∉ "a".toList := by decide
  have hn : Stands d "a" "world_animals" .whole := .short (by decide) (by decide)
  have hcount : ∀ k, Literal.digitCount (zeros k).toList = k := by
    intro k
    rw [String.toList_ofList]
    exact (List.countP_replicate ..).trans (if_pos rfl)
  have hzeros : ∀ k, Literal.Spells (zeros (k + 1)).toList 0 := by
    intro k
    rw [String.toList_ofList]
    exact .plain (numeral_zeros k)
  have hseven : Literal.Spells "-0_07".toList (-7) := .minus (.next (.joined (.digit rfl) rfl) rfl)
  obtain ⟨hspelled, hwritten⟩ := override_spelled hname hn
  refine ⟨hname, hn, (hspelled _ _ hseven).1 (by decide), (hspelled _ _ (hzeros 4299)).1 ?_,
    (hspelled _ _ (hzeros 4300)).2 ?_, hwritten (-120) ?_⟩
  · rw [hcount]
    decide
  · rw [hcount]
    decide
  · exact Nat.lt_of_lt_of_le (by decide) (Nat.pow_le_pow_right (by decide) (by decide : 3 ≤ Literal.maxDigits))

end Aviary.Config
