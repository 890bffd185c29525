import Mathlib.Data.List.Basic
import Aviary.CommandLine
import Aviary.Proofs.Literal

/-!
# What the arguments mean

The arguments fall into items from left to right (`Cuts`): a flag that takes a value with the argument behind it, an
argument that stands alone, or an argument that is not known.  Some items stop the scan (`Item.Stops`); without one,
each setting is what the last item about it tells (`Gathers`).  What the scan makes of one item is `scan_item`, and what
it makes of all of them is `scan_of_stops` and `scan_of_passes`.
-/

namespace Aviary

/-- Text is cut in two where a character stands for the first time. -/
theorem Text.cut_append {c : Char} {before : List Char} (h : c ∉ before) (after : List Char) :
    (before ++ c :: after).takeWhile (· != c) = before ∧ (before ++ c :: after).dropWhile (· != c) = c :: after := by
  have hkeep : ∀ d ∈ before, (d != c) = true := fun d hd => by
    rw [bne_iff_ne]
    rintro rfl
    exact h hd
  rw [List.takeWhile_append_of_pos hkeep, List.dropWhile_append_of_pos hkeep]
  simp

namespace CommandLine

/-! ### Items -/

/-- What one or two arguments are for. -/
inductive Item where
  | engine (path : String)
  | window (size : String)
  | train (count : String)
  | list
  | help
  | scenario (key : String)
  | unknown (arg : String)
  deriving DecidableEq

/-- Whether an argument is a flag for the argument behind it. -/
def TakesValue (arg : String) : Prop := arg = "--engine" ∨ arg = "--window" ∨ arg = "--train"

/-- Whether an argument is known and needs none behind it. -/
def StandsAlone (arg : String) : Prop :=
  arg = "--list" ∨ arg = "--help" ∨ arg = "-h" ∨ (Scenario.find? arg).isSome

instance (arg : String) : Decidable (TakesValue arg) := by unfold TakesValue; infer_instance

instance (arg : String) : Decidable (StandsAlone arg) := by unfold StandsAlone; infer_instance

/-- Whether arguments fall into items from left to right.  A value is taken as it is, even if it looks like a flag. -/
inductive Cuts : List String → List Item → Prop
  | nil : Cuts [] []
  | engine {path : String} {rest : List String} {items : List Item} (h : Cuts rest items) :
      Cuts ("--engine" :: path :: rest) (.engine path :: items)
  | window {size : String} {rest : List String} {items : List Item} (h : Cuts rest items) :
      Cuts ("--window" :: size :: rest) (.window size :: items)
  | train {count : String} {rest : List String} {items : List Item} (h : Cuts rest items) :
      Cuts ("--train" :: count :: rest) (.train count :: items)
  | list {rest : List String} {items : List Item} (h : Cuts rest items) : Cuts ("--list" :: rest) (.list :: items)
  | help {arg : String} {rest : List String} {items : List Item} (ha : arg = "--help" ∨ arg = "-h")
      (h : Cuts rest items) : Cuts (arg :: rest) (.help :: items)
  | scenario {key : String} {rest : List String} {items : List Item} (hk : (Scenario.find? key).isSome = true)
      (h : Cuts rest items) : Cuts (key :: rest) (.scenario key :: items)
  | unknown {arg : String} {rest : List String} {items : List Item} (hv : TakesValue arg → rest = [])
      (ha : ¬ StandsAlone arg) (h : Cuts rest items) : Cuts (arg :: rest) (.unknown arg :: items)

theorem exists_cuts (args : List String) : ∃ items, Cuts args items := by
  induction h : args.length using Nat.strong_induction_on generalizing args with
  | _ n ih =>
    obtain _ | ⟨arg, rest⟩ := args
    · exact ⟨[], .nil⟩
    · have hlength : rest.length + 1 = n := h
      obtain ⟨items, hitems⟩ := ih rest.length (by omega) rest rfl
      by_cases hv : TakesValue arg ∧ rest ≠ []
      · -- two arguments make one item
        obtain ⟨htakes, hrest⟩ := hv
        obtain _ | ⟨value, rest⟩ := rest
        · exact absurd rfl hrest
        · rw [List.length_cons] at hlength
          obtain ⟨items, hitems⟩ := ih rest.length (by omega) rest rfl
          rcases htakes with rfl | rfl | rfl
          · exact ⟨_, .engine hitems⟩
          · exact ⟨_, .window hitems⟩
          · exact ⟨_, .train hitems⟩
      · by_cases ha : StandsAlone arg
        · rcases ha with rfl | hhelp | hhelp | hkey
          · exact ⟨_, .list hitems⟩
          · exact ⟨_, .help (.inl hhelp) hitems⟩
          · exact ⟨_, .help (.inr hhelp) hitems⟩
          · exact ⟨_, .scenario hkey hitems⟩
        · exact ⟨_, .unknown (fun htakes => by simpa [htakes] using hv) ha hitems⟩

/-! ### Sizes -/

/-- Whether a text is two integers with one `x` between them. -/
def Measures (size : String) (width height : Int) : Prop :=
  ∃ before after, size.toList.splitOn 'x' = [before, after] ∧ Literal.integer? before = some width ∧
    Literal.integer? after = some height

private theorem size?_eq_some_iff {size : String} {width height : Int} :
    size? size = some (width, height) ↔ Measures size width height := by
  have hx : ∀ {cs : List Char} {n : Int}, Literal.integer? cs = some n → 'x' ∉ cs := by
    intro cs n hn hmem
    have hcases := Literal.mem_of_integer? hn 'x' hmem
    revert hcases
    decide +kernel
  constructor
  · intro h
    have hcut := List.takeWhile_append_dropWhile (p := (· != 'x')) (l := size.toList)
    unfold size? at h
    generalize size.toList.takeWhile (· != 'x') = before at h hcut
    split at h
    · cases h
    · rename_i c after hdrop
      have hc : c = 'x' := by
        have hhead := List.head?_dropWhile_not (· != 'x') size.toList
        rw [hdrop] at hhead
        simpa using hhead
      subst hc
      simp only [Option.bind_eq_bind, Option.bind_eq_some_iff, Option.pure_def, Option.some.injEq,
        Prod.mk.injEq] at h
      obtain ⟨_, hbefore, _, hafter, rfl, rfl⟩ := h
      refine ⟨before, after, ?_, hbefore, hafter⟩
      rw [← hcut, hdrop, List.splitOn_append_cons_self_of_not_mem (hx hbefore), List.splitOn_eq_singleton (hx hafter)]
  · rintro ⟨before, after, hsplit, hbefore, hafter⟩
    have hsize : size.toList = before ++ 'x' :: after := by
      have hjoin : ['x'].intercalate (size.toList.splitOn 'x') = size.toList := List.intercalate_splitOn 'x'
      rw [← hjoin, hsplit]
      simp
    obtain ⟨htake, hdrop⟩ := Text.cut_append (hx hbefore) after
    unfold size?
    rw [hsize, hdrop, htake]
    simp [hbefore, hafter]

private theorem size?_eq_none_iff {size : String} :
    size? size = none ↔ ∀ width height, ¬ Measures size width height := by
  rw [Option.eq_none_iff_forall_ne_some, Prod.forall]
  exact forall₂_congr fun width height => not_congr size?_eq_some_iff

/-! ### Items that stop the scan -/

/-- Whether the scan ends at an item, with some lines to print and an exit status. -/
inductive Item.Stops : Item → List String → Nat → Prop
  | help : Stops .help CommandLine.help 0
  | window {size : String} (h : ∀ width height, ¬ Measures size width height) :
      Stops (.window size) ["Invalid window size: " ++ size ++ " (expected WxH, e.g. 800x800)"] 2
  | train {count : String} (h : Literal.integer? count.toList = none) :
      Stops (.train count) ["Invalid generation count: " ++ count] 2
  | unknown {arg : String} :
      Stops (.unknown arg) ["Unknown argument: " ++ arg, "Use --list to see available scenarios"] 2

def Item.Passes (item : Item) : Prop := ∀ lines status, ¬ item.Stops lines status

theorem Item.passes_window {size : String} :
    (Item.window size).Passes ↔ ∃ width height, size? size = some (width, height) := by
  cases hsize : size? size with
  | none => exact iff_of_false (fun h => h _ _ (.window (size?_eq_none_iff.1 hsize))) (by simp)
  | some measures =>
    refine iff_of_true (fun lines status hstops => ?_) ⟨_, _, rfl⟩
    cases hstops with
    | window hno =>
      rw [size?_eq_none_iff.2 hno] at hsize
      cases hsize

theorem Item.passes_train {count : String} :
    (Item.train count).Passes ↔ ∃ n, Literal.integer? count.toList = some n := by
  cases hcount : Literal.integer? count.toList with
  | none => exact iff_of_false (fun h => h _ _ (.train hcount)) (by simp)
  | some n =>
    refine iff_of_true (fun lines status hstops => ?_) ⟨n, rfl⟩
    cases hstops with
    | train hno =>
      rw [hno] at hcount
      cases hcount

/-- What an item makes of the settings. -/
def Settings.take (s : Settings) : Item → Settings
  | .engine path => { s with enginePath := path }
  | .window size =>
    match size? size with
    | some (width, height) => { s with width, height }
    | none => s
  | .train count =>
    match Literal.integer? count.toList with
    | some train => { s with train }
    | none => s
  | .list => { s with list := true }
  | .scenario key => { s with scenario := some key }
  | .help | .unknown _ => s

private theorem scan_cons {arg : String} {rest : List String} (hv : TakesValue arg → rest = []) (s : Settings) :
    scan s (arg :: rest) =
      if arg = "--list" then scan { s with list := true } rest
      else if arg = "--help" || arg = "-h" then .stop help 0
      else if (Scenario.find? arg).isSome then scan { s with scenario := some arg } rest
      else .stop ["Unknown argument: " ++ arg, "Use --list to see available scenarios"] 2 := by
  rw [scan]
  · rintro path rest rfl rfl
    exact absurd (hv (.inl rfl)) (List.cons_ne_nil _ _)
  · rintro size rest rfl rfl
    exact absurd (hv (.inr (.inl rfl))) (List.cons_ne_nil _ _)
  · rintro count rest rfl rfl
    exact absurd (hv (.inr (.inr rfl))) (List.cons_ne_nil _ _)

private theorem not_flag_of_find? {key : String} (h : (Scenario.find? key).isSome = true) :
    ¬ TakesValue key ∧ key ≠ "--list" ∧ ¬ (key = "--help" ∨ key = "-h") := by
  have hall : ∀ key ∈ Scenario.all.map (·.key),
      ¬ TakesValue key ∧ key ≠ "--list" ∧ ¬ (key = "--help" ∨ key = "-h") := by decide +kernel
  obtain ⟨s, hs⟩ := Option.isSome_iff_exists.1 h
  have hname : s.key = key := by simpa using List.find?_some hs
  exact hall key (List.mem_map.2 ⟨s, List.mem_of_find?_eq_some hs, hname⟩)

/-- One item of the scan: it stops it, or the scan goes on behind it. -/
theorem scan_item {args : List String} {item : Item} {items : List Item} (h : Cuts args (item :: items)) :
    ∃ rest, Cuts rest items ∧ ∀ s,
      (∀ lines status, item.Stops lines status → scan s args = .stop lines status) ∧
      (item.Passes → scan s args = scan (s.take item) rest) := by
  cases h with
  | @engine path rest _ h => exact ⟨rest, h, fun s => ⟨nofun, fun _ => rfl⟩⟩
  | @window size rest _ h =>
    refine ⟨rest, h, fun s => ⟨?_, fun hp => ?_⟩⟩
    · intro lines status hstops
      cases hstops with
      | window hno => simp only [scan, size?_eq_none_iff.2 hno]
    · obtain ⟨width, height, hsize⟩ := Item.passes_window.1 hp
      simp only [scan, Settings.take, hsize]
  | @train count rest _ h =>
    refine ⟨rest, h, fun s => ⟨?_, fun hp => ?_⟩⟩
    · intro lines status hstops
      cases hstops with
      | train hcount => simp only [scan, hcount]
    · obtain ⟨n, hn⟩ := Item.passes_train.1 hp
      simp only [scan, Settings.take, hn]
  | @list rest _ h => exact ⟨rest, h, fun s => ⟨nofun, fun _ => rfl⟩⟩
  | @help arg rest _ ha h =>
    refine ⟨rest, h, fun s => ⟨?_, fun hp => absurd .help (hp _ _)⟩⟩
    rintro lines status ⟨⟩
    rcases ha with rfl | rfl <;> rfl
  | @scenario key rest _ hk h =>
    refine ⟨rest, h, fun s => ⟨nofun, fun _ => ?_⟩⟩
    obtain ⟨hv, hlist, hhelp⟩ := not_flag_of_find? hk
    rw [scan_cons (fun htakes => absurd htakes hv)]
    simp [hlist, hhelp, hk, Settings.take]
  | @unknown arg rest _ hv ha h =>
    refine ⟨rest, h, fun s => ⟨?_, fun hp => absurd .unknown (hp _ _)⟩⟩
    rintro lines status ⟨⟩
    unfold StandsAlone at ha
    rw [scan_cons hv]
    simp_all

/-- The first item that stops the scan decides, whatever stands behind it. -/
theorem scan_of_stops {args : List String} {before after : List Item} {item : Item} {lines : List String}
    {status : Nat} (h : Cuts args (before ++ item :: after)) (hb : ∀ i ∈ before, i.Passes)
    (hi : item.Stops lines status) (s : Settings) : scan s args = .stop lines status := by
  induction before generalizing args s with
  | nil =>
    obtain ⟨rest, -, hscan⟩ := scan_item h
    exact (hscan s).1 lines status hi
  | cons first before ih =>
    obtain ⟨hfirst, hbefore⟩ := List.forall_mem_cons.1 hb
    obtain ⟨rest, hrest, hscan⟩ := scan_item h
    rw [(hscan s).2 hfirst]
    exact ih hrest hbefore _

theorem scan_of_passes {args : List String} {items : List Item} (h : Cuts args items) (hp : ∀ i ∈ items, i.Passes)
    (s : Settings) : scan s args = .proceed (items.foldl Settings.take s) := by
  induction items generalizing args s with
  | nil =>
    cases h
    rfl
  | cons item items ih =>
    obtain ⟨hitem, hitems⟩ := List.forall_mem_cons.1 hp
    obtain ⟨rest, hrest, hscan⟩ := scan_item h
    rw [(hscan s).2 hitem]
    exact ih hrest hitems _

theorem passes_or_exists_stops (items : List Item) :
    (∀ i ∈ items, i.Passes) ∨ ∃ before item after lines status, items = before ++ item :: after ∧
      (∀ i ∈ before, i.Passes) ∧ item.Stops lines status := by
  induction items with
  | nil => exact .inl (List.forall_mem_nil _)
  | cons item items ih =>
    by_cases hitem : item.Passes
    · obtain hall | ⟨before, i, after, lines, status, rfl, hbefore, hi⟩ := ih
      · exact .inl (List.forall_mem_cons.2 ⟨hitem, hall⟩)
      · exact .inr ⟨item :: before, i, after, lines, status, rfl, List.forall_mem_cons.2 ⟨hitem, hbefore⟩, hi⟩
    · unfold Item.Passes at hitem
      push Not at hitem
      obtain ⟨lines, status, hi⟩ := hitem
      exact .inr ⟨[], item, items, lines, status, rfl, List.forall_mem_nil _, hi⟩

/-! ### Settings -/

/-- Whether a value is what the last of the items that tell anything tells, or else the one that holds at the start. -/
inductive Latest {α : Type} (tells : Item → α → Prop) (start : α) (items : List Item) : α → Prop
  | told {before after : List Item} {item : Item} {value : α} (hi : items = before ++ item :: after)
      (h : tells item value) (ha : ∀ other ∈ after, ∀ v, ¬ tells other v) : Latest tells start items value
  | untold (h : ∀ item ∈ items, ∀ v, ¬ tells item v) : Latest tells start items start

section Latest

variable {α : Type} {tells : Item → α → Prop} {start value value' : α} {items : List Item}

theorem Latest.exists_or_eq (h : Latest tells start items value) :
    (∃ item ∈ items, tells item value) ∨ value = start := by
  cases h with
  | told hi h _ => exact .inl ⟨_, by simp [hi], h⟩
  | untold _ => exact .inr rfl

private theorem Latest.unique (ht : ∀ item v v', tells item v → tells item v' → v = v')
    (h : Latest tells start items value) (h' : Latest tells start items value') : value = value' := by
  cases h with
  | untold hno =>
    cases h' with
    | untold _ => rfl
    | told hi' h' _ => exact absurd h' (hno _ (by simp [hi']) _)
  | @told before after item _ hi h ha =>
    cases h' with
    | untold hno => exact absurd h (hno _ (by simp [hi]) _)
    | @told before' after' item' _ hi' h' ha' =>
      -- of two items that tell something, the one behind the other would tell something after the last
      rcases List.append_eq_append_iff.1 (hi.symm.trans hi') with ⟨gap, rfl, heq⟩ | ⟨gap, rfl, heq⟩
      · cases gap with
        | nil =>
          obtain ⟨rfl, -⟩ := List.cons.inj heq
          exact ht _ _ _ h h'
        | cons first gap =>
          obtain ⟨-, rfl⟩ := List.cons.inj heq
          exact absurd h' (ha item' (by simp) _)
      · cases gap with
        | nil =>
          obtain ⟨rfl, -⟩ := List.cons.inj heq
          exact ht _ _ _ h h'
        | cons first gap =>
          obtain ⟨-, rfl⟩ := List.cons.inj heq
          exact absurd h (ha' item (by simp) _)

/-- What each item either sets or leaves alone is in the end what the last item tells. -/
private theorem latest_foldl {f : Settings → α}
    (h : ∀ s item, tells item (f (s.take item)) ∨ (∀ v, ¬ tells item v) ∧ f (s.take item) = f s)
    (s : Settings) (items : List Item) : Latest tells (f s) items (f (items.foldl Settings.take s)) := by
  -- from the last item on, as it is the one that counts
  induction items using List.reverseRecOn with
  | nil => exact .untold (List.forall_mem_nil _)
  | append_singleton items item ih =>
    rw [List.foldl_append, List.foldl_cons, List.foldl_nil]
    obtain htells | ⟨hsilent, hkeep⟩ := h (items.foldl Settings.take s) item
    · exact .told rfl htells (List.forall_mem_nil _)
    · rw [hkeep]
      generalize f (items.foldl Settings.take s) = value at ih
      have hlast : ∀ other ∈ [item], ∀ v, ¬ tells other v := List.forall_mem_singleton.2 hsilent
      cases ih with
      | @told before after last _ hi hv ha =>
        have hi' : items ++ [item] = before ++ last :: (after ++ [item]) := by
          rw [hi, List.append_assoc, List.cons_append]
        exact .told hi' hv (List.forall_mem_append.2 ⟨ha, hlast⟩)
      | untold hno => exact .untold (List.forall_mem_append.2 ⟨hno, hlast⟩)

end Latest

/-- Whether the settings are what the items ask for. -/
structure Gathers (items : List Item) (s : Settings) : Prop where
  engine : Latest (fun item path => item = .engine path) "lib_simulation:Simulation" items s.enginePath
  window : Latest (fun item (measures : Int × Int) => ∃ size, item = .window size ∧ Measures size measures.1 measures.2)
    (800, 800) items (s.width, s.height)
  train : Latest (fun item n => ∃ count, item = .train count ∧ Literal.integer? count.toList = some n) 0 items s.train
  scenario : Latest (fun item key? => ∃ key, item = .scenario key ∧ key? = some key) none items s.scenario
  list : s.list = true ↔ .list ∈ items

theorem gathers_foldl (items : List Item) : Gathers items (items.foldl Settings.take {}) where
  engine := by
    refine latest_foldl (f := Settings.enginePath) (fun s item => ?_) {} items
    cases item with
    | engine path => exact .inl rfl
    | window size => cases hsize : size? size <;> simp [Settings.take, hsize]
    | train count => cases hcount : Literal.integer? count.toList <;> simp [Settings.take, hcount]
    | list | help | scenario | unknown => exact .inr ⟨nofun, rfl⟩
  window := by
    refine latest_foldl (f := fun s => (s.width, s.height)) (fun s item => ?_) {} items
    cases item with
    | window size =>
      simp only [← size?_eq_some_iff]
      cases hsize : size? size <;> simp [Settings.take, hsize]
    | train count => cases hcount : Literal.integer? count.toList <;> simp [Settings.take, hcount]
    | engine | list | help | scenario | unknown => simp [Settings.take]
  train := by
    refine latest_foldl (f := Settings.train) (fun s item => ?_) {} items
    cases item with
    | window size => cases hsize : size? size <;> simp [Settings.take, hsize]
    | train count => cases hcount : Literal.integer? count.toList <;> simp [Settings.take, hcount]
    | engine | list | help | scenario | unknown => simp [Settings.take]
  scenario := by
    refine latest_foldl (f := Settings.scenario) (fun s item => ?_) {} items
    cases item with
    | window size => cases hsize : size? size <;> simp [Settings.take, hsize]
    | train count => cases hcount : Literal.integer? count.toList <;> simp [Settings.take, hcount]
    | engine | list | help | scenario | unknown => simp [Settings.take]
  list := by
    have key : ∀ s : Settings, (items.foldl Settings.take s).list = true ↔ s.list = true ∨ .list ∈ items := by
      induction items with
      | nil => simp
      | cons item items ih =>
        intro s
        rw [List.foldl_cons, ih, List.mem_cons, ← or_assoc]
        refine or_congr_left ?_
        cases item with
        | window size => cases hsize : size? size <;> simp [Settings.take, hsize]
        | train count => cases hcount : Literal.integer? count.toList <;> simp [Settings.take, hcount]
        | engine | list | help | scenario | unknown => simp [Settings.take]
    simpa using key {}

theorem Gathers.unique {items : List Item} {s t : Settings} (hs : Gathers items s) (ht : Gathers items t) : s = t := by
  have hengine := Latest.unique (by rintro _ _ _ rfl ⟨⟩; rfl) hs.engine ht.engine
  have hwindow := Latest.unique (by
    rintro _ ⟨w, h⟩ ⟨w', h'⟩ ⟨size, rfl, hm⟩ ⟨size', heq, hm'⟩
    obtain rfl := Item.window.inj heq
    exact Option.some.inj ((size?_eq_some_iff.2 hm).symm.trans (size?_eq_some_iff.2 hm'))) hs.window ht.window
  have htrain := Latest.unique (by
    rintro _ n n' ⟨count, rfl, hn⟩ ⟨count', heq, hn'⟩
    obtain rfl := Item.train.inj heq
    exact Option.some.inj (hn.symm.trans hn')) hs.train ht.train
  have hscenario := Latest.unique (by
    rintro _ _ _ ⟨key, rfl, rfl⟩ ⟨key', heq, rfl⟩
    obtain rfl := Item.scenario.inj heq
    rfl) hs.scenario ht.scenario
  have hlist : s.list = t.list := Bool.eq_iff_iff.2 (hs.list.trans ht.list.symm)
  obtain ⟨hwidth, hheight⟩ := Prod.mk.inj hwindow
  cases s
  cases t
  simp_all

end CommandLine

end Aviary
