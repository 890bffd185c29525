import Mathlib.Data.List.Basic
import Aviary.Proofs.Unattended

/-!
# How the program ends

Arguments that cannot be used are reported, and the program exits with a status.  Three things are not contained: a path
whose module name starts with a dot (`load_eq_relative_iff`), an entry of a module that is not an engine, and a window
of a size that there is no surface for.  If the first events of a window close it, these are all faults that a run can
end in (`Performs.exits_iff`).  The main statement is `exits_iff_of_cuts`.
-/

namespace Aviary

/-- Whether a path asks for something in the module of the given name, which starts with a dot. -/
def Relative (path name : String) : Prop :=
  ∃ item, path = name ++ ":" ++ item ∧ ':' ∉ name.toList ∧ name.toList.head? = some '.' ∧ item ≠ ""

namespace Catalogue

variable (catalogue : Catalogue)

private theorem descend_ne_relative {name : String} {parent : Module} {rest : List String} (other : String) :
    catalogue.descend name parent rest ≠ .error (.relative other) := by
  induction rest generalizing parent with
  | nil => nofun
  | cons next rest ih =>
    unfold descend
    split
    · nofun
    · split
      · nofun
      · exact ih

/-- A path is cut at its first colon. -/
private theorem load_append {name : String} (hcolon : ':' ∉ name.toList) (item : String) :
    let path := name ++ ":" ++ item
    (name = "" ∨ item = "") ∧ catalogue.load path = .error (.malformed path) ∨
    (name ≠ "" ∧ item ≠ "" ∧ name.toList.head? = some '.') ∧ catalogue.load path = .error (.relative name) ∨
    name.toList.head? ≠ some '.' ∧ ∀ other, catalogue.load path ≠ .error (.relative other) := by
  intro path
  have hpath : path.toList = name.toList ++ ':' :: item.toList := by simp [path]
  obtain ⟨htake, hdrop⟩ := Text.cut_append hcolon item.toList
  have hname : String.ofList (path.toList.takeWhile (· != ':')) = name := by
    rw [hpath, htake, String.ofList_toList]
  have hitem : String.ofList ((path.toList.dropWhile (· != ':')).drop 1) = item := by
    rw [hpath, hdrop, List.drop_one, List.tail_cons, String.ofList_toList]
  unfold load
  rw [hname, hitem]
  dsimp only
  split
  · rename_i hempty
    exact .inl ⟨by simpa using hempty, rfl⟩
  · rename_i hfull
    split
    · rename_i hdot
      simp only [Bool.or_eq_true, String.isEmpty_iff, not_or] at hfull
      exact .inr (.inl ⟨⟨hfull.1, hfull.2, hdot⟩, rfl⟩)
    · rename_i hdot
      refine .inr (.inr ⟨hdot, fun other => ?_⟩)
      split
      · rename_i fault hmodule
        rintro ⟨⟩
        exact catalogue.descend_ne_relative other hmodule
      · split <;> nofun

private theorem load_of_not_mem {path : String} (hcolon : ':' ∉ path.toList) :
    catalogue.load path = .error (.malformed path) := by
  have hdrop : path.toList.dropWhile (· != ':') = [] := by
    rw [List.dropWhile_eq_nil_iff]
    intro c hc
    rw [bne_iff_ne]
    rintro rfl
    exact hcolon hc
  unfold load
  rw [hdrop]
  simp

theorem load_eq_relative_iff {path name : String} :
    catalogue.load path = .error (.relative name) ↔ Relative path name := by
  constructor
  · intro h
    by_cases hcolon : ':' ∈ path.toList
    · obtain ⟨before, item, hpath, hbefore⟩ := List.eq_append_cons_of_mem hcolon
      obtain rfl : path = String.ofList before ++ ":" ++ String.ofList item := by
        rw [← String.toList_inj, hpath]
        simp
      have hbefore : ':' ∉ (String.ofList before).toList := by rwa [String.toList_ofList]
      obtain ⟨-, hload⟩ | ⟨⟨-, hitem, hdot⟩, hload⟩ | ⟨-, hload⟩ := catalogue.load_append hbefore (String.ofList item)
      · rw [hload] at h
        cases h
      · obtain rfl := LoadFault.relative.inj (Except.error.inj (hload.symm.trans h))
        exact ⟨_, rfl, hbefore, hdot, hitem⟩
      · exact absurd h (hload name)
    · rw [load_of_not_mem _ hcolon] at h
      cases h
  · rintro ⟨item, rfl, hcolon, hdot, hitem⟩
    obtain ⟨hempty | hempty, -⟩ | ⟨-, hload⟩ | ⟨hno, -⟩ := catalogue.load_append hcolon item
    · rw [hempty] at hdot
      cases hdot
    · exact absurd hempty hitem
    · exact hload
    · exact absurd hdot hno

end Catalogue

namespace CommandLine

open Window

/-- Whether a run ends with one of the exit statuses that there are. -/
def Report.Exits (r : Report) : Prop := ∃ status ≤ 2, r.outcome = .ok status

variable {catalogue : Catalogue} {display : Display} {s : Settings} {r : Report}

private theorem Report.exits_ofLines (lines : List Line) {status : Nat} (h : status ≤ 2) :
    (Report.ofLines lines (.ok status)).Exits := ⟨status, h, rfl⟩

private theorem Report.not_exits_of_error {fault : Fault} (h : r.outcome = .error fault) : ¬ r.Exits := by
  rintro ⟨status, -, hstatus⟩
  rw [h] at hstatus
  cases hstatus

private theorem Report.exits_ofFault {printed : List String} {fault : Fault} :
    (Report.ofFault printed fault).Exits ↔ fault.isRefusal = true := by
  unfold Report.ofFault
  split
  · rename_i h
    exact iff_of_true (Report.exits_ofLines _ (by decide)) h
  · rename_i h
    exact iff_of_false (Report.not_exits_of_error rfl) h

private theorem Report.exits_ofRun {E : Engine} {printed : List String} {call : Call Number} {run : Window.Run E} :
    (Report.ofRun printed call run).Exits ↔ run.fault = none := by
  unfold Report.Exits Report.ofRun
  cases run.fault with
  | none => exact iff_of_true ⟨0, by decide, rfl⟩ rfl
  | some fault => exact iff_of_false (by rintro ⟨_, -, h⟩; cases h) nofun

/-- What keeps a simulation from being started is reported. -/
private theorem isRefusal_of_start {E : Engine} {fault : Fault} (h : Session.start E E.defaults true = .error fault) :
    fault.isRefusal = true := by
  unfold Session.start at h
  split at h
  · obtain rfl := Except.error.inj h
    rfl
  · cases h

private theorem Item.Stops.status_eq {item : Item} {lines : List String} {status : Nat} (h : item.Stops lines status) :
    status = if item = .help then 0 else 2 := by
  cases h <;> rfl

section Containment

variable [Memory]

/-- Whether there are surfaces for a window: for its panel, for the screen and for the canvas. -/
structure Settings.Fits (s : Settings) : Prop where
  panel : ∃ size, Surface.size panelWidth s.height = .ok size
  screen : ∃ size, Surface.size (s.width + panelWidth) s.height = .ok size
  canvas : ∃ size, Surface.size s.width s.height = .ok size

/-- Whether all that goes wrong with some settings is reported. -/
structure Settings.Contained (s : Settings) (catalogue : Catalogue) : Prop where
  path : ∀ name, ¬ Relative s.enginePath name
  engine : ∀ entry fault, catalogue.load s.enginePath = .ok entry → entry.engine = .error fault →
    fault.isRefusal = true
  window : s.list = false → s.train ≤ 0 → ∀ (entry : Entry) (E : Engine) (session : Session E),
    catalogue.load s.enginePath = .ok entry → entry.Starts E session → s.Fits

private theorem Settings.contained_of_load_error {fault : LoadFault}
    (hload : catalogue.load s.enginePath = .error fault)
    (hpath : ∀ name, ¬ Relative s.enginePath name) : s.Contained catalogue where
  path := hpath
  engine entry _ hentry := by
    rw [hload] at hentry
    cases hentry
  window _ _ entry _ _ hentry := by
    rw [hload] at hentry
    cases hentry

private theorem Settings.contained_of_load {entry : Entry} (hload : catalogue.load s.enginePath = .ok entry)
    (hengine : ∀ fault, entry.engine = .error fault → fault.isRefusal = true)
    (hwindow : s.list = false → s.train ≤ 0 → ∀ (E : Engine) (session : Session E), entry.Starts E session → s.Fits) :
    s.Contained catalogue where
  path name hrelative := by
    rw [catalogue.load_eq_relative_iff.2 hrelative] at hload
    cases hload
  engine entry' fault hentry := by
    obtain rfl := Except.ok.inj (hload.symm.trans hentry)
    exact hengine fault
  window hl ht entry' E session hentry := by
    obtain rfl := Except.ok.inj (hload.symm.trans hentry)
    exact hwindow hl ht E session

/-- If a simulation is started, only the size of the window counts, and only if one is opened. -/
private theorem Settings.contained_of_starts {entry : Entry} {E : Engine} {session : Session E}
    (hload : catalogue.load s.enginePath = .ok entry) (hs : entry.Starts E session)
    (hwindow : s.list = false → s.train ≤ 0 → s.Fits) : s.Contained catalogue :=
  contained_of_load hload (fun fault hengine => absurd (.engine hengine) (hs.not_fails fault))
    fun hl ht _ _ _ => hwindow hl ht

/-- A run ends with an exit status if and only if all that goes wrong is reported. -/
theorem Performs.exits_iff (h : Performs catalogue display s r)
    (hclose : ∀ first ∈ display.events.head?, ∃ event ∈ first, event.closes = true) :
    r.Exits ↔ s.Contained catalogue := by
  cases h with
  | relative hload =>
    refine iff_of_false (Report.not_exits_of_error rfl) fun hc => ?_
    exact hc.path _ (catalogue.load_eq_relative_iff.1 hload)
  | unloaded hload hf =>
    refine iff_of_true (Report.exits_ofLines _ (by decide)) (Settings.contained_of_load_error hload ?_)
    intro name hrelative
    rw [catalogue.load_eq_relative_iff.2 hrelative] at hload
    exact hf name (Except.error.inj hload).symm
  | @unstarted entry fault hload hf =>
    rw [Report.exits_ofFault]
    constructor
    · intro hrefusal
      refine Settings.contained_of_load hload (fun fault' hengine => ?_) fun _ _ E session hs => ?_
      · cases hf with
        | engine h =>
          obtain rfl := Except.error.inj (hengine.symm.trans h)
          exact hrefusal
        | start h =>
          rw [hengine] at h
          cases h
      · exact absurd hf (hs.not_fails fault)
    · intro hc
      cases hf with
      | engine h => exact hc.engine entry fault hload h
      | start h hstart => exact isRefusal_of_start hstart
  | listed hload hs hl =>
    refine iff_of_true (Report.exits_ofLines _ (by decide)) (Settings.contained_of_starts hload hs fun hl' => ?_)
    rw [hl] at hl'
    cases hl'
  | trained hload hs _ ht =>
    refine iff_of_true (Report.exits_ofLines _ (by decide)) (Settings.contained_of_starts hload hs fun _ ht' => ?_)
    omega
  | unmade hload hs hl ht hw =>
    refine iff_of_false (Report.not_exits_of_error rfl) fun hc => ?_
    obtain ⟨size, hsize⟩ := (hc.window hl ht _ _ _ hload hs).panel
    rw [hw] at hsize
    cases hsize
  | @opened entry E session w call hload hs hl ht hw =>
    rw [Report.exits_ofRun, fault_run_iff hw hclose]
    constructor
    · rintro ⟨hscreen, hcanvas⟩
      exact Settings.contained_of_starts hload hs fun _ _ => ⟨exists_size_of_make hw, hscreen, hcanvas⟩
    · intro hc
      have hfits := hc.window hl ht _ _ _ hload hs
      exact ⟨hfits.screen, hfits.canvas⟩

/-- What does not load is reported, unless the module name starts with a dot. -/
private theorem Performs.eq_of_load_error (h : Performs catalogue display s r)
    (hpath : ∀ name, ¬ Relative s.enginePath name)
    (fault : LoadFault) (hload : catalogue.load s.enginePath = .error fault) :
    r = .ofTexts ["Could not load engine: " ++ fault.message] (.ok 1) := by
  cases h with
  | relative hload' => exact absurd (catalogue.load_eq_relative_iff.1 hload') (hpath _)
  | unloaded hload' =>
    obtain rfl := Except.error.inj (hload.symm.trans hload')
    rfl
  | unstarted hload' | listed hload' | trained hload' | unmade hload' | opened hload' =>
    rw [hload] at hload'
    cases hload'

/-- If its first events close a window that is opened, the program ends with an exit status if and only if all that goes
wrong is reported.  An argument that cannot be used is reported with status two, and a path that nothing is loaded from
with status one unless its module name starts with a dot. -/
theorem exits_iff_of_cuts (catalogue : Catalogue)
    (hclose : ∀ first ∈ display.events.head?, ∃ event ∈ first, event.closes = true) {args : List String}
    {items : List Item} (h : Cuts args items) :
    ((run catalogue display args).Exits ↔
      ((∀ i ∈ items, i.Passes) → ∀ s, Gathers items s → s.Contained catalogue)) ∧
    (∀ before item after lines status, items = before ++ item :: after → (∀ i ∈ before, i.Passes) →
      item.Stops lines status →
        run catalogue display args = .ofTexts lines (.ok status) ∧ status = if item = .help then 0 else 2) ∧
    ((∀ i ∈ items, i.Passes) → ∀ s, Gathers items s → (∀ name, ¬ Relative s.enginePath name) →
      ∀ fault, catalogue.load s.enginePath = .error fault →
        run catalogue display args = .ofTexts ["Could not load engine: " ++ fault.message] (.ok 1)) := by
  refine ⟨?_, ?_, fun hpass s hg => (performs_run catalogue display h hpass hg).eq_of_load_error⟩
  · obtain hpass | ⟨before, item, after, lines, status, rfl, hbefore, hitem⟩ := passes_or_exists_stops items
    · have hperforms := performs_run catalogue display h hpass (gathers_foldl items)
      rw [hperforms.exits_iff hclose]
      refine ⟨fun hc _ s hg => ?_, fun hc => hc hpass _ (gathers_foldl items)⟩
      rwa [hg.unique (gathers_foldl items)]
    · rw [run_of_stops catalogue display h hbefore hitem]
      refine iff_of_true (Report.exits_ofLines _ ?_) fun hpass => ?_
      · rw [hitem.status_eq]
        split <;> decide
      · exact absurd hitem (hpass item (by simp) lines status)
  · rintro before item after lines status rfl hbefore hitem
    exact ⟨run_of_stops catalogue display h hbefore hitem, hitem.status_eq⟩

end Containment

/-- There is no ghost in the module, and the size of the window does not matter. -/
theorem exits_iff_of_cuts_ghost :
    let args := ["--window", "-1x1", "--engine", "scripted:Ghost"]
    let items : List Item := [.window "-1x1", .engine "scripted:Ghost"]
    (∀ first ∈ Display.still.events.head?, ∃ event ∈ first, event.closes = true) ∧ Cuts args items ∧
      (run (.scripted wasteland) .still args).Exits ∧
      run (.scripted wasteland) .still args =
        .ofTexts ["Could not load engine: module 'scripted' has no engine 'Ghost'"] (.ok 1) := by
  intro args items
  have hclose : ∀ first ∈ Display.still.events.head?, ∃ event ∈ first, event.closes = true := nofun
  have hcuts : Cuts args items := .window (.engine .nil)
  have hpass : ∀ i ∈ items, i.Passes := by
    simp only [items, List.forall_mem_cons, Item.passes_window]
    exact ⟨⟨-1, 1, by decide +kernel⟩, nofun, List.forall_mem_nil _⟩
  have hgathers : Gathers items { enginePath := "scripted:Ghost", width := -1, height := 1 } := gathers_foldl items
  have hload : (Catalogue.scripted wasteland).load "scripted:Ghost" = .error (.missingName "scripted" "Ghost") := rfl
  have hpath : ∀ name, ¬ Relative "scripted:Ghost" name := by
    intro name hrelative
    rw [(Catalogue.scripted wasteland).load_eq_relative_iff.2 hrelative] at hload
    cases hload
  obtain ⟨hexits, -, hunloaded⟩ := exits_iff_of_cuts (.scripted wasteland) hclose hcuts
  refine ⟨hclose, hcuts, hexits.2 fun _ s hg => ?_, hunloaded hpass _ hgathers hpath _ hload⟩
  obtain rfl := hg.unique hgathers
  exact Settings.contained_of_load_error hload hpath

/-- A path whose module name starts with a dot, an entry that is no engine, and a size that no surface has are not
reported. -/
theorem exists_not_exits :
    ¬ (run (.scripted wasteland) .still ["--engine", ".scripted:Engine"]).Exits ∧
    ¬ (run ⟨[⟨"settings", false, [⟨"DEFAULTS", "DEFAULTS", .error .notAnEngine⟩]⟩]⟩ .still
      ["--engine", "settings:DEFAULTS"]).Exits ∧
    ¬ (run (.scripted wasteland) .still ["--engine", "scripted:Engine", "--window", "-1x600"]).Exits := by
  refine ⟨?_, ?_, ?_⟩ <;> rintro ⟨status, -, h⟩
  · cases h
  · cases h
  · cases h

end CommandLine

end Aviary
