import Mathlib.Data.List.Basic
import Aviary.Proofs.Arguments
import Aviary.Proofs.Grammar
import Aviary.Proofs.Headless

/-!
# What the program does

With its arguments read, the program either cannot load an engine, cannot start a simulation, lists what can be
configured, trains without a window, or opens one.  What comes of each is said once (`Performs`, `performs_perform`).
The command that trains is a line that is read as it is meant (`ofLine_trainLine`), so training without a window prints
what the trainings give (`headless_of_start`).  The main statement is `run_of_args`.
-/

namespace Aviary

namespace Text

/-- A word goes on up to the next blank. -/
private theorem openingWord_append {word : List Char} (h : ∀ c ∈ word, isBlank c = false) (rest : List Char) :
    openingWord (word ++ rest) = (word ++ (openingWord rest).1, (openingWord rest).2) := by
  induction word with
  | nil => rfl
  | cons c word ih =>
    obtain ⟨hc, hword⟩ := List.forall_mem_cons.1 h
    simp [openingWord, hc, ih hword]

private theorem words_append_cons {word cs : List Char} {b : Char} (hne : word ≠ []) (h : ∀ c ∈ word, isBlank c = false)
    (hb : isBlank b = true) : words (word ++ b :: cs) = word :: words cs := by
  unfold words
  rw [openingWord_append h]
  simp [openingWord, consWord, hb, hne]

private theorem words_of_isBlank {word : List Char} (hne : word ≠ []) (h : ∀ c ∈ word, isBlank c = false) :
    words word = [word] := by
  have hopening := openingWord_append h []
  rw [List.append_nil] at hopening
  unfold words
  rw [hopening]
  simp [openingWord, consWord, hne]

end Text

/-! ### Engines that start -/

/-- Whether an entry of a module is an engine that builds a simulation from its defaults. -/
def Entry.Starts (entry : Entry) (E : Engine) (session : Session E) : Prop :=
  entry.engine = .ok E ∧ Session.start E E.defaults true = .ok session

/-- Whether an entry of a module is no engine, or one that does not build a simulation from its defaults. -/
inductive Entry.Fails (entry : Entry) : Fault → Prop
  | engine {fault : Fault} (h : entry.engine = .error fault) : Fails entry fault
  | start {E : Engine} {fault : Fault} (h : entry.engine = .ok E)
      (hs : Session.start E E.defaults true = .error fault) : Fails entry fault

private theorem Entry.starts_or_fails (entry : Entry) :
    (∃ (E : Engine) (session : Session E), entry.Starts E session) ∨ ∃ fault, entry.Fails fault := by
  cases he : entry.engine with
  | error fault => exact .inr ⟨fault, .engine he⟩
  | ok E =>
    cases hs : Session.start E E.defaults true with
    | error fault => exact .inr ⟨fault, .start he hs⟩
    | ok session => exact .inl ⟨E, session, he, hs⟩

theorem Entry.Starts.not_fails {entry : Entry} {E : Engine} {session : Session E} (hs : entry.Starts E session)
    (fault : Fault) : ¬ entry.Fails fault := by
  obtain ⟨hengine, hstart⟩ := hs
  rintro (hfail | ⟨hengine', hfail⟩)
  · rw [hengine] at hfail
    cases hfail
  · obtain rfl := Except.ok.inj (hengine.symm.trans hengine')
    rw [hstart] at hfail
    cases hfail

namespace CommandLine

open Window

variable {E : Engine}

/-! ### The command to train -/

private theorem toList_trainLine (n : Int) : (trainLine n).toList = "train".toList ++ ' ' :: (toString n).toList := by
  unfold trainLine
  rw [String.toList_append]
  rfl

theorem ofLine_trainLine {n : Int} (h : n.natAbs < 10 ^ Literal.maxDigits) :
    Command.ofLine (trainLine n) = .ok (.train n) := by
  have hname : "train".toList.all (fun c => !Text.isBlank c && c != '[' && c != ']') = true := by decide +kernel
  simp only [List.all_eq_true, Bool.and_eq_true, Bool.not_eq_true', bne_iff_ne] at hname
  have htokens : Command.tokens (trainLine n) = ["train", toString n] := by
    unfold Command.tokens
    rw [toList_trainLine, Text.words_append_cons (by decide) (fun c hc => (hname c hc).1.1) (by decide +kernel),
      Text.words_of_isBlank (Literal.toList_toString_ne_nil n) fun c => Literal.isBlank_of_mem_toString]
    simp
  have hbracket : ¬ Command.Bracketed (trainLine n) := by
    have hplain : ∀ c ∈ (trainLine n).toList, c ≠ '[' ∧ c ≠ ']' := by
      rw [toList_trainLine]
      refine List.forall_mem_append.2 ⟨fun c hc => ⟨(hname c hc).1.2, (hname c hc).2⟩,
        List.forall_mem_cons.2 ⟨by decide, fun c hc => ?_⟩⟩
      rcases Literal.mem_toString hc with rfl | hdigit
      · decide
      · constructor <;> rintro rfl <;> exact absurd hdigit (by decide)
    rintro (h | h)
    · exact (hplain _ h).1 rfl
    · exact (hplain _ h).2 rfl
  rw [Command.ofLine_of_not_bracketed hbracket, htokens]
  exact Command.ofWords_trainCount (.inr rfl) (Literal.integer?_toString h)

private theorem submission?_trainLine (n : Int) : submission? (trainLine n) = some (trainLine n) := by
  have htrim : Text.trim (trainLine n).toList = (trainLine n).toList := by
    rw [toList_trainLine]
    refine Text.trimBy_eq_self (fun c hc => ?_) (fun c hc => ?_)
    · obtain rfl : c = 't' := by simpa using hc.symm
      decide +kernel
    · rw [List.getLast?_append_cons, List.getLast?_cons_of_ne_nil (Literal.toList_toString_ne_nil n)] at hc
      exact Literal.isBlank_of_mem_toString (List.mem_of_mem_getLast? hc)
  unfold submission?
  rw [htrim]
  split
  · rename_i hnil
    rw [toList_trainLine] at hnil
    simp at hnil
  · rw [String.ofList_toList]

/-- Without a window, the scenario's command is entered and then the simulation is trained, and if the trainings fail,
they end early. -/
theorem headless_of_start {session : Session E} {n : Int} {scenario : Option String}
    (hstart : Session.start E E.defaults true = .ok session)
    (hs : ∀ key, scenario = some key → (Scenario.find? key).isSome = true)
    (hn : n.natAbs < 10 ^ Literal.maxDigits) :
    ∃ reply, (prepare session scenario).1.Trains n.toNat reply ∧
      headless E n scenario = .ok (reply.session, (prepare session scenario).2 ++
        ([some "", some ("$ " ++ trainLine n)] ++ reply.printed ++ Console.complaints reply.fault)) := by
  refine ⟨_, Session.trains_trainTimes (prepare session scenario).1 n.toNat, ?_⟩
  have hexecute : (prepare session scenario).1.execute (trainLine n) =
      (prepare session scenario).1.trainTimes n.toNat := by
    unfold Session.execute
    rw [ofLine_trainLine hn]
    rfl
  have hfeed : ∀ session : Session E, session.feed (trainLine n) = session.answer (trainLine n) := by
    intro session
    unfold Session.feed
    rw [submission?_trainLine]
  rw [headless_eq n hs, hstart, ← hexecute]
  simp only [hfeed]
  rfl

/-! ### What becomes of the settings -/

def listHeading : List String :=
  scenarioLines ++ ["", "Config fields (override with i:<field>=N or f:<field>=X):"]

def trainHeading (s : Settings) : List String :=
  ["Headless training: " ++ toString s.train ++ " generation(s)"
    ++ (match s.scenario with | none => "" | some key => ", scenario " ++ key)]

def windowHeading (s : Settings) : List String :=
  ["Starting Evolution Simulation", "  Engine: " ++ s.enginePath]
    ++ (match s.scenario with | none => [] | some key => ["  Scenario: " ++ key])
    ++ ["  Window: " ++ toString s.width ++ "x" ++ toString s.height, ""]

/-- What is printed before the engine is asked for anything. -/
def Settings.heading (s : Settings) : List String :=
  if s.list then listHeading else if 0 < s.train then trainHeading s else windowHeading s

/-- The report of a window that was made by a call and then run. -/
def Report.ofRun (printed : List String) (call : Call Number) (run : Window.Run E) : Report where
  printed := Line.ofTexts printed
  shown :=
    match run.batches with
    | [] => [[call]]
    | first :: rest => (call :: first) :: rest
  outcome :=
    match run.fault with
    | none => .ok 0
    | some fault => .error fault

/-- Whether the scenario is known, and the number of generations is one that can be typed. -/
structure Settings.Sound (s : Settings) : Prop where
  scenario : ∀ key, s.scenario = some key → (Scenario.find? key).isSome = true
  train : s.train.natAbs < 10 ^ Literal.maxDigits

variable {s : Settings} {entry : Entry}

private theorem Cuts.find?_isSome {args : List String} {items : List Item} (h : Cuts args items) {key : String}
    (hk : .scenario key ∈ items) : (Scenario.find? key).isSome = true := by
  induction h with
  | nil => cases hk
  | scenario hkey _ ih =>
    rcases List.mem_cons.1 hk with heq | hk
    · obtain rfl := Item.scenario.inj heq
      exact hkey
    · exact ih hk
  | engine _ ih | window _ ih | train _ ih | list _ ih | help _ _ ih | unknown _ _ _ ih =>
    exact ih (by simpa using hk)

/-- Settings that are read from arguments make sense. -/
private theorem Gathers.sound {args : List String} {items : List Item} (hg : Gathers items s) (h : Cuts args items) :
    s.Sound where
  scenario key hkey := by
    obtain ⟨item, hitem, key', rfl, heq⟩ | hnone := hg.scenario.exists_or_eq
    · obtain rfl := Option.some.inj (hkey.symm.trans heq)
      exact h.find?_isSome hitem
    · rw [hkey] at hnone
      cases hnone
  train := by
    obtain ⟨_, -, count, -, hcount⟩ | hzero := hg.train.exists_or_eq
    · exact Literal.natAbs_lt_of_integer? hcount
    · rw [hzero]
      exact Nat.pow_pos (by decide)

/-! Whatever is asked of it, an engine that fails is told in the same way. -/

private theorem list_of_fails {fault : Fault} (hf : entry.Fails fault) :
    list entry.engine = .ofFault listHeading fault := by
  unfold list
  cases hf with
  | engine h =>
    rw [h]
    rfl
  | start h hstart =>
    rw [h]
    dsimp only
    rw [hstart]
    rfl

private theorem train_of_fails {fault : Fault} (hf : entry.Fails fault) :
    train entry.engine s = .ofFault (trainHeading s) fault := by
  unfold train headless
  cases hf with
  | engine h =>
    rw [h]
    rfl
  | start h hstart =>
    rw [h]
    dsimp only
    rw [hstart]
    rfl

variable [Memory]

/-- What can come of the settings. -/
inductive Performs (catalogue : Catalogue) (display : Display) (s : Settings) : Report → Prop
  /-- A module name that starts with a dot is a fault that nothing contains. -/
  | relative {name : String} (h : catalogue.load s.enginePath = .error (.relative name)) :
      Performs catalogue display s (.ofTexts [] (.error (.relativeModule name)))
  | unloaded {fault : LoadFault} (h : catalogue.load s.enginePath = .error fault)
      (hf : ∀ name, fault ≠ .relative name) :
      Performs catalogue display s (.ofTexts ["Could not load engine: " ++ fault.message] (.ok 1))
  | unstarted {entry : Entry} {fault : Fault} (h : catalogue.load s.enginePath = .ok entry) (hf : entry.Fails fault) :
      Performs catalogue display s (.ofFault s.heading fault)
  | listed {entry : Entry} {E : Engine} {session : Session E} (h : catalogue.load s.enginePath = .ok entry)
      (hs : entry.Starts E session) (hl : s.list = true) :
      Performs catalogue display s (.ofTexts (s.heading ++ fieldLines E.defaults ++ [""]) (.ok 0))
  | trained {entry : Entry} {E : Engine} {session : Session E} {reply : Reply E}
      (h : catalogue.load s.enginePath = .ok entry) (hs : entry.Starts E session) (hl : s.list = false)
      (ht : 0 < s.train) (hr : (prepare session s.scenario).1.Trains s.train.toNat reply) :
      Performs catalogue display s
        (.ofLines (Line.ofTexts s.heading ++ ((prepare session s.scenario).2 ++
          ([some "", some ("$ " ++ trainLine s.train)] ++ reply.printed ++ Console.complaints reply.fault))) (.ok 0))
  | unmade {entry : Entry} {E : Engine} {session : Session E} {fault : Fault}
      (h : catalogue.load s.enginePath = .ok entry) (hs : entry.Starts E session) (hl : s.list = false)
      (ht : s.train ≤ 0) (hw : Surface.size panelWidth s.height = .error fault) :
      Performs catalogue display s (.ofTexts s.heading (.error fault))
  | opened {entry : Entry} {E : Engine} {session : Session E} {w : Window E} {call : Call Number}
      (h : catalogue.load s.enginePath = .ok entry) (hs : entry.Starts E session) (hl : s.list = false)
      (ht : s.train ≤ 0) (hw : Window.make E s.width s.height s.scenario = .ok (w, call)) :
      Performs catalogue display s (.ofRun s.heading call (w.run display.font display.time display.events))

private theorem Fault.isRefusal_of_size {width height : Int} {fault : Fault}
    (h : Surface.size width height = .error fault) : fault.isRefusal = false := by
  unfold Surface.size at h
  grind [Fault.isRefusal]

variable {catalogue : Catalogue} {display : Display}

private theorem openWindow_of_fails {fault : Fault} (hf : entry.Fails fault) :
    openWindow entry.engine s display = .ofFault (windowHeading s) fault := by
  unfold openWindow Window.make
  cases hf with
  | engine h =>
    rw [h]
    rfl
  | start h hstart =>
    rw [h]
    dsimp only
    rw [hstart]
    rfl

private theorem performs_list {session : Session E} (h : catalogue.load s.enginePath = .ok entry)
    (hs : entry.Starts E session) (hl : s.list = true) : Performs catalogue display s (list entry.engine) := by
  have hheading : s.heading = listHeading := if_pos hl
  have hreport : list entry.engine = .ofTexts (s.heading ++ fieldLines E.defaults ++ [""]) (.ok 0) := by
    unfold list
    rw [hs.1]
    dsimp only
    rw [hs.2, hheading]
    rfl
  rw [hreport]
  exact .listed h hs hl

private theorem performs_train {session : Session E} (hsound : s.Sound) (h : catalogue.load s.enginePath = .ok entry)
    (hs : entry.Starts E session) (hl : s.list = false) (ht : 0 < s.train) :
    Performs catalogue display s (train entry.engine s) := by
  have hheading : s.heading = trainHeading s := by
    unfold Settings.heading
    rw [hl, if_neg Bool.false_ne_true, if_pos ht]
  have hreport : ∀ last lines, headless E s.train s.scenario = .ok (last, lines) →
      train entry.engine s = .ofLines (Line.ofTexts s.heading ++ lines) (.ok 0) := by
    intro last lines hheadless
    unfold train
    rw [hs.1]
    dsimp only
    rw [hheadless, hheading]
    rfl
  obtain ⟨reply, hr, hheadless⟩ := headless_of_start hs.2 hsound.scenario hsound.train
  rw [hreport _ _ hheadless]
  exact .trained h hs hl ht hr

private theorem performs_openWindow {session : Session E} (h : catalogue.load s.enginePath = .ok entry)
    (hs : entry.Starts E session) (hl : s.list = false) (ht : s.train ≤ 0) :
    Performs catalogue display s (openWindow entry.engine s display) := by
  have hheading : s.heading = windowHeading s := by
    unfold Settings.heading
    rw [hl, if_neg Bool.false_ne_true, if_neg (Int.not_lt.2 ht)]
  obtain ⟨fault, hsize, hmake⟩ | ⟨w, call, hmake⟩ := make_of_start hs.2 s.width s.height s.scenario
  · have hreport : openWindow entry.engine s display = .ofTexts s.heading (.error fault) := by
      unfold openWindow
      rw [hs.1]
      dsimp only
      rw [hmake, hheading]
      exact if_neg (by simp [Fault.isRefusal_of_size hsize])
    rw [hreport]
    exact .unmade h hs hl ht hsize
  · have hreport : openWindow entry.engine s display =
        .ofRun s.heading call (w.run display.font display.time display.events) := by
      unfold openWindow
      rw [hs.1]
      dsimp only
      rw [hmake, hheading]
      rfl
    rw [hreport]
    exact .opened h hs hl ht hmake

theorem performs_perform (catalogue : Catalogue) (display : Display) (hsound : s.Sound) :
    Performs catalogue display s (perform catalogue display s) := by
  unfold perform
  cases h : catalogue.load s.enginePath with
  | error fault =>
    cases fault with
    | relative name => exact .relative h
    | malformed | missingModule | notPackage | missingName => exact .unloaded h nofun
  | ok entry =>
    dsimp only
    obtain ⟨E, session, hs⟩ | ⟨fault, hf⟩ := entry.starts_or_fails
    · split
      · rename_i hl
        exact performs_list h hs hl
      · rename_i hl
        have hl : s.list = false := Bool.eq_false_iff.2 hl
        split
        · rename_i ht
          exact performs_train hsound h hs hl ht
        · rename_i ht
          exact performs_openWindow h hs hl (Int.not_lt.1 ht)
    · have hreport : (if s.list then list entry.engine
          else if 0 < s.train then train entry.engine s
          else openWindow entry.engine s display) = .ofFault s.heading fault := by
        rw [list_of_fails hf, train_of_fails hf, openWindow_of_fails hf]
        unfold Settings.heading
        split
        · rfl
        · split <;> rfl
      rw [hreport]
      exact .unstarted h hf

/-! ### The whole program -/

theorem performs_run (catalogue : Catalogue) (display : Display) {args : List String} {items : List Item}
    (h : Cuts args items) (hp : ∀ i ∈ items, i.Passes) (hg : Gathers items s) :
    Performs catalogue display s (run catalogue display args) := by
  obtain rfl := (gathers_foldl items).unique hg
  unfold run
  rw [scan_of_passes h hp]
  exact performs_perform catalogue display (hg.sound h)

theorem run_of_stops (catalogue : Catalogue) (display : Display) {args : List String} {before after : List Item}
    {item : Item} {lines : List String} {status : Nat} (h : Cuts args (before ++ item :: after))
    (hb : ∀ i ∈ before, i.Passes) (hi : item.Stops lines status) :
    run catalogue display args = .ofTexts lines (.ok status) := by
  unfold run
  rw [scan_of_stops h hb hi]

/-- The arguments fall into items, and the first item that stops the scan decides: its lines are all that is printed,
whatever engines there are and whatever stands behind it.  If no item stops the scan, each setting is what the last
item about it says, and the program does what the settings ask for. -/
theorem run_of_args (catalogue : Catalogue) (display : Display) (args : List String) :
    (∃ items, Cuts args items) ∧ ∀ items, Cuts args items →
      (∀ before item after lines status, items = before ++ item :: after → (∀ i ∈ before, i.Passes) →
        item.Stops lines status → run catalogue display args = .ofTexts lines (.ok status)) ∧
      ((∀ i ∈ items, i.Passes) →
        ∃ s, Gathers items s ∧ Performs catalogue display s (run catalogue display args)) := by
  refine ⟨exists_cuts args, fun items hcuts => ⟨?_, fun hpass => ?_⟩⟩
  · rintro before item after lines status rfl hbefore hstops
    exact run_of_stops catalogue display hcuts hbefore hstops
  · have hgathers := gathers_foldl items
    exact ⟨_, hgathers, performs_run catalogue display hcuts hpass hgathers⟩

end CommandLine

end Aviary
