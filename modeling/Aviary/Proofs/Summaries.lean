import Aviary.Proofs.Arithmetic
import Aviary.Proofs.History
import Aviary.Proofs.Sample

/-!
# The summaries of the sample engine

A generation of the sample engine ends in a training or in the step of a frame, and either prints its summary.  What a
record tells of generations is said once (`Tells`, `tells_of_does`).  In the stretch of a history since a simulation
was installed the summaries are therefore those of its generations, from the first to the last that ended, each of them
once and in this order, and the age of the simulation counts the steps since the last of them (`numbered_history`).
-/

namespace Aviary

namespace Engine.Sample

open Config

/-- Whether a line starts as the summaries of generations do. -/
def isSummary : Line → Bool
  | some text => "generation ".toList.isPrefixOf text.toList
  | none => false

/-- The summaries among the lines that were printed, in order. -/
def summaries (records : History) : List Line := (records.flatMap (·.printed)).filter isSummary

/-- The records up to the last one that printed a summary.  If no record did, these are none, with no steps. -/
def untilSummary (records : History) : History := records.rdropWhile fun r => !r.printed.any isSummary

private theorem summaries_concat (records : History) (record : Record) :
    summaries (records ++ [record]) = summaries records ++ record.printed.filter isSummary := by
  simp [summaries]

private theorem untilSummary_concat (records : History) (record : Record) :
    untilSummary (records ++ [record]) =
      if record.printed.filter isSummary = [] then untilSummary records else records ++ [record] := by
  unfold untilSummary
  rw [List.rdropWhile_concat]
  simp [List.filter_eq_nil_iff]

def summaryLine (generation : Nat) : Line :=
  some ("generation " ++ toString generation ++ ": min=0.00, max=1.00, avg=0.50")

/-! ### Lines that are summaries, and lines that are not -/

private theorem isSummary_summaryLine (generation : Nat) : isSummary (summaryLine generation) = true := by
  simp [summaryLine, isSummary]

private theorem stepLines_summaryLine (generation : Nat) :
    Session.stepLines (.ok (summaryLine generation)) = [summaryLine generation] := by
  simp [Session.stepLines, Session.summaryLines, summaryLine]

private theorem filter_heading (text : String) : (Session.heading text).filter isSummary = [] := by
  simp [Session.heading, isSummary, Console.echo]

private theorem filter_complaints (fault? : Option Fault) : (Console.complaints fault?).filter isSummary = [] := by
  cases fault? <;> simp [Console.complaints, isSummary, Console.complaint]

private theorem filter_intersperse {lines : List Line} (h : ∀ line ∈ lines, isSummary line = true) :
    (lines.intersperse (some "")).filter isSummary = lines := by
  induction lines with
  | nil => rfl
  | cons line lines ih =>
    have hline := h line List.mem_cons_self
    have hlines := ih fun l hl => h l (List.mem_cons_of_mem _ hl)
    cases lines with
    | nil => simp [hline]
    | cons next lines =>
      have hblank : isSummary (some "") = false := rfl
      rw [List.intersperse_cons_cons, List.filter_cons, if_pos hline, List.filter_cons, hblank, hlines]
      rfl

/-! ### What a record tells of generations -/

/-- What a step can come to: the end of the generation, or one more tick of it, if it is still younger than
generations get. -/
inductive Ticks (s : State) : Except Fault (Option String) × State → Prop
  | ended : Ticks s (.ok (summaryLine (s.generation + 1)), { s with generation := s.generation + 1, age := 0 })
  | aged {result : Except Fault (Option String)} (hlines : Session.stepLines result = [])
      (hlength : ∀ length : Int, s.config.get? "sim_generation_length" = some (.whole length) → s.age + 1 < length) :
      Ticks s (result, { s with age := s.age + 1 })

private theorem ticks_step (s : State) : Ticks s (step s) := by
  unfold step
  cases hl : s.config.get "sim_generation_length" with
  | error fault =>
    simp only [hl]
    refine .aged rfl fun length h => ?_
    rw [get_of_get? h] at hl
    cases hl
  | ok length =>
    simp only [hl]
    split
    · exact .ended
    · rename_i hlt
      refine .aged rfl fun length' h => ?_
      rw [get_of_get? h] at hl
      obtain rfl := Except.ok.inj hl
      rw [Number.whole_le_iff] at hlt
      push_cast at hlt
      omega

section Stretch

variable [Memory] {s t : Session Engine.sample} {record : Record} {records : History}

private theorem generation_trained (s : Session Engine.sample) (n : Nat) :
    (s.trained n).simulation.state.generation = s.simulation.state.generation + n := by
  induction n generalizing s with
  | zero => rfl
  | succ n ih =>
    rw [Session.trained, ih]
    show s.simulation.state.generation + 1 + n = _
    omega

private theorem age_trained (s : Session Engine.sample) (n : Nat) :
    (s.trained n).simulation.state.age = if n = 0 then s.simulation.state.age else 0 := by
  induction n generalizing s with
  | zero => rfl
  | succ n ih =>
    rw [Session.trained, ih, if_neg (Nat.succ_ne_zero n)]
    show (if n = 0 then 0 else 0) = 0
    exact ite_self 0

/-- Trainings give the summaries of the generations that follow. -/
private theorem eq_map_of_yields {lines : List Line} (h : s.Yields lines) :
    lines = (List.range' (s.simulation.state.generation + 1) lines.length).map summaryLine := by
  refine List.ext_getElem (by simp) fun i hi _ => ?_
  have hout := h i lines[i] (List.getElem?_eq_getElem hi)
  have hsum : s.outcome i = .ok (summaryLine ((s.trained i).simulation.state.generation + 1)) := rfl
  rw [hsum, generation_trained] at hout
  rw [List.getElem_map, List.getElem_range', ← Except.ok.inj hout]
  congr 1
  omega

/-- What a record of an action that installs nothing tells: how many generations ended, and how old the next one is.
A step that ends no generation leaves it younger than generations get. -/
structure Tells (s : Session Engine.sample) (record : Record) (ended : Nat) (t : Session Engine.sample) : Prop where
  config : t.config = s.config
  generation : t.simulation.state.generation = s.simulation.state.generation + ended
  printed : record.printed.filter isSummary =
    (List.range' (s.simulation.state.generation + 1) ended).map summaryLine
  age : t.simulation.state.age =
    if ended = 0 then s.simulation.state.age + (if record.deed = .stepped then 1 else 0) else 0
  younger : ∀ length : Int, s.config.get? "sim_generation_length" = some (.whole length) →
    record.deed = .stepped → ended = 0 → s.simulation.state.age + 1 < length

/-- Whatever leaves the simulation alone and prints no summary ends no generation. -/
private theorem Tells.of_eq (ht : t.simulation = s.simulation) (hd : record.deed ≠ .stepped)
    (hp : record.printed.filter isSummary = []) : Tells s record 0 t where
  config := by
    show sample.config t.simulation.state = sample.config s.simulation.state
    rw [ht]
  generation := by
    rw [ht]
    rfl
  printed := hp
  age := by
    rw [ht, if_pos rfl, if_neg hd]
    rfl
  younger _ _ h := absurd h hd

/-- A frame ends one generation at most. -/
private theorem exists_tells_step (s : Session Engine.sample) (picture : Picture Primitive) :
    ∃ ended ≤ 1, Tells s ⟨.stepped, Session.stepLines s.step.1, picture⟩ ended s.step.2 := by
  have key := ticks_step s.simulation.state
  have hstep : s.step = ((step s.simulation.state).1,
    { s with simulation := ⟨(step s.simulation.state).2, s.simulation.steps + 1, s.simulation.trains⟩ }) := rfl
  rw [hstep]
  generalize step s.simulation.state = result at key ⊢
  cases key with
  | ended =>
    have hprinted : (Session.stepLines (.ok (summaryLine (s.simulation.state.generation + 1)))).filter isSummary =
        [summaryLine (s.simulation.state.generation + 1)] := by
      rw [stepLines_summaryLine, List.filter_cons, if_pos (isSummary_summaryLine _), List.filter_nil]
    exact ⟨1, le_rfl, rfl, rfl, hprinted, rfl, nofun⟩
  | aged hlines hlength =>
    refine ⟨0, Nat.zero_le 1, rfl, rfl, ?_, rfl, fun length h _ _ => hlength length h⟩
    rw [hlines]
    rfl

private theorem tells_trained (s : Session Engine.sample) (text : String) {n : Nat} {deed : Deed} {lines : List Line}
    (hdeed : deed ≠ .stepped) (hy : s.Yields lines) (hn : lines.length = n) :
    Tells s ⟨deed, Session.heading text ++ lines.intersperse (some ""), .done⟩ n (s.trained n) where
  config := Session.config_trained keepsConfig s n
  generation := generation_trained s n
  printed := by
    have hlines := eq_map_of_yields hy
    have hsum : ∀ line ∈ lines, isSummary line = true := by
      intro line hl
      rw [hlines] at hl
      obtain ⟨i, -, rfl⟩ := List.mem_map.1 hl
      exact isSummary_summaryLine i
    rw [List.filter_append, filter_heading, filter_intersperse hsum, List.nil_append, hlines, hn]
  age := by
    rw [age_trained, if_neg hdeed]
    rfl
  younger _ _ h := absurd h hdeed

/-- A record tells that a simulation was installed, which is then in its first generation, or how many generations of
the old one ended. -/
theorem tells_of_does (h : s.Does record t) :
    (record.deed.installs = true ∧ t.simulation.state.generation = 0 ∧ t.simulation.state.age = 0) ∨
      (record.deed.installs = false ∧ ∃ ended, Tells s record ended t) := by
  cases h with
  | refused text fault factory =>
    refine .inr ⟨rfl, 0, Tells.of_eq rfl nofun ?_⟩
    rw [List.filter_append, filter_heading, filter_complaints]
    rfl
  | failed _ _ hf => cases hf
  | paused text => exact .inr ⟨rfl, 0, Tells.of_eq rfl nofun (filter_heading text)⟩
  | trained text hy hn => exact .inr ⟨rfl, _, tells_trained s text nofun hy hn⟩
  | installed _ _ hb =>
    obtain rfl := eq_of_build (congrArg Prod.fst hb)
    exact .inl ⟨rfl, rfl, rfl⟩
  | stepped _ picture =>
    obtain ⟨ended, -, ht⟩ := exists_tells_step s picture
    exact .inr ⟨rfl, ended, ht⟩
  | rested => exact .inr ⟨rfl, 0, Tells.of_eq rfl nofun rfl⟩

/-! ### The numbering of a stretch -/

/-- Whether the summaries of a stretch are numbered through to the generation of the simulation, whose age is the number
of steps that were made in the stretch after the last of them. -/
structure Numbered (records : History) (s : Session Engine.sample) : Prop where
  summaries : summaries records = (List.range' 1 s.simulation.state.generation).map summaryLine
  age : s.simulation.state.age + (untilSummary records).steps = records.steps
  younger : ∀ length : Int, 1 ≤ length → s.config.get? "sim_generation_length" = some (.whole length) →
    s.simulation.state.age < length

private theorem Numbered.nil (hg : s.simulation.state.generation = 0) (ha : s.simulation.state.age = 0) :
    Numbered [] s where
  summaries := by
    rw [hg]
    rfl
  age := by
    rw [ha]
    rfl
  younger length hl _ := by
    rw [ha]
    exact_mod_cast hl

private theorem Numbered.concat {ended : Nat} (h : Numbered records s) (ht : Tells s record ended t) :
    Numbered (records ++ [record]) t where
  summaries := by
    rw [summaries_concat, h.summaries, ht.printed, ht.generation, ← List.map_append, Nat.add_comm _ 1,
      List.range'_append_1]
  age := by
    have hage := h.age
    have hquiet : record.printed.filter isSummary = [] ↔ ended = 0 := by
      rw [ht.printed, List.map_eq_nil_iff, List.range'_eq_nil_iff]
    rw [untilSummary_concat, History.steps_concat, ht.age]
    -- The steps since the last summary go on to be counted, or start again after the one of this record.
    by_cases he : ended = 0
    · rw [if_pos he, if_pos (hquiet.2 he)]
      omega
    · rw [if_neg he, if_neg (mt hquiet.1 he), History.steps_concat, Nat.zero_add]
  younger length hl hlength := by
    rw [ht.config] at hlength
    have hage := h.younger length hl hlength
    rw [ht.age]
    by_cases he : ended = 0
    · by_cases hd : record.deed = .stepped
      · rw [if_pos he, if_pos hd]
        exact_mod_cast ht.younger length hlength hd he
      · rw [if_pos he, if_neg hd]
        exact hage
    · rw [if_neg he]
      exact_mod_cast hl

private theorem Numbered.of_does (h : Numbered records.stretch s) (hd : s.Does record t) :
    Numbered (History.stretch (records ++ [record])) t := by
  rw [History.stretch_concat]
  rcases tells_of_does hd with ⟨hi, hg, ha⟩ | ⟨hi, ended, ht⟩
  · rw [if_pos hi]
    exact .nil hg ha
  · rw [if_neg (by simp [hi])]
    exact h.concat ht

private theorem length_filter_redraw (s : Session Engine.sample) :
    (s.redraw.printed.filter isSummary).length ≤ 1 := by
  rw [Session.printed_redraw]
  split
  · obtain ⟨ended, hle, ht⟩ := exists_tells_step s .done
    rw [ht.printed, List.length_map, List.length_range']
    exact hle
  · exact Nat.zero_le 1

/-- In a session of the sample engine the summaries printed since the simulation was installed are, at any time, those
of its generations from the first to the last that ended, and no frame prints two.  The age is the number of steps since
the last summary, and less than the length of a generation where that is a positive integer. -/
theorem numbered_history {config : Config} {active : Bool} (h : Session.start Engine.sample config active = .ok s)
    (actions : List Action) :
    Numbered (s.history actions).stretch (s.after actions) ∧
      ((s.after actions).redraw.printed.filter isSummary).length ≤ 1 := by
  refine ⟨?_, length_filter_redraw _⟩
  refine Session.history_of_does (P := fun records s => Numbered records.stretch s)
    (fun records s record t hs hd => hs.of_does hd) ?_ actions
  obtain ⟨state, factory, hb, rfl⟩ := Session.eq_of_start h
  obtain rfl := eq_of_build (congrArg Prod.fst hb)
  exact .nil rfl rfl

end Stretch

/-- A simulation that ended two generations by trainings and one by a step, and has made a step since. -/
theorem numbered_three_generations :
    let actions : List Action := [.frame, .line "t 2", .frame, .line "r f:food_size=0.5", .frame, .line "t 2", .frame,
      .line "p", .frame, .line "t 0", .line "p", .frame, .frame, .frame]
    ∃ s, Session.start Engine.sample defaults true = .ok s ∧
      Numbered (s.history actions).stretch (s.after actions) ∧
      (s.after actions).config.get? "sim_generation_length" = some (.whole 3) ∧
      (s.after actions).simulation.state.age < (3 : Int) ∧ (s.after actions).simulation.state.age = 1 ∧
      summaries (s.history actions).stretch = [summaryLine 1, summaryLine 2, summaryLine 3] := by
  intro actions
  have h : Session.start Engine.sample defaults true = .ok ⟨(), ⟨⟨defaults, 0, 0⟩, 0, 0⟩, 1, true⟩ := rfl
  obtain ⟨hnumbered, -⟩ := numbered_history h actions
  refine ⟨_, h, hnumbered, ?_, ?_, ?_, ?_⟩
  · decide +kernel
  · exact hnumbered.younger 3 (by decide) (by decide +kernel)
  · decide +kernel
  · exact hnumbered.summaries

end Engine.Sample

end Aviary
