import Aviary.Proofs.Grammar
import Aviary.Proofs.History

/-!
# One line for every fault

Whatever a line that is typed in comes to, the answer is its echo, what it printed, and one line more if it ended in a
fault.  That line is a single line of text as long as the engine's own faults are (`isLine_of_executes`): what a message
takes over from the input is a part of a word, which holds no blank, or it is quoted, and a character at which a line
ends is a blank and not printable.  The sample engine has such faults only (`Sample.terse`).  The main statement is
`answer_contains`.
-/

namespace Aviary

namespace Text

/-- The characters at which a line of text ends. -/
def lineBreaks : CharClass := [(0x0A, 0x0D), (0x1C, 0x1E), (0x85, 0x85), (0x2028, 0x2029)]

/-- Whether a text is a single line. -/
def IsLine (text : String) : Prop := ∀ c ∈ text.toList, lineBreaks.has c = false

instance (text : String) : Decidable (IsLine text) :=
  List.decidableBAll (fun c => lineBreaks.has c = false) text.toList

private theorem isBlank_of_break {c : Char} (h : lineBreaks.has c = true) : isBlank c = true := by
  have key : ∀ r ∈ lineBreaks, ∃ b ∈ blanks, b.1 ≤ r.1 ∧ r.2 ≤ b.2 := by decide
  obtain ⟨r, hr, hlow, hhigh⟩ := CharClass.has_iff.1 h
  obtain ⟨b, hb, hlow', hhigh'⟩ := key r hr
  exact CharClass.has_iff.2 ⟨b, hb, by omega, by omega⟩

private theorem isPrintable_of_break {c : Char} (h : lineBreaks.has c = true) : isPrintable c = false := by
  have key : ∀ r ∈ lineBreaks, ∀ p ∈ printables, r.2 < p.1 ∨ p.2 < r.1 := by decide +kernel
  obtain ⟨r, hr, hlow, hhigh⟩ := CharClass.has_iff.1 h
  rw [Bool.eq_false_iff]
  intro hp
  obtain ⟨p, hp, hlow', hhigh'⟩ := CharClass.has_iff.1 hp
  rcases key r hr p hp with h | h <;> omega

private theorem isLine_append {a b : String} : IsLine (a ++ b) ↔ IsLine a ∧ IsLine b := by
  unfold IsLine
  rw [String.toList_append, List.forall_mem_append]

private theorem isLine_of_isBlank {text : String} (h : ∀ c ∈ text.toList, isBlank c = false) : IsLine text := by
  intro c hc
  rw [Bool.eq_false_iff]
  intro hbreak
  exact absurd (isBlank_of_break hbreak) (by simp [h c hc])

/-- Quoted text is a single line, whatever is quoted. -/
private theorem isLine_quoted (text : String) : IsLine (quoted text) := by
  intro c hc
  rw [quoted, String.toList_ofList] at hc
  rw [Bool.eq_false_iff]
  intro hbreak
  have hprintable := isPrintable_of_mem_quote hc
  rw [isPrintable_of_break hbreak] at hprintable
  cases hprintable

end Text

open Text

/-! ### Faults of the line itself -/

namespace Command

private theorem isBlank_of_mem_tokens {line token : String} (h : token ∈ tokens line) :
    ∀ c ∈ token.toList, isBlank c = false := by
  obtain ⟨word, hword, rfl⟩ := List.mem_map.1 h
  intro c hc
  rw [String.toList_ofList] at hc
  exact isBlank_of_mem_words hword hc

/-- The overrides of a reset are words of the line. -/
private theorem mem_tokens_of_reset {line : String} {overrides : List String}
    (h : ofLine line = .ok (.reset overrides)) : ∀ arg ∈ overrides, arg ∈ tokens line := by
  by_cases hb : Bracketed line
  · rw [ofLine_of_bracketed hb] at h
    cases h
  · rw [ofLine_of_not_bracketed hb] at h
    unfold ofWords at h
    grind

/-- A line that is not read is refused in a single line. -/
private theorem isLine_of_ofLine {line : String} {fault : Fault} (h : ofLine line = .error fault) :
    IsLine fault.message := by
  have key : fault ∈ [.squareBracket, .unknownCommand, .noParameters, .oneParameter] ∨
      ∃ arg, fault = .badCount arg := by
    unfold ofLine ofWords at h
    grind
  have hfixed : ∀ f ∈ [Fault.squareBracket, .unknownCommand, .noParameters, .oneParameter], IsLine f.message := by
    decide +kernel
  rcases key with hmem | ⟨arg, rfl⟩
  · exact hfixed fault hmem
  · show IsLine ("expected a number of generations, got: " ++ quoted arg)
    exact isLine_append.2 ⟨by decide +kernel, isLine_quoted arg⟩

end Command

namespace Config

private theorem Splits.mem {arg name : String} {text? : Option String} (h : Splits arg name text?) :
    ∀ c ∈ name.toList, c ∈ arg.toList := by
  intro c hc
  cases h with
  | bare => exact hc
  | pair => simp [hc]

/-- An argument without blanks is refused in a single line. -/
private theorem Refuses.isLine {d : Config} {arg : String} {fault : Fault} (h : Refuses d arg fault)
    (ha : ∀ c ∈ arg.toList, isBlank c = false) : IsLine fault.message := by
  have hname : ∀ {name text?}, Splits arg name text? → IsLine name := by
    intro name text? hs
    exact isLine_of_isBlank fun c hc => ha c (hs.mem c hc)
  cases h with
  | @unknown name _ hs =>
    show IsLine ("unknown parameter: " ++ name)
    exact isLine_append.2 ⟨by decide +kernel, hname hs⟩
  | @missing name _ _ hs =>
    show IsLine ("missing value for parameter: " ++ name)
    exact isLine_append.2 ⟨by decide +kernel, hname hs⟩
  | @bad name text _ kind hs =>
    have hkind : IsLine kind.phrase := by cases kind <;> decide +kernel
    show IsLine ("parameter " ++ name ++ " expects " ++ kind.phrase ++ ", got: " ++ quoted text)
    simp only [isLine_append, and_assoc]
    exact ⟨by decide +kernel, hname hs, by decide +kernel, hkind, by decide +kernel, isLine_quoted text⟩

private theorem exists_refuses_of_build {d : Config} {args : List String} {fault : Fault}
    (h : d.build args = .error fault) : ∃ arg ∈ args, Refuses d arg fault := by
  by_cases ha : ∀ a ∈ args, Applies d a
  · obtain ⟨c, hc, -⟩ := build_of_applies rfl ha
    rw [hc] at h
    cases h
  · obtain ⟨before, arg, after, fault', rfl, hb, hr⟩ := exists_first_refuses ha
    rw [build_of_refuses hb hr after] at h
    obtain rfl := Except.error.inj h
    exact ⟨arg, by simp, hr⟩

end Config

/-! ### Faults of the engine -/

/-- Whether all that an engine says of its faults is said in single lines. -/
structure Engine.Terse (E : Engine) : Prop where
  build : ∀ factory config cause factory', config.names = E.defaults.names →
    E.build factory config = (.error cause, factory') → IsLine cause.message
  train : ∀ state fault, (E.train state).1 = .error fault → IsLine fault.message

theorem Engine.Sample.terse [Memory] : Engine.sample.Terse where
  build := by
    intro factory config cause factory' hnames hb
    have hbuild : build config = .error cause := congrArg Prod.fst hb
    have hcheck : check config = .error cause := by
      unfold build at hbuild
      cases hc : check config with
      | error cause' =>
        rw [hc] at hbuild
        exact congrArg Except.error (Except.error.inj hbuild)
      | ok =>
        rw [hc] at hbuild
        cases hbuild
    cases (check_eq_error_iff hnames).1 hcheck with
    | cells | population | size => decide +kernel
  train := nofun

namespace Session

/-- If an engine's own faults are told in single lines, so is every fault that a line ends in. -/
theorem isLine_of_executes {E : Engine} (hE : E.Terse) {s : Session E} {line : String} {reply : Reply E}
    (h : s.Executes line reply) {fault : Fault} (hf : reply.fault = some fault) : IsLine fault.message := by
  cases h with
  | unread hline =>
    obtain rfl := Option.some.inj hf
    exact Command.isLine_of_ofLine hline
  | paused => cases hf
  | trained _ ht =>
    cases ht with
    | all => cases hf
    | stopped _ _ hstop =>
      obtain rfl := Option.some.inj hf
      exact hE.train _ _ hstop
  | badArgument hline hbuild =>
    obtain rfl := Option.some.inj hf
    obtain ⟨arg, harg, hr⟩ := Config.exists_refuses_of_build hbuild
    exact hr.isLine (Command.isBlank_of_mem_tokens (Command.mem_tokens_of_reset hline arg harg))
  | @notBuilt _ _ cause _ _ hconfig hbuild =>
    obtain rfl := Option.some.inj hf
    show IsLine cause.message
    exact hE.build _ _ _ _ (Config.names_build hconfig) hbuild
  | installed => cases hf

/-- Every line is answered, whatever it holds and whatever the engine does: with its echo, what it printed, and exactly
if it ended in a fault with one line more, and the session is the one that the line left.  With the sample engine that
line is a single line of text. -/
theorem answer_contains [Memory] :
    (∀ (E : Engine) (s : Session E) (line : String), s.Executes line (s.execute line) ∧
      (s.answer line).1 = (s.execute line).session ∧
      ∃ complaint, (s.answer line).2 = [some "", some ("$ " ++ line)] ++ (s.execute line).printed ++ complaint ∧
        (complaint = [] ↔ (s.execute line).fault = none) ∧
        ∀ fault, (s.execute line).fault = some fault → complaint = [some ("  ^ err: " ++ fault.message)]) ∧
    ∀ (s : Session Engine.sample) (line : String) (fault : Fault), (s.execute line).fault = some fault →
      IsLine ("  ^ err: " ++ fault.message) := by
  constructor
  · intro E s line
    refine ⟨executes_execute s line, rfl, Console.complaints (s.execute line).fault, rfl, ?_, ?_⟩
    · cases (s.execute line).fault <;> simp [Console.complaints]
    · intro fault hf
      rw [hf]
      rfl
  · intro s line fault hf
    have hmessage := isLine_of_executes Engine.Sample.terse (executes_execute s line) hf
    exact isLine_append.2 ⟨by decide +kernel, hmessage⟩

end Session

end Aviary
