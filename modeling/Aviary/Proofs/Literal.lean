import Mathlib.Algebra.Ring.Nat
import Mathlib.Data.List.Induction
import Mathlib.Data.List.TakeWhile
import Aviary.Number.Literal

/-!
# Integers, written and read

What is read as a run of digits is described by a relation (`Grouped`, `groupedDigits?_eq_some_iff`).  The key facts:
an integer that was read has at most `maxDigits` digits (`natAbs_lt_of_integer?`), what it was read from holds blanks,
signs, digits and underscores only (`mem_of_integer?`), and every spelling of an integer with at most `maxDigits`
digits is read as that integer (`integer?_of_spells`), such as the text that it is written with (`integer?_toString`).
-/

namespace Aviary

namespace Text

private theorem mem_trimBy {p : Char → Bool} {cs : List Char} {c : Char} (hc : c ∈ cs) (hp : p c = false) :
    c ∈ trimBy p cs := by
  have hdrop : ∀ l : List Char, c ∈ l → c ∈ l.dropWhile p := by
    intro l hl
    rw [← List.takeWhile_append_dropWhile (p := p) (l := l), List.mem_append] at hl
    rcases hl with hl | hl
    · rw [List.mem_takeWhile_imp hl] at hp
      cases hp
    · exact hl
  unfold trimBy
  rw [List.mem_reverse]
  exact hdrop _ (List.mem_reverse.2 (hdrop cs hc))

/-- Nothing is trimmed from text that neither begins nor ends with a character to trim. -/
theorem trimBy_eq_self {p : Char → Bool} {cs : List Char} (hfirst : ∀ c ∈ cs.head?, p c = false)
    (hlast : ∀ c ∈ cs.getLast?, p c = false) : trimBy p cs = cs := by
  have hdrop : ∀ l : List Char, (∀ c ∈ l.head?, p c = false) → l.dropWhile p = l := by
    intro l hl
    cases l with
    | nil => rfl
    | cons c l => exact List.dropWhile_cons_of_neg (by simp [hl c rfl])
  unfold trimBy
  rw [hdrop cs hfirst, hdrop cs.reverse (by simpa using hlast), List.reverse_reverse]

private theorem toNat_of_isDigit {c : Char} (h : c.isDigit = true) : 48 ≤ c.toNat ∧ c.toNat < 58 := by
  simp only [Char.isDigit, Bool.and_eq_true, decide_eq_true_eq] at h
  obtain ⟨hlow, hhigh⟩ := h
  exact ⟨hlow, Nat.lt_succ_of_le hhigh⟩

private theorem isBlank_of_isDigit {c : Char} (h : c.isDigit = true) : isBlank c = false := by
  have hc := toNat_of_isDigit h
  have key : ∀ r ∈ blanks, r.2 < 48 ∨ 58 ≤ r.1 := by decide
  rw [Bool.eq_false_iff]
  intro hblank
  obtain ⟨r, hr, hlow, hhigh⟩ := CharClass.has_iff.1 hblank
  rcases key r hr with h | h <;> omega

private theorem digitValue?_of_isDigit {c : Char} (h : c.isDigit = true) : digitValue? c = some (c.toNat - 48) := by
  have hc := toNat_of_isDigit h
  unfold digitValue? zeros
  rw [List.find?_cons_of_pos (by simpa using hc)]
  rfl

end Text

namespace Literal

open Text

/-! ### Runs of digits -/

/-- Whether `cs` is a run of digits with the values `ds`, in which single underscores may stand between digits. -/
inductive Grouped : List Char → List Nat → Prop
  | last {c : Char} {d : Nat} (h : digitValue? c = some d) : Grouped [c] [d]
  | next {c : Char} {d : Nat} {cs : List Char} {ds : List Nat} (h : digitValue? c = some d) (hr : Grouped cs ds) :
      Grouped (c :: cs) (d :: ds)
  | joined {c : Char} {d : Nat} {cs : List Char} {ds : List Nat} (h : digitValue? c = some d) (hr : Grouped cs ds) :
      Grouped (c :: '_' :: cs) (d :: ds)

/-- A run of digits starts with a digit. -/
private theorem Grouped.exists_cons {cs : List Char} {ds : List Nat} (h : Grouped cs ds) :
    ∃ c rest, cs = c :: rest ∧ c ≠ '_' := by
  have hunderscore : digitValue? '_' = none := by decide +kernel
  have hne : ∀ {c : Char} {d : Nat}, digitValue? c = some d → c ≠ '_' := by
    rintro c d hd rfl
    rw [hunderscore] at hd
    cases hd
  cases h with
  | last hd | next hd _ | joined hd _ => exact ⟨_, _, rfl, hne hd⟩

theorem groupedDigits?_eq_some_iff {cs : List Char} {ds : List Nat} :
    groupedDigits? cs = some ds ↔ Grouped cs ds := by
  constructor
  · intro h
    induction cs using groupedDigits?.induct generalizing ds with
    | case1 => cases h
    | case2 c =>
      obtain ⟨d, hd, rfl⟩ := Option.map_eq_some_iff.1 h
      exact .last hd
    | case3 c cs ih =>
      simp only [groupedDigits?, Option.bind_eq_bind, Option.bind_eq_some_iff] at h
      obtain ⟨d, hd, rest, hrest, heq⟩ := h
      obtain rfl := Option.some.inj heq
      exact .joined hd (ih hrest)
    | case4 c cs hne hjoined ih =>
      simp only [groupedDigits?, Option.bind_eq_bind, Option.bind_eq_some_iff] at h
      obtain ⟨d, hd, rest, hrest, heq⟩ := h
      obtain rfl := Option.some.inj heq
      exact .next hd (ih hrest)
  · intro h
    induction h with
    | last h => simp [groupedDigits?, h]
    | joined h hr ih => simp [groupedDigits?, h, ih]
    | next h hr ih =>
      -- the rest starts with a digit, so nothing is taken for an underscore between two digits
      obtain ⟨c, rest, rfl, hc⟩ := hr.exists_cons
      simp [groupedDigits?, h, ih, hc]

private theorem Grouped.lt_ten {cs : List Char} {ds : List Nat} (h : Grouped cs ds) : ∀ d ∈ ds, d < 10 := by
  induction h with
  | last hd => exact List.forall_mem_singleton.2 (digitValue?_lt hd)
  | next hd _ ih | joined hd _ ih => exact List.forall_mem_cons.2 ⟨digitValue?_lt hd, ih⟩

private theorem Grouped.mem {cs : List Char} {ds : List Nat} (h : Grouped cs ds) :
    ∀ c ∈ cs, isDigit c = true ∨ c = '_' := by
  have hdigit : ∀ {c : Char} {d : Nat}, digitValue? c = some d → isDigit c = true ∨ c = '_' := by
    intro c d hd
    exact .inl (Option.isSome_iff_exists.2 ⟨d, hd⟩)
  induction h with
  | last hd => exact List.forall_mem_singleton.2 (hdigit hd)
  | next hd _ ih => exact List.forall_mem_cons.2 ⟨hdigit hd, ih⟩
  | joined hd _ ih => exact List.forall_mem_cons.2 ⟨hdigit hd, List.forall_mem_cons.2 ⟨.inr rfl, ih⟩⟩

/-- A run of digits goes on with another digit, with an underscore before it or without. -/
private theorem Grouped.concat {cs : List Char} {ds : List Nat} {c : Char} {d : Nat} (h : Grouped cs ds)
    (hc : digitValue? c = some d) : Grouped (cs ++ [c]) (ds ++ [d]) ∧ Grouped (cs ++ ['_', c]) (ds ++ [d]) := by
  induction h with
  | last hd => exact ⟨.next hd (.last hc), .joined hd (.last hc)⟩
  | next hd _ ih => exact ⟨.next hd ih.1, .next hd ih.2⟩
  | joined hd _ ih => exact ⟨.joined hd ih.1, .joined hd ih.2⟩

/-! ### Integers -/

private theorem ofDigits_append_singleton (ds : List Nat) (d : Nat) : ofDigits (ds ++ [d]) = 10 * ofDigits ds + d := by
  unfold ofDigits
  rw [List.foldl_append]
  rfl

private theorem ofDigits_lt {ds : List Nat} (h : ∀ d ∈ ds, d < 10) : ofDigits ds < 10 ^ ds.length := by
  -- from the last digit on, as the number grows at that end
  induction ds using List.reverseRecOn with
  | nil => exact Nat.zero_lt_one
  | append_singleton ds d ih =>
    obtain ⟨hds, hd⟩ := List.forall_mem_append.1 h
    have hrest := ih hds
    have hlast : d < 10 := hd d List.mem_cons_self
    rw [ofDigits_append_singleton, List.length_append, List.length_singleton, Nat.pow_succ]
    omega

/-- What an integer is read from: blanks around an optional sign and a run of at most `maxDigits` digits. -/
private theorem integer?_eq_some_iff {cs : List Char} {n : Int} :
    integer? cs = some n ↔
      ∃ ds, Grouped (sign (trimBy isSurround cs)).2 ds ∧ ds.length ≤ maxDigits ∧
        n = if (sign (trimBy isSurround cs)).1 then -(ofDigits ds : Int) else ofDigits ds := by
  unfold integer?
  simp only [Option.bind_eq_bind, Option.bind_eq_some_iff, groupedDigits?_eq_some_iff]
  refine exists_congr fun ds => and_congr_right fun _ => ?_
  by_cases h : maxDigits < ds.length
  · rw [if_pos h]
    exact iff_of_false nofun fun hle => absurd hle.1 (Nat.not_le.2 h)
  · rw [if_neg h, Option.some_inj]
    exact ⟨fun heq => ⟨Nat.not_lt.1 h, heq.symm⟩, fun heq => heq.2.symm⟩

theorem natAbs_lt_of_integer? {cs : List Char} {n : Int} (h : integer? cs = some n) : n.natAbs < 10 ^ maxDigits := by
  obtain ⟨ds, hds, hlen, rfl⟩ := integer?_eq_some_iff.1 h
  have hlt : ofDigits ds < 10 ^ maxDigits :=
    (ofDigits_lt hds.lt_ten).trans_le (Nat.pow_le_pow_right (by decide) hlen)
  split <;> simpa using hlt

private theorem sign_eq_or (cs : List Char) : cs = (sign cs).2 ∨ cs = '-' :: (sign cs).2 ∨ cs = '+' :: (sign cs).2 := by
  unfold sign
  split <;> simp

/-- What an integer is read from holds blanks, signs, digits and underscores. -/
theorem mem_of_integer? {cs : List Char} {n : Int} (h : integer? cs = some n) :
    ∀ c ∈ cs, isSurround c = true ∨ c = '-' ∨ c = '+' ∨ isDigit c = true ∨ c = '_' := by
  obtain ⟨ds, hds, -, -⟩ := integer?_eq_some_iff.1 h
  intro c hc
  by_cases hs : isSurround c = true
  · exact .inl hs
  · have hmem : c ∈ trimBy isSurround cs := mem_trimBy hc (by simpa using hs)
    have hbody := hds.mem c
    rcases sign_eq_or (trimBy isSurround cs) with heq | heq | heq <;> rw [heq] at hmem <;> grind

/-- The written form of an integer: its digits, behind a minus if it is negative. -/
private theorem toList_toString (n : Int) :
    (toString n).toList = if 0 ≤ n then Nat.toDigits 10 n.natAbs else '-' :: Nat.toDigits 10 n.natAbs := by
  rw [Int.toString_eq_repr, Int.repr_eq_if]
  split
  · rw [Nat.toList_repr, show n.toNat = n.natAbs by omega]
  · rw [String.toList_append, Nat.toList_repr, show (-n).toNat = n.natAbs by omega]
    rfl

private theorem isDigit_of_mem_digits {n : Nat} {c : Char} (hc : c ∈ Nat.toDigits 10 n) : c.isDigit = true :=
  Nat.isDigit_of_mem_toDigits (by decide) (by decide) hc

theorem mem_toString {n : Int} {c : Char} (hc : c ∈ (toString n).toList) : c = '-' ∨ c.isDigit = true := by
  rw [toList_toString] at hc
  split at hc
  · exact .inr (isDigit_of_mem_digits hc)
  · exact (List.mem_cons.1 hc).imp_right isDigit_of_mem_digits

theorem isBlank_of_mem_toString {n : Int} {c : Char} (hc : c ∈ (toString n).toList) : isBlank c = false := by
  rcases mem_toString hc with rfl | hdigit
  · decide +kernel
  · exact isBlank_of_isDigit hdigit

theorem toList_toString_ne_nil (n : Int) : (toString n).toList ≠ [] := by
  rw [toList_toString]
  split
  · exact Nat.toDigits_ne_nil
  · exact List.cons_ne_nil _ _

/-! ### Spellings -/

/-- Whether `cs` writes a natural number with the digits of ASCII, of which the first may be zeros.  Behind a number,
and an underscore if there is one, a digit makes ten times the number and the digit. -/
inductive Numeral : List Char → Nat → Prop
  | digit {c : Char} (hc : c.isDigit = true) : Numeral [c] (c.toNat - '0'.toNat)
  | next {cs : List Char} {value : Nat} {c : Char} (h : Numeral cs value) (hc : c.isDigit = true) :
      Numeral (cs ++ [c]) (10 * value + (c.toNat - '0'.toNat))
  | joined {cs : List Char} {value : Nat} {c : Char} (h : Numeral cs value) (hc : c.isDigit = true) :
      Numeral (cs ++ ['_', c]) (10 * value + (c.toNat - '0'.toNat))

/-- Whether `cs` spells an integer: by a numeral, or by one behind a sign. -/
inductive Spells : List Char → Int → Prop
  | plain {cs : List Char} {value : Nat} (h : Numeral cs value) : Spells cs value
  | plus {cs : List Char} {value : Nat} (h : Numeral cs value) : Spells ('+' :: cs) value
  | minus {cs : List Char} {value : Nat} (h : Numeral cs value) : Spells ('-' :: cs) (-value)

/-- How many digits a text holds. -/
def digitCount (cs : List Char) : Nat := cs.countP Char.isDigit

private theorem Numeral.mem {cs : List Char} {value : Nat} (h : Numeral cs value) :
    ∀ c ∈ cs, c.isDigit = true ∨ c = '_' := by
  induction h with
  | digit hc => exact List.forall_mem_singleton.2 (.inl hc)
  | next _ hc ih => exact List.forall_mem_append.2 ⟨ih, List.forall_mem_singleton.2 (.inl hc)⟩
  | joined _ hc ih =>
    exact List.forall_mem_append.2 ⟨ih, List.forall_mem_cons.2 ⟨.inr rfl, List.forall_mem_singleton.2 (.inl hc)⟩⟩

/-- A numeral is read as a run of its digits, whose value it has. -/
private theorem Numeral.exists_grouped {cs : List Char} {value : Nat} (h : Numeral cs value) :
    ∃ ds, Grouped cs ds ∧ ds.length = digitCount cs ∧ ofDigits ds = value := by
  unfold digitCount
  induction h with
  | digit hc => exact ⟨_, .last (digitValue?_of_isDigit hc), by simp [hc], Nat.zero_add _⟩
  | next _ hc ih =>
    obtain ⟨ds, hds, hlength, rfl⟩ := ih
    exact ⟨_, (hds.concat (digitValue?_of_isDigit hc)).1, by simp [hc, hlength], ofDigits_append_singleton ds _⟩
  | joined _ hc ih =>
    obtain ⟨ds, hds, hlength, rfl⟩ := ih
    exact ⟨_, (hds.concat (digitValue?_of_isDigit hc)).2, by simp [hc, hlength, show ¬ '_'.isDigit by decide],
      ofDigits_append_singleton ds _⟩

/-- The digits that a natural number is written with make a numeral. -/
private theorem numeral_toDigits (n : Nat) : Numeral (Nat.toDigits 10 n) n := by
  have hdigit : ∀ d < 10, (Nat.digitChar d).isDigit = true ∧ (Nat.digitChar d).toNat - '0'.toNat = d := by decide
  -- the last digit is the remainder, and the others write the quotient
  induction n using Nat.strongRecOn with
  | ind n ih =>
    by_cases hn : n < 10
    · obtain ⟨hc, hvalue⟩ := hdigit n hn
      have hone := Numeral.digit hc
      rw [hvalue] at hone
      rw [Nat.toDigits_of_lt_base hn]
      exact hone
    · obtain ⟨hc, hvalue⟩ := hdigit (n % 10) (Nat.mod_lt n (by decide))
      have hmore := (ih (n / 10) (by omega)).next hc
      rw [hvalue, Nat.div_add_mod] at hmore
      rw [Nat.toDigits_of_base_le (by decide) (Nat.le_of_not_lt hn)]
      exact hmore

private theorem Spells.isSurround_of_mem {cs : List Char} {n : Int} (h : Spells cs n) :
    ∀ c ∈ cs, isSurround c = false := by
  have hbody : ∀ {cs value}, Numeral cs value → ∀ c ∈ cs, isSurround c = false := by
    intro cs value h c hc
    rcases h.mem c hc with hdigit | rfl
    · simp [isSurround, isBlank_of_isDigit hdigit]
    · decide +kernel
  cases h with
  | plain h => exact hbody h
  | plus h | minus h => exact List.forall_mem_cons.2 ⟨by decide +kernel, hbody h⟩

private theorem sign_of_notMem {cs : List Char} (hminus : '-' ∉ cs) (hplus : '+' ∉ cs) : sign cs = (false, cs) := by
  unfold sign
  split
  · exact absurd List.mem_cons_self hminus
  · exact absurd List.mem_cons_self hplus
  · rfl

/-- A spelling is a sign, if there is one, and a numeral with all of its digits. -/
private theorem Spells.exists_sign {cs : List Char} {n : Int} (h : Spells cs n) :
    ∃ negative body value, sign cs = (negative, body) ∧ digitCount body = digitCount cs ∧ Numeral body value ∧
      n = if negative then -(value : Int) else value := by
  cases h with
  | @plain _ value h =>
    have hminus : '-' ∉ cs := fun hm => by simpa using h.mem _ hm
    have hplus : '+' ∉ cs := fun hm => by simpa using h.mem _ hm
    exact ⟨false, cs, value, sign_of_notMem hminus hplus, rfl, h, rfl⟩
  | @plus _ value h => exact ⟨false, _, value, rfl, rfl, h, rfl⟩
  | @minus _ value h => exact ⟨true, _, value, rfl, rfl, h, rfl⟩

/-- Every spelling of an integer is read as that integer, unless it has too many digits. -/
theorem integer?_of_spells {cs : List Char} {n : Int} (h : Spells cs n) :
    integer? cs = if digitCount cs ≤ maxDigits then some n else none := by
  have htrim : trimBy isSurround cs = cs :=
    trimBy_eq_self (fun c hc => h.isSurround_of_mem c (List.mem_of_mem_head? hc))
      (fun c hc => h.isSurround_of_mem c (List.mem_of_mem_getLast? hc))
  obtain ⟨negative, body, value, hsign, hcount, hbody, rfl⟩ := h.exists_sign
  obtain ⟨ds, hds, hlength, rfl⟩ := hbody.exists_grouped
  unfold integer?
  rw [htrim, hsign, ← hcount, ← hlength]
  show (groupedDigits? body >>= _) = _
  rw [groupedDigits?_eq_some_iff.2 hds]
  show (if maxDigits < ds.length then _ else _) = _
  by_cases hlong : ds.length ≤ maxDigits
  · rw [if_pos hlong, if_neg (Nat.not_lt.2 hlong)]
  · rw [if_neg hlong, if_pos (Nat.not_le.1 hlong)]

/-- An integer is spelled by the text that it is written with. -/
private theorem spells_toString (n : Int) : Spells (toString n).toList n := by
  have hdigits := numeral_toDigits n.natAbs
  rw [toList_toString]
  split
  · have hn : (n.natAbs : Int) = n := by omega
    have hspells := Spells.plain hdigits
    rwa [hn] at hspells
  · have hn : -(n.natAbs : Int) = n := by omega
    have hspells := Spells.minus hdigits
    rwa [hn] at hspells

private theorem digitCount_toString_le_iff {n : Int} {k : Nat} (hk : 0 < k) :
    digitCount (toString n).toList ≤ k ↔ n.natAbs < 10 ^ k := by
  have hdigits : digitCount (Nat.toDigits 10 n.natAbs) = (Nat.toDigits 10 n.natAbs).length :=
    List.countP_eq_length.2 fun c => isDigit_of_mem_digits
  have hcount : digitCount (toString n).toList = (Nat.toDigits 10 n.natAbs).length := by
    rw [← hdigits, toList_toString]
    split
    · rfl
    · exact List.countP_cons_of_neg (by decide)
  rw [hcount]
  exact Nat.length_toDigits_le_iff (by decide) hk

/-- An integer is read back from the text that it is written with, unless it is too long. -/
theorem integer?_toString {n : Int} (h : n.natAbs < 10 ^ maxDigits) : integer? (toString n).toList = some n := by
  have hcount : digitCount (toString n).toList ≤ maxDigits := (digitCount_toString_le_iff (by decide)).2 h
  rw [integer?_of_spells (spells_toString n), if_pos hcount]

end Literal

end Aviary
