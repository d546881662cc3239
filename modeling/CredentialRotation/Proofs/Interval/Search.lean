import CredentialRotation.Proofs.Interval.Grammar

/-!
# Proofs — Interval — Search

Segments as a pattern that is searched for.  A pattern may match the head of a text in several ways,
and it prefers some to others (`Pattern.ways`); a search takes the preferred way at the first place
where there is one (`find?`), and goes on behind it.  An interval can be read by such searches, as
long as nothing is skipped (`search`).

Reading takes the longest digits and the first unit that fits, and never tries again.  That is the
preferred way (`head?_found`): fewer digits leave a digit where a point or a unit would have to
stand, and where the longest digits and the whole fraction have no unit behind them, the segment
does not match at all.  So searching and reading agree (`search_eq_read`), and
`read_follows_grammar` holds of both.
-/

namespace CredentialRotation.Interval

open CredentialRotation.Text

namespace Segment

/-- The point and the digits behind it, where there are any. -/
def pointed (digits : List Char) : List Char := if digits = [] then [] else '.' :: digits

theorem numeral_eq (s : Segment) : s.numeral = s.whole ++ pointed s.fraction := by
  unfold numeral pointed
  split
  · rw [List.append_nil]
  · rfl

theorem readFraction_digit {c : Char} (hc : isDecimalDigit c = true) (cs : List Char) :
    readFraction (c :: cs) = ([], c :: cs) := by
  unfold readFraction
  split
  · next he =>
    rw [(List.cons.inj he).1] at hc
    exact absurd hc (by decide)
  · rfl

end Segment

/-- A pattern for the head of a text. -/
inductive Pattern where
  | word (letters : List Char)
  /-- One or more characters of the class, as many as there are rather than fewer. -/
  | many (p : Char → Bool)
  | seq (first second : Pattern)
  /-- The first pattern rather than the second. -/
  | either (first second : Pattern)
  /-- The pattern rather than nothing. -/
  | maybe (inner : Pattern)

namespace Pattern

/-- The characters of the class at the head of a text, all of them first, with the text behind
them. -/
def runs (p : Char → Bool) : List Char → List (List Char × List Char)
  | [] => []
  | c :: cs => if p c then (runs p cs).map (fun m => (c :: m.1, m.2)) ++ [([c], cs)] else []

/-- The ways in which the pattern matches the head of a text, with the text behind the match,
preferred ones first. -/
def ways : Pattern → List Char → List (List Char × List Char)
  | word letters, cs => if letters.isPrefixOf cs then [(letters, cs.drop letters.length)] else []
  | many p, cs => runs p cs
  | seq first second, cs =>
    (first.ways cs).flatMap fun m => (second.ways m.2).map fun n => (m.1 ++ n.1, n.2)
  | either first second, cs => first.ways cs ++ second.ways cs
  | maybe inner, cs => inner.ways cs ++ [([], cs)]

@[simp] theorem ways_seq (first second : Pattern) (cs : List Char) :
    (seq first second).ways cs =
      (first.ways cs).flatMap fun m => (second.ways m.2).map fun n => (m.1 ++ n.1, n.2) := rfl

@[simp] theorem ways_either (first second : Pattern) (cs : List Char) :
    (either first second).ways cs = first.ways cs ++ second.ways cs := rfl

@[simp] theorem ways_maybe (inner : Pattern) (cs : List Char) :
    (maybe inner).ways cs = inner.ways cs ++ [([], cs)] := rfl

theorem ways_word_eq_nil (letters : List Char) {cs : List Char}
    (h : ∀ rest, cs = letters ++ rest → False) :
    (word letters).ways cs = [] := by
  rw [ways, if_neg]
  intro hprefix
  obtain ⟨rest, hrest⟩ := List.isPrefixOf_iff_prefix.1 hprefix
  exact h rest hrest.symm

/-- A point and digits. -/
def fraction : Pattern := .seq (.word ['.']) (.many isDecimalDigit)

/-- Digits, and perhaps a fraction. -/
def number : Pattern := .seq (.many isDecimalDigit) (.maybe fraction)

/-- One of the units.  Milliseconds are tried before minutes. -/
def unit : Pattern :=
  .either (.word ['n', 's']) <| .either (.word ['u', 's']) <| .either (.word ['µ', 's']) <|
    .either (.word ['m', 's']) <| .either (.word ['s']) <| .either (.word ['m']) <|
      .either (.word ['h']) (.word ['d'])

/-! ### Digits -/

theorem runs_eq_nil {p : Char → Bool} {cs : List Char} (h : cs.takeWhile p = []) :
    runs p cs = [] := by
  cases cs with
  | nil => rfl
  | cons c cs =>
      have hc : ¬ p c = true := fun hc => by
        rw [List.takeWhile_cons_of_pos hc] at h
        cases h
      rw [runs, if_neg hc]

/-- All the characters of the class are preferred, and fewer leave one of them. -/
theorem runs_eq_cons {p : Char → Bool} {cs : List Char} (h : cs.takeWhile p ≠ []) :
    ∃ shorter, runs p cs = (cs.takeWhile p, cs.dropWhile p) :: shorter ∧
      ∀ m ∈ shorter, ∃ c rest, m.2 = c :: rest ∧ p c = true := by
  induction cs with
  | nil => exact absurd rfl h
  | cons c cs ih =>
      have hc : p c = true := by
        by_contra hc
        exact h (List.takeWhile_cons_of_neg hc)
      rw [runs, if_pos hc, List.takeWhile_cons_of_pos hc, List.dropWhile_cons_of_pos hc]
      by_cases hmore : cs.takeWhile p = []
      · have hrest : cs.dropWhile p = cs := by
          have happ := List.takeWhile_append_dropWhile (p := p) (l := cs)
          rwa [hmore, List.nil_append] at happ
        rw [runs_eq_nil hmore, hmore, hrest]
        exact ⟨[], rfl, by simp⟩
      · obtain ⟨shorter, hruns, hshorter⟩ := ih hmore
        rw [hruns]
        refine ⟨shorter.map (fun m => (c :: m.1, m.2)) ++ [([c], cs)], rfl, ?_⟩
        intro m hm
        rcases List.mem_append.1 hm with hm | hm
        · obtain ⟨m', hm', rfl⟩ := List.mem_map.1 hm
          exact hshorter m' hm'
        · obtain rfl := List.mem_singleton.1 hm
          cases cs with
          | nil => exact absurd rfl hmore
          | cons d cs =>
              refine ⟨d, cs, rfl, ?_⟩
              by_contra hd
              exact hmore (List.takeWhile_cons_of_neg hd)

/-! ### Units -/

/-- The first unit that matches is the one that is read. -/
theorem head?_ways_unit (cs : List Char) :
    (unit.ways cs).head? = (TimeUnit.read? cs).map fun u => (u.1.symbol, u.2) := by
  unfold TimeUnit.read?
  split
  case h_6 rest hs =>
    have hmilli : (word ['m', 's']).ways ('m' :: rest) = [] :=
      ways_word_eq_nil _ fun tail he => hs tail (List.cons.inj he).2
    simp only [unit, ways_either, hmilli]
    rfl
  case h_9 h₁ h₂ h₃ h₄ h₅ h₆ h₇ h₈ =>
    simp only [unit, ways_either, ways_word_eq_nil ['n', 's'] h₁, ways_word_eq_nil ['u', 's'] h₂,
      ways_word_eq_nil ['µ', 's'] h₃, ways_word_eq_nil ['m', 's'] h₄, ways_word_eq_nil ['s'] h₅,
      ways_word_eq_nil ['m'] h₆, ways_word_eq_nil ['h'] h₇, ways_word_eq_nil ['d'] h₈]
    rfl
  all_goals rfl

theorem ways_unit_eq_nil {cs : List Char} (h : TimeUnit.read? cs = none) : unit.ways cs = [] := by
  have hhead := head?_ways_unit cs
  rw [h] at hhead
  exact List.head?_eq_none_iff.1 hhead

theorem ways_unit_digit {c : Char} (hc : isDecimalDigit c = true) (cs : List Char) :
    unit.ways (c :: cs) = [] := by
  refine ways_unit_eq_nil (Option.eq_none_iff_forall_ne_some.2 ?_)
  rintro ⟨u, rest⟩ hread
  have hsymbol := TimeUnit.symbol_append_of_read? hread
  have hgap := Segment.symbol_gap u rest c (by rw [← hsymbol]; rfl)
  rw [hc] at hgap
  cases hgap

/-! ### Segments -/

/-- What may follow the digits of a segment: perhaps a fraction, and a unit. -/
def endings (cs : List Char) : List (List Char × List Char × List Char) :=
  ((maybe fraction).ways cs).flatMap fun m => (unit.ways m.2).map fun n => (m.1, n.1, n.2)

theorem ways_fraction_point (cs : List Char) :
    fraction.ways ('.' :: cs) = (runs isDecimalDigit cs).map fun n => ('.' :: n.1, n.2) :=
  List.flatMap_singleton _ _

/-- **A segment ends with the fraction that is read**, or not at all. -/
theorem endings_eq (cs : List Char) :
    endings cs = (unit.ways (Segment.readFraction cs).2).map fun n =>
      (Segment.pointed (Segment.readFraction cs).1, n.1, n.2) := by
  unfold Segment.readFraction
  split
  · next rest =>
    have hpoint : unit.ways ('.' :: rest) = [] := ways_unit_eq_nil rfl
    rw [endings, ways_maybe, ways_fraction_point]
    by_cases hnone : rest.takeWhile isDecimalDigit = []
    · rw [if_pos hnone, runs_eq_nil hnone]
      simp [hpoint]
    · obtain ⟨shorter, hruns, hshorter⟩ := runs_eq_cons hnone
      -- neither fewer digits nor none can be followed by a unit
      have hothers : ∀ m ∈ shorter.map (fun n => ('.' :: n.1, n.2)) ++ [([], '.' :: rest)],
          (unit.ways m.2).map (fun n => (m.1, n.1, n.2)) = [] := by
        intro m hm
        rcases List.mem_append.1 hm with hm | hm
        · obtain ⟨n, hn, rfl⟩ := List.mem_map.1 hm
          obtain ⟨c, more, he, hc⟩ := hshorter n hn
          rw [he, ways_unit_digit hc, List.map_nil]
        · rw [List.mem_singleton.1 hm, hpoint, List.map_nil]
      rw [if_neg hnone, hruns, List.map_cons, List.cons_append, List.flatMap_cons,
        List.flatMap_eq_nil_iff.2 hothers, List.append_nil, Segment.pointed, if_neg hnone]
  · next hpoint =>
    have hnone : fraction.ways cs = [] := by
      rw [fraction, ways_seq, ways_word_eq_nil ['.'] fun rest he => hpoint rest he]
      rfl
    rw [endings, ways_maybe, hnone]
    simp [Segment.pointed]

/-- The ways in which a segment matches the head of a text: its number, its unit and the text behind
it. -/
def found (cs : List Char) : List (List Char × List Char × List Char) :=
  (number.ways cs).flatMap fun m => (unit.ways m.2).map fun n => (m.1, n.1, n.2)

theorem found_eq_flatMap (cs : List Char) :
    found cs = (runs isDecimalDigit cs).flatMap fun m =>
      (endings m.2).map fun e => (m.1 ++ e.1, e.2) := by
  rw [found, number, ways_seq]
  simp only [endings, List.flatMap_assoc, List.map_flatMap, List.flatMap_map, List.map_map]
  rfl

/-- **The preferred way in which a segment matches is how it is read**, and where none is read none
matches. -/
theorem head?_found (cs : List Char) :
    (found cs).head? = (Segment.read? cs).map fun r => (r.1.numeral, r.1.unit.symbol, r.2) := by
  rw [found_eq_flatMap, Segment.read?]
  by_cases hnone : cs.takeWhile isDecimalDigit = []
  · rw [if_pos hnone, runs_eq_nil hnone]
    rfl
  · obtain ⟨shorter, hruns, hshorter⟩ := runs_eq_cons hnone
    -- behind fewer digits there is neither a point nor a unit
    have hothers : ∀ m ∈ shorter, (endings m.2).map (fun e => (m.1 ++ e.1, e.2)) = [] := by
      intro m hm
      obtain ⟨c, rest, he, hc⟩ := hshorter m hm
      rw [he, endings_eq, Segment.readFraction_digit hc, ways_unit_digit hc, List.map_nil,
        List.map_nil]
    rw [if_neg hnone, hruns, List.flatMap_cons, List.flatMap_eq_nil_iff.2 hothers,
      List.append_nil, endings_eq, List.map_map, List.head?_map, head?_ways_unit, Option.map_map,
      Option.map_map]
    refine congrArg (Option.map · _) (funext fun u => ?_)
    simp only [Function.comp_apply, Segment.numeral_eq]

end Pattern

/-! ### Searching -/

/-- A segment that was found in a text: what stands before it, its number, its unit and what stands
behind. -/
structure Found where
  skipped : List Char
  number : List Char
  unit : List Char
  rest : List Char

/-- The preferred way of the leftmost segment. -/
def find? : List Char → Option Found
  | [] => none
  | c :: cs =>
    match (Pattern.found (c :: cs)).head? with
    | some m => some ⟨[], m.1, m.2.1, m.2.2⟩
    | none => (find? cs).map fun f => { f with skipped := c :: f.skipped }

theorem find?_of_read? {cs rest : List Char} {s : Segment} (h : Segment.read? cs = some (s, rest)) :
    find? cs = some ⟨[], s.numeral, s.unit.symbol, rest⟩ := by
  cases cs with
  | nil => cases h
  | cons c cs =>
      rw [find?, Pattern.head?_found, h]
      rfl

/-- Where no segment can be read, none is found without skipping something. -/
theorem skipped_ne_nil_of_find? {cs : List Char} {f : Found} (h : Segment.read? cs = none)
    (hf : find? cs = some f) : f.skipped ≠ [] := by
  cases cs with
  | nil => cases hf
  | cons c cs =>
      rw [find?, Pattern.head?_found, h] at hf
      obtain ⟨g, -, rfl⟩ := Option.map_eq_some_iff.1 hf
      exact List.cons_ne_nil _ _

theorem length_lt_of_find? {cs : List Char} {f : Found} (h : find? cs = some f) :
    f.rest.length < cs.length := by
  induction cs generalizing f with
  | nil => cases h
  | cons c cs ih =>
      cases hread : Segment.read? (c :: cs) with
      | some r =>
          obtain rfl := Option.some.inj ((find?_of_read? hread).symm.trans h)
          exact Segment.length_lt_of_read? hread
      | none =>
          rw [find?, Pattern.head?_found, hread] at h
          obtain ⟨g, hg, rfl⟩ := Option.map_eq_some_iff.1 h
          have hlt : g.rest.length < cs.length := ih hg
          exact Nat.lt_succ_of_lt hlt

/-- The unit that is written so. -/
def TimeUnit.ofSymbol? (symbol : List Char) : Option TimeUnit :=
  [nano, micro, microSign, milli, second, minute, hour, day].find? fun unit => unit.symbol = symbol

@[simp] theorem TimeUnit.ofSymbol?_symbol (unit : TimeUnit) :
    ofSymbol? unit.symbol = some unit := by
  cases unit <;> rfl

/-- The segment of a number and a unit.  The number is cut at its first point. -/
def Segment.ofNumber (number : List Char) (unit : TimeUnit) : Segment :=
  ⟨number.takeWhile (· ≠ '.'), (number.dropWhile (· ≠ '.')).tail, unit⟩

theorem Segment.ofNumber_numeral {s : Segment} (h : s.WellFormed) :
    ofNumber s.numeral s.unit = s := by
  have hwhole : ∀ c ∈ s.whole, decide (c ≠ '.') = true := by
    intro c hc
    refine decide_eq_true ?_
    rintro rfl
    exact absurd (h.whole_digits _ hc) (by decide)
  have hgap : ∀ c ∈ (pointed s.fraction).head?, decide (c ≠ '.') = false := by
    unfold pointed
    split <;> simp
  have htail : (pointed s.fraction).tail = s.fraction := by
    unfold pointed
    split
    · next he => rw [he, List.tail_nil]
    · rfl
  obtain ⟨htake, hdrop⟩ := takeWhile_append_of_gap hwhole hgap
  rw [numeral_eq, ofNumber, htake, hdrop, htail]

/-- What a segment adds that was found with nothing before it. -/
def Found.amount? (f : Found) : Option Amount :=
  if f.skipped = [] then
    (TimeUnit.ofSymbol? f.unit).map fun unit => (Segment.ofNumber f.number unit).amount
  else none

/-- Go from segment to segment and add them up.  Nothing may be skipped, and something has to be
found. -/
def scan (given : String) (sum : Nat) (isFirst : Bool) (cs : List Char) : Reading :=
  match _h : find? cs with
  | none => if isFirst = true ∨ cs ≠ [] then .refused (.malformed given) else verdict given sum
  | some f =>
    match f.amount? with
    | none => .refused (.malformed given)
    | some .overflow => .refused (.overflow given)
    | some .stuck => .stuck
    | some (.nanos n) =>
      if sum + n < capacity then scan given (sum + n) false f.rest else .refused (.overflow given)
  termination_by cs.length
  decreasing_by exact length_lt_of_find? _h

/-- Read an interval by searching for its segments. -/
def search (text : String) : Reading :=
  if trim text = "" then .refused .empty else scan (trim text) 0 true (lowercase (trim text).toList)

variable {given : String} {sum : Nat} {isFirst : Bool} {cs rest : List Char}

/-- Where no segment can be read, a search finds none or skips something. -/
theorem scan_of_read?_eq_none (h : Segment.read? cs = none) :
    scan given sum isFirst cs =
      if isFirst = true ∨ cs ≠ [] then .refused (.malformed given) else verdict given sum := by
  rw [scan]
  split
  · rfl
  · next f hf =>
    have hne : cs ≠ [] := by
      rintro rfl
      cases hf
    rw [Found.amount?, if_neg (skipped_ne_nil_of_find? h hf), if_pos (.inr hne)]

theorem scan_of_read?_eq_some {s : Segment} (h : Segment.read? cs = some (s, rest)) :
    scan given sum isFirst cs =
      match s.amount with
      | .overflow => .refused (.overflow given)
      | .stuck => .stuck
      | .nanos n =>
        if sum + n < capacity then scan given (sum + n) false rest
        else .refused (.overflow given) := by
  have hfind := find?_of_read? h
  rw [scan]
  split
  · next hnone =>
    rw [hfind] at hnone
    cases hnone
  · next f hf =>
    obtain rfl := Option.some.inj (hfind.symm.trans hf)
    have hamount : Found.amount? ⟨[], s.numeral, s.unit.symbol, rest⟩ = some s.amount := by
      rw [Found.amount?, if_pos rfl, TimeUnit.ofSymbol?_symbol, Option.map_some,
        Segment.ofNumber_numeral (Segment.wellFormed_of_read? h)]
    rw [hamount]
    cases s.amount <;> rfl

/-- **Going from segment to segment adds up the run at the head of the text.** -/
theorem scan_eq_total :
    scan given sum isFirst cs =
      match total sum (Segment.split cs).1 with
      | .overflow => .refused (.overflow given)
      | .stuck => .stuck
      | .nanos reached =>
        if isFirst = true ∧ (Segment.split cs).1 = [] ∨ (Segment.split cs).2 ≠ [] then
          .refused (.malformed given)
        else verdict given reached := by
  fun_induction Segment.split cs generalizing sum isFirst with
  | case1 cs h => simp [scan_of_read?_eq_none h, total]
  | case2 cs s rest h ih =>
      rw [scan_of_read?_eq_some h, total]
      cases s.amount with
      | overflow => rfl
      | stuck => rfl
      | nanos n =>
          dsimp only
          by_cases hlt : sum + n < capacity
          · rw [if_pos hlt, if_pos hlt, ih]
            simp
          · rw [if_neg hlt, if_neg hlt]

/-- **Searching for segments reads an interval.** -/
theorem search_eq_read (text : String) : search text = read text := by
  unfold search read
  dsimp only
  by_cases hempty : trim text = ""
  · rw [if_pos hempty, if_pos hempty]
  · rw [if_neg hempty, if_neg hempty, scan_eq_total]
    cases total 0 (Segment.split (lowercase (trim text).toList)).1 with
    | overflow => rfl
    | stuck => rfl
    | nanos sum => simp

/-- **Intervals are the texts of the grammar, and nothing is skipped.**  A text that is an interval,
or would be one if it were positive, is in the grammar as a whole, blanks around it and the case of
its letters apart.  And a text in the grammar is not refused as empty or malformed.  Searching for
the segments one behind the other, as far to the left as possible and longest first, does not give a
different answer. -/
theorem read_follows_grammar (text : String) :
    search text = read text ∧
    ((∃ nanos, read text = .span nanos) ∨ (∃ given, read text = .refused (.notPositive given)) →
      ∃ segments, IsWritten (lowercase (trim text).toList) segments) ∧
    ((∃ segments, IsWritten (lowercase (trim text).toList) segments) →
      read text ≠ .refused .empty ∧ ∀ given, read text ≠ .refused (.malformed given)) := by
  refine ⟨search_eq_read text, ?_, ?_⟩
  · rintro (⟨nanos, h⟩ | ⟨given, h⟩)
    · obtain ⟨segments, hw, -⟩ := exists_isWritten_of_sum? (congrArg Reading.sum? h)
      exact ⟨segments, hw⟩
    · obtain ⟨segments, hw, -⟩ := exists_isWritten_of_sum? (congrArg Reading.sum? h)
      exact ⟨segments, hw⟩
  · intro hw
    rcases read_cases text with ⟨hempty, -⟩ | ⟨-, hr⟩ | ⟨-, hr⟩ | ⟨-, hnot, -⟩ | ⟨-, sum, -, -, hr⟩
    · exact absurd hw (not_isWritten_of_trim_eq_empty hempty)
    · simp [hr]
    · simp [hr]
    · exact absurd hw hnot
    · rw [hr, verdict_eq]
      repeat' split
      all_goals simp

/-- An hour and a half, in capitals and between blanks, is in the grammar. -/
theorem read_hour_and_half : read " 1H30m " = .span 5400000000000 ∧
    ∃ segments, IsWritten (lowercase (trim " 1H30m ").toList) segments := by
  have htext : lowercase (trim " 1H30m ").toList =
      ([(⟨['1'], [], .hour⟩ : Segment), ⟨['3', '0'], [], .minute⟩].map Segment.chars).flatten := by
    decide +kernel
  have hplain : ∀ s ∈ [(⟨['1'], [], .hour⟩ : Segment), ⟨['3', '0'], [], .minute⟩], s.IsPlain := by
    simp only [List.forall_mem_cons]
    exact ⟨⟨by decide, List.all_eq_true.1 rfl, by simp⟩,
      ⟨by decide, List.all_eq_true.1 rfl, by simp⟩, by simp⟩
  have hread : read " 1H30m " = .span 5400000000000 := by
    rw [read_of_segments htext (by simp) fun s hs => (hplain s hs).wellFormed]
    decide
  exact ⟨hread, (read_follows_grammar " 1H30m ").2.1 (.inl ⟨_, hread⟩)⟩

end CredentialRotation.Interval
