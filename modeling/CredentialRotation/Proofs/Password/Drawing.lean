import CredentialRotation.Password.Drawing

/-!
# Proofs — Password — Drawing

What is drawn from a random source, and how much of the source is used up.  An answer is *accepted*
for `n` characters when it lies below the largest multiple of `n` in the space of answers; the
others are passed over.  So a password is the accepted answers in their order, each taken modulo `n`
(`draw_iff_accepted`): the source is read up to the last answer that is needed, and what it would
have answered after that does not matter.  Where it fails before, there is no password.

`indices_of_yields` and `indices_of_fails` are the two runs of the nested loops, each by induction
on the answers used.
-/

namespace CredentialRotation

namespace Entropy

/-- The answers that are accepted for `n` characters, in order. -/
def accepted (n : Nat) (used : List (Fin space)) : List (Fin space) :=
  used.filter fun v => v.val < space - space % n

theorem accepted_cons (n : Nat) (v : Fin space) (used : List (Fin space)) :
    accepted n (v :: used) = if v.val < zone n then v :: accepted n used else accepted n used := by
  rw [accepted, List.filter_cons]
  simp only [decide_eq_true_eq]
  rfl

/-- The source answers with `before` and `last`, which is accepted and makes the accepted answers
`count`; it goes on as `rest`. -/
structure Yields (source : Entropy) (n count : Nat) (before : List (Fin space)) (last : Fin space)
    (rest : Entropy) : Prop where
  answers_eq : source.answers = before.map .ok ++ .ok last :: rest.answers
  exhausted_eq : rest.exhausted = source.exhausted
  last_lt : last.val < space - space % n
  count_eq : (accepted n (before ++ [last])).length = count

/-- The source fails for the reason, by an answer or at its end, before `count` answers are
accepted; it goes on as `rest`. -/
def FailsBefore (source : Entropy) (n count : Nat) (reason : String) (rest : Entropy) : Prop :=
  ∃ used, (accepted n used).length < count ∧ rest.exhausted = source.exhausted ∧
    (source.answers = used.map .ok ++ .error reason :: rest.answers ∨
      source.answers = used.map .ok ∧ reason = source.exhausted ∧ rest.answers = [])

/-! ### The indices -/

section Indices

variable {n : Nat} (h : 0 < n) (exhausted : String)

include h in
theorem val_mod_lt (v : Fin space) : v.val % n < n := Nat.mod_lt _ h

/-- The index that an accepted answer stands for. -/
def reduce (v : Fin space) : Fin n := ⟨v.val % n, val_mod_lt h v⟩

theorem indices_cons_of_reject {v : Fin space} (hv : ¬ v.val < zone n) (count : Nat)
    (rest : List (Except String (Fin space))) :
    indices h exhausted (count + 1) (.ok v :: rest) = indices h exhausted (count + 1) rest := by
  simp only [indices, index_of_reject h exhausted hv]

/-- **The accepted answers are the indices**, and nothing after the last of them is used. -/
theorem indices_of_yields {last : Fin space} (hlast : last.val < zone n) (before : List (Fin space))
    (rest : List (Except String (Fin space))) :
    indices h exhausted (accepted n (before ++ [last])).length
        (before.map .ok ++ .ok last :: rest) =
      (.ok ((accepted n (before ++ [last])).map (reduce h)), rest) := by
  induction before with
  | nil =>
      have hone : accepted n [last] = [last] := by rw [accepted_cons, if_pos hlast]; rfl
      rw [List.nil_append, hone, List.map_nil, List.nil_append, List.length_singleton, indices,
        index_of_accept h exhausted hlast]
      rfl
  | cons v before ih =>
      rw [List.cons_append, accepted_cons, List.map_cons, List.cons_append]
      by_cases hv : v.val < zone n
      · rw [if_pos hv, List.length_cons, indices, index_of_accept h exhausted hv]
        dsimp only
        rw [ih]
        rfl
      · -- the last answer is accepted, so that there is an index to be drawn
        have hmem : last ∈ accepted n (before ++ [last]) :=
          List.mem_filter.2 ⟨List.mem_append_right _ List.mem_cons_self, decide_eq_true hlast⟩
        obtain ⟨count, hcount⟩ := Nat.exists_eq_add_one.2 (List.length_pos_of_mem hmem)
        rw [if_neg hv, hcount, indices_cons_of_reject h exhausted hv, ← hcount, ih]

/-- **A failure ends the drawing** where not enough answers are accepted before it. -/
theorem indices_of_fails {reason : String} {tail rest : List (Except String (Fin space))}
    (htail : index h exhausted tail = (.error reason, rest)) {used : List (Fin space)} {count : Nat}
    (hcount : (accepted n used).length < count) :
    indices h exhausted count (used.map .ok ++ tail) = (.error reason, rest) := by
  induction used generalizing count with
  | nil =>
      obtain ⟨count, rfl⟩ := Nat.exists_eq_add_one.2 hcount
      rw [List.map_nil, List.nil_append, indices, htail]
  | cons v used ih =>
      obtain ⟨count, rfl⟩ := Nat.exists_eq_add_one.2 (Nat.zero_lt_of_lt hcount)
      rw [List.map_cons, List.cons_append]
      rw [accepted_cons] at hcount
      by_cases hv : v.val < zone n
      · rw [if_pos hv, List.length_cons] at hcount
        rw [indices, index_of_accept h exhausted hv]
        dsimp only
        rw [ih (Nat.lt_of_succ_lt_succ hcount)]
      · rw [if_neg hv] at hcount
        rw [indices_cons_of_reject h exhausted hv, ih hcount]

end Indices

/-! ### Answers in front of a source -/

/-- The source that answers with `v` first. -/
def ahead (v : Fin space) (source : Entropy) : Entropy :=
  { source with answers := .ok v :: source.answers }

@[simp] theorem answers_ahead (v : Fin space) (source : Entropy) :
    (source.ahead v).answers = .ok v :: source.answers := rfl

section Ahead

variable {source rest : Entropy} {n count : Nat} (v : Fin space)

theorem length_accepted_cons (n : Nat) (v : Fin space) (used : List (Fin space)) :
    (accepted n (v :: used)).length = (accepted n [v]).length + (accepted n used).length := by
  rw [← List.length_append, accepted, accepted, accepted, ← List.filter_append]
  rfl

theorem Yields.ahead {before : List (Fin space)} {last : Fin space}
    (h : source.Yields n count before last rest) :
    (source.ahead v).Yields n ((accepted n [v]).length + count) (v :: before) last rest where
  answers_eq := by rw [answers_ahead, h.answers_eq, List.map_cons, List.cons_append]
  exhausted_eq := h.exhausted_eq
  last_lt := h.last_lt
  count_eq := by rw [List.cons_append, length_accepted_cons, h.count_eq]

theorem FailsBefore.ahead {reason : String} (h : source.FailsBefore n count reason rest) :
    (source.ahead v).FailsBefore n ((accepted n [v]).length + count) reason rest := by
  obtain ⟨used, hlt, hex, htail⟩ := h
  refine ⟨v :: used, ?_, hex, ?_⟩
  · rw [length_accepted_cons]
    exact Nat.add_lt_add_left hlt _
  · rw [answers_ahead, List.map_cons, List.cons_append]
    exact htail.imp (congrArg _) fun ⟨ha, hr⟩ => ⟨congrArg _ ha, hr⟩

end Ahead

/-- A source yields as many accepted answers as are asked for, or it fails before. -/
theorem exists_yields_or_fails (source : Entropy) (n : Nat) {count : Nat} (hcount : 0 < count) :
    (∃ before last rest, source.Yields n count before last rest) ∨
      ∃ reason rest, source.FailsBefore n count reason rest := by
  obtain ⟨answers, exhausted⟩ := source
  -- along the answers; behind an accepted one, one less is asked for
  induction answers generalizing count with
  | nil => exact .inr ⟨exhausted, ⟨[], exhausted⟩, [], hcount, rfl, .inr ⟨rfl, rfl, rfl⟩⟩
  | cons answer answers ih =>
      cases answer with
      | error reason => exact .inr ⟨reason, ⟨answers, exhausted⟩, [], hcount, rfl, .inl rfl⟩
      | ok v =>
          have hnext : ∀ {more}, 0 < more → count = (accepted n [v]).length + more →
              (∃ before last rest, Yields ⟨.ok v :: answers, exhausted⟩ n count before last rest) ∨
                ∃ reason rest, FailsBefore ⟨.ok v :: answers, exhausted⟩ n count reason rest := by
            rintro more hmore rfl
            rcases ih hmore with ⟨before, last, rest, h⟩ | ⟨reason, rest, h⟩
            · exact .inl ⟨v :: before, last, rest, h.ahead v⟩
            · exact .inr ⟨reason, rest, h.ahead v⟩
          have hone := accepted_cons n v []
          by_cases hv : v.val < zone n
          · rw [if_pos hv] at hone
            obtain ⟨more, rfl⟩ := Nat.exists_eq_add_one.2 hcount
            rcases Nat.eq_zero_or_pos more with rfl | hmore
            · refine .inl ⟨[], v, ⟨answers, exhausted⟩, rfl, rfl, hv, ?_⟩
              rw [List.nil_append, hone]
              rfl
            · exact hnext hmore (by rw [hone]; exact Nat.add_comm more 1)
          · rw [if_neg hv] at hone
            exact hnext hcount (by rw [hone]; exact (Nat.zero_add count).symm)

end Entropy

namespace Password

open Entropy

/-- The alphabet and the length are such that a password can be drawn. -/
def IsDrawable (alphabet : Alphabet) (length : Nat) : Prop :=
  0 < alphabet.size ∧ 0 < length ∧ length ≤ maxLength

/-- What was asked for is refused, whatever the source. -/
def Failure.IsRefusal : Failure → Prop
  | .nothingToDraw _ _ | .tooLong _ => True
  | .source _ => False

/-- The characters of the password are those at the accepted answers, each modulo the alphabet's
size. -/
def Spells (alphabet : Alphabet) (used : List (Fin space)) (secret : Secret) : Prop :=
  secret.value.toList.map some =
    (accepted alphabet.size used).map fun v => alphabet.chars[v.val % alphabet.size]?

variable {alphabet : Alphabet} {length : Nat} {source rest : Entropy}

theorem toList_spell (indices : List (Fin alphabet.size)) :
    (spell alphabet indices).value.toList.map some =
      indices.map fun i => alphabet.chars[i.val]? := by
  rw [spell, String.toList_ofList]
  exact List.map_map.trans (List.map_congr_left fun i _ => (List.getElem?_eq_getElem i.isLt).symm)

theorem spells_spell (h : 0 < alphabet.size) (used : List (Fin space)) :
    Spells alphabet used (spell alphabet ((accepted alphabet.size used).map (reduce h))) := by
  rw [Spells, toList_spell, List.map_map]
  rfl

theorem eq_of_spells {used : List (Fin space)} {secret other : Secret}
    (h : Spells alphabet used secret) (h' : Spells alphabet used other) : secret = other := by
  have hlist : secret.value.toList = other.value.toList :=
    (List.map_inj_right fun _ _ => Option.some.inj).1 (h.trans h'.symm)
  obtain ⟨value⟩ := secret
  exact congrArg Secret.mk (String.toList_inj.1 hlist)

theorem draw_of_not_isDrawable (h : ¬ IsDrawable alphabet length) (source : Entropy) :
    ∃ reason, reason.IsRefusal ∧ draw alphabet length source = (.error reason, source) := by
  unfold draw
  split
  · next hpos =>
    rw [if_neg fun hle => h ⟨hpos.1, hpos.2, hle⟩]
    exact ⟨.tooLong length, trivial, rfl⟩
  · exact ⟨.nothingToDraw alphabet.size length, trivial, rfl⟩

theorem draw_of_yields (h : IsDrawable alphabet length) {before : List (Fin space)}
    {last : Fin space} (hy : source.Yields alphabet.size length before last rest) :
    draw alphabet length source =
      (.ok (spell alphabet ((accepted alphabet.size (before ++ [last])).map (reduce h.1))),
        rest) := by
  have hindices := indices_of_yields h.1 source.exhausted hy.last_lt before rest.answers
  rw [hy.count_eq, ← hy.answers_eq] at hindices
  rw [draw, dif_pos ⟨h.1, h.2.1⟩, if_pos h.2.2, hindices]
  dsimp only
  rw [← hy.exhausted_eq]

theorem draw_of_fails (h : IsDrawable alphabet length) {reason : String}
    (hf : source.FailsBefore alphabet.size length reason rest) :
    draw alphabet length source = (.error (.source reason), rest) := by
  obtain ⟨used, hlt, hex, htail⟩ := hf
  have hindices :
      indices h.1 source.exhausted length source.answers = (.error reason, rest.answers) := by
    rcases htail with ha | ⟨ha, rfl, hr⟩
    · rw [ha]
      exact indices_of_fails h.1 source.exhausted rfl hlt
    · have hnone : index h.1 source.exhausted [] = (.error source.exhausted, []) := rfl
      have hend := indices_of_fails h.1 source.exhausted hnone hlt
      rw [List.append_nil] at hend
      rw [ha, hr, hend]
  rw [draw, dif_pos ⟨h.1, h.2.1⟩, if_pos h.2.2, hindices]
  dsimp only
  rw [← hex]

/-- The three ways in which drawing ends: what was asked for is refused, a password is drawn, or the
source fails before it is complete. -/
theorem draw_cases (alphabet : Alphabet) (length : Nat) (source : Entropy) :
    (¬ IsDrawable alphabet length ∧
      ∃ reason, reason.IsRefusal ∧ draw alphabet length source = (.error reason, source)) ∨
    (IsDrawable alphabet length ∧ ∃ before last rest secret,
      source.Yields alphabet.size length before last rest ∧
        Spells alphabet (before ++ [last]) secret ∧
        draw alphabet length source = (.ok secret, rest)) ∨
    (IsDrawable alphabet length ∧ ∃ reason rest,
      source.FailsBefore alphabet.size length reason rest ∧
        draw alphabet length source = (.error (.source reason), rest)) := by
  by_cases hd : IsDrawable alphabet length
  · rcases exists_yields_or_fails source alphabet.size hd.2.1 with ⟨before, last, rest, hy⟩ |
      ⟨reason, rest, hf⟩
    · exact .inr (.inl ⟨hd, before, last, rest, _, hy, spells_spell hd.1 _, draw_of_yields hd hy⟩)
    · exact .inr (.inr ⟨hd, reason, rest, hf, draw_of_fails hd hf⟩)
  · exact .inl ⟨hd, draw_of_not_isDrawable hd source⟩

theorem not_isDrawable_iff :
    ¬ IsDrawable alphabet length ↔ alphabet.size = 0 ∨ length = 0 ∨ maxLength < length := by
  unfold IsDrawable
  omega

/-- What cannot be drawn is refused, nothing else is, and the source is left as it was. -/
theorem draw_refuses_iff :
    (∃ reason, reason.IsRefusal ∧ draw alphabet length source = (.error reason, rest)) ↔
      ¬ IsDrawable alphabet length ∧ rest = source := by
  constructor
  · rintro ⟨reason, hr, h⟩
    rcases draw_cases alphabet length source with ⟨hd, _, -, hdraw⟩ | ⟨-, _, _, _, _, -, -, hdraw⟩ |
      ⟨-, _, _, -, hdraw⟩
    · cases h.symm.trans hdraw
      exact ⟨hd, rfl⟩
    · cases h.symm.trans hdraw
    · cases h.symm.trans hdraw
      exact hr.elim
  · rintro ⟨hd, rfl⟩
    exact draw_of_not_isDrawable hd rest

theorem draw_eq_ok_iff {secret : Secret} :
    draw alphabet length source = (.ok secret, rest) ↔
      IsDrawable alphabet length ∧ ∃ before last,
        source.Yields alphabet.size length before last rest ∧
          Spells alphabet (before ++ [last]) secret := by
  constructor
  · intro h
    rcases draw_cases alphabet length source with ⟨-, _, -, hdraw⟩ |
      ⟨hd, before, last, _, _, hy, hs, hdraw⟩ | ⟨-, _, _, -, hdraw⟩
    · cases h.symm.trans hdraw
    · cases h.symm.trans hdraw
      exact ⟨hd, before, last, hy, hs⟩
    · cases h.symm.trans hdraw
  · rintro ⟨hd, before, last, hy, hs⟩
    rw [draw_of_yields hd hy, eq_of_spells (spells_spell hd.1 _) hs]

theorem draw_eq_source_iff {reason : String} :
    draw alphabet length source = (.error (.source reason), rest) ↔
      IsDrawable alphabet length ∧ source.FailsBefore alphabet.size length reason rest := by
  constructor
  · intro h
    rcases draw_cases alphabet length source with ⟨-, _, hr, hdraw⟩ | ⟨-, _, _, _, _, -, -, hdraw⟩ |
      ⟨hd, _, _, hf, hdraw⟩
    · cases h.symm.trans hdraw
      exact hr.elim
    · cases h.symm.trans hdraw
    · cases h.symm.trans hdraw
      exact ⟨hd, hf⟩
  · rintro ⟨hd, hf⟩
    exact draw_of_fails hd hf

/-- **A password is the accepted answers of the source, in their order.**  An empty alphabet, no
length or a length above the longest is refused and the source left as it was, and nothing else is
refused.  Otherwise there is a password exactly if the source yields as many accepted answers as it
has characters: it is spelled by them, and the source goes on behind the last of them, whatever that
is.  If the source fails before, it is the source's reason that is given.  A password has the length
that was asked for, in characters of the alphabet. -/
theorem draw_iff_accepted (alphabet : Alphabet) (length : Nat) (source rest : Entropy) :
    ((∃ reason, reason.IsRefusal ∧ draw alphabet length source = (.error reason, rest)) ↔
      (alphabet.size = 0 ∨ length = 0 ∨ maxLength < length) ∧ rest = source) ∧
    (∀ secret, draw alphabet length source = (.ok secret, rest) ↔
      IsDrawable alphabet length ∧ ∃ before last,
        source.Yields alphabet.size length before last rest ∧
          Spells alphabet (before ++ [last]) secret) ∧
    (∀ reason, draw alphabet length source = (.error (.source reason), rest) ↔
      IsDrawable alphabet length ∧ source.FailsBefore alphabet.size length reason rest) ∧
    (∀ secret, draw alphabet length source = (.ok secret, rest) →
      secret.value.length = length ∧ ∀ c ∈ secret.value.toList, alphabet.contains c = true) := by
  refine ⟨?_, fun _ => draw_eq_ok_iff, fun _ => draw_eq_source_iff, fun _ => spelled_of_draw⟩
  rw [← not_isDrawable_iff]
  exact draw_refuses_iff

/-- Of three letters: the one answer beyond the largest multiple of three is passed over, and the
answer behind the second accepted one is left. -/
theorem draw_of_three_letters :
    draw (.ofGroups ["abc"]) 2 ⟨[.ok 4294967295, .ok 5, .ok 4294967292, .ok 1], "exhausted"⟩ =
        (.ok ⟨"ca"⟩, ⟨[.ok 1], "exhausted"⟩) ∧
      "ca".length = 2 ∧ ∀ c ∈ "ca".toList, (Alphabet.ofGroups ["abc"]).contains c = true := by
  have hdrawable : IsDrawable (.ofGroups ["abc"]) 2 := ⟨by decide, by decide, by decide⟩
  have hspec := draw_iff_accepted (.ofGroups ["abc"]) 2
    ⟨[.ok 4294967295, .ok 5, .ok 4294967292, .ok 1], "exhausted"⟩ ⟨[.ok 1], "exhausted"⟩
  have hdraw := (hspec.2.1 ⟨"ca"⟩).2
    ⟨hdrawable, [4294967295, 5], 4294967292, ⟨rfl, rfl, by decide, by decide⟩, rfl⟩
  exact ⟨hdraw, hspec.2.2.2 ⟨"ca"⟩ hdraw⟩

end Password

end CredentialRotation
