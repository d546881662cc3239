import CredentialRotation.Proofs.Password.Drawing
import Mathlib.SetTheory.Cardinal.Finite

/-!
# Proofs — Password — Uniform

How often a password is drawn.  An accepted answer is a whole number of turns through the indices
and an index, and every such pair is one accepted answer (`Entropy.turnAndIndex`): that is all that
the bound on the answers is for.  So as many sequences of accepted answers lead to one word of
indices as there are sequences of turns, whatever the word (`Entropy.card_draws`).  Where no
character occurs twice in the alphabet, a password is spelled by one word only, and what holds of
words holds of passwords (`draws_uniform`).
-/

namespace CredentialRotation

namespace Entropy

variable {n count : Nat}

/-! ### Accepted answers -/

/-- An index is drawn from the answer, and nothing behind it is used. -/
def IsAccepted (h : 0 < n) (v : Fin space) : Prop :=
  ∀ exhausted rest, ∃ i, index h exhausted (.ok v :: rest) = (.ok i, rest)

theorem isAccepted_iff (h : 0 < n) {v : Fin space} : IsAccepted h v ↔ v.val < zone n := by
  constructor
  · intro ha
    refine Decidable.byContradiction fun hv => ?_
    obtain ⟨i, hi⟩ := ha "" []
    rw [index_of_reject h "" hv] at hi
    cases hi
  · intro hv exhausted rest
    exact ⟨_, index_of_accept h exhausted hv rest⟩

/-- The accepted answers. -/
def Accepted (h : 0 < n) : Type := { v : Fin space // IsAccepted h v }

/-- The answers below the zone are whole turns through the indices. -/
theorem zone_eq (n : Nat) : zone n = space / n * n := by
  rw [zone, Nat.sub_eq_iff_eq_add (Nat.mod_le _ _), Nat.div_add_mod']

theorem div_lt_of_lt_zone (h : 0 < n) {v : Nat} (hv : v < zone n) : v / n < space / n := by
  rwa [Nat.div_lt_iff_lt_mul h, ← zone_eq]

theorem lt_zone_of_lt {turn i : Nat} (hturn : turn < space / n) (hi : i < n) :
    turn * n + i < zone n := by
  calc turn * n + i < turn * n + n := Nat.add_lt_add_left hi _
    _ = (turn + 1) * n := (Nat.succ_mul turn n).symm
    _ ≤ space / n * n := Nat.mul_le_mul_right n hturn
    _ = zone n := (zone_eq n).symm

/-- **An accepted answer is a turn through the indices, and an index.** -/
def turnAndIndex (h : 0 < n) : Accepted h ≃ Fin (space / n) × Fin n where
  toFun v := (⟨v.1.val / n, div_lt_of_lt_zone h ((isAccepted_iff h).1 v.2)⟩, reduce h v.1)
  invFun p :=
    have hp := lt_zone_of_lt p.1.isLt p.2.isLt
    ⟨⟨p.1.val * n + p.2.val, Nat.lt_of_lt_of_le hp (Nat.sub_le _ _)⟩, (isAccepted_iff h).2 hp⟩
  left_inv v := Subtype.ext (Fin.ext (Nat.div_add_mod' v.1.val n))
  right_inv p := by
    refine Prod.ext (Fin.ext ?_) (Fin.ext ?_)
    · show (p.1.val * n + p.2.val) / n = p.1.val
      rw [Nat.mul_comm, Nat.mul_add_div h, Nat.div_eq_of_lt p.2.isLt, Nat.add_zero]
    · show (p.1.val * n + p.2.val) % n = p.2.val
      rw [Nat.mul_comm, Nat.mul_add_mod, Nat.mod_eq_of_lt p.2.isLt]

theorem card_accepted (h : 0 < n) : Nat.card (Accepted h) = zone n := by
  rw [Nat.card_congr (turnAndIndex h), Nat.card_prod, Nat.card_fin, Nat.card_fin, zone_eq]

/-- More than half of all answers are accepted: less than one turn is passed over, and there is one
at least. -/
theorem space_lt_two_mul_zone (h : 0 < n) (hle : n ≤ space) : space < 2 * zone n := by
  have hmod := Nat.mod_lt space h
  have hturn : n ≤ space / n * n := Nat.le_mul_of_pos_left n (Nat.div_pos hle h)
  rw [← zone_eq] at hturn
  have hsum : zone n + space % n = space := Nat.sub_add_cancel (Nat.mod_le _ _)
  omega

/-! ### Sequences of accepted answers -/

section Draws

variable (h : 0 < n)

/-- The source that gives these answers, and then goes on as `rest`. -/
def answering (draws : Fin count → Accepted h) (rest : Entropy) : Entropy :=
  { rest with answers := (List.ofFn draws).map (fun v => .ok v.1) ++ rest.answers }

/-- The index at each accepted answer. -/
def word (draws : Fin count → Accepted h) : Fin count → Fin n :=
  fun k => (turnAndIndex h (draws k)).2

/-- Accepted answers are used up one by one, an index from each. -/
theorem indices_of_accepted (exhausted : String) (used : List (Accepted h))
    (rest : List (Except String (Fin space))) :
    indices h exhausted used.length (used.map (fun v => .ok v.1) ++ rest) =
      (.ok (used.map fun v => (turnAndIndex h v).2), rest) := by
  induction used with
  | nil => rfl
  | cons v used ih =>
      rw [List.length_cons, List.map_cons, List.cons_append, indices,
        index_of_accept h exhausted ((isAccepted_iff h).1 v.2)]
      dsimp only
      rw [ih]
      rfl

theorem indices_answering (draws : Fin count → Accepted h) (rest : Entropy) :
    indices h rest.exhausted count (answering h draws rest).answers =
      (.ok (List.ofFn (word h draws)), rest.answers) := by
  have hused := indices_of_accepted h rest.exhausted (List.ofFn draws) rest.answers
  have hword : (List.ofFn draws).map (fun v => (turnAndIndex h v).2) = List.ofFn (word h draws) :=
    List.map_ofFn
  rwa [List.length_ofFn, hword] at hused

/-- **A sequence of accepted answers that leads to a word is a sequence of turns**, whatever the
word. -/
def turns (target : Fin count → Fin n) :
    { draws : Fin count → Accepted h // word h draws = target } ≃
      (Fin count → Fin (space / n)) where
  toFun draws k := (turnAndIndex h (draws.1 k)).1
  invFun turns := ⟨fun k => (turnAndIndex h).symm (turns k, target k),
    funext fun _ => congrArg Prod.snd ((turnAndIndex h).apply_symm_apply _)⟩
  left_inv := by
    rintro ⟨draws, rfl⟩
    exact Subtype.ext (funext fun k => (turnAndIndex h).symm_apply_apply (draws k))
  right_inv _ := funext fun _ => congrArg Prod.fst ((turnAndIndex h).apply_symm_apply _)

theorem card_word_eq (target : Fin count → Fin n) :
    Nat.card { draws : Fin count → Accepted h // word h draws = target } = (space / n) ^ count := by
  rw [Nat.card_congr (turns h target), Nat.card_fun, Nat.card_fin, Nat.card_fin]

theorem card_draws (target : Fin count → Fin n) (rest : Entropy) :
    Nat.card { draws : Fin count → Accepted h //
      indices h rest.exhausted count (answering h draws rest).answers =
        (.ok (List.ofFn target), rest.answers) } = (space / n) ^ count := by
  simp only [indices_answering, Prod.mk.injEq, Except.ok.injEq, and_true, List.ofFn_inj]
  exact card_word_eq h target

end Draws

end Entropy

namespace Password

open Entropy

variable {alphabet : Alphabet} {length : Nat} {secret : Secret}

/-! ### Passwords -/

theorem spell_injective (h : alphabet.chars.Nodup) : Function.Injective (spell alphabet) := by
  intro is js he
  have hchars : is.map (fun i => alphabet.chars[i.val]?) =
      js.map fun i => alphabet.chars[i.val]? := by
    rw [← toList_spell, ← toList_spell, he]
  refine (List.map_inj_right fun i j hij => ?_).1 hchars
  exact Fin.ext ((List.getElem?_inj i.isLt h).1 hij)

/-- The password has the length, in characters of the alphabet. -/
def IsOver (alphabet : Alphabet) (length : Nat) (secret : Secret) : Prop :=
  secret.value.length = length ∧ ∀ c ∈ secret.value.toList, alphabet.contains c = true

theorem exists_spell (h : IsOver alphabet length secret) :
    ∃ target : Fin length → Fin alphabet.size, spell alphabet (List.ofFn target) = secret := by
  obtain ⟨hlength, hover⟩ := h
  rw [← String.length_toList] at hlength
  subst hlength
  have hindex : ∀ k : Fin secret.value.toList.length, ∃ i : Fin alphabet.size,
      alphabet.chars[i.val]? = some (secret.value.toList.get k) := fun k => by
    have hmem := List.contains_iff_mem.1 (hover _ (List.get_mem _ k))
    obtain ⟨i, hi, hget⟩ := List.mem_iff_getElem.1 hmem
    exact ⟨⟨i, hi⟩, (List.getElem?_eq_getElem hi).trans (congrArg some hget)⟩
  choose target htarget using hindex
  have hchars : (spell alphabet (List.ofFn target)).value.toList.map some =
      secret.value.toList.map some := by
    have hget : (fun i : Fin alphabet.size => alphabet.chars[i.val]?) ∘ target =
        some ∘ secret.value.toList.get := funext htarget
    rw [toList_spell, List.map_ofFn, hget, ← List.map_ofFn, List.ofFn_get]
  have hlist := (List.map_inj_right fun _ _ => Option.some.inj).1 hchars
  exact ⟨target, congrArg Secret.mk (String.toList_inj.1 hlist)⟩

theorem draw_answering (h : IsDrawable alphabet length) (draws : Fin length → Accepted h.1)
    (rest : Entropy) :
    draw alphabet length (answering h.1 draws rest) =
      (.ok (spell alphabet (List.ofFn (word h.1 draws))), rest) := by
  have hindices : indices h.1 (answering h.1 draws rest).exhausted length
      (answering h.1 draws rest).answers = (.ok (List.ofFn (word h.1 draws)), rest.answers) :=
    indices_answering h.1 draws rest
  rw [draw, dif_pos ⟨h.1, h.2.1⟩, if_pos h.2.2, hindices]
  rfl

/-- There are no more characters than answers. -/
theorem size_le_space (h : alphabet.chars.Nodup) : alphabet.size ≤ space := by
  have hnumbers : (alphabet.chars.map Char.toNat).Nodup :=
    h.map fun _ _ => Char.toNat_inj.1
  have hbelow : alphabet.chars.map Char.toNat ⊆ List.range space := by
    intro number hmem
    obtain ⟨c, -, rfl⟩ := List.mem_map.1 hmem
    exact List.mem_range.2 c.val.toNat_lt
  have hlength := (List.subperm_of_subset hnumbers hbelow).length_le
  rwa [List.length_map, List.length_range] at hlength

theorem nodup_standard (withSymbols : Bool) : (Alphabet.standard withSymbols).chars.Nodup := by
  cases withSymbols <;> decide +kernel

/-- **As many sequences of accepted answers lead to a password as to a word.** -/
theorem card_draws_of_nodup (hd : IsDrawable alphabet length) (hnodup : alphabet.chars.Nodup)
    (hover : IsOver alphabet length secret) (rest : Entropy) :
    Nat.card { draws : Fin length → Accepted hd.1 //
      draw alphabet length (answering hd.1 draws rest) = (.ok secret, rest) } =
        (space / alphabet.size) ^ length := by
  obtain ⟨target, rfl⟩ := exists_spell hover
  have hiff : ∀ draws : Fin length → Accepted hd.1,
      draw alphabet length (answering hd.1 draws rest) =
          (.ok (spell alphabet (List.ofFn target)), rest) ↔
        word hd.1 draws = target := fun draws => by
    rw [draw_answering hd draws rest, Prod.mk.injEq, Except.ok.injEq,
      (spell_injective hnodup).eq_iff, List.ofFn_inj]
    exact and_iff_left rfl
  simp only [hiff]
  exact card_word_eq hd.1 target

/-- **Passwords are exactly uniform.**  More than half of all answers are accepted for `n`
characters, and the others are passed over.  Of the sequences of accepted answers, one after
another, equally many lead to each word of indices below `n`: a whole number of turns for each
index.  So where no character occurs twice in the alphabet, equally many lead to each password of a
length that can be drawn; the standard alphabets are such. -/
theorem draws_uniform :
    (∀ (n : Nat) (h : 0 < n), n ≤ space →
      space < 2 * Nat.card (Accepted h) ∧
      (∀ v, ¬ IsAccepted h v → ∀ exhausted rest,
        index h exhausted (.ok v :: rest) = index h exhausted rest) ∧
      ∀ (count : Nat) (target : Fin count → Fin n) (rest : Entropy),
        Nat.card { draws : Fin count → Accepted h //
          indices h rest.exhausted count (answering h draws rest).answers =
            (.ok (List.ofFn target), rest.answers) } = (space / n) ^ count) ∧
    (∀ (alphabet : Alphabet) (length : Nat) (hd : IsDrawable alphabet length),
      alphabet.chars.Nodup →
      alphabet.size ≤ space ∧
      ∀ secret, IsOver alphabet length secret → ∀ rest : Entropy,
        Nat.card { draws : Fin length → Accepted hd.1 //
          draw alphabet length (answering hd.1 draws rest) = (.ok secret, rest) } =
            (space / alphabet.size) ^ length) ∧
    ∀ withSymbols, (Alphabet.standard withSymbols).chars.Nodup := by
  refine ⟨fun n h hle => ⟨?_, fun v hv exhausted rest => ?_, fun _ => card_draws h⟩,
    fun alphabet length hd hnodup => ⟨size_le_space hnodup, fun secret => ?_⟩, nodup_standard⟩
  · rw [card_accepted]
    exact space_lt_two_mul_zone h hle
  · exact index_of_reject h exhausted (mt (isAccepted_iff h).2 hv) rest
  · exact card_draws_of_nodup hd hnodup

/-- For three characters one answer is passed over.  A password of sixteen letters and digits is
drawn by 69273666 accepted answers for each of its characters. -/
theorem draws_of_letters_and_digits :
    (∃ h : 0 < 3, Nat.card { draws : Fin 2 → Accepted h //
      indices h "exhausted" 2 (answering h draws ⟨[], "exhausted"⟩).answers = (.ok [2, 2], []) } =
        1431655765 ^ 2) ∧
    ∃ hd : IsDrawable (.standard false) 16, Nat.card { draws : Fin 16 → Accepted hd.1 //
      draw (.standard false) 16 (answering hd.1 draws ⟨[], "exhausted"⟩) =
        (.ok ⟨"KXKDGVK7WP4lKTi7"⟩, ⟨[], "exhausted"⟩) } = 69273666 ^ 16 := by
  obtain ⟨hwords, hpasswords, hstandard⟩ := draws_uniform
  have hd : IsDrawable (.standard false) 16 := ⟨by decide +kernel, by decide, by decide⟩
  refine ⟨⟨by decide, ?_⟩, hd, ?_⟩
  · exact (hwords 3 (by decide) (by decide)).2.2 2 (fun _ => 2) ⟨[], "exhausted"⟩
  · have hchars : "KXKDGVK7WP4lKTi7".toList.all (Alphabet.standard false).contains = true := by
      decide +kernel
    have hover : IsOver (.standard false) 16 ⟨"KXKDGVK7WP4lKTi7"⟩ :=
      ⟨by decide +kernel, List.all_eq_true.1 hchars⟩
    have hsize : (Alphabet.standard false).size = 62 := by decide +kernel
    have hshare : space / 62 = 69273666 := by decide
    have hcard := (hpasswords _ _ hd (hstandard false)).2 _ hover ⟨[], "exhausted"⟩
    rw [hcard, hsize, hshare]

end Password

end CredentialRotation
