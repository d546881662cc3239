import CredentialRotation.Log.Watch

/-!
# Proofs — Log — Watch

What is made of the failure of a watch whose version is too old.  The text of that failure quotes
two versions, and a version is a number of any length.  The kinds of failure are told by texts that
stand anywhere, among them the numbers 404 and 401 of other failures, and these can stand within a
version.

**Main statement** (`tooOld_expired_iff`).  The failure is taken for what it is, and its log line
says that the watcher will list again, exactly if neither version has 404 or 401 among its digits;
otherwise it is taken for an object that is missing, or for missing access.
-/

namespace CredentialRotation

namespace Text

variable {cs ds pattern : List Char} {c : Char}

/-- What does not hold a certain character stands on one side of it. -/
theorem infix_append_cons_iff (h : c ∉ pattern) :
    pattern <:+: cs ++ c :: ds ↔ pattern <:+: cs ∨ pattern <:+: ds := by
  have hnil : ∀ {front : List Char}, c ∉ front → front <+: c :: ds → front = [] := by
    intro front hfront hstart
    cases front with
    | nil => rfl
    | cons d front =>
        obtain ⟨rfl, -⟩ := List.cons_prefix_cons.1 hstart
        exact absurd List.mem_cons_self hfront
  rw [List.infix_append_iff, List.infix_cons_iff]
  constructor
  · rintro (hcs | (hstart | hds) | ⟨front, back, rfl, hback, hstart⟩)
    · exact .inl hcs
    · rw [hnil h hstart]
      exact .inl List.nil_infix
    · exact .inr hds
    · obtain rfl := hnil (fun hc => h (List.mem_append_right _ hc)) hstart
      rw [List.append_nil]
      exact .inl hback.isInfix
  · rintro (hcs | hds)
    · exact .inl hcs
    · exact .inr (.inl (.inr hds))

end Text

namespace WatchFailure

variable {a b : String}

/-- The text with which a version is refused as too old. -/
def tooOld (a b : String) : String := "too old resource version: " ++ a ++ " (" ++ b ++ ")"

/-- The text is written in decimal digits. -/
def IsDecimal (text : String) : Prop := ∀ c ∈ text.toList, c.isDigit = true

/-- The number stands among the digits of one of the versions. -/
def Shows (number a b : String) : Prop :=
  number.toList <:+: a.toList ∨ number.toList <:+: b.toList

theorem toList_tooOld (a b : String) :
    (tooOld a b).toList =
      "too old resource version:".toList ++
        ' ' :: (a.toList ++ ' ' :: ('(' :: (b.toList ++ [')']))) := by
  have happend : ∀ front between back : String, (front ++ a ++ between ++ b ++ back).toList =
      front.toList ++ (a.toList ++ (between.toList ++ (b.toList ++ back.toList))) := by
    simp
  have hfront :
      "too old resource version: ".toList = "too old resource version:".toList ++ [' '] := by simp
  refine (happend _ _ _).trans ?_
  rw [hfront, List.append_assoc]
  rfl

/-- A number stands in the text exactly if it stands in one of the versions. -/
theorem infix_tooOld_iff {number : String} (hne : number ≠ "") (hnumber : IsDecimal number)
    (a b : String) : number.toList <:+: (tooOld a b).toList ↔ Shows number a b := by
  have hgap : ∀ c : Char, c.isDigit = false → c ∉ number.toList := by
    intro c hc hmem
    simp [hnumber c hmem] at hc
  have hempty : ¬ number.toList <:+: [] := by simpa using hne
  have hwords : ¬ number.toList <:+: "too old resource version:".toList := by
    intro hstands
    have hnone : ∀ c ∈ "too old resource version:".toList, c.isDigit = false := by simp
    obtain ⟨c, hc⟩ := List.exists_mem_of_ne_nil _ (mt String.toList_eq_nil_iff.1 hne)
    exact hgap c (hnone c (hstands.subset hc)) hc
  rw [toList_tooOld, Text.infix_append_cons_iff (hgap ' ' rfl),
    Text.infix_append_cons_iff (hgap ' ' rfl), ← List.nil_append ('(' :: _),
    Text.infix_append_cons_iff (hgap '(' rfl), Text.infix_append_cons_iff (hgap ')' rfl)]
  simp only [hempty, hwords, false_or, or_false, Shows]

/-- A word with a letter that is not one of the wording does not stand in the text. -/
theorem not_infix_tooOld (ha : IsDecimal a) (hb : IsDecimal b) (word : String) (c : Char)
    (hc : c ∈ word.toList) (hdigit : c.isDigit = false)
    (hwording : c ∉ "too old resource version: ()".toList) :
    ¬ word.toList <:+: (tooOld a b).toList := by
  have hversion : ∀ {s : String}, IsDecimal s → c ∉ s.toList := by
    intro s hs hmem
    simp [hs c hmem] at hdigit
  have hnot : c ∉ (tooOld a b).toList := by
    rw [toList_tooOld]
    simp at hwording
    simp [hversion ha, hversion hb, hwording]
  exact fun hstands => hnot (hstands.subset hc)

/-! ### Classification -/

/-- Of the texts that tell of a missing object, only the number can stand there. -/
theorem tellsMissing_iff (ha : IsDecimal a) (hb : IsDecimal b) :
    Text.holdsAny ["ObjectNotFound", "404", "not found"] (tooOld a b) = true ↔ Shows "404" a b := by
  have hobject := not_infix_tooOld ha hb "ObjectNotFound" 'O' (by simp) rfl (by simp)
  have hfound := not_infix_tooOld ha hb "not found" 'f' (by simp) rfl (by simp)
  have hnumber := infix_tooOld_iff (by simp) (by simp [IsDecimal] : IsDecimal "404") a b
  simp only [Text.holdsAny_cons_iff, Text.holdsAny_nil, Bool.false_eq_true, hobject, hfound,
    hnumber, false_or, or_false]

/-- The same for missing access. -/
theorem tellsNoAccess_iff (ha : IsDecimal a) (hb : IsDecimal b) :
    Text.holdsAny ["401", "Unauthorized"] (tooOld a b) = true ↔ Shows "401" a b := by
  have hword := not_infix_tooOld ha hb "Unauthorized" 'U' (by simp) rfl (by simp)
  have hnumber := infix_tooOld_iff (by simp) (by simp [IsDecimal] : IsDecimal "401") a b
  simp only [Text.holdsAny_cons_iff, Text.holdsAny_nil, Bool.false_eq_true, hword,
    hnumber, or_false]

/-- The wording itself tells of an old version. -/
theorem tellsOld (a b : String) :
    Text.holdsAny ["410", "too old resource version"] (tooOld a b) = true := by
  rw [Text.holdsAny_cons_iff, Text.holdsAny_cons_iff, toList_tooOld]
  exact .inr (.inl ⟨[], _, rfl⟩)

/-- The first of the three kinds that the text tells of is the one it is taken for. -/
theorem classify_tooOld_cases (ha : IsDecimal a) (hb : IsDecimal b) :
    Shows "404" a b ∧ classify (tooOld a b) = .notFound ∨
      ¬ Shows "404" a b ∧ Shows "401" a b ∧ classify (tooOld a b) = .unauthorized ∨
      ¬ Shows "404" a b ∧ ¬ Shows "401" a b ∧ classify (tooOld a b) = .expired := by
  rw [classify, ← tellsMissing_iff ha hb, ← tellsNoAccess_iff ha hb]
  by_cases hmissing : Text.holdsAny ["ObjectNotFound", "404", "not found"] (tooOld a b) = true
  · exact .inl ⟨hmissing, if_pos hmissing⟩
  · rw [if_neg hmissing]
    by_cases haccess : Text.holdsAny ["401", "Unauthorized"] (tooOld a b) = true
    · exact .inr (.inl ⟨hmissing, haccess, if_pos haccess⟩)
    · rw [if_neg haccess]
      exact .inr (.inr ⟨hmissing, haccess, if_pos (tellsOld a b)⟩)

/-- The line that says that the watcher lists again is logged of one kind of failure. -/
theorem log_eq_relisting_iff {text : String} :
    log text = (.warning, "Watch resource version expired (410), watcher will re-list") ↔
      classify text = .expired := by
  have hmissing : ∀ rest : String,
      "SecretRotation or its CRD not found (404); is the CRD installed? " ++ rest ≠
        "Watch resource version expired (410), watcher will re-list" := by
    intro rest h
    have hhead := congrArg (fun s : String => s.toList.head?) h
    simp at hhead
  unfold log
  cases classify text with
  | unauthorized | other => simp
  | expired => simp
  | notFound => simp [hmissing]

/-- **When a version that is too old is recognised.**  Neither of the versions in the text may have
404 or 401 among its digits, since those are looked for first and everywhere. -/
theorem tooOld_expired_iff (ha : IsDecimal a) (hb : IsDecimal b) :
    (classify (tooOld a b) = .expired ↔ ¬ Shows "404" a b ∧ ¬ Shows "401" a b) ∧
      (classify (tooOld a b) = .notFound ↔ Shows "404" a b) ∧
      (classify (tooOld a b) = .unauthorized ↔ ¬ Shows "404" a b ∧ Shows "401" a b) ∧
      (log (tooOld a b) = (.warning, "Watch resource version expired (410), watcher will re-list") ↔
        ¬ Shows "404" a b ∧ ¬ Shows "401" a b) := by
  rw [log_eq_relisting_iff]
  rcases classify_tooOld_cases ha hb with ⟨h404, h⟩ | ⟨h404, h401, h⟩ | ⟨h404, h401, h⟩
  · simp [h, h404]
  · simp [h, h404, h401]
  · simp [h, h404, h401]

/-- Version 140412 has 404 among its digits: it is taken for a missing object.  Version 140512 is
recognised. -/
theorem tooOld_digits_mislead :
    (classify (tooOld "140412" "140977") = .notFound ∧
      log (tooOld "140412" "140977") ≠
        (.warning, "Watch resource version expired (410), watcher will re-list")) ∧
      classify (tooOld "140512" "140977") = .expired := by
  have hdecimal : IsDecimal "140412" ∧ IsDecimal "140512" ∧ IsDecimal "140977" := by
    simp [IsDecimal]
  obtain ⟨hfirst, hsecond, hlater⟩ := hdecimal
  have hshows : Shows "404" "140412" "140977" := .inl ⟨['1'], ['1', '2'], by simp⟩
  have hplain : ¬ Shows "404" "140512" "140977" ∧ ¬ Shows "401" "140512" "140977" := by
    simp only [Shows]
    decide +kernel
  obtain ⟨-, hmissing, -, hlog⟩ := tooOld_expired_iff hfirst hlater
  obtain ⟨hexpired, -⟩ := tooOld_expired_iff hsecond hlater
  exact ⟨⟨hmissing.2 hshows, fun h => (hlog.1 h).1 hshows⟩, hexpired.2 hplain⟩

end WatchFailure

end CredentialRotation
