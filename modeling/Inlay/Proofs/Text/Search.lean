import Inlay.Text.Blank
import Inlay.Text.Search

namespace Inlay.Text

/-! The case of ASCII letters. Lowering changes capital letters only and makes small letters of
them, so marks and blanks stay, and a name is as long in lower case as it was. -/

theorem toLower_eq_or_isLower (c : Char) :
    c.toLower = c ∨ c.isUpper = true ∧ c.toLower.isLower = true := by
  by_cases hc : c.val ≥ 'A'.val ∧ c.val ≤ 'Z'.val
  · have hval : c.toLower.val = c.val + 32 := congrArg Char.val (dif_pos hc)
    have hlower : 'a'.val ≤ c.toLower.val ∧ c.toLower.val ≤ 'z'.val := by
      grind [UInt32.toNat_add, UInt32.le_iff_toNat_le]
    exact Or.inr ⟨decide_eq_true hc,
      Bool.and_eq_true_iff.mpr ⟨decide_eq_true hlower.1, decide_eq_true hlower.2⟩⟩
  · exact Or.inl (dif_neg hc)

theorem not_isUpper_of_isLower {c : Char} (h : c.isLower = true) : ¬ c.isUpper = true := by
  intro hupper
  have hlow : 'a'.val ≤ c.val := of_decide_eq_true (Bool.and_eq_true_iff.mp h).1
  have hhigh : c.val ≤ 'Z'.val := (of_decide_eq_true hupper).2
  exact absurd (UInt32.le_trans hlow hhigh) (by decide)

theorem isAlpha_of_isLower {c : Char} (h : c.isLower = true) : c.isAlpha = true :=
  Bool.or_eq_true_iff.mpr (Or.inr h)

theorem isAlpha_of_isUpper {c : Char} (h : c.isUpper = true) : c.isAlpha = true :=
  Bool.or_eq_true_iff.mpr (Or.inl h)

@[simp] theorem isAlphanum_toLower (c : Char) : c.toLower.isAlphanum = c.isAlphanum := by
  rcases toLower_eq_or_isLower c with hsame | ⟨hupper, hlower⟩
  · rw [hsame]
  · rw [Char.isAlphanum, Char.isAlphanum, isAlpha_of_isLower hlower, isAlpha_of_isUpper hupper,
      Bool.true_or, Bool.true_or]

theorem toLower_eq_iff {c mark : Char} (hmark : mark.isAlpha = false) :
    c.toLower = mark ↔ c = mark := by
  rcases toLower_eq_or_isLower c with hsame | ⟨hupper, hlower⟩
  · rw [hsame]
  · constructor
    · rintro rfl
      rw [isAlpha_of_isLower hlower] at hmark
      cases hmark
    · rintro rfl
      rw [isAlpha_of_isUpper hupper] at hmark
      cases hmark

theorem toLower_toLower (c : Char) : c.toLower.toLower = c.toLower := by
  rcases toLower_eq_or_isLower c.toLower with hsame | ⟨hupper, -⟩
  · exact hsame
  · rcases toLower_eq_or_isLower c with hsame | ⟨-, hlower⟩
    · rw [hsame, hsame]
    · exact absurd hupper (not_isUpper_of_isLower hlower)

@[simp] theorem isHtmlBlank_toLower (c : Char) : isHtmlBlank c.toLower = isHtmlBlank c := by
  rw [Bool.eq_iff_iff]
  simp only [isHtmlBlank, Bool.or_eq_true, beq_iff_eq]
  rw [toLower_eq_iff (by decide), toLower_eq_iff (by decide), toLower_eq_iff (by decide),
    toLower_eq_iff (by decide), toLower_eq_iff (by decide)]

@[simp] theorem lower_lower (text : Text) : lower (lower text) = lower text := by
  rw [lower, lower, List.map_map]
  exact List.map_congr_left fun c _ => toLower_toLower c

theorem splitFirst?_lower {mark : Char} (hmark : mark.isAlpha = false) (text : Text) :
    splitFirst? mark (lower text) =
      (splitFirst? mark text).map (fun parts => (lower parts.1, lower parts.2)) := by
  induction text with
  | nil => rfl
  | cons c rest ih =>
      simp only [lower_cons, splitFirst?, toLower_eq_iff hmark, ih]
      split
      · rfl
      · cases splitFirst? mark rest with
        | none => rfl
        | some parts => rfl

theorem prefix_lower_iff_beginsWithFold {needle text : Text} :
    needle <+: lower text ↔ beginsWithFold needle text = true := by
  rw [beginsWithFold_iff, List.prefix_iff_eq_take, lower, lower, List.map_take, eq_comm]

theorem findFold?_eq_none_iff {needle text : Text} :
    findFold? needle text = none ↔ ¬ needle <:+: lower text := by
  fun_induction findFold? needle text with
  | case1 h => simp [h]
  | case2 h => simpa using h
  | case3 c rest hbegins =>
      have hinfix : needle <:+: lower (c :: rest) :=
        (prefix_lower_iff_beginsWithFold.mpr hbegins).isInfix
      simp only [reduceCtorEq, false_iff, Classical.not_not]
      exact hinfix
  | case4 c rest hbegins ih =>
      have hbegin : ¬ needle <+: lower (c :: rest) :=
        fun h => hbegins (prefix_lower_iff_beginsWithFold.mp h)
      rw [Option.map_eq_none_iff, ih, lower_cons, List.infix_cons_iff, not_or, ← lower_cons]
      exact ⟨fun h => ⟨hbegin, h⟩, fun h => h.2⟩

/-- The string does not begin anywhere before the place where it is found. -/
theorem not_prefix_of_findFold? {needle text front back : Text} {hit : Occurrence}
    (h : findFold? needle text = some hit) (htext : text = front ++ back)
    (hfront : front.length < hit.before.length) : ¬ needle <+: lower back := by
  fun_induction findFold? needle text generalizing hit front with
  | case1 =>
      cases h
      simp at hfront
  | case2 => cases h
  | case3 c rest hbegins =>
      cases h
      simp at hfront
  | case4 c rest hbegins ih =>
      obtain ⟨inner, hinner, rfl⟩ := Option.map_eq_some_iff.mp h
      cases front with
      | nil =>
          rw [List.nil_append] at htext
          rwa [← htext, prefix_lower_iff_beginsWithFold]
      | cons d front =>
          obtain ⟨-, hrest⟩ := List.cons.inj htext
          exact ih hinner hrest (Nat.lt_of_succ_lt_succ hfront)

theorem not_infix_before_of_findFold? {needle text : Text} {hit : Occurrence}
    (hneedle : needle ≠ []) (h : findFold? needle text = some hit) :
    ¬ needle <:+: lower hit.before := by
  rintro ⟨left, right, hinfix⟩
  obtain ⟨front, back, hbefore, rfl, hback⟩ := List.map_eq_append_iff.mp
    (show lower hit.before = left ++ (needle ++ right) by rw [← hinfix, List.append_assoc])
  have htext : text = front ++ (back ++ (hit.found ++ hit.after)) := by
    rw [eq_append_of_findFold? h, hbefore]
    simp
  -- An occurrence inside what stands before the hit would begin before it.
  have hlength : front.length < hit.before.length := by
    have hneedle := List.length_pos_iff.mpr hneedle
    have hsize := congrArg List.length hback
    simp only [List.length_map, List.length_append] at hsize
    rw [hbefore, List.length_append]
    omega
  refine not_prefix_of_findFold? h htext hlength ?_
  rw [lower_append, show lower back = needle ++ right from hback, List.append_assoc]
  exact List.prefix_append _ _

theorem findFold?_append {mark : Char} {needle content found : Text} (hmark : mark.isAlpha = false)
    (hcontent : mark ∉ content) (hfound : lower found = mark :: needle) (after : Text) :
    findFold? (mark :: needle) (content ++ (found ++ after)) = some ⟨content, found, after⟩ := by
  have hlength : (mark :: needle).length = found.length := by rw [← hfound, length_lower]
  induction content with
  | nil =>
      have hbegins : beginsWithFold (mark :: needle) (found ++ after) = true := by
        rw [beginsWithFold_iff, hlength, List.take_left, hfound]
      cases found with
      | nil => cases hfound
      | cons c found =>
          rw [List.nil_append, List.cons_append, findFold?, ← List.cons_append, if_pos hbegins,
            hlength, List.take_left, List.drop_left]
  | cons c content ih =>
      rw [List.mem_cons, not_or] at hcontent
      have hbegins :
          beginsWithFold (mark :: needle) (c :: (content ++ (found ++ after))) = false := by
        have hc : c.toLower ≠ mark := mt (toLower_eq_iff hmark).mp (Ne.symm hcontent.1)
        rw [beginsWithFold, beq_eq_false_iff_ne.mpr hc, Bool.false_and]
      rw [List.cons_append, findFold?, hbegins, ih hcontent.2]
      rfl

end Inlay.Text
