import Inlay.Text

namespace Inlay.Text

def lower (text : Text) : Text :=
  text.map Char.toLower

@[simp] theorem lower_nil : lower [] = [] := rfl

@[simp] theorem lower_cons (c : Char) (rest : Text) :
    lower (c :: rest) = c.toLower :: lower rest := rfl

@[simp] theorem lower_append (front back : Text) :
    lower (front ++ back) = lower front ++ lower back := by
  simp [lower]

@[simp] theorem length_lower (text : Text) : (lower text).length = text.length := by
  simp [lower]

/-- Whether a text begins, up to ASCII case, with a string given in lower case. -/
def beginsWithFold : Text → Text → Bool
  | [], _ => true
  | _ :: _, [] => false
  | mark :: needle, c :: rest => c.toLower == mark && beginsWithFold needle rest

theorem beginsWithFold_iff {needle text : Text} :
    beginsWithFold needle text = true ↔ lower (text.take needle.length) = needle := by
  induction needle generalizing text with
  | nil => simp [beginsWithFold]
  | cons mark needle ih =>
      cases text with
      | nil => simp [beginsWithFold]
      | cons c rest => simp [beginsWithFold, ih]

/-- What stands before the first occurrence of a lower-case string in a text, the occurrence as
it is spelled there, and what follows it. -/
structure Occurrence where
  before : Text
  found : Text
  after : Text
  deriving DecidableEq, Repr

/-- The first occurrence, up to ASCII case, of a string given in lower case. -/
def findFold? (needle : Text) : Text → Option Occurrence
  | [] => if needle = [] then some ⟨[], [], []⟩ else none
  | c :: rest =>
      if beginsWithFold needle (c :: rest) then
        some ⟨[], (c :: rest).take needle.length, (c :: rest).drop needle.length⟩
      else
        (findFold? needle rest).map (fun hit => { hit with before := c :: hit.before })

theorem eq_append_of_findFold? {needle text : Text} {hit : Occurrence}
    (h : findFold? needle text = some hit) :
    text = hit.before ++ hit.found ++ hit.after := by
  fun_induction findFold? needle text generalizing hit with
  | case1 =>
      cases h
      rfl
  | case2 => cases h
  | case3 c rest =>
      cases h
      simp
  | case4 c rest _ ih =>
      obtain ⟨inner, hinner, rfl⟩ := Option.map_eq_some_iff.mp h
      simp [ih hinner]

theorem lower_found_of_findFold? {needle text : Text} {hit : Occurrence}
    (h : findFold? needle text = some hit) : lower hit.found = needle := by
  fun_induction findFold? needle text generalizing hit with
  | case1 hneedle =>
      cases h
      exact hneedle.symm
  | case2 => cases h
  | case3 c rest hbegins =>
      cases h
      exact beginsWithFold_iff.mp hbegins
  | case4 c rest _ ih =>
      obtain ⟨inner, hinner, heq⟩ := Option.map_eq_some_iff.mp h
      subst heq
      have hfound := ih hinner
      exact hfound

theorem length_after_le_of_findFold? {needle text : Text} {hit : Occurrence}
    (h : findFold? needle text = some hit) : hit.after.length ≤ text.length := by
  rw [eq_append_of_findFold? h]
  simp only [List.length_append]
  omega

end Inlay.Text
