import Inlay.Proofs.Markup.Compile

namespace Inlay

namespace Forest

def topTexts : Forest → List Text
  | nil => []
  | text content rest => content :: rest.topTexts
  | element _ _ _ rest => rest.topTexts

/-- Two forests one behind the other. A text at the end of the first and a text at the start of the
second become one. -/
def join : Forest → Forest → Forest
  | nil, back => back
  | text content nil, text next rest => text (content ++ next) rest
  | text content rest, back => text content (rest.join back)
  | element tag attributes children rest, back =>
      element tag attributes children (rest.join back)

theorem join_text {content : Text} {rest : Forest} (hcontent : content ≠ [])
    (hrest : rest.beginsWithText = false) (back : Forest) :
    (text content rest).join back = joinText content (rest.join back) := by
  obtain ⟨c, content, rfl⟩ := List.exists_cons_of_ne_nil hcontent
  cases rest with
  | nil => cases back <;> rfl
  | text next rest => cases hrest
  | element tag attributes children rest => rfl

end Forest

namespace Markup

theorem headFree_of_not_mem {front : Text} (h : '@' ∉ front) (back : Text) :
    HeadFree front back := by
  induction front with
  | nil => trivial
  | cons c front ih =>
      simp only [List.mem_cons, not_or] at h
      exact ⟨Head.scan?_cons_of_ne (Ne.symm h.1) (front ++ back), ih h.2⟩

theorem descend_append_of_topTexts {front : Text} {forest : Forest}
    (h : descend front = .ok forest) (hmarks : ∀ content ∈ forest.topTexts, '@' ∉ content)
    (back : Text) :
    descend (front ++ back) =
      ((descend back).mapError (CompileError.shift (Text.utf8Size front))).map forest.join := by
  -- Along the top level of the first forest, what is read of its source reads on at the seam.
  induction forest generalizing front with
  | nil =>
      rw [eq_nil_of_descend h, List.nil_append]
      cases descend back with
      | error error => exact congrArg Except.error error.shift_zero.symm
      | ok forest => rfl
  | text content rest ih =>
      obtain ⟨hcontent, hrest, following, rfl, -, hfollowing⟩ := exists_of_descend_text h
      obtain ⟨hmark, hmarks⟩ := List.forall_mem_cons.mp hmarks
      have hfree : HeadFree content (following ++ back) := headFree_of_not_mem hmark _
      rw [List.append_assoc, descend_append hfree, ih hfollowing hmarks, Text.utf8Size_append,
        Nat.add_comm]
      cases descend back with
      | error error => exact congrArg Except.error (CompileError.shift_shift _ _ error)
      | ok forest => exact congrArg Except.ok (Forest.join_text hcontent hrest forest).symm
  | element tag attributes children rest _ ih =>
      obtain ⟨spelled, inside, behind, size, rfl, hspells, hbalanced, hinside, hbehind⟩ :=
        exists_of_descend_element h
      have hsource : spelled ++ (inside ++ '}' :: behind) ++ back =
          [] ++ (spelled ++ (inside ++ '}' :: (behind ++ back))) := by
        simp
      have hnone : HeadFree [] (spelled ++ (inside ++ '}' :: (behind ++ back))) := trivial
      have hsize : Text.utf8Size behind + (Text.utf8Size [] + size + Text.utf8Size inside + 1) =
          Text.utf8Size (spelled ++ (inside ++ '}' :: behind)) := by
        have hmark : '}'.utf8Size = 1 := rfl
        simp only [Text.utf8Size_append, Text.utf8Size_cons, Text.utf8Size_nil, hspells.utf8Size]
        omega
      rw [hsource, descend_of_element hnone hspells hbalanced, hinside, ih hbehind hmarks, ← hsize]
      cases descend back with
      | error error => exact congrArg Except.error (CompileError.shift_shift _ _ error)
      | ok forest => rfl

/-- A source behind one whose forest has no `@` outside of all elements compiles as it does alone:
its forest is joined to the forest before it, and the tag that it fails at moves by the size of the
source before it. -/
theorem compile_append_of_topTexts {front : Text} {forest : Forest}
    (h : compile front = .ok forest) (hmarks : ∀ content ∈ forest.topTexts, '@' ∉ content)
    (back : Text) :
    (∀ more, compile back = .ok more → compile (front ++ back) = .ok (forest.join more)) ∧
      ∀ offset tag, compile back = .error (.unbalancedTag offset tag) →
        compile (front ++ back) =
          .error (.unbalancedTag (offset + Text.utf8Size front) tag) := by
  have hdescend : descend front = .ok forest := descend_eq_of_compile h
  have hboth := descend_append_of_topTexts hdescend hmarks back
  refine ⟨?_, ?_⟩
  · intro more hmore
    rw [descend_eq_of_compile hmore] at hboth
    exact compile_eq_of_descend hboth
  · intro offset tag herror
    rw [descend_eq_of_compile herror] at hboth
    exact compile_eq_of_descend hboth

theorem exists_compile_append_within_text :
    ∃ forest, compile r#"ä@p(k="}{"){@ x@q{}}t"#.toList = .ok forest ∧
      (∀ content ∈ forest.topTexts, '@' ∉ content) ∧
      (∃ more, compile r#"} {@r{@}@"#.toList = .ok more ∧
        compile (r#"ä@p(k="}{"){@ x@q{}}t"#.toList ++ r#"} {@r{@}@"#.toList) =
          .ok (forest.join more)) ∧
      compile r#"u@r{@s{}"#.toList = .error (.unbalancedTag 1 ['r']) ∧
      compile (r#"ä@p(k="}{"){@ x@q{}}t"#.toList ++ r#"u@r{@s{}"#.toList) =
        .error (.unbalancedTag 23 ['r']) := by
  let forest : Forest :=
    .text ['ä']
      (.element ['p'] ⟨[(['k'], ['}', '{'])]⟩
        (.text "@ x".toList (.element ['q'] ⟨[]⟩ .nil .nil))
        (.text ['t'] .nil))
  have hfront : compile r#"ä@p(k="}{"){@ x@q{}}t"#.toList = .ok forest := by decide +kernel
  have hmarks : ∀ content ∈ forest.topTexts, '@' ∉ content := by decide
  let more : Forest :=
    .text ['}', ' ', '{'] (.element ['r'] ⟨[]⟩ (.text ['@'] .nil) (.text ['@'] .nil))
  have hmore : compile r#"} {@r{@}@"#.toList = .ok more := by decide +kernel
  have herror : compile r#"u@r{@s{}"#.toList = .error (.unbalancedTag 1 ['r']) := by
    decide +kernel
  refine ⟨forest, hfront, hmarks, ⟨more, hmore, ?_⟩, herror, ?_⟩
  · exact (compile_append_of_topTexts hfront hmarks _).1 more hmore
  · exact (compile_append_of_topTexts hfront hmarks _).2 1 ['r'] herror

end Markup

end Inlay
