import Inlay.Proofs.Markup.Compile

namespace Inlay.Markup

/-- A text that is a layout of a forest: its texts as they are, and each element as some spelling
of its head, a layout of its children and a `}`. -/
inductive Layout : Text → Forest → Prop where
  | nil : Layout [] .nil
  | text (content : Text) {source : Text} {rest : Forest} (hrest : Layout source rest) :
      Layout (content ++ source) (.text content rest)
  | element {spelled body source : Text} {located : LocatedHead} {children rest : Forest}
      (hhead : headAt? spelled 0 (Text.utf8Size spelled) = .ok (some located))
      (hstart : located.start = 0) (hend : located.bodyStart = Text.utf8Size spelled)
      (hbody : Layout body children) (hrest : Layout source rest) :
      Layout (spelled ++ body ++ '}' :: source)
        (.element located.head.name located.head.attributes children rest)

theorem Spells.headAt? {spelled : Text} {head : Head} (h : Spells spelled head) :
    headAt? spelled 0 (Text.utf8Size spelled) =
      .ok (some ⟨0, head, Text.utf8Size spelled⟩) := by
  have hhead := headAt?_append [] spelled []
  rw [show Head.scan? spelled = some (head, []) from h] at hhead
  simpa [h.utf8Size] using hhead

theorem layout_of_descend {source : Text} {forest : Forest} (h : descend source = .ok forest) :
    Layout source forest := by
  induction forest generalizing source with
  | nil =>
      rw [eq_nil_of_descend h]
      exact .nil
  | text content rest ih =>
      obtain ⟨-, -, back, rfl, -, hback⟩ := exists_of_descend_text h
      exact .text content (ih hback)
  | element tag attributes children rest ihChildren ihRest =>
      obtain ⟨spelled, inside, behind, size, rfl, hspells, -, hinside, hbehind⟩ :=
        exists_of_descend_element h
      rw [← List.append_assoc]
      exact .element hspells.headAt? rfl rfl (ihChildren hinside) (ihRest hbehind)

/-- A source that compiles is a layout of the forest it compiles to. -/
theorem layout_of_compile {source : Text} {forest : Forest} (h : compile source = .ok forest) :
    Layout source forest := by
  have hdescend : descend source = .ok forest := descend_eq_of_compile h
  exact layout_of_descend hdescend

theorem exists_layout_of_nested_siblings : ∃ forest,
    compile r#"{@ x}@p (@p(k = "{", bad) {x@q{}@y ({})}}z"#.toList = .ok forest ∧
      Layout r#"{@ x}@p (@p(k = "{", bad) {x@q{}@y ({})}}z"#.toList forest := by
  let forest : Forest :=
    .text "{@ x}@p (".toList
      (.element ['p'] ⟨[(['k'], ['{'])]⟩
        (.text ['x'] (.element ['q'] ⟨[]⟩ .nil (.text "@y ({})".toList .nil)))
        (.text ['}', 'z'] .nil))
  have hsource : compile r#"{@ x}@p (@p(k = "{", bad) {x@q{}@y ({})}}z"#.toList = .ok forest := by
    decide +kernel
  exact ⟨forest, hsource, layout_of_compile hsource⟩

end Inlay.Markup
