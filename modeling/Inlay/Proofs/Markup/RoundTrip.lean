import Inlay.Proofs.Markup.Canonical
import Inlay.Proofs.Markup.Compile

namespace Inlay

open Markup

namespace Forest

def QuoteFree (forest : Forest) : Prop :=
  ∀ root ∈ forest.elements, root.attributes.QuoteFree

instance (forest : Forest) : Decidable forest.QuoteFree :=
  inferInstanceAs (Decidable (∀ root ∈ forest.elements, root.attributes.QuoteFree))

theorem quoteFree_element {tag : Text} {attributes : Attributes} {children rest : Forest} :
    (element tag attributes children rest).QuoteFree ↔
      attributes.QuoteFree ∧ children.QuoteFree ∧ rest.QuoteFree := by
  simp only [QuoteFree, elements, List.forall_mem_cons, List.forall_mem_append]

/-- No text has a brace or a whole head in it. -/
def PlainTexts (forest : Forest) : Prop :=
  ∀ content ∈ forest.texts, '{' ∉ content ∧ '}' ∉ content ∧ HeadFree content []

instance (forest : Forest) : Decidable forest.PlainTexts :=
  inferInstanceAs (Decidable
    (∀ content ∈ forest.texts, '{' ∉ content ∧ '}' ∉ content ∧ HeadFree content []))

/-- Printed, the forest is read back node for node. -/
def Readable : Forest → Prop
  | nil => True
  | text content rest => HeadFree content rest.toAht ∧ rest.Readable
  | element _ _ children rest =>
      Balanced children.toAht ∧ children.Readable ∧ rest.Readable

instance Readable.decidable : (forest : Forest) → Decidable forest.Readable
  | nil => .isTrue trivial
  | text content rest =>
      have := Readable.decidable rest
      inferInstanceAs (Decidable (HeadFree content rest.toAht ∧ rest.Readable))
  | element _ _ children rest =>
      have := Readable.decidable children
      have := Readable.decidable rest
      inferInstanceAs (Decidable (Balanced children.toAht ∧ children.Readable ∧ rest.Readable))

end Forest

namespace Markup

theorem descend_toAht {forest : Forest} (hmerged : forest.Merged) (hnamed : forest.WellNamed)
    (hquotes : forest.QuoteFree) (hreadable : forest.Readable) :
    descend forest.toAht = .ok forest := by
  induction forest with
  | nil => exact descend_nil
  | text content rest ih =>
      obtain ⟨hfree, hrest⟩ := hreadable
      rw [Forest.toAht_text, descend_append hfree, ih hmerged.2.2 hnamed hquotes hrest]
      exact congrArg Except.ok (Forest.joinText_of_merged hmerged)
  | element tag attributes children rest ihChildren ihRest =>
      obtain ⟨hbalanced, hchildren, hrest⟩ := hreadable
      obtain ⟨⟨htag, hattributes⟩, hnamedChildren, hnamedRest⟩ :=
        Forest.wellNamed_element.mp hnamed
      obtain ⟨hvalues, hquotesChildren, hquotesRest⟩ := Forest.quoteFree_element.mp hquotes
      obtain ⟨size, hspells⟩ := spells_printedHead htag hattributes hvalues
      have hnone : HeadFree [] (printedHead tag attributes ++
          (children.toAht ++ '}' :: rest.toAht)) := trivial
      rw [toAht_element_eq]
      exact descend_of_parts hnone hspells hbalanced
        (ihChildren hmerged.1 hnamedChildren hquotesChildren hchildren)
        (ihRest hmerged.2 hnamedRest hquotesRest hrest)

/-- A forest that is read from a beginning of its own print, or from a text that begins with it, is
read from exactly that print. -/
theorem eq_toAht_of_descend {forest : Forest} {source more back : Text}
    (hnamed : forest.WellNamed) (hquotes : forest.QuoteFree)
    (h : descend source = .ok forest) (htext : source ++ more = forest.toAht ++ back) :
    source = forest.toAht := by
  induction forest generalizing source more back with
  | nil => exact eq_nil_of_descend h
  | text content rest ih =>
      obtain ⟨-, -, following, rfl, -, hrest⟩ := exists_of_descend_text h
      rw [Forest.toAht_text, List.append_assoc, List.append_assoc] at htext
      rw [Forest.toAht_text, ih hnamed hquotes hrest (List.append_cancel_left htext)]
  | element tag attributes children rest ihChildren ihRest =>
      obtain ⟨spelled, inside, behind, size, rfl, hspells, -, hinside, hbehind⟩ :=
        exists_of_descend_element h
      obtain ⟨⟨htag, hattributes⟩, hnamedChildren, hnamedRest⟩ :=
        Forest.wellNamed_element.mp hnamed
      obtain ⟨hvalues, hquotesChildren, hquotesRest⟩ := Forest.quoteFree_element.mp hquotes
      obtain ⟨printedSize, hprinted⟩ := spells_printedHead htag hattributes hvalues
      rw [toAht_element_eq] at htext ⊢
      simp only [List.append_assoc, List.cons_append] at htext
      obtain ⟨hspelled, hbody⟩ := hspells.append_inj hprinted htext
      have hchildren := ihChildren hnamedChildren hquotesChildren hinside hbody
      rw [hchildren] at hbody
      have hrest := ihRest hnamedRest hquotesRest hbehind
        (List.cons.inj (List.append_cancel_left hbody)).2
      rw [hspelled, hchildren, hrest]

theorem readable_of_descend_toAht {forest : Forest} (hnamed : forest.WellNamed)
    (hquotes : forest.QuoteFree) (h : descend forest.toAht = .ok forest) : forest.Readable := by
  induction forest with
  | nil => trivial
  | text content rest ih =>
      obtain ⟨-, -, back, htext, hfree, hrest⟩ := exists_of_descend_text h
      have hback : rest.toAht = back := List.append_cancel_left htext
      subst hback
      exact ⟨hfree, ih hnamed hquotes hrest⟩
  | element tag attributes children rest ihChildren ihRest =>
      obtain ⟨⟨htag, hattributes⟩, hnamedChildren, hnamedRest⟩ :=
        Forest.wellNamed_element.mp hnamed
      obtain ⟨hvalues, hquotesChildren, hquotesRest⟩ := Forest.quoteFree_element.mp hquotes
      obtain ⟨printedSize, hprinted⟩ := spells_printedHead htag hattributes hvalues
      obtain ⟨spelled, inside, behind, size, htext, hspells, hbalanced, hinside, hbehind⟩ :=
        exists_of_descend_element h
      rw [toAht_element_eq] at htext
      obtain ⟨-, hbody⟩ := hprinted.append_inj hspells htext
      have hchildren : inside = children.toAht :=
        eq_toAht_of_descend hnamedChildren hquotesChildren hinside hbody.symm
      subst hchildren
      have hrest : rest.toAht = behind := (List.cons.inj (List.append_cancel_left hbody)).2
      subst hrest
      exact ⟨hbalanced, ihChildren hnamedChildren hquotesChildren hinside,
        ihRest hnamedRest hquotesRest hbehind⟩

/-- The forest of a source whose values have no quote comes back from its print exactly when it is
readable. -/
theorem compile_toAht_eq_iff_readable {source : Text} {forest : Forest}
    (h : compile source = .ok forest) (hquotes : forest.QuoteFree) :
    compile forest.toAht = .ok forest ↔ forest.Readable := by
  have hdescend : descend source = .ok forest := descend_eq_of_compile h
  have hnamed : forest.WellNamed := wellNamed_of_descend hdescend
  have hprint : compile forest.toAht = descend forest.toAht :=
    State.result_run_initial forest.toAht
  rw [hprint]
  constructor
  · intro hagain
    exact readable_of_descend_toAht hnamed hquotes hagain
  · intro hreadable
    exact descend_toAht (merged_of_descend hdescend) hnamed hquotes hreadable

theorem exists_compile_toAht_of_values_with_braces : ∃ forest,
    compile r#"@ x@a(k = "{", bad) { @a @c( y = "{,)}",y{}=2,=3){z}@d{@}}}"#.toList = .ok forest ∧
      forest.QuoteFree ∧
      forest.toAht = r#"@ x@a(k="{"){ @a @c(y="{,)}",y{}="2"){z}@d{@}}}"#.toList ∧
      compile forest.toAht = .ok forest := by
  let forest : Forest :=
    .text "@ x".toList
      (.element ['a'] ⟨[(['k'], ['{'])]⟩
        (.text " @a ".toList
          (.element ['c'] ⟨[(['y'], "{,)}".toList), ("y{}".toList, ['2'])]⟩
            (.text ['z'] .nil)
            (.element ['d'] ⟨[]⟩ (.text ['@'] .nil) .nil)))
        (.text ['}'] .nil))
  have hsource : compile
      r#"@ x@a(k = "{", bad) { @a @c( y = "{,)}",y{}=2,=3){z}@d{@}}}"#.toList = .ok forest := by
    decide +kernel
  have hquotes : forest.QuoteFree := by decide
  have hreadable : forest.Readable := by decide
  refine ⟨forest, hsource, hquotes, by decide, ?_⟩
  exact (compile_toAht_eq_iff_readable hsource hquotes).mpr hreadable

/-- Without braces or heads in texts and without quotes in values, a forest can still be lost: a
brace in a value moves the end of an outer element, and the quotes of a print can close a group
that a text leaves open. -/
theorem compile_toAht_ne_of_plainTexts :
    (∃ forest, compile r#"@a{@b(x="{",}){}}"#.toList = .ok forest ∧
      forest.PlainTexts ∧ forest.QuoteFree ∧
      compile forest.toAht = .error (.unbalancedTag 0 ['a'])) ∧
    ∃ forest, compile r#"@c(x="@b(y=1){}"#.toList = .ok forest ∧
      forest.PlainTexts ∧ forest.QuoteFree ∧ compile forest.toAht ≠ .ok forest := by
  constructor
  · refine ⟨.element ['a'] ⟨[]⟩ (.element ['b'] ⟨[(['x'], ['{'])]⟩ .nil .nil) .nil, ?_⟩
    exact ⟨by decide +kernel, by decide, by decide, by decide +kernel⟩
  · refine ⟨.text r#"@c(x=""#.toList (.element ['b'] ⟨[(['y'], ['1'])]⟩ .nil .nil), ?_⟩
    exact ⟨by decide +kernel, by decide, by decide, by decide +kernel⟩

end Markup

end Inlay
