import Inlay.Document.Parse
import Inlay.Proofs.Compilation
import Inlay.Proofs.Html.Standard.Tokenizer
import Inlay.Proofs.Text.Search
import Mathlib.Control.Monad.Basic

namespace Inlay.Document

def embedded (dialect : Dialect) (source : Text) : Text :=
  '<' :: dialect.name ++ ['>'] ++ Html.writeReferences source ++
    (['<', '/'] ++ dialect.name ++ ['>'])

theorem openingTag?_embedded (dialect : Dialect) (after : Text) :
    openingTag? ('<' :: dialect.name ++ ['>'] ++ after) =
      some ⟨dialect, '<' :: dialect.name ++ ['>'], after⟩ := by
  cases dialect with
  | stylesheet => rfl
  | markup => rfl

theorem lower_closing (dialect : Dialect) :
    Text.lower (['<', '/'] ++ dialect.name ++ ['>']) = dialect.closingTag := by
  cases dialect with
  | stylesheet => rfl
  | markup => rfl

section

variable {tokenize : Html.Tokenizer} {data : Text → Text} (htokens : Html.ReadsData tokenize data)

include htokens

theorem read_embedded {source : Text} (hreturn : '\r' ∉ source)
    (hmark : source.head? ≠ some '\uFEFF') (dialect : Dialect) :
    read tokenize (embedded dialect source) =
      .block { dialect := dialect, raw := embedded dialect source, source := source } [] := by
  have htag : openingTag? (embedded dialect source) =
      some ⟨dialect, '<' :: dialect.name ++ ['>'],
        Html.writeReferences source ++ (['<', '/'] ++ dialect.name ++ ['>'])⟩ := by
    rw [embedded, List.append_assoc, openingTag?_embedded]
  have hhit : Text.findFold? dialect.closingTag
      (Html.writeReferences source ++ (['<', '/'] ++ dialect.name ++ ['>'])) =
        some ⟨Html.writeReferences source, ['<', '/'] ++ dialect.name ++ ['>'], []⟩ := by
    have hfound := Text.findFold?_append (by decide) (Html.markup_not_mem_writeReferences source)
      (lower_closing dialect) []
    rwa [List.append_nil] at hfound
  rw [read, htag]
  simp only [hhit, htokens.textContent_writeReferences hreturn hmark]
  rfl

theorem segments_parse_embedded {source : Text} (hreturn : '\r' ∉ source)
    (hmark : source.head? ≠ some '\uFEFF') (dialect : Dialect) :
    (parse tokenize (embedded dialect source)).segments =
      [.block { dialect := dialect, raw := embedded dialect source, source := source }] := by
  have hread := read_embedded htokens hreturn hmark dialect
  rw [embedded, List.append_assoc, List.append_assoc, List.cons_append] at hread
  rw [parse, embedded, List.append_assoc, List.append_assoc, List.cons_append,
    pieces_of_block hread, pieces_nil]
  rfl

end

/-- A source that is written into a document is the one block there and comes back as it was,
whatever tags and references it seems to contain; a markup source that can be compiled leaves its
forest in the place of the block. -/
theorem parse_embedded {tokenize : Html.Tokenizer} {data : Text → Text}
    (htokens : Html.ReadsData tokenize data) {source : Text} (hreturn : '\r' ∉ source)
    (hmark : source.head? ≠ some '\uFEFF') :
    (∀ dialect,
      (parse tokenize (embedded dialect source)).segments =
        [.block { dialect := dialect, raw := embedded dialect source, source := source }] ∧
      (parse tokenize (embedded dialect source)).pending dialect = [⟨dialect, source, 0⟩]) ∧
    ∀ options forest, Markup.compile source = .ok forest →
      (compileBlocks options (parse tokenize (embedded .markup source))).host.segments =
        [.block
          { dialect := .markup
            raw := embedded .markup source
            source := source
            replacement := some forest }] := by
  refine ⟨?_, ?_⟩
  · intro dialect
    have hsegments := segments_parse_embedded htokens hreturn hmark dialect
    refine ⟨hsegments, ?_⟩
    rw [pending, hsegments, pendingFrom_of_waits (by simp [Slot.waits, Slot.isPending])]
    rfl
  · intro options forest hforest
    rw [segments_compileBlocks, segments_parse_embedded htokens hreturn hmark, List.map_singleton,
      Segment.mapSlot, Slot.compiled_of_isPending rfl, compileBlock, hforest]
    rfl

/-- The source has both closing tags, an opening one, a reference, a NUL and a mark in it. -/
theorem exists_embedded_source_with_block_tags :
    ∃ source forest, source = "</AHT>@b\x7b<AAAD>&amp</aaad>é\x00\uFEFF\x7d&lt;".toList ∧
      Html.ReadsData Html.Standard.tokenize Html.Standard.data ∧
      '\r' ∉ source ∧ source.head? ≠ some '\uFEFF' ∧ Markup.compile source = .ok forest ∧
      (parse Html.Standard.tokenize (embedded .stylesheet source)).pending .stylesheet =
        [⟨.stylesheet, source, 0⟩] ∧
      (compileBlocks {}
        (parse Html.Standard.tokenize (embedded .markup source))).host.forests = [forest] := by
  let source : Text := "</AHT>@b\x7b<AAAD>&amp</aaad>é\x00\uFEFF\x7d&lt;".toList
  let forest : Forest := .text "</AHT>".toList (.element ['b'] ⟨[]⟩
    (.text "<AAAD>&amp</aaad>é\x00\uFEFF".toList .nil) (.text "&lt;".toList .nil))
  have hreturn : '\r' ∉ source := by decide
  have hmark : source.head? ≠ some '\uFEFF' := by decide
  have hcompile : Markup.compile source = .ok forest := by decide +kernel
  obtain ⟨hparse, hrun⟩ := parse_embedded Html.Standard.readsData_tokenize hreturn hmark
  refine ⟨source, forest, rfl, Html.Standard.readsData_tokenize, hreturn, hmark, hcompile,
    (hparse .stylesheet).2, ?_⟩
  rw [forests, slots, hrun {} forest hcompile]
  rfl

end Inlay.Document
