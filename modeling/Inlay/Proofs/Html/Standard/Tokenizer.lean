import Inlay.Html.Standard.Tokenizer
import Inlay.Proofs.Html.TextContent

namespace Inlay.Html.Standard

/-! The tables of names are long, but only the names that are a part of the front of a text or go
on from it can be found there, and those are few. -/

theorem longestName?_append (names : List (String × List Nat)) (front back : Text) :
    longestName? names (front ++ back) =
      longestName? (names.filter fun entry =>
        entry.1.toList.isPrefixOf front || front.isPrefixOf entry.1.toList) (front ++ back) := by
  rw [longestName?, longestName?, List.foldl_filter]
  congr
  funext best entry
  by_cases hbegins : entry.1.toList.isPrefixOf (front ++ back) = true
  · have hnear : (entry.1.toList.isPrefixOf front || front.isPrefixOf entry.1.toList) = true := by
      rw [Bool.or_eq_true, List.isPrefixOf_iff_prefix, List.isPrefixOf_iff_prefix]
      exact List.prefix_or_prefix_of_prefix (List.isPrefixOf_iff_prefix.mp hbegins)
        (List.prefix_append front back)
    rw [if_pos hnear]
  · simp only [if_neg hbegins, ite_self]

theorem reference?_of_longestName? {first : Char} {rest name : Text} {codes : List Nat}
    (hfirst : first ≠ '#')
    (h : longestName? (ReferenceNames.startingWith first) (first :: rest) = some (name, codes)) :
    reference? (first :: rest) = some (codes.map Char.ofNat, (first :: rest).drop name.length) := by
  unfold reference?
  split
  · rename_i htext
    exact absurd (List.cons.inj htext).1 hfirst
  · simp only [namedReference?, List.head?_cons, Option.bind_eq_bind, Option.bind_some, h]
    rfl

theorem reference?_amp (rest : Text) :
    reference? ("amp;".toList ++ rest) = some (['&'], rest) := by
  have hnear : (ReferenceNames.smallA.filter fun entry =>
      entry.1.toList.isPrefixOf "amp;".toList || "amp;".toList.isPrefixOf entry.1.toList) =
        [("amp", [0x26]), ("amp;", [0x26])] := by
    decide +kernel
  have hname : longestName? ReferenceNames.smallA ("amp;".toList ++ rest) =
      some ("amp;".toList, [0x26]) := by
    rw [longestName?_append, hnear]
    rfl
  exact reference?_of_longestName? (by decide) hname

theorem reference?_lt (rest : Text) :
    reference? ("lt;".toList ++ rest) = some (['<'], rest) := by
  have hnear : (ReferenceNames.smallL.filter fun entry =>
      entry.1.toList.isPrefixOf "lt;".toList || "lt;".toList.isPrefixOf entry.1.toList) =
        [("lt", [0x3C]), ("lt;", [0x3C])] := by
    decide +kernel
  have hname : longestName? ReferenceNames.smallL ("lt;".toList ++ rest) =
      some ("lt;".toList, [0x3C]) := by
    rw [longestName?_append, hnear]
    rfl
  exact reference?_of_longestName? (by decide) hname

theorem dropByteOrderMark_of_head? {text : Text} (h : text.head? ≠ some '\uFEFF') :
    dropByteOrderMark text = text := by
  fun_cases dropByteOrderMark text with
  | case1 rest => exact absurd rfl h
  | case2 => rfl

theorem normalizeLineBreaks_cons {c : Char} (h : c ≠ '\r') (rest : Text) :
    normalizeLineBreaks (c :: rest) = c :: normalizeLineBreaks rest := by
  rw [normalizeLineBreaks]
  · rintro tail rfl
    exact absurd rfl h
  · rintro rfl
    exact absurd rfl h

theorem normalizeLineBreaks_append {front : Text} (h : '\r' ∉ front) (back : Text) :
    normalizeLineBreaks (front ++ back) = front ++ normalizeLineBreaks back := by
  induction front with
  | nil => rfl
  | cons c rest ih =>
      rw [List.mem_cons, not_or] at h
      rw [List.cons_append, normalizeLineBreaks_cons (Ne.symm h.1), ih h.2, List.cons_append]

theorem content_charToken (c : Char) : (charToken c).content = [c] := by
  unfold charToken
  split
  · rename_i hnull
    rw [hnull]
    rfl
  · rfl

/-- The characters that are read from a text in the data state. -/
def data (text : Text) : Text :=
  (tokens (normalizeLineBreaks text)).flatMap Token.content

theorem data_reference (name : Text) {c : Char} (hreturn : '\r' ∉ name)
    (hname : ∀ after, reference? (name ++ after) = some ([c], after)) (rest : Text) :
    data ('&' :: name ++ rest) = c :: data rest := by
  have hbreaks : normalizeLineBreaks ('&' :: name ++ rest) =
      '&' :: (name ++ normalizeLineBreaks rest) := by
    rw [List.cons_append, normalizeLineBreaks_cons (by decide), normalizeLineBreaks_append hreturn]
  rw [data, hbreaks, tokens_reference (hname _), List.flatMap_cons]
  rfl

theorem readsData_tokenize : ReadsData tokenize data := by
  constructor
  case start =>
    intro text hmark
    rw [tokenize, dropByteOrderMark_of_head? hmark]
    rfl
  case nil => simp [data, normalizeLineBreaks]
  case ampersand =>
    intro rest
    exact data_reference "amp;".toList (by decide) reference?_amp rest
  case lessThan =>
    intro rest
    exact data_reference "lt;".toList (by decide) reference?_lt rest
  case plain =>
    intro c rest hreference hmarkup hreturn
    rw [data, normalizeLineBreaks_cons hreturn, tokens_cons hmarkup hreference,
      List.flatMap_cons, content_charToken]
    rfl

end Inlay.Html.Standard
