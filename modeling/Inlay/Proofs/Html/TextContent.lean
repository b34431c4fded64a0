import Inlay.Html.TextContent

namespace Inlay.Html

def Token.content : Token → Text
  | characters content => content
  | nullCharacter => ['\x00']
  | other => []

namespace TextSink

theorem text_processToken (sink : TextSink) (token : Token) :
    (sink.processToken token).text = sink.text ++ token.content := by
  cases token with
  | characters content => simp [processToken, push, text, Token.content]
  | nullCharacter => simp [processToken, push, text, Token.content]
  | other => simp [processToken, Token.content]

theorem text_foldl (sink : TextSink) (tokens : List Token) :
    (tokens.foldl processToken sink).text = sink.text ++ tokens.flatMap Token.content := by
  induction tokens generalizing sink with
  | nil => simp
  | cons token tokens ih =>
      rw [List.foldl_cons, ih, text_processToken, List.append_assoc, List.flatMap_cons]

end TextSink

theorem textContent_eq (tokenize : Tokenizer) (html : Text) :
    textContent tokenize html = (tokenize html).flatMap Token.content :=
  TextSink.text_foldl {} (tokenize html)

/-- The facts that are used of a tokenizer. In the data state it resolves two references and lets
every other character pass but those that begin a reference, markup or a line break; before that it
drops at most a byte order mark. -/
structure ReadsData (tokenize : Tokenizer) (data : Text → Text) : Prop where
  start : ∀ text, text.head? ≠ some '\uFEFF' → (tokenize text).flatMap Token.content = data text
  nil : data [] = []
  ampersand : ∀ rest, data ("&amp;".toList ++ rest) = '&' :: data rest
  lessThan : ∀ rest, data ("&lt;".toList ++ rest) = '<' :: data rest
  plain : ∀ c rest, c ≠ '&' → c ≠ '<' → c ≠ '\r' → data (c :: rest) = c :: data rest

def referenceChar (c : Char) : Text :=
  match c with
  | '&' => "&amp;".toList
  | '<' => "&lt;".toList
  | c => [c]

def writeReferences (source : Text) : Text :=
  source.flatMap referenceChar

theorem referenceChar_of_ne {c : Char} (hreference : c ≠ '&') (hmarkup : c ≠ '<') :
    referenceChar c = [c] := by
  unfold referenceChar
  split
  · exact absurd rfl hreference
  · exact absurd rfl hmarkup
  · rfl

theorem writeReferences_cons (c : Char) (rest : Text) :
    writeReferences (c :: rest) = referenceChar c ++ writeReferences rest := rfl

theorem markup_not_mem_writeReferences (source : Text) : '<' ∉ writeReferences source := by
  intro h
  obtain ⟨c, -, hc⟩ := List.mem_flatMap.mp h
  unfold referenceChar at hc
  split at hc
  · exact absurd hc (by decide)
  · exact absurd hc (by decide)
  · rename_i hmarkup
    exact hmarkup (List.mem_singleton.mp hc).symm

theorem head?_writeReferences_ne {source : Text} (h : source.head? ≠ some '\uFEFF') :
    (writeReferences source).head? ≠ some '\uFEFF' := by
  cases source with
  | nil => exact h
  | cons c rest =>
      rw [writeReferences_cons]
      unfold referenceChar
      split
      · exact nofun
      · exact nofun
      · exact h

namespace ReadsData

variable {tokenize : Tokenizer} {data : Text → Text} (h : ReadsData tokenize data)

include h

theorem data_referenceChar {c : Char} (hreturn : c ≠ '\r') (rest : Text) :
    data (referenceChar c ++ rest) = c :: data rest := by
  by_cases hreference : c = '&'
  · subst hreference
    exact h.ampersand rest
  · by_cases hmarkup : c = '<'
    · subst hmarkup
      exact h.lessThan rest
    · rw [referenceChar_of_ne hreference hmarkup, List.singleton_append]
      exact h.plain c rest hreference hmarkup hreturn

theorem data_writeReferences {source : Text} (hreturn : '\r' ∉ source) :
    data (writeReferences source) = source := by
  induction source with
  | nil => exact h.nil
  | cons c rest ih =>
      rw [List.mem_cons, not_or] at hreturn
      rw [writeReferences_cons, h.data_referenceChar (Ne.symm hreturn.1), ih hreturn.2]

theorem textContent_writeReferences {source : Text} (hreturn : '\r' ∉ source)
    (hmark : source.head? ≠ some '\uFEFF') :
    textContent tokenize (writeReferences source) = source := by
  rw [textContent_eq, h.start _ (head?_writeReferences_ne hmark), h.data_writeReferences hreturn]

end ReadsData

end Inlay.Html
