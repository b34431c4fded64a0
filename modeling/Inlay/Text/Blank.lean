import Inlay.Text

namespace Inlay.Text

def isBlank (c : Char) : Bool :=
  let code := c.toNat
  (0x09 ≤ code && code ≤ 0x0D) || code == 0x20 || code == 0x85 || code == 0xA0 ||
    code == 0x1680 || (0x2000 ≤ code && code ≤ 0x200A) || code == 0x2028 || code == 0x2029 ||
    code == 0x202F || code == 0x205F || code == 0x3000

/-- The blanks of HTML: tab, line feed, form feed, carriage return and space. -/
def isHtmlBlank (c : Char) : Bool :=
  c == '\t' || c == '\n' || c == '\x0c' || c == '\r' || c == ' '

def trimStart (text : Text) : Text :=
  text.dropWhile isBlank

def trimEnd (text : Text) : Text :=
  (text.reverse.dropWhile isBlank).reverse

def trim (text : Text) : Text :=
  trimEnd (trimStart text)

/-- Whether a text goes on with a character that is not blank. -/
def continuesWord : Text → Bool
  | [] => false
  | c :: _ => !isBlank c

/-- The maximal runs of characters that are not blank. -/
def words : Text → List Text
  | [] => []
  | c :: rest =>
      if isBlank c then words rest
      else if continuesWord rest then prepend c (words rest)
      else [c] :: words rest

def unwords (parts : List Text) : Text :=
  List.intercalate [' '] parts

theorem words_cons_of_isBlank {c : Char} (h : isBlank c = true) (rest : Text) :
    words (c :: rest) = words rest := by
  simp [words, h]

theorem ne_nil_of_mem_words {text word : Text} (h : word ∈ words text) : word ≠ [] := by
  fun_induction words text generalizing word with
  | case1 => cases h
  | case2 c rest _ ih => exact ih h
  | case3 c rest _ _ ih =>
      cases hwords : words rest with
      | nil => simp_all
      | cons first others =>
          rw [hwords, prepend_cons, List.mem_cons] at h
          rcases h with rfl | h
          · simp
          · exact ih (by simp [hwords, h])
  | case4 c rest _ _ ih =>
      rcases List.mem_cons.mp h with rfl | h
      · simp
      · exact ih h

theorem not_isBlank_of_mem_words {text word : Text} (h : word ∈ words text) {c : Char}
    (hc : c ∈ word) : isBlank c = false := by
  fun_induction words text generalizing word with
  | case1 => cases h
  | case2 d rest _ ih => exact ih h hc
  | case3 d rest hd _ ih =>
      cases hwords : words rest with
      | nil => simp_all
      | cons first others =>
          rw [hwords, prepend_cons, List.mem_cons] at h
          rcases h with rfl | h
          · rcases List.mem_cons.mp hc with rfl | hc
            · simpa using hd
            · exact ih (by simp [hwords]) hc
          · exact ih (by simp [hwords, h]) hc
  | case4 d rest hd _ ih =>
      rcases List.mem_cons.mp h with rfl | h
      · rcases List.mem_cons.mp hc with rfl | hc
        · simpa using hd
        · cases hc
      · exact ih h hc

end Inlay.Text
