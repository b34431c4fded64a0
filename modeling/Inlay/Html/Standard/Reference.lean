import Inlay.Html.Standard.ReferenceNames
import Inlay.Text

namespace Inlay.Html.Standard

/-- The code points 80 to 9F stand for what the Windows-1252 code page has there. -/
def codePage : List (Nat × Nat) :=
  [(0x80, 0x20AC), (0x82, 0x201A), (0x83, 0x0192), (0x84, 0x201E), (0x85, 0x2026),
    (0x86, 0x2020), (0x87, 0x2021), (0x88, 0x02C6), (0x89, 0x2030), (0x8A, 0x0160),
    (0x8B, 0x2039), (0x8C, 0x0152), (0x8E, 0x017D), (0x91, 0x2018), (0x92, 0x2019),
    (0x93, 0x201C), (0x94, 0x201D), (0x95, 0x2022), (0x96, 0x2013), (0x97, 0x2014),
    (0x98, 0x02DC), (0x99, 0x2122), (0x9A, 0x0161), (0x9B, 0x203A), (0x9C, 0x0153),
    (0x9E, 0x017E), (0x9F, 0x0178)]

/-- The character of a numeric reference. Zero and numbers that are no character give U+FFFD. -/
def referencedChar (code : Nat) : Char :=
  if code = 0 ∨ ¬ code.isValidChar then '\uFFFD'
  else Char.ofNat ((codePage.lookup code).getD code)

def digitValue (c : Char) : Nat :=
  if c.isDigit then c.toNat - '0'.toNat
  else c.toLower.toNat - 'a'.toNat + 10

def isHexDigit (c : Char) : Bool :=
  c.isDigit || ('a' ≤ c && c ≤ 'f') || ('A' ≤ c && c ≤ 'F')

def digitsValue (base : Nat) (digits : Text) : Nat :=
  digits.foldl (fun value c => value * base + digitValue c) 0

def dropSemicolon : Text → Text
  | ';' :: rest => rest
  | text => text

/-- A character written as digits of a class, and the text after its optional semicolon. -/
def digitsReference? (base : Nat) (isDigit : Char → Bool) (text : Text) : Option (Text × Text) :=
  let digits := text.takeWhile isDigit
  if digits.isEmpty then
    none
  else
    some ([referencedChar (digitsValue base digits)], dropSemicolon (text.dropWhile isDigit))

def numericReference? : Text → Option (Text × Text)
  | 'x' :: rest => digitsReference? 16 isHexDigit rest
  | 'X' :: rest => digitsReference? 16 isHexDigit rest
  | text => digitsReference? 10 Char.isDigit text

def longerName (best : Option (Text × List Nat)) (entry : Text × List Nat) :
    Option (Text × List Nat) :=
  match best with
  | none => some entry
  | some found => if found.1.length < entry.1.length then some entry else best

/-- The longest of some names with which a text begins. -/
def longestName? (names : List (String × List Nat)) (text : Text) : Option (Text × List Nat) :=
  names.foldl
    (fun best entry =>
      let name := entry.1.toList
      if name.isPrefixOf text then longerName best (name, entry.2) else best)
    none

def namedReference? (text : Text) : Option (Text × Text) := do
  let first ← text.head?
  let (name, codes) ← longestName? (ReferenceNames.startingWith first) text
  return (codes.map Char.ofNat, text.drop name.length)

/-- The characters of the reference that follows an `&`, and the text after it. -/
def reference? : Text → Option (Text × Text)
  | '#' :: rest => numericReference? rest
  | text => namedReference? text

theorem length_dropSemicolon_le (text : Text) : (dropSemicolon text).length ≤ text.length := by
  unfold dropSemicolon
  split <;> simp

theorem length_le_of_digitsReference? {base : Nat} {isDigit : Char → Bool}
    {text characters rest : Text}
    (h : digitsReference? base isDigit text = some (characters, rest)) :
    rest.length ≤ text.length := by
  have hdrop := (List.dropWhile_sublist (l := text) isDigit).length_le
  have hsemicolon := length_dropSemicolon_le (text.dropWhile isDigit)
  unfold digitsReference? at h
  simp only at h
  split at h
  · cases h
  · cases h
    omega

theorem length_le_of_reference? {text characters rest : Text}
    (h : reference? text = some (characters, rest)) : rest.length ≤ text.length := by
  unfold reference? at h
  split at h
  · rename_i text
    unfold numericReference? at h
    split at h
    · have hrest := length_le_of_digitsReference? h
      simp only [List.length_cons]
      omega
    · have hrest := length_le_of_digitsReference? h
      simp only [List.length_cons]
      omega
    · have hrest := length_le_of_digitsReference? h
      simp only [List.length_cons]
      omega
  · unfold namedReference? at h
    obtain ⟨first, _, h⟩ := Option.bind_eq_some_iff.mp h
    obtain ⟨⟨name, codes⟩, _, h⟩ := Option.bind_eq_some_iff.mp h
    cases h
    simp only [List.length_drop]
    omega

end Inlay.Html.Standard
