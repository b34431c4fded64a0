namespace Inlay

/-- Every offset and size in a text counts the bytes of its UTF-8 form. -/
abbrev Text := List Char

namespace Text

/-- The number of bytes in the UTF-8 form of a text. -/
def utf8Size : Text → Nat
  | [] => 0
  | c :: rest => c.utf8Size + utf8Size rest

@[simp] theorem utf8Size_nil : utf8Size [] = 0 := rfl

@[simp] theorem utf8Size_cons (c : Char) (rest : Text) :
    utf8Size (c :: rest) = c.utf8Size + utf8Size rest := rfl

@[simp] theorem utf8Size_append (front back : Text) :
    utf8Size (front ++ back) = utf8Size front + utf8Size back := by
  induction front with
  | nil => simp
  | cons c front ih => simp [ih, Nat.add_assoc]

theorem length_le_utf8Size (text : Text) : text.length ≤ utf8Size text := by
  induction text with
  | nil => simp
  | cons c rest ih =>
      have hc := c.utf8Size_pos
      simp only [List.length_cons, utf8Size_cons]
      omega

def toBytes (text : Text) : List UInt8 :=
  text.flatMap String.utf8EncodeChar

@[simp] theorem length_toBytes (text : Text) :
    (toBytes text).length = utf8Size text := by
  induction text with
  | nil => rfl
  | cons c rest ih => simpa [toBytes] using ih

/-- Cut a text at a byte offset. There is no cut inside a character or beyond the end. -/
def splitAtByte? : Nat → Text → Option (Text × Text)
  | 0, text => some ([], text)
  | _ + 1, [] => none
  | offset + 1, c :: rest =>
      if c.utf8Size ≤ offset + 1 then
        (splitAtByte? (offset + 1 - c.utf8Size) rest).map
          (fun parts => (c :: parts.1, parts.2))
      else
        none

def slice? (text : Text) (start stop : Nat) : Option Text := do
  let (_, tail) ← splitAtByte? start text
  let (inside, _) ← splitAtByte? (stop - start) tail
  return inside

theorem splitAtByte?_append (front back : Text) :
    splitAtByte? (utf8Size front) (front ++ back) = some (front, back) := by
  induction front with
  | nil => simp [splitAtByte?]
  | cons c front ih =>
      obtain ⟨size, hsize⟩ := Nat.exists_eq_succ_of_ne_zero
        (Nat.pos_iff_ne_zero.mp c.utf8Size_pos)
      have hcut : utf8Size (c :: front) = (size + utf8Size front) + 1 := by
        simp only [utf8Size_cons, hsize]
        omega
      have hrest : size + utf8Size front + 1 - c.utf8Size = utf8Size front := by omega
      rw [hcut, List.cons_append, splitAtByte?, if_pos (by omega), hrest, ih]
      rfl

theorem eq_append_of_splitAtByte? {offset : Nat} {text front back : Text}
    (h : splitAtByte? offset text = some (front, back)) :
    text = front ++ back ∧ utf8Size front = offset := by
  fun_induction splitAtByte? offset text generalizing front back with
  | case1 text =>
      cases h
      simp
  | case2 => cases h
  | case3 offset c rest hsize ih =>
      obtain ⟨⟨front', back'⟩, hsplit, hparts⟩ := Option.map_eq_some_iff.mp h
      cases hparts
      obtain ⟨hrest, hcut⟩ := ih hsplit
      refine ⟨by simp [hrest], ?_⟩
      rw [utf8Size_cons, hcut]
      omega
  | case4 => cases h

/-- Put a character in front of the first of several texts, or start the first one with it. -/
def prepend (c : Char) : List Text → List Text
  | [] => [[c]]
  | first :: others => (c :: first) :: others

@[simp] theorem prepend_nil (c : Char) : prepend c [] = [[c]] := rfl

@[simp] theorem prepend_cons (c : Char) (first : Text) (others : List Text) :
    prepend c (first :: others) = (c :: first) :: others := rfl

/-- The parts of a text on the two sides of the first place where a character stands. -/
def splitFirst? (mark : Char) : Text → Option (Text × Text)
  | [] => none
  | c :: rest =>
      if c = mark then some ([], rest)
      else (splitFirst? mark rest).map (fun parts => (c :: parts.1, parts.2))

def splitOn (mark : Char) : Text → List Text
  | [] => [[]]
  | c :: rest => if c = mark then [] :: splitOn mark rest else prepend c (splitOn mark rest)

def hasInfix (needle : Text) : Text → Bool
  | [] => needle.isEmpty
  | c :: rest => needle.isPrefixOf (c :: rest) || hasInfix needle rest

theorem eq_append_of_splitFirst? {mark : Char} {text front back : Text}
    (h : splitFirst? mark text = some (front, back)) :
    text = front ++ mark :: back ∧ mark ∉ front := by
  induction text generalizing front with
  | nil => cases h
  | cons c rest ih =>
      simp only [splitFirst?] at h
      split at h
      · rename_i hc
        cases h
        simp [hc]
      · rename_i hc
        obtain ⟨⟨front', back'⟩, hsplit, heq⟩ := Option.map_eq_some_iff.mp h
        obtain ⟨rfl, rfl⟩ := Prod.mk.inj heq
        obtain ⟨hrest, hmark⟩ := ih hsplit
        exact ⟨by simp [hrest], by simp [hmark, Ne.symm hc]⟩

theorem length_lt_of_splitFirst? {mark : Char} {text front back : Text}
    (h : splitFirst? mark text = some (front, back)) : back.length < text.length := by
  have hlength := congrArg List.length (eq_append_of_splitFirst? h).1
  simp only [List.length_append, List.length_cons] at hlength
  omega

def ofNat (n : Nat) : Text :=
  Nat.toDigits 10 n

end Text

end Inlay
