import Inlay.Proofs.Text.Trim

namespace Inlay.Text

structure IsWord (text : Text) : Prop where
  ne_nil : text ≠ []
  not_blank : ∀ c ∈ text, isBlank c = false

instance (text : Text) : Decidable (IsWord text) :=
  -- Run along the text: there is also an instance that tries every character there is.
  have := List.decidableBAll (fun c => isBlank c = false) text
  decidable_of_iff (text ≠ [] ∧ ∀ c ∈ text, isBlank c = false)
    ⟨fun h => ⟨h.1, h.2⟩, fun h => ⟨h.ne_nil, h.not_blank⟩⟩

theorem isWord_of_mem_words {text word : Text} (h : word ∈ words text) : IsWord word :=
  ⟨ne_nil_of_mem_words h, fun _ hc => not_isBlank_of_mem_words h hc⟩

theorem words_cons_of_not_isBlank {c : Char} (h : isBlank c = false) (rest : Text) :
    words (c :: rest) =
      if continuesWord rest then prepend c (words rest) else [c] :: words rest := by
  rw [words, if_neg (by simp [h])]

theorem exists_words_cons {c : Char} (h : isBlank c = false) (rest : Text) :
    ∃ word others, words (c :: rest) = (c :: word) :: others := by
  rw [words_cons_of_not_isBlank h]
  split
  · cases words rest with
    | nil => exact ⟨[], [], rfl⟩
    | cons word others => exact ⟨word, others, rfl⟩
  · exact ⟨[], words rest, rfl⟩

theorem words_append_cons {c : Char} (h : isBlank c = true) (front back : Text) :
    words (front ++ c :: back) = words front ++ words back := by
  induction front with
  | nil => exact words_cons_of_isBlank h back
  | cons d front ih =>
      cases hd : isBlank d with
      | true => rw [List.cons_append, words_cons_of_isBlank hd, words_cons_of_isBlank hd, ih]
      | false =>
          rw [List.cons_append, words_cons_of_not_isBlank hd, words_cons_of_not_isBlank hd, ih]
          cases front with
          | nil => simp [continuesWord, h]
          | cons e front =>
              rw [List.cons_append]
              cases he : isBlank e with
              | true => simp [continuesWord, he]
              | false =>
                  obtain ⟨word, others, hwords⟩ := exists_words_cons he front
                  simp [continuesWord, he, hwords]

theorem allBlank_of_words_eq_nil {text : Text} (h : words text = []) : AllBlank text := by
  induction text with
  | nil => exact List.forall_mem_nil _
  | cons c rest ih =>
      cases hc : isBlank c with
      | true =>
          rw [words_cons_of_isBlank hc] at h
          exact List.forall_mem_cons.mpr ⟨hc, ih h⟩
      | false =>
          obtain ⟨word, others, hwords⟩ := exists_words_cons hc rest
          rw [hwords] at h
          cases h

theorem mem_of_mem_words {text word : Text} (h : word ∈ words text) {c : Char} (hc : c ∈ word) :
    c ∈ text := by
  fun_induction words text generalizing word with
  | case1 => cases h
  | case2 d rest _ ih => exact List.mem_cons_of_mem d (ih h hc)
  | case3 d rest _ _ ih =>
      rcases mem_prepend h hc with rfl | ⟨part, hpart, hc⟩
      · exact List.mem_cons_self
      · exact List.mem_cons_of_mem d (ih hpart hc)
  | case4 d rest _ _ ih =>
      rcases List.mem_cons.mp h with rfl | h
      · exact List.mem_cons.mpr (Or.inl (List.mem_singleton.mp hc))
      · exact List.mem_cons_of_mem d (ih h hc)

/-! A trimmed text with a space in it has a word on either side of that space: were one side blank,
trimming would take it away. -/

theorem exists_words_of_space {text : Text} (htrim : trim text = text) (hspace : ' ' ∈ text) :
    ∃ first second others, words text = first :: second :: others := by
  obtain ⟨front, back, rfl⟩ := List.append_of_mem hspace
  have hblank : isBlank ' ' = true := by decide
  rw [words_append_cons hblank]
  cases hfront : words front with
  | nil =>
      have hblanks : AllBlank (front ++ [' ']) :=
        List.forall_mem_append.mpr ⟨allBlank_of_words_eq_nil hfront, by simpa using hblank⟩
      have hlength := length_trim_le back
      rw [← trim_blanks_append hblanks, List.append_assoc, List.singleton_append, htrim,
        List.length_append, List.length_cons] at hlength
      omega
  | cons first more =>
      cases hback : words back with
      | nil =>
          have hblanks : AllBlank (' ' :: back) :=
            List.forall_mem_cons.mpr ⟨hblank, allBlank_of_words_eq_nil hback⟩
          have hlength := length_trim_le front
          rw [← trim_append_blanks hblanks, htrim, List.length_append, List.length_cons] at hlength
          omega
      | cons second others =>
          cases more with
          | nil => exact ⟨first, second, others, rfl⟩
          | cons middle more => exact ⟨first, middle, more ++ second :: others, rfl⟩

@[simp] theorem unwords_singleton (word : Text) : unwords [word] = word := by
  simp [unwords]

theorem unwords_cons_cons (first second : Text) (others : List Text) :
    unwords (first :: second :: others) = first ++ ' ' :: unwords (second :: others) := by
  simp [unwords]

theorem mem_unwords {parts : List Text} {c : Char} (h : c ∈ unwords parts) :
    c = ' ' ∨ ∃ part ∈ parts, c ∈ part := by
  induction parts with
  | nil => cases h
  | cons first others ih =>
      cases others with
      | nil => exact Or.inr ⟨first, List.mem_singleton_self first, by simpa using h⟩
      | cons second others =>
          rw [unwords_cons_cons, List.mem_append, List.mem_cons] at h
          rcases h with h | h | h
          · exact Or.inr ⟨first, List.mem_cons_self, h⟩
          · exact Or.inl h
          · apply (ih h).imp_right
            intro hmem
            obtain ⟨part, hpart, hc⟩ := hmem
            exact ⟨part, List.mem_cons_of_mem first hpart, hc⟩

theorem words_of_isWord {word : Text} (h : IsWord word) : words word = [word] := by
  obtain ⟨hne, hblank⟩ := h
  induction word with
  | nil => exact absurd rfl hne
  | cons c rest ih =>
      obtain ⟨hc, hrest⟩ := List.forall_mem_cons.mp hblank
      rw [words_cons_of_not_isBlank hc]
      cases rest with
      | nil => rfl
      | cons d rest =>
          have hd : isBlank d = false := hrest d List.mem_cons_self
          rw [ih (List.cons_ne_nil d rest) hrest]
          simp [continuesWord, hd]

theorem words_unwords {parts : List Text} (h : ∀ part ∈ parts, IsWord part) :
    words (unwords parts) = parts := by
  induction parts with
  | nil => rfl
  | cons first others ih =>
      obtain ⟨hfirst, hothers⟩ := List.forall_mem_cons.mp h
      cases others with
      | nil => rw [unwords_singleton, words_of_isWord hfirst]
      | cons second others =>
          rw [unwords_cons_cons, words_append_cons (by decide), words_of_isWord hfirst, ih hothers]
          rfl

/-- One or more words with a single space between each two. -/
def IsWords (text : Text) : Prop :=
  ∃ parts, parts ≠ [] ∧ (∀ part ∈ parts, IsWord part) ∧ text = unwords parts

theorem isWords_iff {text : Text} :
    IsWords text ↔ words text ≠ [] ∧ unwords (words text) = text := by
  constructor
  · intro h
    obtain ⟨parts, hne, hparts, rfl⟩ := h
    rw [words_unwords hparts]
    exact ⟨hne, rfl⟩
  · intro h
    refine ⟨words text, h.1, ?_, h.2.symm⟩
    intro part hpart
    exact isWord_of_mem_words hpart

instance (text : Text) : Decidable (IsWords text) :=
  decidable_of_iff _ isWords_iff.symm

theorem getLast?_unwords {parts : List Text} (h : ∀ part ∈ parts, IsWord part) {c : Char}
    (hc : c ∈ (unwords parts).getLast?) : isBlank c = false := by
  induction parts with
  | nil => cases hc
  | cons first others ih =>
      obtain ⟨hfirst, hothers⟩ := List.forall_mem_cons.mp h
      cases others with
      | nil =>
          rw [unwords_singleton] at hc
          exact hfirst.not_blank c (List.mem_of_getLast? hc)
      | cons second others =>
          apply ih hothers
          rw [unwords_cons_cons] at hc
          cases hrest : unwords (second :: others) with
          | nil =>
              have hwords := words_unwords hothers
              rw [hrest] at hwords
              cases hwords
          | cons d rest => simpa [hrest, List.getLast?_append, List.getLast?_cons] using hc

theorem head?_unwords {first : Text} (h : IsWord first) (others : List Text) :
    (unwords (first :: others)).head? = first.head? := by
  cases first with
  | nil => exact absurd rfl h.ne_nil
  | cons c first =>
      cases others with
      | nil => rw [unwords_singleton]
      | cons second others =>
          rw [unwords_cons_cons]
          rfl

theorem trim_unwords {parts : List Text} (h : ∀ part ∈ parts, IsWord part) :
    trim (unwords parts) = unwords parts := by
  apply trim_eq_self _ (fun c hc => getLast?_unwords h hc)
  cases parts with
  | nil => exact nofun
  | cons first others =>
      have hfirst : IsWord first := h first List.mem_cons_self
      rw [head?_unwords hfirst]
      exact fun c hc => hfirst.not_blank c (List.mem_of_head? hc)

end Inlay.Text
