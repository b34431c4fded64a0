import Inlay.Proofs.Text
import Inlay.Text.Blank
import Mathlib.Data.List.DropRight

namespace Inlay.Text

theorem trimEnd_eq_rdropWhile (text : Text) : trimEnd text = text.rdropWhile isBlank := rfl

theorem mem_of_mem_trim {text : Text} {c : Char} (h : c ∈ trim text) : c ∈ text := by
  have hstart : c ∈ trimStart text :=
    (List.rdropWhile_prefix isBlank (trimStart text)).sublist.subset h
  exact (List.dropWhile_sublist isBlank).subset hstart

theorem length_trim_le (text : Text) : (trim text).length ≤ text.length := by
  calc (trim text).length
      ≤ (trimStart text).length := (List.rdropWhile_prefix isBlank (trimStart text)).length_le
    _ ≤ text.length := (List.dropWhile_sublist isBlank).length_le

theorem trim_ne_nil {text : Text} {c : Char} (hmem : c ∈ text) (hc : isBlank c = false) :
    trim text ≠ [] := by
  have hstart : c ∈ trimStart text := by
    have htext := List.takeWhile_append_dropWhile (p := isBlank) (l := text)
    rw [← htext, List.mem_append] at hmem
    rcases hmem with hblank | hmem
    · rw [List.mem_takeWhile_imp hblank] at hc
      cases hc
    · exact hmem
  intro hempty
  have hblank := List.rdropWhile_eq_nil_iff.mp hempty c hstart
  rw [hc] at hblank
  cases hblank

theorem isEmpty_trim (text : Text) : (trim text).isEmpty = text.all isBlank := by
  cases hblank : text.all isBlank with
  | true =>
      rw [List.all_eq_true] at hblank
      have hstart : trimStart text = [] := List.dropWhile_eq_nil_iff.mpr hblank
      rw [trim, hstart]
      rfl
  | false =>
      obtain ⟨c, hmem, hc⟩ := List.all_eq_false.mp hblank
      exact Bool.eq_false_iff.mpr
        (mt List.isEmpty_iff.mp (trim_ne_nil hmem (Bool.eq_false_iff.mpr hc)))

theorem trim_eq_self {text : Text} (hfirst : ∀ c ∈ text.head?, isBlank c = false)
    (hlast : ∀ c ∈ text.getLast?, isBlank c = false) : trim text = text := by
  have hstart : trimStart text = text := by
    cases text with
    | nil => rfl
    | cons c rest => exact List.dropWhile_cons_of_neg (by simp [hfirst c rfl])
  rw [trim, hstart, trimEnd_eq_rdropWhile, List.rdropWhile_eq_self_iff]
  intro hne
  simp [hlast _ (List.getLast?_eq_some_getLast hne)]

theorem trim_eq_self_of_ends {first last : Char} (middle : Text) (hfirst : isBlank first = false)
    (hlast : isBlank last = false) :
    trim (first :: (middle ++ [last])) = first :: (middle ++ [last]) := by
  apply trim_eq_self
  · simpa using hfirst
  · rw [← List.cons_append, List.getLast?_concat]
    simpa using hlast

theorem trimStart_trim (text : Text) : trimStart (trim text) = trim text := by
  cases htrim : trim text with
  | nil => rfl
  | cons c rest =>
      obtain ⟨more, hmore⟩ := List.rdropWhile_prefix isBlank (trimStart text)
      rw [← trimEnd_eq_rdropWhile, ← trim, htrim] at hmore
      have hfirst := List.head?_dropWhile_not isBlank text
      rw [← trimStart, ← hmore] at hfirst
      exact List.dropWhile_cons_of_neg (by simpa using hfirst)

theorem trim_trim (text : Text) : trim (trim text) = trim text := by
  rw [trim, trimStart_trim, trim, trimEnd_eq_rdropWhile, trimEnd_eq_rdropWhile]
  exact List.rdropWhile_idempotent isBlank (trimStart text)

theorem not_isBlank_of_trim_eq {c : Char} {rest : Text} (h : trim (c :: rest) = c :: rest) :
    isBlank c = false := by
  have hfirst := List.head?_dropWhile_not isBlank (c :: rest)
  rw [← h, ← trimStart, trimStart_trim, h] at hfirst
  simpa using hfirst

theorem not_isBlank_getLast_of_trim_eq {text : Text} (h : trim text = text) {c : Char}
    (hc : c ∈ text.getLast?) : isBlank c = false := by
  rw [← h, trim, trimEnd_eq_rdropWhile] at hc
  obtain ⟨hne, rfl⟩ := List.mem_getLast?_eq_getLast hc
  exact Bool.eq_false_iff.mpr (List.rdropWhile_last_not isBlank (trimStart text) hne)

def AllBlank (text : Text) : Prop :=
  ∀ c ∈ text, isBlank c = true

instance (text : Text) : Decidable (AllBlank text) :=
  List.decidableBAll (fun c => isBlank c = true) text

theorem trim_blanks_append {blanks : Text} (h : AllBlank blanks) (text : Text) :
    trim (blanks ++ text) = trim text := by
  rw [trim, trimStart, List.dropWhile_append_of_pos h]
  rfl

theorem trim_append_blanks {blanks : Text} (h : AllBlank blanks) (text : Text) :
    trim (text ++ blanks) = trim text := by
  have hend (front : Text) : trimEnd (front ++ blanks) = trimEnd front := by
    have hreverse : ∀ c ∈ blanks.reverse, isBlank c = true :=
      fun c hc => h c (List.mem_reverse.mp hc)
    rw [trimEnd, List.reverse_append, List.dropWhile_append_of_pos hreverse]
    rfl
  rw [trim, trimStart, List.dropWhile_append]
  split
  · rename_i hempty
    have hstart : trimStart text = [] := List.isEmpty_iff.mp hempty
    rw [List.dropWhile_eq_nil_iff.mpr h, trim, hstart]
  · exact hend (trimStart text)

theorem takeWhile_allBlank_append {blanks value : Text} (hblanks : AllBlank blanks)
    (hvalue : ∀ c ∈ value.head?, isBlank c = false) :
    (blanks ++ value).takeWhile isBlank = blanks := by
  cases value with
  | nil => rw [List.append_nil, List.takeWhile_eq_self_iff.mpr hblanks]
  | cons c value => exact takeWhile_append_cons hblanks (hvalue c rfl) value

theorem blanks_inj {blanks other value otherValue : Text} (hblanks : AllBlank blanks)
    (hother : AllBlank other) (hvalue : ∀ c ∈ value.head?, isBlank c = false)
    (hotherValue : ∀ c ∈ otherValue.head?, isBlank c = false)
    (h : blanks ++ value = other ++ otherValue) : blanks = other ∧ value = otherValue := by
  have htake := takeWhile_allBlank_append hblanks hvalue
  rw [h, takeWhile_allBlank_append hother hotherValue] at htake
  subst htake
  exact ⟨rfl, List.append_cancel_left h⟩

end Inlay.Text
