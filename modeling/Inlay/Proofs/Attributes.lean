import Inlay.Attributes
import Mathlib.Data.List.Induction

namespace Inlay.Attributes

theorem mem_names_insertEntry {name value other : Text} {entries : List (Text × Text)} :
    other ∈ (insertEntry name value entries).map Prod.fst ↔
      other = name ∨ other ∈ entries.map Prod.fst := by
  induction entries with
  | nil => simp [insertEntry]
  | cons entry rest ih =>
      simp only [insertEntry]
      split
      · rename_i hname
        simp [hname]
      · rw [List.map_cons, List.mem_cons, ih, List.map_cons, List.mem_cons]
        exact or_left_comm

theorem nodup_insertEntry {entries : List (Text × Text)} (h : (entries.map Prod.fst).Nodup)
    (name value : Text) : ((insertEntry name value entries).map Prod.fst).Nodup := by
  induction entries with
  | nil => simp [insertEntry]
  | cons entry rest ih =>
      rw [List.map_cons, List.nodup_cons] at h
      simp only [insertEntry]
      split
      · rename_i hname
        rw [List.map_cons, List.nodup_cons]
        exact ⟨hname ▸ h.1, h.2⟩
      · rename_i hname
        rw [List.map_cons, List.nodup_cons, mem_names_insertEntry]
        refine ⟨?_, ih h.2⟩
        rintro (hsame | hmem)
        · exact hname hsame
        · exact h.1 hmem

theorem insertEntry_of_not_mem {name : Text} {entries : List (Text × Text)}
    (h : name ∉ entries.map Prod.fst) (value : Text) :
    insertEntry name value entries = entries ++ [(name, value)] := by
  induction entries with
  | nil => rfl
  | cons entry rest ih =>
      rw [List.map_cons, List.mem_cons, not_or] at h
      rw [insertEntry, if_neg (Ne.symm h.1), ih h.2, List.cons_append]

theorem mem_names_insertMany {attributes : Attributes} {pairs : List (Text × Text)}
    {other : Text} :
    other ∈ (attributes.insertMany pairs).names ↔
      other ∈ attributes.names ∨ other ∈ pairs.map Prod.fst := by
  induction pairs generalizing attributes with
  | nil => simp
  | cons pair pairs ih =>
      rw [insertMany_cons, ih, names, entries_insert, mem_names_insertEntry, List.map_cons,
        List.mem_cons, ← or_assoc]
      exact or_congr_left or_comm

theorem nodup_names_insertMany {attributes : Attributes} (h : attributes.names.Nodup)
    (pairs : List (Text × Text)) : (attributes.insertMany pairs).names.Nodup := by
  induction pairs generalizing attributes with
  | nil => exact h
  | cons pair pairs ih => exact ih (nodup_insertEntry h pair.1 pair.2)

theorem mem_names_ofList {pairs : List (Text × Text)} {name : Text} :
    name ∈ (ofList pairs).names ↔ name ∈ pairs.map Prod.fst :=
  mem_names_insertMany.trans (or_iff_right List.not_mem_nil)

theorem nodup_names_ofList (pairs : List (Text × Text)) : (ofList pairs).names.Nodup :=
  nodup_names_insertMany (show empty.names.Nodup from List.nodup_nil) pairs

theorem insertMany_of_nodup {front back : List (Text × Text)}
    (h : ((front ++ back).map Prod.fst).Nodup) :
    insertMany ⟨front⟩ back = ⟨front ++ back⟩ := by
  induction back generalizing front with
  | nil => rw [insertMany_nil, List.append_nil]
  | cons pair back ih =>
      have hnew : pair.1 ∉ front.map Prod.fst := by
        rw [List.map_append, List.map_cons] at h
        intro hmem
        exact (List.nodup_append.mp h).2.2 pair.1 hmem pair.1 (by simp) rfl
      have hinsert : insert ⟨front⟩ pair.1 pair.2 = ⟨front ++ [pair]⟩ :=
        congrArg Attributes.mk (insertEntry_of_not_mem hnew pair.2)
      rw [insertMany_cons, hinsert, ih (by simpa using h), List.append_assoc,
        List.singleton_append]

theorem ofList_of_nodup {entries : List (Text × Text)} (h : (entries.map Prod.fst).Nodup) :
    ofList entries = ⟨entries⟩ :=
  insertMany_of_nodup h

theorem map_fst_insertEntry_of_mem {name : Text} {entries : List (Text × Text)}
    (h : name ∈ entries.map Prod.fst) (value : Text) :
    (insertEntry name value entries).map Prod.fst = entries.map Prod.fst := by
  induction entries with
  | nil => cases h
  | cons entry rest ih =>
      simp only [insertEntry]
      split
      · rename_i hname
        rw [List.map_cons, List.map_cons, hname]
      · rename_i hname
        rw [List.map_cons, List.mem_cons] at h
        rw [List.map_cons, List.map_cons, ih (h.resolve_left (Ne.symm hname))]

theorem names_insert (attributes : Attributes) (name value : Text) :
    (attributes.insert name value).names =
      if name ∈ attributes.names then attributes.names else attributes.names ++ [name] := by
  split
  · rename_i hmem
    exact map_fst_insertEntry_of_mem hmem value
  · rename_i hmem
    simp [names, insertEntry_of_not_mem hmem value]

theorem get?_insert (attributes : Attributes) (name value other : Text) :
    (attributes.insert name value).get? other =
      if other = name then some value else attributes.get? other := by
  obtain ⟨entries⟩ := attributes
  simp only [get?, entries_insert]
  induction entries with
  | nil =>
      by_cases hother : other = name
      · simp [insertEntry, hother]
      · simp [insertEntry, hother, Ne.symm hother]
  | cons entry rest ih =>
      simp only [insertEntry]
      by_cases hname : entry.1 = name
      · by_cases hother : other = name
        · simp [hname, hother]
        · simp [hname, hother, Ne.symm hother]
      · by_cases hentry : entry.1 = other
        · have hother : other ≠ name := fun heq => hname (hentry.trans heq)
          simp [hentry, hother]
        · rw [if_neg hname, List.find?_cons_of_neg (by simpa using hentry),
            List.find?_cons_of_neg (by simpa using hentry), ih]

theorem ofList_concat (pairs : List (Text × Text)) (pair : Text × Text) :
    ofList (pairs ++ [pair]) = (ofList pairs).insert pair.1 pair.2 := by
  rw [ofList, insertMany_append]
  rfl

theorem names_ofList (pairs : List (Text × Text)) :
    (ofList pairs).names = (pairs.map Prod.fst).eraseDups := by
  induction pairs using List.reverseRecOn with
  | nil => rfl
  | append_singleton pairs pair ih =>
      rw [ofList_concat, names_insert, List.map_append, List.eraseDups_append, ← ih]
      by_cases hname : pair.1 ∈ (ofList pairs).names
      · have hlisted := mem_names_ofList.mp hname
        simp [List.removeAll, hname, hlisted]
      · have hlisted := mt mem_names_ofList.mpr hname
        simp [List.removeAll, hname, hlisted, List.eraseDups_cons]

theorem get?_ofList (pairs : List (Text × Text)) (name : Text) :
    (ofList pairs).get? name = pairs.reverse.lookup name := by
  induction pairs using List.reverseRecOn with
  | nil => rfl
  | append_singleton pairs pair ih =>
      rw [ofList_concat, get?_insert, List.reverse_concat, List.lookup_cons, ih]
      by_cases hname : name = pair.1
      · simp [hname]
      · simp [hname, beq_false_of_ne hname]

end Inlay.Attributes
