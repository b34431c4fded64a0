import Inlay.Forest
import Inlay.Proofs.Attributes
import Mathlib.Data.Finset.Card

namespace Inlay.Attributes

/-- Whether a name comes up before another one, by the first of the pairs with each of them. -/
def ComesBefore (pairs : List (Text × Text)) (one other : Text) : Prop :=
  (pairs.map Prod.fst).idxOf one < (pairs.map Prod.fst).idxOf other

def GivenLast (pairs : List (Text × Text)) (name value : Text) : Prop :=
  ∃ earlier later, pairs = earlier ++ (name, value) :: later ∧ name ∉ later.map Prod.fst

/-- Attributes with the names of some pairs, each once, in the order in which the names come up,
and each with the value that it is given last. -/
structure Collects (pairs : List (Text × Text)) (attributes : Attributes) : Prop where
  nodup_names : attributes.names.Nodup
  mem_names : ∀ name, name ∈ attributes.names ↔ name ∈ pairs.map Prod.fst
  comesBefore : attributes.names.Pairwise (ComesBefore pairs)
  givenLast : ∀ entry ∈ attributes.entries, GivenLast pairs entry.1 entry.2

theorem contains_eq_isSome_get? (attributes : Attributes) (name : Text) :
    attributes.contains name = (attributes.get? name).isSome := by
  rw [get?, Option.isSome_map, List.isSome_find?, contains]

theorem isSome_get?_iff {attributes : Attributes} {name : Text} :
    (attributes.get? name).isSome = true ↔ name ∈ attributes.names := by
  simp [← contains_eq_isSome_get?, contains, names]

theorem get?_eq_some_iff_mem {attributes : Attributes} (h : attributes.names.Nodup)
    {name value : Text} :
    attributes.get? name = some value ↔ (name, value) ∈ attributes.entries := by
  obtain ⟨entries⟩ := attributes
  induction entries with
  | nil => simp [get?]
  | cons entry rest ih =>
      obtain ⟨hnew, hrest⟩ := List.nodup_cons.mp h
      by_cases hname : entry.1 = name
      · have hold : (name, value) ∉ rest := fun hmem =>
          hnew (hname ▸ List.mem_map_of_mem hmem)
        simp [get?, hname, hold, Prod.ext_iff, eq_comm]
      · have hentry : (name, value) ≠ entry := fun heq => hname (congrArg Prod.fst heq).symm
        simpa [get?, hname, hentry] using ih hrest

/-- With every name listed once, the entries are the names with what is read under them. -/
theorem entries_eq_map_get? {attributes : Attributes} (h : attributes.names.Nodup) :
    attributes.entries =
      attributes.names.map fun name => (name, (attributes.get? name).getD []) := by
  have hread : ∀ entry ∈ attributes.entries,
      (entry.1, (attributes.get? entry.1).getD []) = entry := by
    intro entry hentry
    simp [(get?_eq_some_iff_mem h).mpr hentry]
  rw [names, List.map_map]
  exact (List.map_id _).symm.trans (List.map_congr_left fun entry hentry =>
    (hread entry hentry).symm)

theorem eq_of_names_of_get? {first second : Attributes} (h : first.names.Nodup)
    (hnames : first.names = second.names) (hget : ∀ name, first.get? name = second.get? name) :
    first = second := by
  have hentries : first.entries = second.entries := by
    rw [entries_eq_map_get? h, entries_eq_map_get? (hnames ▸ h), hnames]
    simp only [hget]
  cases first
  cases second
  exact congrArg Attributes.mk hentries

/-! One more pair. The names that have come up keep their order and a new name comes after all of
them; the pair gives its own name a value and leaves the values of the others. -/

theorem ComesBefore.concat {pairs : List (Text × Text)} {one other : Text}
    (h : ComesBefore pairs one other) (hone : one ∈ pairs.map Prod.fst)
    (hother : other ∈ pairs.map Prod.fst) (pair : Text × Text) :
    ComesBefore (pairs ++ [pair]) one other := by
  rw [ComesBefore, List.map_append, List.idxOf_append_of_mem hone, List.idxOf_append_of_mem hother]
  exact h

theorem comesBefore_new {pairs : List (Text × Text)} {pair : Text × Text} {one : Text}
    (hone : one ∈ pairs.map Prod.fst) (hnew : pair.1 ∉ pairs.map Prod.fst) :
    ComesBefore (pairs ++ [pair]) one pair.1 := by
  rw [ComesBefore, List.map_append, List.idxOf_append_of_mem hone, List.idxOf_append_of_notMem hnew]
  exact Nat.lt_add_right _ (List.idxOf_lt_length_of_mem hone)

theorem givenLast_concat (pairs : List (Text × Text)) (pair : Text × Text) :
    GivenLast (pairs ++ [pair]) pair.1 pair.2 :=
  ⟨pairs, [], rfl, List.not_mem_nil⟩

theorem GivenLast.concat {pairs : List (Text × Text)} {name value : Text}
    (h : GivenLast pairs name value) {pair : Text × Text} (hne : name ≠ pair.1) :
    GivenLast (pairs ++ [pair]) name value := by
  obtain ⟨earlier, later, rfl, hlater⟩ := h
  refine ⟨earlier, later ++ [pair], by simp, ?_⟩
  simpa using ⟨by simpa using hlater, hne⟩

theorem GivenLast.mem_names {pairs : List (Text × Text)} {name value : Text}
    (h : GivenLast pairs name value) : name ∈ pairs.map Prod.fst := by
  obtain ⟨earlier, later, rfl, -⟩ := h
  simp

theorem GivenLast.unique {pairs : List (Text × Text)} {name value other : Text}
    (h : GivenLast pairs name value) (hother : GivenLast pairs name other) : value = other := by
  have hlookup {last : Text} (hlast : GivenLast pairs name last) :
      pairs.reverse.lookup name = some last := by
    obtain ⟨earlier, later, rfl, hlater⟩ := hlast
    rw [List.lookup_eq_some_iff]
    refine ⟨later.reverse, earlier.reverse, by simp, ?_⟩
    intro pair hpair
    have hne : name ≠ pair.1 := fun heq =>
      hlater (heq ▸ List.mem_map_of_mem (List.mem_reverse.mp hpair))
    exact bne_iff_ne.mpr hne
  exact Option.some.inj ((hlookup h).symm.trans (hlookup hother))

namespace Collects

variable {pairs : List (Text × Text)} {attributes : Attributes}

theorem comesBefore_insert (h : Collects pairs attributes) (pair : Text × Text) :
    (attributes.insert pair.1 pair.2).names.Pairwise (ComesBefore (pairs ++ [pair])) := by
  have hkept : attributes.names.Pairwise (ComesBefore (pairs ++ [pair])) := by
    apply h.comesBefore.imp_of_mem
    intro one other hone hother hbefore
    exact hbefore.concat ((h.mem_names one).mp hone) ((h.mem_names other).mp hother) pair
  rw [names_insert]
  split
  · exact hkept
  · rename_i hnew
    refine List.pairwise_append.mpr ⟨hkept, List.pairwise_singleton _ _, ?_⟩
    intro one hone other hother
    obtain rfl := List.mem_singleton.mp hother
    exact comesBefore_new ((h.mem_names one).mp hone) (mt (h.mem_names pair.1).mpr hnew)

theorem givenLast_insert (h : Collects pairs attributes) (pair : Text × Text) :
    ∀ entry ∈ (attributes.insert pair.1 pair.2).entries,
      GivenLast (pairs ++ [pair]) entry.1 entry.2 := by
  rintro ⟨name, value⟩ hentry
  have hnodup : (attributes.insert pair.1 pair.2).names.Nodup :=
    nodup_insertEntry h.nodup_names pair.1 pair.2
  have hread := (get?_eq_some_iff_mem hnodup).mpr hentry
  rw [get?_insert] at hread
  split at hread
  · rename_i hname
    cases hread
    exact hname ▸ givenLast_concat pairs pair
  · rename_i hname
    have hold := h.givenLast _ ((get?_eq_some_iff_mem h.nodup_names).mp hread)
    exact hold.concat hname

theorem insert (h : Collects pairs attributes) (pair : Text × Text) :
    Collects (pairs ++ [pair]) (attributes.insert pair.1 pair.2) where
  nodup_names := nodup_insertEntry h.nodup_names pair.1 pair.2
  mem_names name := by
    rw [List.map_append, List.mem_append, ← h.mem_names, List.map_singleton, List.mem_singleton]
    exact mem_names_insertEntry.trans or_comm
  comesBefore := h.comesBefore_insert pair
  givenLast := h.givenLast_insert pair

theorem insertMany (h : Collects pairs attributes) (more : List (Text × Text)) :
    Collects (pairs ++ more) (attributes.insertMany more) := by
  induction more generalizing pairs attributes with
  | nil => simpa using h
  | cons pair more ih => simpa using ih (h.insert pair)

theorem get?_eq_some_iff (h : Collects pairs attributes) {name value : Text} :
    attributes.get? name = some value ↔ GivenLast pairs name value := by
  have hgiven {found : Text} (hfound : attributes.get? name = some found) :
      GivenLast pairs name found :=
    h.givenLast _ ((get?_eq_some_iff_mem h.nodup_names).mp hfound)
  constructor
  · exact hgiven
  · intro hlast
    have hsome := isSome_get?_iff.mpr ((h.mem_names name).mpr hlast.mem_names)
    obtain ⟨found, hfound⟩ := Option.isSome_iff_exists.mp hsome
    rw [hfound, (hgiven hfound).unique hlast]

theorem get?_eq_none_iff (h : Collects pairs attributes) {name : Text} :
    attributes.get? name = none ↔ name ∉ pairs.map Prod.fst := by
  rw [← h.mem_names, ← isSome_get?_iff, Option.not_isSome_iff_eq_none]

theorem size_eq_card (h : Collects pairs attributes) :
    attributes.size = (pairs.map Prod.fst).toFinset.card := by
  have hfinset : attributes.names.toFinset = (pairs.map Prod.fst).toFinset := by
    ext name
    simpa only [List.mem_toFinset] using h.mem_names name
  rw [← hfinset, List.toFinset_card_of_nodup h.nodup_names, names, List.length_map, size]

theorem names_eq {other : Attributes} (h : Collects pairs attributes)
    (hother : Collects pairs other) : attributes.names = other.names := by
  have hperm : attributes.names.Perm other.names := by
    apply (List.perm_ext_iff_of_nodup h.nodup_names hother.nodup_names).mpr
    intro name
    exact (h.mem_names name).trans (hother.mem_names name).symm
  apply hperm.eq_of_pairwise _ h.comesBefore hother.comesBefore
  intro one two _ _ hlt hgt
  exact absurd hlt (Nat.lt_asymm hgt)

/-- Two attributes that collect the same pairs are the same. -/
theorem unique {other : Attributes} (h : Collects pairs attributes)
    (hother : Collects pairs other) : attributes = other := by
  apply eq_of_names_of_get? h.nodup_names (h.names_eq hother)
  intro name
  ext value
  exact h.get?_eq_some_iff.trans hother.get?_eq_some_iff.symm

end Collects

theorem collects_empty : Collects [] empty where
  nodup_names := List.nodup_nil
  mem_names _ := Iff.rfl
  comesBefore := List.Pairwise.nil
  givenLast _ hentry := absurd hentry List.not_mem_nil

theorem collects_ofList (pairs : List (Text × Text)) : Collects pairs (ofList pairs) :=
  collects_empty.insertMany pairs

theorem foldl_withAttribute (root : Forest.Root) (pairs : List (Text × Text)) :
    pairs.foldl (fun acc pair => acc.withAttribute pair.1 pair.2) root =
      { root with attributes := root.attributes.insertMany pairs } := by
  induction pairs generalizing root with
  | nil => rfl
  | cons pair pairs ih => exact ih (root.withAttribute pair.1 pair.2)

/-- Pairs that are written one after the other, into attributes or into an element, give the only
attributes that collect them. Reading a name gives the value of its last pair, and there are as many
entries as different names. Pairs can be written in parts, and writing the entries anew changes
nothing. -/
theorem ofList_isOrderedMap (pairs : List (Text × Text)) :
    (∀ attributes, Collects pairs attributes ↔ attributes = ofList pairs) ∧
    (∀ name,
      (∀ value, (ofList pairs).get? name = some value ↔ GivenLast pairs name value) ∧
      ((ofList pairs).get? name = none ↔ name ∉ pairs.map Prod.fst) ∧
      (ofList pairs).contains name = ((ofList pairs).get? name).isSome) ∧
    (ofList pairs).size = (pairs.map Prod.fst).toFinset.card ∧
    (pairs.foldl (fun acc pair => acc.insert pair.1 pair.2) empty = ofList pairs ∧
      ∀ tag children,
        pairs.foldl (fun acc pair => acc.withAttribute pair.1 pair.2)
            (Forest.Root.mk tag empty children) =
          ⟨tag, ofList pairs, children⟩) ∧
    (∀ (attributes : Attributes) (more : List (Text × Text)),
      (attributes.insertMany pairs).insertMany more = attributes.insertMany (pairs ++ more)) ∧
    ofList (ofList pairs).entries = ofList pairs := by
  have hcollects := collects_ofList pairs
  refine ⟨?_, ?_, hcollects.size_eq_card, ⟨rfl, ?_⟩, ?_, ?_⟩
  · intro attributes
    constructor
    · exact fun h => h.unique hcollects
    · rintro rfl
      exact hcollects
  · intro name
    exact ⟨fun value => hcollects.get?_eq_some_iff, hcollects.get?_eq_none_iff,
      contains_eq_isSome_get? _ name⟩
  · intro tag children
    exact foldl_withAttribute _ pairs
  · intro attributes more
    exact (insertMany_append attributes pairs more).symm
  · exact ofList_of_nodup hcollects.nodup_names

example : (ofList [("id".toList, ['a']), ("class".toList, ['b']), ("id".toList, ['c'])]).entries =
    [("id".toList, ['c']), ("class".toList, ['b'])] := by
  decide

end Inlay.Attributes
