import Inlay.Proofs.Attributes
import Inlay.Proofs.Forest
import Inlay.Proofs.Markup.Spelling
import Inlay.Proofs.Text.Trim

namespace Inlay

namespace Markup

def IsTagName (tag : Text) : Prop :=
  tag ≠ [] ∧ ∀ c ∈ tag, isNameChar c = true

instance (tag : Text) : Decidable (IsTagName tag) :=
  have := List.decidableBAll (fun c => isNameChar c = true) tag
  inferInstanceAs (Decidable (tag ≠ [] ∧ ∀ c ∈ tag, isNameChar c = true))

structure IsAttributeName (name : Text) : Prop where
  ne_nil : name ≠ []
  trim_eq : Text.trim name = name
  plain : ∀ c ∈ name, c ≠ '=' ∧ c ≠ ',' ∧ c ≠ ')'

instance (name : Text) : Decidable (IsAttributeName name) :=
  have := List.decidableBAll (fun c => c ≠ '=' ∧ c ≠ ',' ∧ c ≠ ')') name
  decidable_of_iff
    (name ≠ [] ∧ Text.trim name = name ∧ ∀ c ∈ name, c ≠ '=' ∧ c ≠ ',' ∧ c ≠ ')')
    ⟨fun h => ⟨h.1, h.2.1, h.2.2⟩, fun h => ⟨h.ne_nil, h.trim_eq, h.plain⟩⟩

end Markup

open Markup

structure Attributes.WellNamed (attributes : Attributes) : Prop where
  nodup : attributes.names.Nodup
  isAttributeName : ∀ name ∈ attributes.names, IsAttributeName name

instance (attributes : Attributes) : Decidable attributes.WellNamed :=
  decidable_of_iff
    (attributes.names.Nodup ∧ ∀ name ∈ attributes.names, IsAttributeName name)
    ⟨fun h => ⟨h.1, h.2⟩, fun h => ⟨h.nodup, h.isAttributeName⟩⟩

def Attributes.QuoteFree (attributes : Attributes) : Prop :=
  ∀ entry ∈ attributes.entries, '"' ∉ entry.2

instance (attributes : Attributes) : Decidable attributes.QuoteFree :=
  inferInstanceAs (Decidable (∀ entry ∈ attributes.entries, '"' ∉ entry.2))

namespace Markup

def printedEntry (entry : Text × Text) : Text :=
  entry.1 ++ ['=', '"'] ++ entry.2 ++ ['"']

def printedHead (tag : Text) (attributes : Attributes) : Text :=
  '@' :: (tag ++ (attributes.toAht ++ ['{']))

theorem toAht_element_eq (tag : Text) (attributes : Attributes) (children rest : Forest) :
    (Forest.element tag attributes children rest).toAht =
      printedHead tag attributes ++ (children.toAht ++ '}' :: rest.toAht) := by
  simp [printedHead]

theorem after?_printedEntry {entry : Text × Text} (hname : IsAttributeName entry.1)
    (hvalue : '"' ∉ entry.2) : Place.name.after? (printedEntry entry) = some .unquoted := by
  rw [printedEntry, List.append_assoc, List.append_assoc,
    Place.after?_append (Place.after?_name hname.plain)]
  calc
    Place.name.after? (['=', '"'] ++ (entry.2 ++ ['"'])) =
        Place.quoted.after? (entry.2 ++ ['"']) := rfl
    _ = Place.quoted.after? ['"'] := Place.after?_append (Place.after?_quoted hvalue) ['"']
    _ = some .unquoted := rfl

theorem unquote_quoted (value : Text) : unquote ('"' :: (value ++ ['"'])) = value := by
  simp [unquote]

theorem read_assignment {name : Text} (hname : '=' ∉ name) (value : Text) :
    Segment.read (name ++ '=' :: value) =
      if (Text.trim name).isEmpty then .withoutName
      else .pair (Text.trim name) (unquote (Text.trim value)) := by
  have hshown : Text.trim (name ++ '=' :: value) ≠ [] :=
    Text.trim_ne_nil (c := '=') (by simp) (by decide)
  simp only [Segment.read, List.isEmpty_iff, hshown, if_false, Text.splitFirst?_append hname]

theorem read_printedEntry {entry : Text × Text} (hname : IsAttributeName entry.1) :
    Segment.read (printedEntry entry) = .pair entry.1 entry.2 := by
  have hequals : '=' ∉ entry.1 := fun hmem => (hname.plain '=' hmem).1 rfl
  have hquoted : Text.trim ('"' :: (entry.2 ++ ['"'])) = '"' :: (entry.2 ++ ['"']) :=
    Text.trim_eq_self_of_ends entry.2 (by decide) (by decide)
  have htext : printedEntry entry = entry.1 ++ '=' :: ('"' :: (entry.2 ++ ['"'])) := by
    simp [printedEntry]
  rw [htext, read_assignment hequals, hname.trim_eq, hquoted, unquote_quoted]
  simp only [List.isEmpty_iff, hname.ne_nil, if_false]

theorem read_printedGroup {entries : List (Text × Text)} (hne : entries ≠ [])
    (hnames : ∀ entry ∈ entries, IsAttributeName entry.1)
    (hvalues : ∀ entry ∈ entries, '"' ∉ entry.2) (back : Text) :
    AttributeGroup.rest? (List.intercalate [','] (entries.map printedEntry) ++ ')' :: back) =
        some back ∧
      AttributeGroup.segments (List.intercalate [','] (entries.map printedEntry) ++ ')' :: back) =
        entries.map printedEntry := by
  have hprinted : entries.map printedEntry ≠ [] := by simpa using hne
  have hsegments : ∀ raw ∈ entries.map printedEntry, AttributeGroup.IsSegment raw := by
    intro raw hraw
    obtain ⟨entry, hentry, rfl⟩ := List.mem_map.mp hraw
    exact ⟨.unquoted, after?_printedEntry (hnames entry hentry) (hvalues entry hentry), by decide⟩
  exact ⟨AttributeGroup.rest?_intercalate hprinted hsegments back,
    AttributeGroup.segments_intercalate hprinted hsegments (Or.inr rfl)⟩

theorem filterMap_read_printed {entries : List (Text × Text)}
    (hnames : ∀ entry ∈ entries, IsAttributeName entry.1) :
    (entries.map printedEntry).filterMap (fun raw => (Segment.read raw).toPair?) = entries := by
  induction entries with
  | nil => rfl
  | cons entry entries ih =>
      have hpair : (Segment.read (printedEntry entry)).toPair? = some entry := by
        rw [read_printedEntry (hnames entry (by simp))]
        rfl
      simp only [List.map_cons, List.filterMap_cons, hpair]
      exact congrArg (entry :: ·) (ih (fun other hmem => hnames other (by simp [hmem])))

theorem spells_of_read? {text : Text} {opening : Opening}
    (hread : Opening.read? text = some opening) (hafter : opening.after = ['{']) :
    ∃ size, Spells text ⟨opening.name, attributesOf opening.segments, size⟩ := by
  have hblanks : ∀ c ∈ ([] : Text), Text.isBlank c = true := by simp
  refine ⟨opening.size + Text.utf8Size [] + 1, ?_⟩
  rw [Spells, Head.scan?, hread]
  exact Head.complete?_of_blanks hblanks hafter

theorem toAht_of_entries {attributes : Attributes} (h : attributes.entries ≠ []) :
    attributes.toAht =
      '(' :: (List.intercalate [','] (attributes.entries.map printedEntry) ++ [')']) := by
  simp only [Attributes.toAht, Attributes.isEmpty, List.isEmpty_iff, h, if_false]
  rfl

theorem spells_printedHead {tag : Text} {attributes : Attributes} (htag : IsTagName tag)
    (hnames : attributes.WellNamed) (hvalues : attributes.QuoteFree) :
    ∃ size, Spells (printedHead tag attributes) ⟨tag, attributes, size⟩ := by
  obtain ⟨hne, hchars⟩ := htag
  obtain ⟨entries⟩ := attributes
  by_cases hempty : entries = []
  · subst hempty
    have hread : Opening.read? (printedHead tag ⟨[]⟩) = some ⟨tag, [], ['{']⟩ :=
      Opening.read?_of_name hne hchars (by decide) (by decide)
    exact spells_of_read? hread rfl
  · have hentries : ∀ entry ∈ entries, IsAttributeName entry.1 := by
      intro entry hmem
      exact hnames.isAttributeName entry.1 (List.mem_map_of_mem hmem)
    obtain ⟨hrest, hsegments⟩ := read_printedGroup hempty hentries hvalues ['{']
    have hread := Opening.read?_of_group hne hchars hrest
    rw [hsegments] at hread
    have htext : printedHead tag ⟨entries⟩ = '@' :: (tag ++ '(' ::
        (List.intercalate [','] (entries.map printedEntry) ++ ')' :: ['{'])) := by
      rw [printedHead, toAht_of_entries hempty]
      simp
    have hattributes : attributesOf (entries.map printedEntry) = ⟨entries⟩ := by
      rw [attributesOf, filterMap_read_printed hentries]
      exact Attributes.ofList_of_nodup hnames.nodup
    rw [htext, ← hattributes]
    exact spells_of_read? hread rfl

end Markup

end Inlay
