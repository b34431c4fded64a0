import Inlay.Proofs.Markup.Grammar

namespace Inlay.Markup

structure Blanks where
  text : Text
  allBlank : Text.AllBlank text

inductive WrittenValue where
  | quoted (content : Text) (noQuote : '"' ∉ content)
  | unquoted (content : Text) (trim_eq : Text.trim content = content)
      (inValue : StaysInValue content) (begins : content.head? ≠ some '"')

namespace WrittenValue

def content : WrittenValue → Text
  | quoted content _ => content
  | unquoted content .. => content

def text : WrittenValue → Text
  | quoted content _ => '"' :: (content ++ ['"'])
  | unquoted content .. => content

end WrittenValue

structure PaddedValue where
  before : Blanks
  value : WrittenValue
  behind : Blanks

def PaddedValue.text (padded : PaddedValue) : Text :=
  padded.before.text ++ (padded.value.text ++ padded.behind.text)

/-- An item of a list: an attribute, an item without `=`, or one with a value and no name. -/
inductive WrittenItem where
  | named (before : Blanks) (name : Text) (behind : Blanks) (value : PaddedValue)
      (isName : IsAttributeName name)
  | bare (content : Text) (inName : StaysInName content)
  | nameless (before : Blanks) (value : PaddedValue)

namespace WrittenItem

def text : WrittenItem → Text
  | named before name behind value _ =>
      before.text ++ (name ++ behind.text) ++ '=' :: value.text
  | bare content _ => content
  | nameless before value => before.text ++ '=' :: value.text

def pair? : WrittenItem → Option (Text × Text)
  | named _ name _ padded _ => some (name, padded.value.content)
  | bare .. => none
  | nameless .. => none

def records (offset : Nat) : WrittenItem → List Log.Record
  | named .. => []
  | bare content _ =>
      if content.all Text.isBlank then []
      else [.attributeWithoutValue offset (Text.trim content)]
  | nameless .. => [.attributeWithoutName offset]

def recordsFrom (offset : Nat) : List WrittenItem → List Log.Record
  | [] => []
  | item :: rest => item.records offset ++ recordsFrom (offset + Text.utf8Size item.text + 1) rest

def joined (items : List WrittenItem) : Text :=
  List.intercalate [','] (items.map text)

def pairs (items : List WrittenItem) : List (Text × Text) :=
  items.filterMap pair?

end WrittenItem

theorem staysInName_of_allBlank {text : Text} (h : Text.AllBlank text) : StaysInName text := by
  intro c hc
  have hblank := h c hc
  refine ⟨?_, ?_, ?_⟩ <;> rintro rfl <;> exact absurd hblank (by decide)

theorem staysInValue_of_allBlank {text : Text} (h : Text.AllBlank text) : StaysInValue text :=
  fun c hc => (staysInName_of_allBlank h c hc).2

namespace PaddedValue

theorem unquote_trim_text (padded : PaddedValue) :
    unquote (Text.trim padded.text) = padded.value.content := by
  obtain ⟨before, value, behind⟩ := padded
  rw [text, Text.trim_blanks_append before.allBlank, Text.trim_append_blanks behind.allBlank]
  cases value with
  | quoted content noQuote =>
      rw [WrittenValue.text, Text.trim_eq_self_of_ends content (by decide) (by decide),
        unquote_quoted]
      rfl
  | unquoted content trim_eq inValue begins =>
      rw [WrittenValue.text, trim_eq, WrittenValue.content]
      cases content with
      | nil => rfl
      | cons c content =>
          have hc : c ≠ '"' := fun hquote => begins (congrArg some hquote)
          simp [unquote, hc]

/-- The blanks behind a value are read as a part of it, unless there is nothing in front of them. -/
theorem exists_form (padded : PaddedValue) :
    ∃ (blanks : Blanks) (form : ValueForm), padded.text = blanks.text ++ form.text := by
  obtain ⟨before, value, behind⟩ := padded
  have hbehind := staysInValue_of_allBlank behind.allBlank
  cases value with
  | quoted content noQuote =>
      exact ⟨before, .quoted content behind.text noQuote hbehind,
        by simp [text, WrittenValue.text, ValueForm.text]⟩
  | unquoted content trim_eq inValue begins =>
      cases content with
      | nil =>
          have hblanks : Text.AllBlank (before.text ++ behind.text) :=
            List.forall_mem_append.mpr ⟨before.allBlank, behind.allBlank⟩
          exact ⟨⟨before.text ++ behind.text, hblanks⟩,
            .unquoted [] (by simp) (by simp [StaysInValue]),
            by simp [text, WrittenValue.text, ValueForm.text]⟩
      | cons c content =>
          refine ⟨before, .unquoted (c :: content ++ behind.text) ?_ ?_, rfl⟩
          · rintro d ⟨⟩
            exact ⟨Text.not_isBlank_of_trim_eq trim_eq, fun hquote => begins (congrArg some hquote)⟩
          · exact List.forall_mem_append.mpr ⟨inValue, hbehind⟩

end PaddedValue

namespace WrittenItem

theorem isSegment_assignment {name : Text} (hname : StaysInName name) (value : PaddedValue) :
    AttributeGroup.IsSegment (name ++ '=' :: value.text) := by
  obtain ⟨blanks, form, hvalue⟩ := value.exists_form
  rw [hvalue]
  exact (SegmentForm.assigned name blanks.text form hname blanks.allBlank).isSegment_text

theorem staysInName_padded (before : Blanks) {name : Text} (hname : IsAttributeName name)
    (behind : Blanks) : StaysInName (before.text ++ (name ++ behind.text)) := by
  refine List.forall_mem_append.mpr ⟨staysInName_of_allBlank before.allBlank, ?_⟩
  exact List.forall_mem_append.mpr ⟨hname.plain, staysInName_of_allBlank behind.allBlank⟩

theorem isSegment_text (item : WrittenItem) : AttributeGroup.IsSegment item.text := by
  cases item with
  | named before name behind value isName =>
      exact isSegment_assignment (staysInName_padded before isName behind) value
  | bare content inName => exact (SegmentForm.bare content inName).isSegment_text
  | nameless before value =>
      exact isSegment_assignment (staysInName_of_allBlank before.allBlank) value

theorem toPair?_read_and_records (item : WrittenItem) (offset : Nat) :
    (Segment.read item.text).toPair? = item.pair? ∧
      (Segment.read item.text).records offset = item.records offset := by
  cases item with
  | named before name behind value isName =>
      have htrim : Text.trim (before.text ++ (name ++ behind.text)) = name := by
        rw [Text.trim_blanks_append before.allBlank, Text.trim_append_blanks behind.allBlank,
          isName.trim_eq]
      have hread : Segment.read (named before name behind value isName).text =
          .pair name value.value.content := by
        rw [text, read_assignment (staysInName_padded before isName behind).not_mem, htrim,
          value.unquote_trim_text, if_neg (mt List.isEmpty_iff.mp isName.ne_nil)]
      rw [hread]
      exact ⟨rfl, rfl⟩
  | bare content inName =>
      rw [text, Segment.read, Text.isEmpty_trim, Text.splitFirst?_eq_none_iff.mpr inName.not_mem,
        records]
      split
      · exact ⟨rfl, rfl⟩
      · exact ⟨rfl, rfl⟩
  | nameless before value =>
      have hname : (Text.trim before.text).isEmpty = true := by
        rw [Text.isEmpty_trim, List.all_eq_true]
        exact before.allBlank
      rw [text, read_assignment (staysInName_of_allBlank before.allBlank).not_mem, if_pos hname]
      exact ⟨rfl, rfl⟩

theorem segments_joined {items : List WrittenItem} (hne : items ≠ []) {back : Text}
    (hback : back = [] ∨ back.head? = some ')') :
    AttributeGroup.segments (joined items ++ back) = items.map text := by
  apply AttributeGroup.segments_intercalate _ _ hback
  · simpa using hne
  · intro raw hraw
    obtain ⟨item, -, rfl⟩ := List.mem_map.mp hraw
    exact item.isSegment_text

theorem segmentRecords_map_text (items : List WrittenItem) (offset : Nat) :
    segmentRecords offset (items.map text) = recordsFrom offset items := by
  induction items generalizing offset with
  | nil => rfl
  | cons item items ih =>
      rw [List.map_cons, segmentRecords, (item.toPair?_read_and_records offset).2, ih]
      rfl

theorem attributesOf_map_text (items : List WrittenItem) :
    attributesOf (items.map text) = Attributes.ofList (pairs items) := by
  rw [attributesOf, List.filterMap_map, pairs]
  congr 2
  funext item
  exact (item.toPair?_read_and_records 0).1

theorem read_joined (items : List WrittenItem) (back : Text)
    (hback : back = [] ∨ back.head? = some ')') :
    parseAttributes (joined items ++ back) = Attributes.ofList (pairs items) ∧
      ∀ base, attributeRecords (joined items ++ back) base = recordsFrom base items := by
  cases items with
  | nil =>
      -- No item and one empty item are the same text.
      have hempty : AttributeGroup.IsSegment [] := ⟨.name, rfl, by decide⟩
      have hsegments : AttributeGroup.segments (joined [] ++ back) = [[]] :=
        AttributeGroup.segments_end hempty hback
      refine ⟨?_, fun base => ?_⟩
      · rw [parseAttributes, hsegments]
        rfl
      · rw [attributeRecords, hsegments]
        rfl
  | cons item items =>
      have hsegments := segments_joined (List.cons_ne_nil item items) hback
      refine ⟨?_, fun base => ?_⟩
      · rw [parseAttributes, hsegments, attributesOf_map_text]
      · rw [attributeRecords, hsegments, segmentRecords_map_text]

end WrittenItem

/-- A written list is read as its attributes, each name where it comes first and with the value that
comes last, and every item that is none is noted at its offset; a parenthesis and more text behind
the list change nothing. -/
theorem parseAttributes_joined (items : List WrittenItem) (base : Nat) (more : Text) :
    (parseAttributes (WrittenItem.joined items) = Attributes.ofList (WrittenItem.pairs items) ∧
        parseAttributes (WrittenItem.joined items ++ ')' :: more) =
          Attributes.ofList (WrittenItem.pairs items)) ∧
      (attributeRecords (WrittenItem.joined items) base = WrittenItem.recordsFrom base items ∧
        attributeRecords (WrittenItem.joined items ++ ')' :: more) base =
          WrittenItem.recordsFrom base items) ∧
      (parseAttributes (WrittenItem.joined items)).names =
        ((WrittenItem.pairs items).map Prod.fst).eraseDups ∧
      ∀ name, (parseAttributes (WrittenItem.joined items)).get? name =
        (WrittenItem.pairs items).reverse.lookup name := by
  obtain ⟨hattributes, hrecords⟩ := WrittenItem.read_joined items [] (Or.inl rfl)
  obtain ⟨hclosed, hclosedRecords⟩ := WrittenItem.read_joined items (')' :: more) (Or.inr rfl)
  rw [List.append_nil] at hattributes hrecords
  refine ⟨⟨hattributes, hclosed⟩, ⟨hrecords base, hclosedRecords base⟩, ?_, ?_⟩
  · rw [hattributes, Attributes.names_ofList]
  · intro name
    rw [hattributes, Attributes.get?_ofList]

theorem exists_joined_of_each_item :
    ∃ (items : List WrittenItem) (more : Text),
      WrittenItem.joined items ++ ')' :: more =
        "\ta = 1 , broken, =2,b=\"q,)\" ,a=3,) x=y".toList ∧
      parseAttributes (WrittenItem.joined items ++ ')' :: more) =
        Attributes.ofList [(['a'], ['1']), (['b'], "q,)".toList), (['a'], ['3'])] ∧
      attributeRecords (WrittenItem.joined items ++ ')' :: more) 2 =
        [.attributeWithoutValue 10 "broken".toList, .attributeWithoutName 18] ∧
      (parseAttributes (WrittenItem.joined items)).names = [['a'], ['b']] ∧
      (parseAttributes (WrittenItem.joined items)).get? ['a'] = some ['3'] := by
  let empty : Blanks := ⟨[], by decide⟩
  let space : Blanks := ⟨[' '], by decide⟩
  let tab : Blanks := ⟨['\t'], by decide⟩
  let items : List WrittenItem :=
    [.named tab ['a'] space ⟨space, .unquoted ['1'] (by decide) (by decide) (by decide), space⟩
        (by decide),
      .bare " broken".toList (by decide),
      .nameless space ⟨empty, .unquoted ['2'] (by decide) (by decide) (by decide), empty⟩,
      .named empty ['b'] empty ⟨empty, .quoted "q,)".toList (by decide), space⟩ (by decide),
      .named empty ['a'] empty ⟨empty, .unquoted ['3'] (by decide) (by decide) (by decide), empty⟩
        (by decide),
      .bare [] (by decide)]
  obtain ⟨⟨-, hattributes⟩, ⟨-, hrecords⟩, hnames, hlast⟩ :=
    parseAttributes_joined items 2 " x=y".toList
  exact ⟨items, " x=y".toList, by decide, hattributes, hrecords, hnames, hlast ['a']⟩

end Inlay.Markup
