import Inlay.Html.Render
import Inlay.Proofs.Forest
import Inlay.Proofs.Html.Standard.Serializer
import Inlay.Proofs.Template
import Mathlib.Data.Finset.Basic

namespace Inlay.Template

/-- A text with holes: how it begins, and the key of each hole with the text behind it. -/
structure Skeleton where
  start : Text := []
  holes : List (Text × Text) := []
  deriving DecidableEq, Repr

/-- A text in a filled forest: one that was there, or the value of a key. -/
inductive Content where
  | fixed (content : Text)
  | hole (key : Text)
  deriving DecidableEq, Repr

namespace Content

def fill (value : Text → Text) : Content → Text
  | fixed content => content
  | hole key => value key

def keys : Content → List Text
  | fixed _ => []
  | hole key => [key]

end Content

namespace Skeleton

def prependText (content : Text) (skeleton : Skeleton) : Skeleton :=
  { skeleton with start := content ++ skeleton.start }

def prependHole (key : Text) (skeleton : Skeleton) : Skeleton :=
  { holes := (key, skeleton.start) :: skeleton.holes }

def prependContent (write : Text → Text) (skeleton : Skeleton) : Content → Skeleton
  | .fixed content => skeleton.prependText (write content)
  | .hole key => skeleton.prependHole key

def write (value : Text → Text) (skeleton : Skeleton) : Text :=
  skeleton.start ++
    skeleton.holes.flatMap fun hole => Html.escapeText (value hole.1) ++ hole.2

def keys (skeleton : Skeleton) : List Text :=
  skeleton.holes.map Prod.fst

variable (value : Text → Text) (skeleton : Skeleton)

@[simp] theorem write_prependText (content : Text) :
    (skeleton.prependText content).write value = content ++ skeleton.write value :=
  List.append_assoc content skeleton.start _

@[simp] theorem write_prependHole (key : Text) :
    (skeleton.prependHole key).write value =
      Html.escapeText (value key) ++ skeleton.write value :=
  List.append_assoc (Html.escapeText (value key)) skeleton.start _

@[simp] theorem keys_prependText (content : Text) :
    (skeleton.prependText content).keys = skeleton.keys := rfl

@[simp] theorem keys_prependContent (write : Text → Text) (content : Content) :
    (skeleton.prependContent write content).keys = content.keys ++ skeleton.keys := by
  cases content with
  | fixed content => rfl
  | hole key => rfl

theorem write_prependContent {write : Text → Text} {content : Content}
    (h : ∀ key, content = .hole key → write (value key) = Html.escapeText (value key)) :
    (skeleton.prependContent write content).write value =
      write (content.fill value) ++ skeleton.write value := by
  cases content with
  | fixed content => exact write_prependText value skeleton (write content)
  | hole key =>
      rw [Content.fill, h key rfl]
      exact write_prependHole value skeleton key

/-! Escaped text has no `<`, so all of them are in the fixed texts. -/

theorem lt_not_mem_escapeText (content : Text) : '<' ∉ Html.escapeText content := by
  intro h
  obtain ⟨c, -, hc⟩ := List.mem_flatMap.mp h
  unfold Html.escapeTextChar at hc
  split at hc
  · exact absurd hc (by decide)
  · exact absurd hc (by decide)
  · exact absurd hc (by decide)
  · exact absurd hc (by decide)
  · rename_i hmarkup _
    exact hmarkup (List.mem_singleton.mp hc).symm

theorem count_write (value other : Text → Text) (skeleton : Skeleton) :
    (skeleton.write value).count '<' = (skeleton.write other).count '<' := by
  have hescaped (content : Text) : (Html.escapeText content).count '<' = 0 :=
    List.count_eq_zero.mpr (lt_not_mem_escapeText content)
  rw [write, write, List.count_append, List.count_append, Nat.add_left_cancel_iff]
  induction skeleton.holes with
  | nil => rfl
  | cons hole holes ih =>
      simp only [List.flatMap_cons, List.count_append, hescaped, ih]

end Skeleton

section

open Html (Name Node Tags)

/-- The texts of a tree, each as it is written and with the markup behind it, in front of a
skeleton. -/
def partsBefore (write : Option Name → Text → Text) (back : Skeleton)
    (parts : List ((Option Name × Content) × Text)) : Skeleton :=
  parts.foldr
    (fun part skeleton => (skeleton.prependText part.2).prependContent (write part.1.1) part.1.2)
    back

def nodeBefore (tags : Node Unit → Tags) (write : Option Name → Text → Text)
    (node : Node Content) (back : Skeleton) : Skeleton :=
  (partsBefore write back ((node.texts none).zip (tags node.shape).behind)).prependText
    (tags node.shape).start

def skeletonOf (tags : Node Unit → Tags) (write : Option Name → Text → Text)
    (nodes : List (Node Content)) : Skeleton :=
  nodes.foldr (nodeBefore tags write) {}

variable {tags : Node Unit → Tags} {write : Option Name → Text → Text}

theorem write_partsBefore (value : Text → Text) (back : Skeleton)
    {parts : List ((Option Name × Content) × Text)}
    (h : ∀ part ∈ parts, ∀ key, part.1.2 = .hole key →
      write part.1.1 (value key) = Html.escapeText (value key)) :
    (partsBefore write back parts).write value =
      parts.flatMap (fun part => write part.1.1 (part.1.2.fill value) ++ part.2) ++
        back.write value := by
  induction parts with
  | nil => rfl
  | cons part parts ih =>
      rw [List.forall_mem_cons] at h
      have hpart := Skeleton.write_prependContent value
        ((partsBefore write back parts).prependText part.2) h.1
      rw [List.flatMap_cons, List.append_assoc, List.append_assoc, ← ih h.2,
        ← Skeleton.write_prependText]
      exact hpart

theorem keys_partsBefore (back : Skeleton) (parts : List ((Option Name × Content) × Text)) :
    (partsBefore write back parts).keys =
      (parts.map Prod.fst).flatMap (fun text => text.2.keys) ++ back.keys := by
  induction parts with
  | nil => rfl
  | cons part parts ih =>
      have hpart := Skeleton.keys_prependContent
        ((partsBefore write back parts).prependText part.2) (write part.1.1) part.1.2
      rw [Skeleton.keys_prependText, ih] at hpart
      rw [List.map_cons, List.flatMap_cons, List.append_assoc]
      exact hpart

variable {serialize : Html.Serializer}
  (htags : ∀ node : Node Text,
    (tags node.shape).behind.length = (node.texts none).length ∧
    serialize node =
      (tags node.shape).around ((node.texts none).map fun text => write text.1 text.2))

include htags

theorem write_nodeBefore (value : Text → Text) (back : Skeleton) {node : Node Content}
    (h : ∀ text ∈ node.texts none, ∀ key, text.2 = .hole key →
      write text.1 (value key) = Html.escapeText (value key)) :
    (nodeBefore tags write node back).write value =
      serialize (node.map (Content.fill value)) ++ back.write value := by
  have hparts : ∀ part ∈ (node.texts none).zip (tags node.shape).behind, ∀ key,
      part.1.2 = .hole key → write part.1.1 (value key) = Html.escapeText (value key) :=
    fun part hpart => h part.1 (List.of_mem_zip hpart).1
  calc
    (nodeBefore tags write node back).write value =
        (tags node.shape).start ++
          (((node.texts none).zip (tags node.shape).behind).flatMap (fun part =>
            write part.1.1 (part.1.2.fill value) ++ part.2) ++ back.write value) := by
      rw [nodeBefore, Skeleton.write_prependText, write_partsBefore value back hparts]
    _ = (tags node.shape).around
          ((node.texts none).map fun text => write text.1 (text.2.fill value)) ++
            back.write value := by
      rw [Tags.around, List.zip_map_left, List.flatMap_map, List.append_assoc]
      rfl
    _ = serialize (node.map (Content.fill value)) ++ back.write value := by
      rw [(htags _).2, Node.shape_map, Node.texts_map, List.map_map]
      rfl

theorem keys_nodeBefore (node : Node Content) (back : Skeleton) :
    (nodeBefore tags write node back).keys =
      (node.texts none).flatMap (fun text => text.2.keys) ++ back.keys := by
  have hlength := (htags (node.map (Content.fill id))).1
  rw [Node.shape_map, Node.texts_map, List.length_map] at hlength
  rw [nodeBefore, Skeleton.keys_prependText, keys_partsBefore,
    List.map_fst_zip (Nat.le_of_eq hlength.symm)]

theorem write_skeletonOf (value : Text → Text) {nodes : List (Node Content)}
    (h : ∀ text ∈ Node.textsAll none nodes, ∀ key, text.2 = .hole key →
      write text.1 (value key) = Html.escapeText (value key)) :
    (skeletonOf tags write nodes).write value =
      (Node.mapAll (Content.fill value) nodes).flatMap serialize := by
  induction nodes with
  | nil => rfl
  | cons node rest ih =>
      rw [Node.textsAll, List.forall_mem_append] at h
      rw [Node.mapAll, List.flatMap_cons, ← ih h.2]
      exact write_nodeBefore htags value (skeletonOf tags write rest) h.1

theorem keys_skeletonOf (nodes : List (Node Content)) :
    (skeletonOf tags write nodes).keys =
      (Node.textsAll none nodes).flatMap fun text => text.2.keys := by
  induction nodes with
  | nil => rfl
  | cons node rest ih =>
      rw [Node.textsAll, List.flatMap_append, ← ih]
      exact keys_nodeBefore htags node (skeletonOf tags write rest)

end

section

variable (marker : Text) (keys : Finset Text)

/-- The key of the value that an element with given attributes gets, if it gets one. -/
def slotKey? (attributes : Attributes) : Option Text :=
  (attributes.get? marker).filter (· ∈ keys)

def slotted : Forest → List (Html.Node Content)
  | .nil => []
  | .text content rest => Html.createText (.fixed content) :: slotted rest
  | .element tag attributes children rest =>
      let inside :=
        match slotKey? marker keys attributes with
        | some key => [Html.createText (.hole key)]
        | none => slotted children
      Html.createElement tag attributes inside :: slotted rest

def EscapesSlots (forest : Forest) : Prop :=
  ∀ element ∈ forest.elements, ∀ key ∈ keys, element.attributes.get? marker = some key →
    Html.isLiteral element.tag = false

end

section

variable {marker : Text} {keys : Finset Text}

theorem slotKey?_eq_some_iff {attributes : Attributes} {key : Text} :
    slotKey? marker keys attributes = some key ↔
      attributes.get? marker = some key ∧ key ∈ keys := by
  simp [slotKey?, Option.filter_eq_some_iff]

theorem escapesSlots_element {tag : Text} {attributes : Attributes} {children rest : Forest} :
    EscapesSlots marker keys (.element tag attributes children rest) ↔
      (∀ key, slotKey? marker keys attributes = some key → Html.isLiteral tag = false) ∧
        EscapesSlots marker keys children ∧ EscapesSlots marker keys rest := by
  simp only [EscapesSlots, Forest.elements, List.mem_cons, List.mem_append, or_imp, forall_and,
    forall_eq, slotKey?_eq_some_iff]
  constructor
  · rintro ⟨htag, hparts⟩
    exact ⟨fun key hkey => htag key hkey.2 hkey.1, hparts⟩
  · rintro ⟨htag, hparts⟩
    exact ⟨fun key hkey hmarker => htag key ⟨hmarker, hkey⟩, hparts⟩

theorem hole_of_mem_textsAll_slotted {forest : Forest} (hslots : EscapesSlots marker keys forest)
    (parent : Option Html.Name) :
    ∀ text ∈ Html.Node.textsAll parent (slotted marker keys forest), ∀ key,
      text.2 = .hole key → key ∈ keys ∧ ∀ name ∈ text.1, Html.Name.isLiteral name = false := by
  induction forest generalizing parent with
  | nil => exact nofun
  | text content rest ih =>
      intro text htext key hkey
      rcases List.mem_cons.mp htext with rfl | htext
      · cases hkey
      · exact ih hslots parent text htext key hkey
  | element tag attributes children rest ihChildren ih =>
      obtain ⟨htag, hchildren, hrest⟩ := escapesSlots_element.mp hslots
      intro text htext key hkey
      rcases List.mem_append.mp htext with htext | htext
      · cases hslot : slotKey? marker keys attributes with
        | none =>
            simp only [hslot] at htext
            exact ihChildren hchildren _ text htext key hkey
        | some found =>
            simp only [hslot] at htext
            obtain rfl := List.mem_singleton.mp htext
            cases hkey
            refine ⟨(slotKey?_eq_some_iff.mp hslot).2, ?_⟩
            rintro name ⟨⟩
            exact htag key hslot
      · exact ih hrest parent text htext key hkey

variable {values : Std.TreeMap Text Text} (hkeys : ∀ key, key ∈ values ↔ key ∈ keys)

include hkeys

theorem valueFor?_eq_map_slotKey? (marker : Text) (attributes : Attributes) :
    (mk marker values).valueFor? attributes =
      (slotKey? marker keys attributes).map fun key => values.getD key [] := by
  rw [valueFor?, slotKey?]
  cases attributes.get? marker with
  | none => rfl
  | some key =>
      rw [Option.bind_some, get?]
      by_cases hkey : key ∈ keys
      · rw [Option.filter_some, if_pos (by simpa using hkey)]
        exact Std.TreeMap.getElem?_eq_some_getD ((hkeys key).mpr hkey)
      · rw [Option.filter_some, if_neg (by simpa using hkey)]
        exact Std.TreeMap.getElem?_eq_none (mt (hkeys key).mp hkey)

theorem buildNodes_fill (forest : Forest) :
    Html.buildNodes ((mk marker values).fill forest) =
      Html.Node.mapAll (Content.fill fun key => values.getD key [])
        (slotted marker keys forest) := by
  induction forest with
  | nil => rfl
  | text content rest ih => exact congrArg (Html.createText content :: ·) ih
  | element tag attributes children rest ihChildren ih =>
      have hvalue := valueFor?_eq_map_slotKey? hkeys marker attributes
      cases hkey : slotKey? marker keys attributes with
      | none =>
          rw [hkey, Option.map_none] at hvalue
          simp only [slotted, fill, hkey, hvalue, Html.buildNodes, ihChildren, ih]
          rfl
      | some key =>
          rw [hkey, Option.map_some] at hvalue
          simp only [slotted, fill, hkey, hvalue, Html.buildNodes, ih]
          rfl

theorem slotCount_eq_length_keys (parent : Option Html.Name) (forest : Forest) :
    (mk marker values).slotCount forest =
      ((Html.Node.textsAll parent (slotted marker keys forest)).flatMap
        fun text => text.2.keys).length := by
  induction forest generalizing parent with
  | nil => rfl
  | text content rest ih => exact ih parent
  | element tag attributes children rest ihChildren ih =>
      have hvalue := valueFor?_eq_map_slotKey? hkeys marker attributes
      have hsplit (inside : List (Html.Node Content)) :
          Html.Node.textsAll parent
            (Html.createElement tag attributes inside :: slotted marker keys rest) =
          Html.Node.textsAll (some ⟨.html, tag⟩) inside ++
            Html.Node.textsAll parent (slotted marker keys rest) := rfl
      cases hkey : slotKey? marker keys attributes with
      | none =>
          rw [hkey, Option.map_none] at hvalue
          simp only [slotCount, slotted, hkey, hvalue, hsplit, List.flatMap_append,
            List.length_append, ← ih, ← ihChildren]
      | some key =>
          rw [hkey, Option.map_some] at hvalue
          simp only [slotCount, slotted, hkey, hvalue, hsplit, List.flatMap_append,
            List.length_append, ← ih]
          exact Nat.add_comm _ 1

end

/-- The HTML of a filled forest is a text with holes that is known from the forest, the marker and
the keys: each value stands escaped in the holes of its key, and there are as many holes as slots
that are filled. So the values do not change how many `<` there are. -/
theorem render_fill_holes {serialize : Html.Serializer} {write : Option Html.Name → Text → Text}
    (hwrites : Html.WritesTree serialize write) (forest : Forest) (marker : Text)
    (keys : Finset Text)
    (hslots : ∀ element ∈ forest.elements, ∀ key ∈ keys,
      element.attributes.get? marker = some key → Html.isLiteral element.tag = false) :
    (∃ (start : Text) (holes : List (Text × Text)), (∀ hole ∈ holes, hole.1 ∈ keys) ∧
      ∀ values : Std.TreeMap Text Text, (∀ key, key ∈ values ↔ key ∈ keys) →
        Html.renderForest serialize ((mk marker values).fill forest) =
          start ++ holes.flatMap (fun hole =>
            Html.escapeText (values.getD hole.1 []) ++ hole.2) ∧
        (mk marker values).slotCount forest = holes.length) ∧
    ∀ values others : Std.TreeMap Text Text, (∀ key, key ∈ values ↔ key ∈ keys) →
      (∀ key, key ∈ others ↔ key ∈ keys) →
      (Html.renderForest serialize ((mk marker values).fill forest)).count '<' =
        (Html.renderForest serialize ((mk marker others).fill forest)).count '<' := by
  obtain ⟨tags, htags⟩ := hwrites.tags
  let skeleton := skeletonOf tags write (slotted marker keys forest)
  have hholes := hole_of_mem_textsAll_slotted hslots none
  have hskeleton : skeleton.keys = (Html.Node.textsAll none (slotted marker keys forest)).flatMap
      fun text => text.2.keys :=
    keys_skeletonOf htags _
  have hwrite (values : Std.TreeMap Text Text) (hkeys : ∀ key, key ∈ values ↔ key ∈ keys) :
      Html.renderForest serialize ((mk marker values).fill forest) =
        skeleton.write fun key => values.getD key [] := by
    rw [Html.renderForest, buildNodes_fill hkeys]
    refine (write_skeletonOf htags _ ?_).symm
    intro text htext key hkey
    exact hwrites.escapes text.1 _ (hholes text htext key hkey).2
  refine ⟨⟨skeleton.start, skeleton.holes, ?_, ?_⟩, ?_⟩
  · intro hole hhole
    have hkey : hole.1 ∈ skeleton.keys := List.mem_map_of_mem hhole
    rw [hskeleton] at hkey
    obtain ⟨⟨parent, content⟩, htext, hcontent⟩ := List.mem_flatMap.mp hkey
    cases content with
    | fixed content => cases hcontent
    | hole key =>
        obtain heq := List.mem_singleton.mp hcontent
        rw [heq]
        exact (hholes _ htext key rfl).1
  · intro values hkeys
    refine ⟨hwrite values hkeys, ?_⟩
    rw [slotCount_eq_length_keys hkeys none, ← hskeleton, Skeleton.keys, List.length_map]
  · intro values others hvalues hothers
    rw [hwrite values hvalues, hwrite others hothers, Skeleton.count_write]

/-- The outer of two nested slots is filled; the other slot stands in an element that takes text
literally and inside a void element. -/
theorem exists_holes_of_nested_slots :
    ∃ (forest : Forest) (keys : Finset Text) (values others : Std.TreeMap Text Text)
      (start : Text) (holes : List (Text × Text)),
      Html.WritesTree Html.Standard.serialize Html.Standard.writeText ∧
      (∀ element ∈ forest.elements, ∀ key ∈ keys,
        element.attributes.get? ['m'] = some key → Html.isLiteral element.tag = false) ∧
      (∀ key, key ∈ values ↔ key ∈ keys) ∧ (∀ key, key ∈ others ↔ key ∈ keys) ∧
      Html.renderForest Html.Standard.serialize ((mk ['m'] values).fill forest) =
        r#"<p m="a">&lt;b&gt;</p><script><br>&amp;</script>"#.toList ∧
      Html.renderForest Html.Standard.serialize ((mk ['m'] values).fill forest) =
        start ++ holes.flatMap (fun hole =>
          Html.escapeText (values.getD hole.1 []) ++ hole.2) ∧
      (mk ['m'] values).slotCount forest = holes.length ∧
      (Html.renderForest Html.Standard.serialize ((mk ['m'] values).fill forest)).count '<' =
        (Html.renderForest Html.Standard.serialize ((mk ['m'] others).fill forest)).count '<' := by
  let inner : Forest := .element ['i'] ⟨[(['m'], ['b'])]⟩ (.text ['x'] .nil) .nil
  let forest : Forest := .element ['p'] ⟨[(['m'], ['a'])]⟩ inner
    (.element "script".toList ⟨[]⟩ (.element "br".toList ⟨[]⟩ inner .nil) .nil)
  let table (first second : Text) : Std.TreeMap Text Text :=
    ((∅ : Std.TreeMap Text Text).insert ['a'] first).insert ['b'] second
  have hslots : ∀ element ∈ forest.elements, ∀ key ∈ ({['a'], ['b']} : Finset Text),
      element.attributes.get? ['m'] = some key → Html.isLiteral element.tag = false := by
    decide
  have hkeys (first second : Text) :
      ∀ key, key ∈ table first second ↔ key ∈ ({['a'], ['b']} : Finset Text) := by
    intro key
    simp only [table, Std.TreeMap.mem_insert, Std.compare_eq_iff_eq, Std.TreeMap.not_mem_emptyc,
      or_false, Finset.mem_insert, Finset.mem_singleton]
    rw [or_comm, @eq_comm _ key, @eq_comm _ key]
  obtain ⟨⟨start, holes, -, hholes⟩, hcount⟩ :=
    render_fill_holes Html.Standard.writesTree_serialize forest ['m'] {['a'], ['b']} hslots
  obtain ⟨hrender, hslotCount⟩ := hholes _ (hkeys "<b>".toList ['&'])
  exact ⟨forest, {['a'], ['b']}, table "<b>".toList ['&'], table [] [], start, holes,
    Html.Standard.writesTree_serialize, hslots, hkeys _ _, hkeys _ _, by decide +kernel, hrender,
    hslotCount, hcount _ _ (hkeys _ _) (hkeys _ _)⟩

end Inlay.Template
