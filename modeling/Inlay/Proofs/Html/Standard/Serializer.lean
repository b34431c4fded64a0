import Inlay.Html.Standard.Serializer
import Inlay.Proofs.Html.Serializer

namespace Inlay.Html

namespace Tags

def prepend (content : Text) (tags : Tags) : Tags :=
  { tags with start := content ++ tags.start }

def behindText (tags : Tags) : Tags :=
  { behind := tags.start :: tags.behind }

@[simp] theorem around_prepend (content : Text) (tags : Tags) (texts : List Text) :
    (tags.prepend content).around texts = content ++ tags.around texts :=
  List.append_assoc content tags.start _

@[simp] theorem around_behindText (tags : Tags) (content : Text) (texts : List Text) :
    tags.behindText.around (content :: texts) = content ++ tags.around texts :=
  List.append_assoc content tags.start _

end Tags

namespace Standard

mutual

/-- The tags of a node in front of other ones. -/
def tagsBefore (context : Context) (back : Tags) : Node Unit → Tags
  | .text _ => back.behindText
  | .element name attributes children =>
      (tagsAllBefore (context.inside name)
        (back.prepend (if context.insideVoid || isVoid name then [] else closeTag name))
        children).prepend (if context.insideVoid then [] else openTag name attributes)

def tagsAllBefore (context : Context) (back : Tags) : List (Node Unit) → Tags
  | [] => back
  | node :: rest => tagsBefore context (tagsAllBefore context back rest) node

end

def writtenTexts (texts : List (Option Name × Text)) : List Text :=
  texts.map fun text => writeText text.1 text.2

mutual

theorem length_tagsBefore (context : Context) (back : Tags) (node : Node Text) :
    (tagsBefore context back node.shape).behind.length =
      (node.texts context.parent).length + back.behind.length := by
  cases node with
  | text contents => exact Nat.add_comm _ 1
  | element name attributes children =>
      exact length_tagsAllBefore (context.inside name) _ children

theorem length_tagsAllBefore (context : Context) (back : Tags) (nodes : List (Node Text)) :
    (tagsAllBefore context back (Node.mapAll (fun _ => ()) nodes)).behind.length =
      (Node.textsAll context.parent nodes).length + back.behind.length := by
  cases nodes with
  | nil => exact (Nat.zero_add _).symm
  | cons node rest =>
      rw [Node.textsAll, List.length_append, Nat.add_assoc,
        ← length_tagsAllBefore context back rest]
      exact length_tagsBefore context _ node

end

mutual

theorem serializeBefore_eq (context : Context) (tags : Tags) (behind : List Text)
    (node : Node Text) :
    serializeBefore context (tags.around behind) node =
      (tagsBefore context tags node.shape).around
        (writtenTexts (node.texts context.parent) ++ behind) := by
  cases node with
  | text contents => exact (tags.around_behindText _ behind).symm
  | element name attributes children =>
      rw [serializeBefore, ← Tags.around_prepend,
        serializeAllBefore_eq (context.inside name) _ behind children, ← Tags.around_prepend]
      rfl

theorem serializeAllBefore_eq (context : Context) (tags : Tags) (behind : List Text)
    (nodes : List (Node Text)) :
    serializeAllBefore context (tags.around behind) nodes =
      (tagsAllBefore context tags (Node.mapAll (fun _ => ()) nodes)).around
        (writtenTexts (Node.textsAll context.parent nodes) ++ behind) := by
  cases nodes with
  | nil => rfl
  | cons node rest =>
      rw [serializeAllBefore, serializeAllBefore_eq context tags behind rest,
        serializeBefore_eq context _ _ node, Node.textsAll, writtenTexts, writtenTexts,
        writtenTexts, List.map_append, List.append_assoc]
      rfl

end

theorem writeText_of_not_literal {parent : Option Name} (contents : Text)
    (h : ∀ name ∈ parent, Name.isLiteral name = false) :
    writeText parent contents = escapeText contents := by
  cases parent with
  | none => rfl
  | some name => rw [writeText, Option.any_some, h name rfl, if_neg (by simp)]

theorem writesTree_serialize : WritesTree serialize writeText where
  tags := by
    refine ⟨tagsBefore {} {}, fun node => ⟨length_tagsBefore {} {} node, ?_⟩⟩
    have hwritten := serializeBefore_eq {} {} [] node
    rwa [List.append_nil] at hwritten
  escapes parent contents h := writeText_of_not_literal contents h

end Standard

end Inlay.Html
