import DebuggerDap.Persistence.StateFile
import DebuggerDap.Persistence.XmlConversion
import DebuggerDap.Persistence.XmlFile

/-!
# The elements of the state file in its bytes

The elements of the state file are nodes of tinyxml2.  Whatever a file holds,
the readers of the plugin see the elements of it; of a document that was
written they see the same elements, whose texts have come through the file.
-/

namespace DebuggerDap.Persistence.XmlState

open DebuggerDap.Text.Strings
open DebuggerDap.Text.Utf8
open DebuggerDap.Library.Bytes
open DebuggerDap.Library.XmlGrammar
open DebuggerDap.Persistence.StateFile (XmlElement Document)
open DebuggerDap.Persistence.XmlParser
open DebuggerDap.Persistence.XmlPrinter
open DebuggerDap.Persistence.XmlReading
open DebuggerDap.Persistence.XmlText
open DebuggerDap.Persistence.XmlPrintable
open DebuggerDap.Persistence.XmlWriting
open DebuggerDap.Persistence.XmlFile
open DebuggerDap.Persistence.XmlConversion

/-! ## Writing elements -/

section Writing

variable (conversion : Conversion)

mutual

/--
`NewElement`, `SetAttribute`, and `SetText`, which puts the text in front of
the children.
-/
def nodeOf : XmlElement → Node
  | .mk name attributes text children =>
      .element (name.map byte)
        (attributes.map fun attrib =>
          (attrib.1.map byte, conversion.mbStr attrib.2))
        ((text.map fun text => Node.text false (conversion.mbStr text)).toList
          ++ nodesOf children)

def nodesOf : List XmlElement → List Node
  | [] => []
  | element :: elements => nodeOf element :: nodesOf elements

end

/-- The bytes of the state file. -/
def stateFile (crlf : Bool) (document : Document) : Bytes :=
  saveFile crlf false
    { writeBOM := false, children := nodesOf conversion document }

end Writing

/-! ## Reading elements -/

def isComment : Node → Bool
  | .comment _ => true
  | _ => false

/-- `GetText`, on the children of a node. -/
def getText (nodes : List Node) : Option Bytes :=
  match nodes.dropWhile isComment with
  | .text _ value :: _ => some value
  | _ => none

section Reading

variable (conversion : Conversion)

mutual

/-- What the readers see of a node. -/
def elementOf : Node → Option XmlElement
  | .element name attributes children =>
      some
        (.mk (name.map charOf)
          (attributes.map fun attrib =>
            (attrib.1.map charOf, conversion.decode attrib.2))
          ((getText children).map conversion.decode)
          (elementsOf children))
  | _ => none

def elementsOf : List Node → List XmlElement
  | [] => []
  | node :: nodes => (elementOf node).toList ++ elementsOf nodes

end

/-- `LoadFile`, with what the readers see of the document. -/
def opened (ulong : Nat) (file : Bytes) : Option Document :=
  match loadFile ulong (some file) with
  | .ok document => some (elementsOf conversion document.children)
  | .error _ => none

end Reading

/-! ## What was written -/

/-- The name of an element, in ASCII. -/
def isTag (name : WxString) : Bool :=
  name.all (fun ch => ch.toNat < 128) &&
    (name.head?.any (fun ch => isNameStartChar (byte ch)) &&
      name.tail.all fun ch => isNameChar (byte ch))

mutual

/-- The names are names, and the elements are not nested too deep. -/
def Storable : Nat → XmlElement → Prop
  | levels, .mk name attributes text children =>
      isTag name = true ∧
        (∀ attrib ∈ attributes, isTag attrib.1 = true) ∧
        (attributes.map Prod.fst).Nodup ∧
        (text ≠ none ∨ children ≠ [] →
          0 < levels ∧ StorableAll (levels - 1) children)

def StorableAll : Nat → List XmlElement → Prop
  | _, [] => True
  | levels, element :: elements =>
      Storable levels element ∧ StorableAll levels elements

end

section Written

variable {conversion : Conversion} {crlf : Bool} {ulong : Nat}

mutual

/-- An element as it is read back. -/
def landedElement (conversion : Conversion) (crlf : Bool) :
    XmlElement → XmlElement
  | .mk name attributes text children =>
      .mk name
        (attributes.map fun attrib =>
          (attrib.1,
            conversion.decode (landed crlf (conversion.mbStr attrib.2))))
        (text.bind (landedText conversion crlf))
        (landedElements conversion crlf children)

def landedElements (conversion : Conversion) (crlf : Bool) :
    List XmlElement → List XmlElement
  | [] => []
  | element :: elements =>
      landedElement conversion crlf element ::
        landedElements conversion crlf elements

end

theorem isAscii_of_isTag {name : WxString} (tag : isTag name = true) :
    IsAscii name := by
  rw [isTag, Bool.and_eq_true] at tag
  exact fun ch member =>
    of_decide_eq_true (List.all_eq_true.mp tag.1 ch member)

theorem isName_of_isTag {name : WxString} (tag : isTag name = true) :
    IsName (lexis ulong) (name.map byte) := by
  rw [isTag, Bool.and_eq_true, Bool.and_eq_true] at tag
  rcases tag with ⟨-, start, others⟩
  cases name with
  | nil => cases start
  | cons first letters =>
      refine ⟨start, fun code member => ?_⟩
      rcases List.mem_map.mp member with ⟨ch, inLetters, rfl⟩
      exact List.all_eq_true.mp others ch inLetters

theorem not_isText_nodeOf (element : XmlElement) :
    ¬ IsText (nodeOf conversion element) := by
  cases element
  rw [nodeOf]
  rintro ⟨_, ⟨⟩⟩

theorem nodesOf_eq_map (elements : List XmlElement) :
    nodesOf conversion elements = elements.map (nodeOf conversion) := by
  induction elements with
  | nil => rfl
  | cons element elements inductionHypothesis =>
      rw [nodesOf, inductionHypothesis, List.map_cons]

theorem not_isText_nodesOf
    {elements : List XmlElement} :
    ∀ node ∈ nodesOf conversion elements, ¬ IsText node := by
  intro node member
  rw [nodesOf_eq_map] at member
  rcases List.mem_map.mp member with ⟨element, -, rfl⟩
  exact not_isText_nodeOf element

/-- Different names have different bytes. -/
theorem nodup_map_byte
    {attributes : List (WxString × WxString)}
    (tags : ∀ attrib ∈ attributes, isTag attrib.1 = true)
    (distinct : (attributes.map Prod.fst).Nodup) :
    ((attributes.map fun attrib =>
      (attrib.1.map byte, conversion.mbStr attrib.2)).map Prod.fst).Nodup := by
  have names :
      (attributes.map fun attrib =>
        (attrib.1.map byte, conversion.mbStr attrib.2)).map Prod.fst =
        (attributes.map Prod.fst).map (List.map byte) := by
    rw [List.map_map, List.map_map]
    rfl
  rw [names]
  refine List.Nodup.map_on ?_ distinct
  intro left inLeft right inRight same
  rcases List.mem_map.mp inLeft with ⟨leftAttrib, amongLeft, rfl⟩
  rcases List.mem_map.mp inRight with ⟨rightAttrib, amongRight, rfl⟩
  rw [← map_charOf_byte (isAscii_of_isTag (tags _ amongLeft)), same,
    map_charOf_byte (isAscii_of_isTag (tags _ amongRight))]

mutual

theorem printable_nodeOf
    {levels : Nat}
    (element : XmlElement)
    (storable : Storable levels element) :
    Printable ulong levels (nodeOf conversion element) := by
  match element with
  | .mk name attributes text children =>
      rw [Storable] at storable
      rcases storable with ⟨tag, tags, distinct, inside⟩
      rw [nodeOf, Printable]
      refine ⟨isName_of_isTag tag, ?_, nodup_map_byte tags distinct, ?_⟩
      · intro attrib member
        rcases List.mem_map.mp member with ⟨source, among, rfl⟩
        exact ⟨isName_of_isTag (tags source among), nul_not_mem_mbStr _⟩
      · cases text with
        | none =>
            intro some
            have nonempty : children ≠ [] := by
              rintro rfl
              exact some rfl
            rcases inside (.inr nonempty) with ⟨deep, others⟩
            exact ⟨deep, printableAll_nodesOf children others⟩
        | some text =>
            rcases inside (.inl (Option.some_ne_none text)) with
              ⟨deep, others⟩
            refine fun _ => ⟨deep, ?_⟩
            refine ⟨nul_not_mem_mbStr text,
              printableAll_nodesOf children others, fun _ next first => ?_⟩
            exact not_isText_nodesOf next (List.mem_of_mem_head? first)

theorem printableAll_nodesOf
    {levels : Nat}
    (elements : List XmlElement)
    (storable : StorableAll levels elements) :
    PrintableAll ulong levels (nodesOf conversion elements) := by
  match elements with
  | [] => exact trivial
  | element :: elements =>
      rw [StorableAll] at storable
      exact ⟨printable_nodeOf element storable.1,
        printableAll_nodesOf elements storable.2,
        fun isText => absurd isText (not_isText_nodeOf element)⟩

end

/-- Elements are found behind any text as without it. -/
theorem settleAll_textOf
    (text : Option WxString)
    (nodes : List Node) :
    settleAll crlf
        ((text.map fun text => Node.text false (conversion.mbStr text)).toList
          ++ nodes) =
      ((text.bind fun text =>
          if (conversion.mbStr text).all isWhiteSpace then none
          else some (landed crlf (conversion.mbStr text))).map
        (Node.text false)).toList ++ settleAll crlf nodes := by
  cases text with
  | none => rfl
  | some text =>
      show settleAll crlf (.text false (conversion.mbStr text) :: nodes) = _
      rw [settleAll, isBlankText, Option.bind_some]
      split_ifs <;> rfl

/-- Behind its text an element has no other. -/
theorem getText_settled
    (text : Option Bytes)
    {nodes : List Node}
    (noText : ∀ node ∈ nodes, ∃ name attributes children,
      node = .element name attributes children) :
    getText ((text.map (Node.text false)).toList ++ nodes) = text := by
  cases text with
  | some value => rfl
  | none =>
      cases nodes with
      | nil => rfl
      | cons node nodes =>
          rcases noText node List.mem_cons_self with ⟨_, _, _, rfl⟩
          rfl

theorem elements_of_mem_settleAll
    {elements : List XmlElement} :
    ∀ node ∈ settleAll crlf (nodesOf conversion elements),
      ∃ name attributes children,
        node = .element name attributes children := by
  intro node member
  rw [settleAll_of_not_text not_isText_nodesOf] at member
  rcases List.mem_map.mp member with ⟨source, among, rfl⟩
  rw [nodesOf_eq_map] at among
  rcases List.mem_map.mp among with ⟨element, -, rfl⟩
  cases element
  rw [nodeOf, settle]
  exact ⟨_, _, _, rfl⟩

theorem elementsOf_text
    (text : Option Bytes)
    (nodes : List Node) :
    elementsOf conversion ((text.map (Node.text false)).toList ++ nodes) =
      elementsOf conversion nodes := by
  cases text <;> rfl

mutual

/-- What is read back of an element. -/
theorem elementOf_settle
    {levels : Nat}
    (element : XmlElement)
    (storable : Storable levels element) :
    elementOf conversion (settle crlf (nodeOf conversion element)) =
      some (landedElement conversion crlf element) := by
  match element with
  | .mk name attributes text children =>
      rw [Storable] at storable
      rcases storable with ⟨tag, tags, -, inside⟩
      have inner :
          elementsOf conversion
              (settleAll crlf (nodesOf conversion children)) =
            landedElements conversion crlf children := by
        by_cases empty : children = []
        · rw [empty]
          rfl
        · exact elementsOf_settleAll children (inside (.inr empty)).2
      have attributesSeen :
          ((attributes.map fun attrib =>
              (attrib.1.map byte, conversion.mbStr attrib.2)).map
            fun attrib => (attrib.1, landed crlf attrib.2)).map
              (fun attrib =>
                (attrib.1.map charOf, conversion.decode attrib.2)) =
            attributes.map fun attrib =>
              (attrib.1,
                conversion.decode
                  (landed crlf (conversion.mbStr attrib.2))) := by
        rw [List.map_map, List.map_map]
        refine List.map_congr_left fun attrib member => ?_
        exact Prod.ext
          (map_charOf_byte (isAscii_of_isTag (tags attrib member))) rfl
      rw [nodeOf, settle, elementOf, settleAll_textOf, elementsOf_text, inner,
        getText_settled _ elements_of_mem_settleAll, attributesSeen,
        map_charOf_byte (isAscii_of_isTag tag), landedElement]
      congr 2
      cases text with
      | none => rfl
      | some text =>
          rw [Option.bind_some, Option.bind_some, landedText]
          split_ifs <;> rfl

theorem elementsOf_settleAll
    {levels : Nat}
    (elements : List XmlElement)
    (storable : StorableAll levels elements) :
    elementsOf conversion (settleAll crlf (nodesOf conversion elements)) =
      landedElements conversion crlf elements := by
  match elements with
  | [] => rfl
  | element :: elements =>
      rw [StorableAll] at storable
      rw [nodesOf, settleAll_cons_of_not_text (not_isText_nodeOf element),
        elementsOf, elementOf_settle element storable.1,
        elementsOf_settleAll elements storable.2, landedElements]
      rfl

end

/-- What is opened of a document that was written. -/
theorem opened_stateFile
    {document : Document}
    (storable : StorableAll maxLevels document)
    (inhabited : document ≠ []) :
    opened conversion ulong (stateFile conversion crlf document) =
      some (landedElements conversion crlf document) := by
  have written : nodesOf conversion document ≠ [] := by
    cases document with
    | nil => exact absurd rfl inhabited
    | cons element elements => exact List.cons_ne_nil _ _
  have loaded :=
    @loadFile_saveFile ulong crlf false
      { writeBOM := false, children := nodesOf conversion document }
      (.content (printableAll_nodesOf document storable)
        not_isText_nodesOf) written
  rw [opened, stateFile, loaded]
  exact congrArg some (elementsOf_settleAll document storable)

end Written

end DebuggerDap.Persistence.XmlState
