import DebuggerDap.Library.Bytes

/-!
# The grammar of XML texts

A relation between texts, as bytes, and the nodes they stand for.  Which bytes
are blanks and which make names is left open, and so is what a piece of text
stands for: a reader may take more of them than `StandsFor` allows.  Elements
are nested as deep as a number of levels allows, where an element that is
written as one tag needs no level.
-/

namespace DebuggerDap.Library.XmlGrammar

open DebuggerDap.Library.Bytes

abbrev Bytes := List UInt8

/-- The bytes of an ASCII text. -/
def ascii (text : String) : Bytes :=
  text.toList.map byte

/-- A node of a document; a text may be one of character data. -/
inductive Node where
  | element
      (name : Bytes)
      (attributes : List (Bytes × Bytes))
      (children : List Node)
  | text (cData : Bool) (value : Bytes)
  | comment (value : Bytes)
  | declaration (value : Bytes)
  | unknown (value : Bytes)

/-! ## Pieces of text -/

def IsDigit (value : Nat) (code : UInt8) : Prop :=
  (ascii "0123456789abcdef")[value]? = some code ∨
    (ascii "0123456789ABCDEF")[value]? = some code

/-- Digits, and the number they stand for in a base. -/
inductive Numeral (base : Nat) : Bytes → Nat → Prop
  | single
      {value : Nat}
      {code : UInt8}
      (small : value < base)
      (digit : IsDigit value code) :
      Numeral base [code] value
  | more
      {digits : Bytes}
      {number value : Nat}
      {code : UInt8}
      (others : Numeral base digits number)
      (small : value < base)
      (digit : IsDigit value code) :
      Numeral base (digits ++ [code]) (number * base + value)

/-- The characters with a reference of their own. -/
def predefined : List (Bytes × UInt8) :=
  [(ascii "amp", byte '&'), (ascii "lt", byte '<'), (ascii "gt", byte '>'),
    (ascii "apos", byte '\x27'), (ascii "quot", byte '"')]

/--
What a piece of text stands for: an end of a line is a line feed, and a
reference, where there are any, is its character.  Readers do not agree on a
carriage return behind a line feed, so it is left out.
-/
inductive StandsFor (references : Bool) : Bytes → Bytes → Prop
  | nil : StandsFor references [] []
  | plain
      {code : UInt8}
      {raw value : Bytes}
      (visible : code ≠ 0)
      (noEnd : code ≠ 0x0d ∧ code ≠ 0x0a)
      (noMark : references = true → code ≠ byte '&')
      (others : StandsFor references raw value) :
      StandsFor references (code :: raw) (code :: value)
  | lineFeed
      {raw value : Bytes}
      (next : raw.head? ≠ some 0x0d)
      (others : StandsFor references raw value) :
      StandsFor references (0x0a :: raw) (0x0a :: value)
  | carriageReturn
      {raw value : Bytes}
      (next : raw.head? ≠ some 0x0a)
      (others : StandsFor references raw value) :
      StandsFor references (0x0d :: raw) (0x0a :: value)
  | both
      {raw value : Bytes}
      (others : StandsFor references raw value) :
      StandsFor references (0x0d :: 0x0a :: raw) (0x0a :: value)
  | entity
      {name raw value : Bytes}
      {code : UInt8}
      (allowed : references = true)
      (named : (name, code) ∈ predefined)
      (others : StandsFor references raw value) :
      StandsFor references (byte '&' :: (name ++ byte ';' :: raw))
        (code :: value)
  | decimal
      {digits raw value : Bytes}
      {ch : Char}
      (allowed : references = true)
      (visible : ch ≠ '\x00')
      (numeral : Numeral 10 digits ch.toNat)
      (others : StandsFor references raw value) :
      StandsFor references
        (byte '&' :: byte '#' :: (digits ++ byte ';' :: raw))
        (String.utf8EncodeChar ch ++ value)
  | hexadecimal
      {digits raw value : Bytes}
      {ch : Char}
      (allowed : references = true)
      (visible : ch ≠ '\x00')
      (numeral : Numeral 16 digits ch.toNat)
      (others : StandsFor references raw value) :
      StandsFor references
        (byte '&' :: byte '#' :: byte 'x' :: (digits ++ byte ';' :: raw))
        (String.utf8EncodeChar ch ++ value)

/-! ## Nodes -/

/-- What a reader makes of single bytes and of pieces of text. -/
structure Lexis where
  space : UInt8 → Bool
  nameStart : UInt8 → Bool
  nameByte : UInt8 → Bool
  /-- What a text or the value of an attribute stands for. -/
  value : Bytes → Bytes → Prop
  /-- What the text of any other node stands for. -/
  verbatim : Bytes → Bytes → Prop

section Texts

variable (lexis : Lexis)

def Blank (text : Bytes) : Prop :=
  ∀ code ∈ text, lexis.space code = true

/-- A first byte and more of them. -/
structure IsName (name : Bytes) : Prop where
  start : name.head?.any lexis.nameStart = true
  others : ∀ code ∈ name.tail, lexis.nameByte code = true

/-- The mark behind a piece of text is the first one there is. -/
def Unbroken (stop raw : Bytes) : Prop :=
  ∀ count < raw.length, ¬ stop <+: (raw ++ stop).drop count

/-- The attributes of a tag, in front of its end. -/
inductive Attributes : Bytes → List (Bytes × Bytes) → Prop
  | nil {blank : Bytes} (isBlank : Blank lexis blank) : Attributes blank []
  | cons
      {blank name before after raw value rest : Bytes}
      {quote : UInt8}
      {attributes : List (Bytes × Bytes)}
      (isBlank : Blank lexis blank)
      (separated : blank ≠ [])
      (named : IsName lexis name)
      (beforeBlank : Blank lexis before)
      (afterBlank : Blank lexis after)
      (quoted : quote = byte '"' ∨ quote = byte '\x27')
      (inside : quote ∉ raw)
      (stands : lexis.value raw value)
      (others : Attributes rest attributes) :
      Attributes
        (blank ++ (name ++ (before ++ byte '=' ::
          (after ++ quote :: (raw ++ quote :: rest)))))
        ((name, value) :: attributes)

/-- A tag with its attributes, up to its end. -/
structure Tag
    (text name : Bytes)
    (attributes : List (Bytes × Bytes)) : Prop where
  named : IsName lexis name
  written :
    ∃ rest, text = byte '<' :: (name ++ rest) ∧
      Attributes lexis rest attributes
  distinct : (attributes.map Prod.fst).Nodup

mutual

/-- The text of a node that begins with a mark. -/
inductive Markup : Nat → Bytes → Node → Prop
  | comment
      {levels : Nat}
      {raw value : Bytes}
      (unbroken : Unbroken (ascii "-->") raw)
      (stands : lexis.verbatim raw value) :
      Markup levels (ascii "<!--" ++ (raw ++ ascii "-->")) (.comment value)
  | cData
      {levels : Nat}
      {raw value : Bytes}
      (unbroken : Unbroken (ascii "]]>") raw)
      (stands : lexis.verbatim raw value) :
      Markup levels (ascii "<![CDATA[" ++ (raw ++ ascii "]]>"))
        (.text true value)
  | unknown
      {levels : Nat}
      {raw value : Bytes}
      (inside : byte '>' ∉ raw)
      (noComment : ¬ ascii "--" <+: raw)
      (noCData : ¬ ascii "[CDATA[" <+: raw)
      (stands : lexis.verbatim raw value) :
      Markup levels (ascii "<!" ++ (raw ++ [byte '>'])) (.unknown value)
  | empty
      {levels : Nat}
      {text name : Bytes}
      {attributes : List (Bytes × Bytes)}
      (tag : Tag lexis text name attributes) :
      Markup levels (text ++ ascii "/>") (.element name attributes [])
  | element
      {levels : Nat}
      {text name body blank : Bytes}
      {attributes : List (Bytes × Bytes)}
      {children : List Node}
      (tag : Tag lexis text name attributes)
      (content : Content levels body children)
      (isBlank : Blank lexis blank) :
      Markup (levels + 1)
        (text ++ byte '>' :: (body ++ (ascii "</" ++
          (name ++ (blank ++ [byte '>'])))))
        (.element name attributes children)

/-- The text of the children of a node; two texts do not follow each other. -/
inductive Content : Nat → Bytes → List Node → Prop
  | blank
      {levels : Nat}
      {blank : Bytes}
      (isBlank : Blank lexis blank) :
      Content levels blank []
  | markup
      {levels : Nat}
      {blank text rest : Bytes}
      {node : Node}
      {nodes : List Node}
      (isBlank : Blank lexis blank)
      (marked : Markup levels text node)
      (others : Content levels rest nodes) :
      Content levels (blank ++ (text ++ rest)) (node :: nodes)
  | text
      {levels : Nat}
      {raw value rest : Bytes}
      {nodes : List Node}
      (inside : byte '<' ∉ raw)
      (visible : ¬ Blank lexis raw)
      (stands : lexis.value raw value)
      (others : Content levels rest nodes)
      (next : ∀ code ∈ rest.head?, code = byte '<') :
      Content levels (raw ++ rest) (.text false value :: nodes)

end

/-- A document: declarations, and content without texts beside the nodes. -/
inductive Document : Nat → Bytes → List Node → Prop
  | content
      {levels : Nat}
      {text : Bytes}
      {nodes : List Node}
      (body : Content lexis levels text nodes)
      (noText : ∀ value, Node.text false value ∉ nodes) :
      Document levels text nodes
  | declaration
      {levels : Nat}
      {blank raw value rest : Bytes}
      {nodes : List Node}
      (isBlank : Blank lexis blank)
      (unbroken : Unbroken (ascii "?>") raw)
      (stands : lexis.verbatim raw value)
      (others : Document levels rest nodes) :
      Document levels
        (blank ++ (ascii "<?" ++ (raw ++ (ascii "?>" ++ rest))))
        (.declaration value :: nodes)

end Texts

/-! ## Blanks -/

section Blanks

variable {lexis : Lexis}

theorem blank_nil : Blank lexis [] :=
  fun _ member => absurd member List.not_mem_nil

theorem blank_append
    {left right : Bytes}
    (leftBlank : Blank lexis left)
    (rightBlank : Blank lexis right) : Blank lexis (left ++ right) :=
  fun code member =>
    (List.mem_append.mp member).elim (leftBlank code) (rightBlank code)

/-- More blanks in front of content that does not begin with a text. -/
theorem Content.blank_append
    {levels : Nat}
    {blank text : Bytes}
    {nodes : List Node}
    (isBlank : Blank lexis blank)
    (content : Content lexis levels text nodes)
    (noText : ∀ value, nodes.head? ≠ some (.text false value)) :
    Content lexis levels (blank ++ text) nodes := by
  cases content with
  | blank others => exact .blank (XmlGrammar.blank_append isBlank others)
  | markup others marked rest =>
      rw [← List.append_assoc]
      exact .markup (XmlGrammar.blank_append isBlank others) marked rest
  | text => exact absurd rfl (noText _)

end Blanks

/-! ## Readers that take more -/

/-- The same bytes, with other pieces of text. -/
def Lexis.reading
    (lexis : Lexis)
    (value verbatim : Bytes → Bytes → Prop) : Lexis :=
  { lexis with value := value, verbatim := verbatim }

section Readers

variable {lexis : Lexis} {value verbatim : Bytes → Bytes → Prop}

theorem Attributes.reading
    (values : ∀ raw read, lexis.value raw read → value raw read)
    {text : Bytes}
    {attributes : List (Bytes × Bytes)}
    (written : Attributes lexis text attributes) :
    Attributes (lexis.reading value verbatim) text attributes := by
  induction written with
  | nil isBlank => exact .nil isBlank
  | cons isBlank separated named beforeBlank afterBlank quoted inside stands _
      inductionHypothesis =>
      exact .cons isBlank separated ⟨named.start, named.others⟩ beforeBlank
        afterBlank quoted inside (values _ _ stands) inductionHypothesis

theorem Tag.reading
    (values : ∀ raw read, lexis.value raw read → value raw read)
    {text name : Bytes}
    {attributes : List (Bytes × Bytes)}
    (tag : Tag lexis text name attributes) :
    Tag (lexis.reading value verbatim) text name attributes where
  named := ⟨tag.named.start, tag.named.others⟩
  written := by
    rcases tag.written with ⟨rest, shape, written⟩
    exact ⟨rest, shape, written.reading values⟩
  distinct := tag.distinct

mutual

theorem Markup.reading
    (values : ∀ raw read, lexis.value raw read → value raw read)
    (verbatims : ∀ raw read, lexis.verbatim raw read → verbatim raw read)
    {levels : Nat}
    {text : Bytes}
    {node : Node}
    (marked : Markup lexis levels text node) :
    Markup (lexis.reading value verbatim) levels text node := by
  cases marked with
  | comment unbroken stands => exact .comment unbroken (verbatims _ _ stands)
  | cData unbroken stands => exact .cData unbroken (verbatims _ _ stands)
  | unknown inside noComment noCData stands =>
      exact .unknown inside noComment noCData (verbatims _ _ stands)
  | empty tag => exact .empty (tag.reading values)
  | element tag content isBlank =>
      exact .element (tag.reading values)
        (Content.reading values verbatims content) isBlank

theorem Content.reading
    (values : ∀ raw read, lexis.value raw read → value raw read)
    (verbatims : ∀ raw read, lexis.verbatim raw read → verbatim raw read)
    {levels : Nat}
    {text : Bytes}
    {nodes : List Node}
    (content : Content lexis levels text nodes) :
    Content (lexis.reading value verbatim) levels text nodes := by
  cases content with
  | blank isBlank => exact .blank isBlank
  | markup isBlank marked others =>
      exact .markup isBlank (Markup.reading values verbatims marked)
        (Content.reading values verbatims others)
  | text inside visible stands others next =>
      exact .text inside visible (values _ _ stands)
        (Content.reading values verbatims others) next

end

/-- A document is one for every reader that takes its pieces of text. -/
theorem Document.reading
    (values : ∀ raw read, lexis.value raw read → value raw read)
    (verbatims : ∀ raw read, lexis.verbatim raw read → verbatim raw read)
    {levels : Nat}
    {text : Bytes}
    {nodes : List Node}
    (document : Document lexis levels text nodes) :
    Document (lexis.reading value verbatim) levels text nodes := by
  induction document with
  | content body noText =>
      exact .content (Content.reading values verbatims body) noText
  | declaration isBlank unbroken stands _ inductionHypothesis =>
      exact .declaration isBlank unbroken (verbatims _ _ stands)
        inductionHypothesis

end Readers

end DebuggerDap.Library.XmlGrammar
