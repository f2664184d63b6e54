import DebuggerDap.Library.XmlGrammar

/-!
# The XML parser

`XMLDocument::LoadFile` of tinyxml2 reads a file into a buffer, modelled as
its bytes in front of the terminator.  The nodes keep pieces of the buffer and
replace references and ends of lines in place when their value is asked for:
what a piece becomes depends on nothing outside of it, but a reference that is
not known leaves the byte that stood where the value is written.
-/

namespace DebuggerDap.Persistence.XmlParser

open DebuggerDap.Library.Bytes
open DebuggerDap.Library.XmlGrammar

/-- The errors of a document that are told apart. -/
inductive XmlError where
  | errorFileNotFound
  | errorParsingElement
  | errorParsingAttribute
  | errorParsingText
  | errorParsingCData
  | errorParsingComment
  | errorParsingDeclaration
  | errorParsingUnknown
  | errorEmptyDocument
  | errorMismatchedElement
  | errorParsing
  | elementDepthExceeded
  /-- The recursion of the model was cut off. -/
  | exhausted
deriving DecidableEq

/-! ## Bytes -/

def lf : UInt8 :=
  0x0a

def cr : UInt8 :=
  0x0d

/-- `isspace`; no byte of a longer character is a blank. -/
def isWhiteSpace (code : UInt8) : Bool :=
  code = byte ' ' || (9 ≤ code && code ≤ 13)

def isAlpha (code : UInt8) : Bool :=
  (byte 'a' ≤ code && code ≤ byte 'z') ||
    (byte 'A' ≤ code && code ≤ byte 'Z')

def isNameStartChar (code : UInt8) : Bool :=
  128 ≤ code || isAlpha code || code = byte ':' || code = byte '_'

def isNameChar (code : UInt8) : Bool :=
  isNameStartChar code || (byte '0' ≤ code && code ≤ byte '9') ||
    code = byte '.' || code = byte '-'

def skipWhiteSpace (text : Bytes) : Bytes :=
  text.dropWhile isWhiteSpace

/-! ## References -/

/-- `entities`: what stands between `&` and `;`, and the byte it stands for. -/
def entities : List (Bytes × UInt8) :=
  [(ascii "quot", byte '"'), (ascii "amp", byte '&'),
    (ascii "apos", byte '\x27'), (ascii "lt", byte '<'),
    (ascii "gt", byte '>')]

def continuation (input : Nat) : UInt8 :=
  UInt8.ofNat ((input ||| 0x80) &&& 0xBF)

/-- A number that is too large has no bytes. -/
def convertUTF32ToUTF8 (input : Nat) : Bytes :=
  if input < 0x80 then [UInt8.ofNat input]
  else if input < 0x800 then
    [UInt8.ofNat ((input >>> 6) ||| 0xC0), continuation input]
  else if input < 0x10000 then
    [UInt8.ofNat ((input >>> 12) ||| 0xE0), continuation (input >>> 6),
      continuation input]
  else if input < 0x200000 then
    [UInt8.ofNat ((input >>> 18) ||| 0xF0), continuation (input >>> 12),
      continuation (input >>> 6), continuation input]
  else []

def hexDigit (code : UInt8) : Option Nat :=
  if byte '0' ≤ code ∧ code ≤ byte '9' then
    some (code.toNat - (byte '0').toNat)
  else if byte 'a' ≤ code ∧ code ≤ byte 'f' then
    some (code.toNat - (byte 'a').toNat + 10)
  else if byte 'A' ≤ code ∧ code ≤ byte 'F' then
    some (code.toNat - (byte 'A').toNat + 10)
  else none

def decimalDigit (code : UInt8) : Option Nat :=
  if byte '0' ≤ code ∧ code ≤ byte '9' then
    some (code.toNat - (byte '0').toNat)
  else none

section References

variable (ulong : Nat)

/--
The number of digits from the last one to the first.  The weight of a digit is
an `unsigned int`, the sum an `unsigned long` of `ulong` values.
-/
def digitSum
    (base : UInt32)
    (digit : UInt8 → Option Nat) :
    UInt32 → Nat → Bytes → Option Nat
  | _, ucs, [] => some ucs
  | mult, ucs, code :: rest =>
      match digit code with
      | none => none
      | some value =>
          digitSum base digit (mult * base)
            ((ucs + (mult * UInt32.ofNat value).toNat) % ulong) rest

/--
`GetCharacterRef` on what follows the `&`: the bytes of the character, and how
many bytes the reference takes, the `&` among them.  The digits are read
backwards from the `;`, up to the next mark.
-/
def getCharacterRef (text : Bytes) : Option (Bytes × Nat) :=
  match text with
  | _ :: mark :: rest =>
      if mark = byte 'x' then
        match rest.findIdx? (· = byte ';') with
        | none => none
        | some stop =>
            let digits :=
              (rest.take stop).reverse.takeWhile (· ≠ byte 'x')
            (digitSum ulong 16 hexDigit 1 0 digits).map fun ucs =>
              (convertUTF32ToUTF8 ucs, stop + 4)
      else
        match (mark :: rest).findIdx? (· = byte ';') with
        | none => none
        | some stop =>
            let digits :=
              ((mark :: rest).take stop).reverse.takeWhile (· ≠ byte '#')
            (digitSum ulong 10 decimalDigit 1 0 digits).map fun ucs =>
              (convertUTF32ToUTF8 ucs, stop + 3)
  | _ => some ([], 1)

/--
The loop of `GetStr` over a piece of the buffer: `skipped` bytes are still to
be passed, and so many were written.
-/
def getStrLoop
    (references newlines : Bool)
    (segment : Bytes) : Nat → Nat → Bytes → Bytes
  | _, _, [] => []
  | skipped + 1, written, _ :: rest =>
      getStrLoop references newlines segment skipped written rest
  | 0, written, code :: rest =>
      if newlines ∧ code = cr then
        lf :: getStrLoop references newlines segment
          (if rest.head? = some lf then 1 else 0) (written + 1) rest
      else if newlines ∧ code = lf then
        lf :: getStrLoop references newlines segment
          (if rest.head? = some cr then 1 else 0) (written + 1) rest
      else if references ∧ code = byte '&' then
        if rest.head? = some (byte '#') then
          match getCharacterRef ulong rest with
          | none =>
              code :: getStrLoop references newlines segment 0 (written + 1)
                rest
          | some (bytes, count) =>
              bytes ++ getStrLoop references newlines segment (count - 1)
                (written + bytes.length) rest
        else
          match
            entities.find? fun entity =>
              (entity.1 ++ [byte ';']).isPrefixOf rest
          with
          | some entity =>
              entity.2 :: getStrLoop references newlines segment
                (entity.1.length + 1) (written + 1) rest
          -- The byte in the buffer is left as it is.
          | none =>
              segment.getD written 0 ::
                getStrLoop references newlines segment 0 (written + 1) rest
      else
        code :: getStrLoop references newlines segment 0 (written + 1) rest

/-- `GetStr`: a C string, which ends at its first zero byte. -/
def getStr (references : Bool) (segment : Bytes) : Bytes :=
  (getStrLoop ulong references true segment 0 0 segment).takeWhile (· ≠ 0)

end References

/-! ## Pieces of the text -/

/-- `ParseText`: what stands in front of a mark, and what behind it. -/
def parseText (endTag : Bytes) : Bytes → Option (Bytes × Bytes)
  | [] => none
  | code :: rest =>
      if endTag.isPrefixOf (code :: rest) then
        some ([], (code :: rest).drop endTag.length)
      else
        (parseText endTag rest).map fun result =>
          (code :: result.1, result.2)

def parseName : Bytes → Option (Bytes × Bytes)
  | [] => none
  | first :: rest =>
      if isNameStartChar first then
        some (first :: rest.takeWhile isNameChar, rest.dropWhile isNameChar)
      else none

/-- What a node begins with. -/
inductive Kind where
  | declaration
  | comment
  | cData
  | unknown
  | element
  | text
deriving DecidableEq

/-- `Identify`; in front of a text the blanks count. -/
def identify (text : Bytes) : Option (Kind × Bytes) :=
  let start := skipWhiteSpace text
  if start = [] then none
  else if (ascii "<?").isPrefixOf start then
    some (.declaration, start.drop 2)
  else if (ascii "<!--").isPrefixOf start then some (.comment, start.drop 4)
  else if (ascii "<![CDATA[").isPrefixOf start then some (.cData, start.drop 9)
  else if (ascii "<!").isPrefixOf start then some (.unknown, start.drop 2)
  else if (ascii "<").isPrefixOf start then some (.element, start.drop 1)
  else some (.text, text)

/-! ## Tags -/

/-- `XMLElement::ElementClosingType`. -/
inductive ClosingType where
  | open
  | closed
  | closing
deriving DecidableEq

structure TagHead where
  name : Bytes
  attributes : List (Bytes × Bytes)
  closingType : ClosingType
  rest : Bytes

section Parser

variable (ulong : Nat)

/-- `XMLAttribute::ParseDeep`. -/
def parseAttribute (text : Bytes) : Option ((Bytes × Bytes) × Bytes) :=
  match parseName text with
  | none => none
  | some (name, rest) =>
      match skipWhiteSpace rest with
      | [] => none
      | equals :: rest =>
          if equals ≠ byte '=' then none
          else
            match skipWhiteSpace rest with
            | [] => none
            | quote :: rest =>
                if quote ≠ byte '"' ∧ quote ≠ byte '\x27' then none
                else
                  (parseText [quote] rest).map fun result =>
                    ((name, getStr ulong true result.1), result.2)

/-- `ParseAttributes`, which also tells whether the element is closed. -/
def parseAttributes :
    Nat → List (Bytes × Bytes) → Bytes →
      Except XmlError (List (Bytes × Bytes) × Bool × Bytes)
  | 0, _, _ => .error .exhausted
  | fuel + 1, attributes, text =>
      match skipWhiteSpace text with
      | [] => .error .errorParsingElement
      | code :: rest =>
          if isNameStartChar code then
            match parseAttribute ulong (code :: rest) with
            | none => .error .errorParsingAttribute
            | some (attrib, rest) =>
                if attrib.1 ∈ attributes.map Prod.fst then
                  .error .errorParsingAttribute
                else parseAttributes fuel (attributes ++ [attrib]) rest
          else if code = byte '>' then .ok (attributes, false, rest)
          else if code = byte '/' ∧ rest.head? = some (byte '>') then
            .ok (attributes, true, rest.drop 1)
          else .error .errorParsingElement

/--
`XMLElement::ParseDeep` up to the end of the tag.  An element without a name
is one error with many others.
-/
def parseTag (text : Bytes) : Except XmlError TagHead :=
  let start := skipWhiteSpace text
  let closing := start.head? = some (byte '/')
  match parseName (if closing then start.drop 1 else start) with
  | none => .error .errorParsing
  | some (name, rest) =>
      match parseAttributes ulong (rest.length + 1) [] rest with
      | .error error => .error error
      | .ok (attributes, closed, rest) =>
          .ok
            { name := name
              attributes := attributes
              closingType :=
                if closed then .closed
                else if closing then .closing
                else .open
              rest := rest }

/-! ## Nodes -/

def isDeclaration : Node → Bool
  | .declaration _ => true
  | _ => false

/-- `TINYXML2_MAX_ELEMENT_DEPTH`. -/
def maxElementDepth : Nat :=
  100

/-- The nodes read so far, and the end tag that was read after them. -/
abbrev Parsed :=
  List Node × Option (Bytes × Bytes)

/--
The loop of `XMLNode::ParseDeep` over the children of a node.  Without an end
tag it came to the end of the text.
-/
def parseDeep :
    Nat → Nat → Bool → List Node → Bytes → Except XmlError Parsed
  | 0, _, _, _, _ => .error .exhausted
  | fuel + 1, depth, document, children, text =>
      let plain
          (endTag : Bytes)
          (error : XmlError)
          (node : Bytes → Node)
          (rest : Bytes) : Except XmlError Parsed :=
        match parseText endTag rest with
        | none => .error error
        | some (raw, rest) =>
            parseDeep fuel depth document
              (children ++ [node (getStr ulong false raw)]) rest
      match identify text with
      | none => .ok (children, none)
      | some (.declaration, rest) =>
          -- The first and the last node speak for those between them.
          if document ∧ children.head?.all isDeclaration ∧
              children.getLast?.all isDeclaration then
            plain (ascii "?>") .errorParsingDeclaration .declaration rest
          else .error .errorParsingDeclaration
      | some (.comment, rest) =>
          plain (ascii "-->") .errorParsingComment .comment rest
      | some (.cData, rest) =>
          plain (ascii "]]>") .errorParsingCData (.text true) rest
      | some (.unknown, rest) =>
          plain (ascii ">") .errorParsingUnknown .unknown rest
      | some (.text, start) =>
          match parseText (ascii "<") start with
          | none => .error .errorParsingText
          | some (_, []) => .error .errorParsing
          | some (raw, code :: rest) =>
              parseDeep fuel depth document
                (children ++ [.text false (getStr ulong true raw)])
                (byte '<' :: code :: rest)
      | some (.element, rest) =>
          match parseTag ulong rest with
          | .error error => .error error
          | .ok tag =>
              match tag.closingType with
              | .closing => .ok (children, some (tag.name, tag.rest))
              | .closed =>
                  parseDeep fuel depth document
                    (children ++ [.element tag.name tag.attributes []])
                    tag.rest
              | .open =>
                  if tag.rest = [] then .error .errorMismatchedElement
                  else if depth + 1 = maxElementDepth then
                    .error .elementDepthExceeded
                  else
                    match parseDeep fuel (depth + 1) false [] tag.rest with
                    | .error error => .error error
                    | .ok (_, none) => .error .errorParsing
                    | .ok (inner, some (endTag, rest)) =>
                        if endTag ≠ tag.name then
                          .error .errorMismatchedElement
                        else
                          parseDeep fuel depth document
                            (children ++
                              [.element tag.name tag.attributes inner])
                            rest

/-! ## Documents -/

structure XmlDocument where
  /-- `_writeBOM`. -/
  writeBOM : Bool
  children : List Node

def bom : Bytes :=
  [0xef, 0xbb, 0xbf]

/-- `XMLDocument::Parse`, on the bytes in front of the first zero. -/
def parse (buffer : Bytes) : Except XmlError XmlDocument :=
  let start := skipWhiteSpace buffer
  let hasBOM := bom.isPrefixOf start
  let text := if hasBOM then start.drop 3 else start
  if text = [] then .error .errorEmptyDocument
  else
    (parseDeep ulong (text.length + 1) 1 true [] text).map fun parsed =>
      { writeBOM := hasBOM, children := parsed.1 }

/-- `XMLDocument::LoadFile`. -/
def loadFile (file : Option Bytes) : Except XmlError XmlDocument :=
  match file with
  | none => .error .errorFileNotFound
  | some content => parse ulong (content.takeWhile (· ≠ 0))

end Parser

end DebuggerDap.Persistence.XmlParser
