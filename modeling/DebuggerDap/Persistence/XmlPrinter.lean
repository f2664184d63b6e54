import DebuggerDap.Persistence.XmlParser

/-!
# The XML printer

`XMLDocument::SaveFile` of tinyxml2 sends the nodes of a document to an
`XMLPrinter`, which puts every node on a line of its own unless a text was
printed beside it.  The file is opened as a text file, whose lines end with
two bytes on some platforms.
-/

namespace DebuggerDap.Persistence.XmlPrinter

open DebuggerDap.Library.Bytes
open DebuggerDap.Library.XmlGrammar
open DebuggerDap.Persistence.XmlParser

/-! ## Bytes -/

/-- `_entityFlag` and `_restrictedEntityFlag`. -/
def entityFlag (restricted : Bool) (code : UInt8) : Bool :=
  if restricted then
    code = byte '&' || code = byte '<' || code = byte '>'
  else entities.any fun entity => entity.2 = code

/-- What `PrintString` prints for a byte. -/
def printByte (restricted : Bool) (code : UInt8) : Bytes :=
  if entityFlag restricted code then
    match entities.find? fun entity => entity.2 = code with
    | some entity => byte '&' :: (entity.1 ++ [byte ';'])
    | none => []
  else [code]

/-! ## The printer -/

/-- `XMLPrinter`; `_processEntities` is true of every document made here. -/
structure Printer where
  elementJustOpened : Bool
  stack : List Bytes
  firstElement : Bool
  depth : Nat
  /-- The depth of the element that has a text, or `-1`. -/
  textDepth : Int
  compactMode : Bool
  file : Bytes

namespace Printer

def new (compact : Bool) : Printer where
  elementJustOpened := false
  stack := []
  firstElement := true
  depth := 0
  textDepth := -1
  compactMode := compact
  file := []

def write (data : Bytes) (printer : Printer) : Printer :=
  { printer with file := printer.file ++ data }

def putc (code : UInt8) (printer : Printer) : Printer :=
  printer.write [code]

def printSpace : Nat → Printer → Printer
  | 0, printer => printer
  | depth + 1, printer => printSpace depth (printer.write (ascii "    "))

/-- `PrintString`, which ends at the end of the C string. -/
def printString
    (text : Bytes)
    (restricted : Bool)
    (printer : Printer) : Printer :=
  printer.write
    ((text.takeWhile (· ≠ 0)).flatMap (printByte restricted))

/-! ## Nodes -/

def sealElementIfJustOpened (printer : Printer) : Printer :=
  if printer.elementJustOpened then
    { printer with elementJustOpened := false }.putc (byte '>')
  else printer

def prepareForNewNode (printer : Printer) : Printer :=
  let sealed := printer.sealElementIfJustOpened
  if sealed.compactMode then sealed
  else
    let placed :=
      if sealed.firstElement then sealed.printSpace sealed.depth
      else if sealed.textDepth < 0 then
        (sealed.putc lf).printSpace sealed.depth
      else sealed
    { placed with firstElement := false }

def openElement (name : Bytes) (printer : Printer) : Printer :=
  let prepared := printer.prepareForNewNode
  let written :=
    ({ prepared with stack := name :: prepared.stack }.write
      (ascii "<")).write name
  { written with elementJustOpened := true, depth := written.depth + 1 }

def pushAttribute
    (attrib : Bytes × Bytes)
    (printer : Printer) : Printer :=
  ((((printer.putc (byte ' ')).write attrib.1).write
    (ascii "=\"")).printString attrib.2 false).putc (byte '"')

/-- The line behind the text of an element ends as other lines do. -/
def leaveText (printer : Printer) : Printer :=
  if printer.textDepth = printer.depth then { printer with textDepth := -1 }
  else printer

/-- The name is the one on top of the stack. -/
def closeElement (printer : Printer) : Printer :=
  let popped :=
    { printer with
      depth := printer.depth - 1
      stack := printer.stack.tail }
  let name := printer.stack.headD []
  let written :=
    if popped.elementJustOpened then popped.write (ascii "/>")
    else
      let placed :=
        if popped.textDepth < 0 ∧ !popped.compactMode then
          (popped.putc lf).printSpace popped.depth
        else popped
      ((placed.write (ascii "</")).write name).write (ascii ">")
  let left := written.leaveText
  let ended :=
    if left.depth = 0 ∧ !left.compactMode then left.putc lf else left
  { ended with elementJustOpened := false }

def pushText (text : Bytes) (cData : Bool) (printer : Printer) : Printer :=
  let sealed :=
    { printer with
      textDepth := (printer.depth : Int) - 1 }.sealElementIfJustOpened
  if cData then
    ((sealed.write (ascii "<![CDATA[")).write text).write (ascii "]]>")
  else sealed.printString text true

def pushComment (comment : Bytes) (printer : Printer) : Printer :=
  ((printer.prepareForNewNode.write (ascii "<!--")).write comment).write
    (ascii "-->")

def pushDeclaration (value : Bytes) (printer : Printer) : Printer :=
  ((printer.prepareForNewNode.write (ascii "<?")).write value).write
    (ascii "?>")

def pushUnknown (value : Bytes) (printer : Printer) : Printer :=
  ((printer.prepareForNewNode.write (ascii "<!")).write value).putc (byte '>')

mutual

/-- `Accept`: the visits of a node and of its children. -/
def accept : Node → Printer → Printer
  | .element name attributes children, printer =>
      let opened :=
        attributes.foldl (fun printer attrib => printer.pushAttribute attrib)
          (printer.openElement name)
      (acceptAll children opened).closeElement
  | .text cData value, printer => printer.pushText value cData
  | .comment value, printer => printer.pushComment value
  | .declaration value, printer => printer.pushDeclaration value
  | .unknown value, printer => printer.pushUnknown value

def acceptAll : List Node → Printer → Printer
  | [], printer => printer
  | node :: nodes, printer => acceptAll nodes (accept node printer)

end

end Printer

/-! ## Files -/

/-- `fputc` and `fwrite` to a text file; `crlf` tells how its lines end. -/
def stdio (crlf : Bool) (data : Bytes) : Bytes :=
  if crlf then
    data.flatMap fun code => if code = lf then [cr, lf] else [code]
  else data

/-- `XMLDocument::Print`. -/
def print (compact : Bool) (document : XmlDocument) : Bytes :=
  let headed :=
    if document.writeBOM then (Printer.new compact).write bom
    else Printer.new compact
  (headed.acceptAll document.children).file

/-- What `XMLDocument::SaveFile` leaves in the file. -/
def saveFile (crlf compact : Bool) (document : XmlDocument) : Bytes :=
  stdio crlf (print compact document)

end DebuggerDap.Persistence.XmlPrinter
