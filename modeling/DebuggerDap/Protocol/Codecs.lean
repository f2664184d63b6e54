import DebuggerDap.Protocol.Messages

/-!
# The codecs of nested replies

`To` builds a tree member by member, `From` reads one into an object.  A
string goes into a tree as the C string of its UTF-8 form and comes back the
same way, so a member holds the text up to its first NUL.  An `int` becomes a
`double` and is exact there.

Members that `To` leaves out belong to the plugin: the thread or the frame a
reply is for, the context of its variables, and the file of its breakpoints.
-/

namespace DebuggerDap.Protocol.Codecs

open DebuggerDap.Text.Strings
open DebuggerDap.Protocol.JsonTree
open DebuggerDap.Protocol.Messages (Source EvaluateContext)

/-! ## Building and reading a tree -/

/-- `CreateObject`. -/
def createObject : Json :=
  .object []

/-- `AddItem`: an array has no names, and other nodes take no members. -/
def add (name : String) (item : Json) : Json → Json
  | .object members => .object (members ++ [(name.toList, item)])
  | .array items => .array (items ++ [item])
  | json => json

/-- The text whose UTF-8 form is a C string: up to the first NUL. -/
def cString (value : WxString) : WxString :=
  value.takeWhile fun ch => ch ≠ '\x00'

/-- `cJSON_CreateString` of the UTF-8 form. -/
def createString (value : WxString) : Json :=
  .string (cString value)

def addString (name : String) (value : WxString) (json : Json) : Json :=
  add name (createString value) json

def addInteger (name : String) (value : Int) (json : Json) : Json :=
  add name (.number value) json

def addBool (name : String) (value : Bool) (json : Json) : Json :=
  add name (.bool value) json

def addStringArray
    (name : String)
    (values : List WxString)
    (json : Json) : Json :=
  add name (.array (values.map createString)) json

/-- `json[name]`. -/
def property (json : Option Json) (name : String) : Option Json :=
  Json.child json name.toList

/-- `GetNumber`, stored into an `int`. -/
def getNumber (json : Option Json) (defaultValue : Int) : Int :=
  Json.getInteger json defaultValue

def getStringArray (json : Option Json) : List WxString :=
  match json with
  | some (.array items) => items.map fun item => Json.getString (some item) []
  | _ => []

/-! ## Messages -/

structure ProtocolMessage where
  seq : Int
  type : WxString
  deriving DecidableEq, Repr

namespace ProtocolMessage

def to_ (message : ProtocolMessage) : Json :=
  createObject
    |> addInteger "seq" message.seq
    |> addString "type" message.type

def from_ (json : Option Json) (message : ProtocolMessage) :
    ProtocolMessage :=
  { message with
    seq := getNumber (property json "seq") (-1)
    type := Json.getString (property json "type") [] }

end ProtocolMessage

structure Request extends ProtocolMessage where
  command : WxString
  deriving DecidableEq, Repr

namespace Request

/-- A new request of the class with this command. -/
def fresh (command : String) : Request where
  seq := -1
  type := "request".toList
  command := command.toList

def to_ (request : Request) : Json :=
  request.toProtocolMessage.to_
    |> addString "command" request.command

def from_ (json : Option Json) (request : Request) : Request :=
  { request with
    toProtocolMessage := request.toProtocolMessage.from_ json
    command := Json.getString (property json "command") [] }

end Request

structure Event extends ProtocolMessage where
  event : WxString
  deriving DecidableEq, Repr

namespace Event

/-- A new event of the class with this name. -/
def fresh (name : String) : Event where
  seq := -1
  type := "event".toList
  event := name.toList

def to_ (event : Event) : Json :=
  event.toProtocolMessage.to_
    |> addString "event" event.event

def from_ (json : Option Json) (event : Event) : Event :=
  { event with
    toProtocolMessage := event.toProtocolMessage.from_ json
    event := Json.getString (property json "event") [] }

end Event

structure Response extends ProtocolMessage where
  requestSeq : Int
  success : Bool
  command : WxString
  message : WxString
  deriving DecidableEq, Repr

namespace Response

/-- A new response to the command. -/
def fresh (command : String) : Response where
  seq := -1
  type := "response".toList
  requestSeq := -1
  success := true
  command := command.toList
  message := []

def to_ (response : Response) : Json :=
  response.toProtocolMessage.to_
    |> addInteger "request_seq" response.requestSeq
    |> addBool "success" response.success
    |> addString "message" response.message
    |> addString "command" response.command

def from_ (json : Option Json) (response : Response) : Response :=
  { response with
    toProtocolMessage := response.toProtocolMessage.from_ json
    requestSeq := Json.getInteger (property json "request_seq") (-1)
    success := Json.getBool (property json "success") false
    message := Json.getString (property json "message") []
    command := Json.getString (property json "command") [] }

end Response

/-! ## Parts of replies -/

/-- A new source. -/
def freshSource : Source where
  name := []
  path := []
  sourceReference := 0

/-- The path and the reference are only written when they are there. -/
def sourceTo (source : Source) : Json :=
  let named := createObject |> addString "name" source.name
  let located :=
    if source.path ≠ [] then addString "path" source.path named else named
  if 0 < source.sourceReference then
    addInteger "sourceReference" source.sourceReference located
  else located

def sourceFrom (json : Option Json) (source : Source) : Source :=
  { source with
    name := Json.getString (property json "name") []
    path := Json.getString (property json "path") []
    sourceReference := getNumber (property json "sourceReference") 0 }

structure StackFrame where
  id : Int
  name : WxString
  source : Source
  line : Int
  instructionPointerReference : WxString
  deriving DecidableEq, Repr

namespace StackFrame

def fresh : StackFrame where
  id := -1
  name := []
  source := freshSource
  line := 0
  instructionPointerReference := []

def to_ (frame : StackFrame) : Json :=
  createObject
    |> addString "name" frame.name
    |> addInteger "id" frame.id
    |> addInteger "line" frame.line
    |> addString "instructionPointerReference"
      frame.instructionPointerReference
    |> add "source" (sourceTo frame.source)

def from_ (json : Option Json) (frame : StackFrame) : StackFrame :=
  { frame with
    name := Json.getString (property json "name") []
    id := Json.getInteger (property json "id") (-1)
    line := Json.getInteger (property json "line") (-1)
    instructionPointerReference :=
      Json.getString (property json "instructionPointerReference") []
    source := sourceFrom (property json "source") frame.source }

end StackFrame

structure Breakpoint where
  id : Int
  verified : Bool
  message : WxString
  source : Source
  line : Int
  column : Int
  endLine : Int
  endColumn : Int
  deriving DecidableEq, Repr

namespace Breakpoint

def fresh : Breakpoint where
  id := -1
  verified := false
  message := []
  source := freshSource
  line := -1
  column := -1
  endLine := -1
  endColumn := -1

def to_ (breakpoint : Breakpoint) : Json :=
  createObject
    |> addInteger "id" breakpoint.id
    |> addBool "verified" breakpoint.verified
    |> addString "message" breakpoint.message
    |> addInteger "line" breakpoint.line
    |> addInteger "column" breakpoint.column
    |> addInteger "endLine" breakpoint.endLine
    |> addInteger "endColumn" breakpoint.endColumn
    |> add "source" (sourceTo breakpoint.source)

def from_ (json : Option Json) (breakpoint : Breakpoint) : Breakpoint :=
  { breakpoint with
    id := Json.getInteger (property json "id") (-1)
    verified := Json.getBool (property json "verified") false
    message := Json.getString (property json "message") []
    line := Json.getInteger (property json "line") (-1)
    column := Json.getInteger (property json "column") (-1)
    endLine := Json.getInteger (property json "endLine") (-1)
    endColumn := Json.getInteger (property json "endColumn") (-1)
    source := sourceFrom (property json "source") breakpoint.source }

end Breakpoint

structure Thread where
  id : Int
  name : WxString
  deriving DecidableEq, Repr

namespace Thread

def fresh : Thread where
  id := -1
  name := []

def to_ (thread : Thread) : Json :=
  createObject
    |> addInteger "id" thread.id
    |> addString "name" thread.name

def from_ (json : Option Json) (thread : Thread) : Thread :=
  { thread with
    id := Json.getInteger (property json "id") thread.id
    name := Json.getString (property json "name") [] }

end Thread

structure VariablePresentationHint where
  kind : WxString
  attributes : List WxString
  visibility : WxString
  deriving DecidableEq, Repr

namespace VariablePresentationHint

def fresh : VariablePresentationHint where
  kind := []
  attributes := []
  visibility := []

def to_ (hint : VariablePresentationHint) : Json :=
  createObject
    |> addString "kind" hint.kind
    |> addString "visibility" hint.visibility
    |> addStringArray "attributes" hint.attributes

def from_ (json : Option Json) (hint : VariablePresentationHint) :
    VariablePresentationHint :=
  { hint with
    kind := Json.getString (property json "kind") []
    visibility := Json.getString (property json "visibility") []
    attributes := getStringArray (property json "attributes") }

end VariablePresentationHint

structure Variable where
  name : WxString
  value : WxString
  type : WxString
  variablesReference : Int
  presentationHint : VariablePresentationHint
  deriving DecidableEq, Repr

namespace Variable

def fresh : Variable where
  name := []
  value := []
  type := []
  variablesReference := 0
  presentationHint := VariablePresentationHint.fresh

def to_ (var : Variable) : Json :=
  createObject
    |> addString "name" var.name
    |> addString "value" var.value
    |> addString "type" var.type
    |> addInteger "variablesReference" var.variablesReference
    |> add "presentationHint" var.presentationHint.to_

def from_ (json : Option Json) (var : Variable) : Variable :=
  { var with
    name := Json.getString (property json "name") []
    value := Json.getString (property json "value") []
    type := Json.getString (property json "type") []
    variablesReference :=
      Json.getInteger (property json "variablesReference") (-1)
    presentationHint :=
      var.presentationHint.from_ (property json "presentationHint") }

end Variable

structure Scope where
  name : WxString
  variablesReference : Int
  expensive : Bool
  deriving DecidableEq, Repr

namespace Scope

def fresh : Scope where
  name := []
  variablesReference := 0
  expensive := false

def to_ (scope : Scope) : Json :=
  createObject
    |> addString "name" scope.name
    |> addInteger "variablesReference" scope.variablesReference
    |> addBool "expensive" scope.expensive

def from_ (json : Option Json) (scope : Scope) : Scope :=
  { scope with
    name := Json.getString (property json "name") []
    variablesReference :=
      Json.getInteger (property json "variablesReference") (-1)
    expensive := Json.getBool (property json "expensive") false }

end Scope

/-! ## Replies -/

/-- The objects read from the children of a node, each a new one before. -/
def readAll
    {α : Type*}
    (fresh : α)
    (from_ : Option Json → α → α)
    (json : Option Json) : List α :=
  (Json.children json).map fun item => from_ (some item) fresh

structure StackTraceResponse extends Response where
  stackFrames : List StackFrame
  refId : Int
  deriving DecidableEq, Repr

namespace StackTraceResponse

def fresh : StackTraceResponse where
  toResponse := Response.fresh "stackTrace"
  stackFrames := []
  refId := -1

def to_ (response : StackTraceResponse) : Json :=
  response.toResponse.to_
    |> add "body"
      (createObject
        |> add "stackFrames"
          (.array (response.stackFrames.map StackFrame.to_)))

def from_ (json : Option Json) (response : StackTraceResponse) :
    StackTraceResponse :=
  let arr := property (property json "body") "stackFrames"
  { response with
    toResponse := response.toResponse.from_ json
    stackFrames := readAll StackFrame.fresh StackFrame.from_ arr }

end StackTraceResponse

structure ScopesResponse extends Response where
  scopes : List Scope
  refId : Int
  deriving DecidableEq, Repr

namespace ScopesResponse

def fresh : ScopesResponse where
  toResponse := Response.fresh "scopes"
  scopes := []
  refId := -1

def to_ (response : ScopesResponse) : Json :=
  response.toResponse.to_
    |> add "body"
      (createObject
        |> add "scopes" (.array (response.scopes.map Scope.to_)))

/-- The scopes that are there already stay. -/
def from_ (json : Option Json) (response : ScopesResponse) :
    ScopesResponse :=
  let arr := property (property json "body") "scopes"
  { response with
    toResponse := response.toResponse.from_ json
    scopes := response.scopes ++ readAll Scope.fresh Scope.from_ arr }

end ScopesResponse

/-- `vars` is the member `variables`. -/
structure VariablesResponse extends Response where
  vars : List Variable
  refId : Int
  context : EvaluateContext
  deriving DecidableEq, Repr

namespace VariablesResponse

def fresh : VariablesResponse where
  toResponse := Response.fresh "variables"
  vars := []
  refId := -1
  context := .variables

def to_ (response : VariablesResponse) : Json :=
  response.toResponse.to_
    |> add "body"
      (createObject
        |> add "variables" (.array (response.vars.map Variable.to_)))

/-- The variables that are there already stay. -/
def from_ (json : Option Json) (response : VariablesResponse) :
    VariablesResponse :=
  let arr := property (property json "body") "variables"
  { response with
    toResponse := response.toResponse.from_ json
    vars :=
      response.vars ++ readAll Variable.fresh Variable.from_ arr }

end VariablesResponse

structure ThreadsResponse extends Response where
  threads : List Thread
  deriving DecidableEq, Repr

namespace ThreadsResponse

def fresh : ThreadsResponse where
  toResponse := Response.fresh "threads"
  threads := []

def to_ (response : ThreadsResponse) : Json :=
  response.toResponse.to_
    |> add "body"
      (createObject
        |> add "threads" (.array (response.threads.map Thread.to_)))

def from_ (json : Option Json) (response : ThreadsResponse) :
    ThreadsResponse :=
  let arr := property (property json "body") "threads"
  { response with
    toResponse := response.toResponse.from_ json
    threads := readAll Thread.fresh Thread.from_ arr }

end ThreadsResponse

structure SetBreakpointsResponse extends Response where
  breakpoints : List Breakpoint
  originSource : WxString
  deriving DecidableEq, Repr

namespace SetBreakpointsResponse

def fresh : SetBreakpointsResponse where
  toResponse := Response.fresh "setBreakpoints"
  breakpoints := []
  originSource := []

def to_ (response : SetBreakpointsResponse) : Json :=
  response.toResponse.to_
    |> add "body"
      (createObject
        |> add "breakpoints"
          (.array (response.breakpoints.map Breakpoint.to_)))

def from_ (json : Option Json) (response : SetBreakpointsResponse) :
    SetBreakpointsResponse :=
  let arr := property (property json "body") "breakpoints"
  { response with
    toResponse := response.toResponse.from_ json
    breakpoints := readAll Breakpoint.fresh Breakpoint.from_ arr }

end SetBreakpointsResponse

structure BreakpointEvent extends Event where
  reason : WxString
  breakpoint : Breakpoint
  deriving DecidableEq, Repr

namespace BreakpointEvent

def fresh : BreakpointEvent where
  toEvent := Event.fresh "breakpoint"
  reason := []
  breakpoint := Breakpoint.fresh

def to_ (event : BreakpointEvent) : Json :=
  event.toEvent.to_
    |> add "body"
      (createObject
        |> addString "reason" event.reason
        |> add "breakpoint" event.breakpoint.to_)

def from_ (json : Option Json) (event : BreakpointEvent) :
    BreakpointEvent :=
  let body := property json "body"
  { event with
    toEvent := event.toEvent.from_ json
    reason := Json.getString (property body "reason") []
    breakpoint := event.breakpoint.from_ (property body "breakpoint") }

end BreakpointEvent

/-- `resultType` is the member `type` that hides the one of the message. -/
structure EvaluateResponse extends Response where
  result : WxString
  resultType : WxString
  variablesReference : Int
  deriving DecidableEq, Repr

namespace EvaluateResponse

def fresh : EvaluateResponse where
  toResponse := Response.fresh "evaluate"
  result := []
  resultType := []
  variablesReference := 0

def to_ (response : EvaluateResponse) : Json :=
  response.toResponse.to_
    |> add "body"
      (createObject
        |> addString "result" response.result
        |> addString "type" response.resultType
        |> addInteger "variablesReference" response.variablesReference)

def from_ (json : Option Json) (response : EvaluateResponse) :
    EvaluateResponse :=
  let body := property json "body"
  { response with
    toResponse := response.toResponse.from_ json
    result := Json.getString (property body "result") []
    resultType := Json.getString (property body "type") []
    variablesReference := getNumber (property body "variablesReference") (-1) }

end EvaluateResponse

structure SourceResponse extends Response where
  content : WxString
  mimeType : WxString
  deriving DecidableEq, Repr

namespace SourceResponse

def fresh : SourceResponse where
  toResponse := Response.fresh "source"
  content := []
  mimeType := []

def to_ (response : SourceResponse) : Json :=
  response.toResponse.to_
    |> add "body"
      (createObject
        |> addString "content" response.content
        |> addString "mimeType" response.mimeType)

def from_ (json : Option Json) (response : SourceResponse) :
    SourceResponse :=
  let body := property json "body"
  { response with
    toResponse := response.toResponse.from_ json
    content := Json.getString (property body "content") []
    mimeType := Json.getString (property body "mimeType") [] }

end SourceResponse

structure ReadMemoryResponse extends Response where
  address : WxString
  unreadableBytes : Int
  data : WxString
  deriving DecidableEq, Repr

namespace ReadMemoryResponse

def fresh : ReadMemoryResponse where
  toResponse := Response.fresh "readMemory"
  address := []
  unreadableBytes := 0
  data := []

def to_ (response : ReadMemoryResponse) : Json :=
  response.toResponse.to_
    |> add "body"
      (createObject
        |> addString "address" response.address
        |> addInteger "unreadableBytes" response.unreadableBytes
        |> addString "data" response.data)

def from_ (json : Option Json) (response : ReadMemoryResponse) :
    ReadMemoryResponse :=
  let body := property json "body"
  { response with
    toResponse := response.toResponse.from_ json
    address := Json.getString (property body "address") []
    unreadableBytes := Json.getInteger (property body "unreadableBytes") (-1)
    data := Json.getString (property body "data") [] }

end ReadMemoryResponse

end DebuggerDap.Protocol.Codecs
