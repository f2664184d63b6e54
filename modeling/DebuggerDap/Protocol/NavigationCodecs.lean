import DebuggerDap.Protocol.JsonText
import DebuggerDap.Protocol.LocationCodecs

/-!
# The codecs of configuration and navigation

`From` is missing for some of these messages, and reads other names than `To`
writes for others.  A filter of the exception breakpoints is read as the text
of its node, quotes and all.

A member that neither direction knows is left out.
-/

namespace DebuggerDap.Protocol.Codecs

open DebuggerDap.Text.Strings
open DebuggerDap.Library.MachineInt
open DebuggerDap.Protocol.JsonTree
open DebuggerDap.Protocol.JsonText
open DebuggerDap.Protocol.Messages (Source DisassembleArguments)

/-! ## Configuration -/

structure CancelRequest extends Request where
  requestId : Int
  deriving DecidableEq, Repr

namespace CancelRequest

def fresh : CancelRequest where
  toRequest := Request.fresh "cancel"
  requestId := -1

def to_ (request : CancelRequest) : Json :=
  request.toRequest.to_
    |> add "arguments"
      (createObject |> addInteger "requestId" request.requestId)

/-- The number is looked for in the place of the arguments. -/
def from_ (json : Option Json) (request : CancelRequest) : CancelRequest :=
  let arguments := property json "arguments"
  { request with
    toRequest := request.toRequest.from_ json
    requestId :=
      if arguments.isSome then Json.getInteger arguments (-1)
      else request.requestId }

end CancelRequest

structure SetExceptionBreakpointsRequest extends Request where
  filters : List WxString
  deriving DecidableEq, Repr

namespace SetExceptionBreakpointsRequest

def fresh : SetExceptionBreakpointsRequest where
  toRequest := Request.fresh "setExceptionBreakpoints"
  filters := []

def to_ (request : SetExceptionBreakpointsRequest) : Json :=
  request.toRequest.to_
    |> add "arguments"
      (createObject
        |> add "filters" (.array (request.filters.map createString)))

/-- A filter is the text of its node. -/
def from_
    (int : SignedRange)
    (printDouble : Rat → WxString)
    (json : Option Json)
    (request : SetExceptionBreakpointsRequest) :
    SetExceptionBreakpointsRequest :=
  let arr := property (property json "arguments") "filters"
  { request with
    toRequest := request.toRequest.from_ json
    filters :=
      (Json.children arr).map fun item =>
        toString_ int printDouble true (some item) }

end SetExceptionBreakpointsRequest

/-! ## Disassembling -/

def freshDisassembleArguments : DisassembleArguments where
  memoryReference := []
  offset := 0
  instructionOffset := 0
  instructionCount := 0
  resolveSymbols := true

def disassembleArgumentsTo (arguments : DisassembleArguments) : Json :=
  createObject
    |> addString "memoryReference" arguments.memoryReference
    |> addInteger "offset" arguments.offset
    |> addInteger "instructionOffset" arguments.instructionOffset
    |> addInteger "instructionCount" arguments.instructionCount
    |> addBool "resolveSymbols" arguments.resolveSymbols

/-- `From` has no statement. -/
def disassembleArgumentsFrom
    (_ : Option Json)
    (arguments : DisassembleArguments) : DisassembleArguments :=
  arguments

structure DisassembleRequest extends Request where
  arguments : DisassembleArguments
  deriving DecidableEq, Repr

namespace DisassembleRequest

def fresh : DisassembleRequest where
  toRequest := Request.fresh "disassemble"
  arguments := freshDisassembleArguments

def to_ (request : DisassembleRequest) : Json :=
  request.toRequest.to_
    |> add "arguments" (disassembleArgumentsTo request.arguments)

def from_ (json : Option Json) (request : DisassembleRequest) :
    DisassembleRequest :=
  { request with
    toRequest := request.toRequest.from_ json
    arguments :=
      disassembleArgumentsFrom (property json "arguments")
        request.arguments }

end DisassembleRequest

structure DisassembleInfo where
  address : WxString
  column : Int
  instruction : WxString
  instructionBytes : WxString
  line : Int
  name : WxString
  path : WxString
  deriving DecidableEq, Repr

namespace DisassembleInfo

/-- The line is not initialised; `From` always sets it. -/
def fresh : DisassembleInfo where
  address := []
  column := -1
  instruction := []
  instructionBytes := []
  line := 0
  name := []
  path := []

def to_ (info : DisassembleInfo) : Json :=
  createObject
    |> addString "address" info.address
    |> addInteger "column" info.column
    |> addString "name" info.name
    |> addString "path" info.path

/-- The name and the path are expected in an object `location`. -/
def from_ (json : Option Json) (info : DisassembleInfo) : DisassembleInfo :=
  let location := property json "location"
  { info with
    address := Json.getString (property json "address") []
    column := Json.getInteger (property json "column") (-1)
    instruction := Json.getString (property json "instruction") []
    instructionBytes := Json.getString (property json "instructionBytes") []
    line := Json.getInteger (property json "line") (-1)
    name := Json.getString (property location "name") []
    path := Json.getString (property location "path") [] }

end DisassembleInfo

structure DisassembleResponse extends Response where
  disassembleInfo : List DisassembleInfo
  deriving DecidableEq, Repr

namespace DisassembleResponse

def fresh : DisassembleResponse where
  toResponse := Response.fresh "disassemble"
  disassembleInfo := []

def to_ (response : DisassembleResponse) : Json :=
  response.toResponse.to_
    |> add "body"
      (createObject
        |> add "instructions"
          (.array (response.disassembleInfo.map DisassembleInfo.to_)))

def from_ (json : Option Json) (response : DisassembleResponse) :
    DisassembleResponse :=
  let arr := property (property json "body") "instructions"
  { response with
    toResponse := response.toResponse.from_ json
    disassembleInfo := readAll DisassembleInfo.fresh DisassembleInfo.from_ arr }

end DisassembleResponse

/-! ## Jumping -/

structure GotoArguments where
  threadId : Int
  targetId : Int
  deriving DecidableEq, Repr

namespace GotoArguments

def fresh : GotoArguments where
  threadId := -1
  targetId := -1

def to_ (arguments : GotoArguments) : Json :=
  createObject
    |> addInteger "threadId" arguments.threadId
    |> addInteger "targetId" arguments.targetId

/-- `From` has no statement. -/
def from_ (_ : Option Json) (arguments : GotoArguments) : GotoArguments :=
  arguments

end GotoArguments

structure GotoRequest extends Request where
  arguments : GotoArguments
  deriving DecidableEq, Repr

namespace GotoRequest

def fresh : GotoRequest where
  toRequest := Request.fresh "goto"
  arguments := GotoArguments.fresh

def to_ (request : GotoRequest) : Json :=
  request.toRequest.to_
    |> add "arguments" request.arguments.to_

def from_ (json : Option Json) (request : GotoRequest) : GotoRequest :=
  { request with
    toRequest := request.toRequest.from_ json
    arguments := request.arguments.from_ (property json "arguments") }

end GotoRequest

structure GotoTargetsArguments where
  source : Source
  line : Int
  column : Int
  deriving DecidableEq, Repr

namespace GotoTargetsArguments

def fresh : GotoTargetsArguments where
  source := freshSource
  line := -1
  column := 1

def to_ (arguments : GotoTargetsArguments) : Json :=
  createObject
    |> add "source" (sourceTo arguments.source)
    |> addInteger "line" arguments.line
    |> addInteger "column" arguments.column

/-- `From` has no statement. -/
def from_ (_ : Option Json) (arguments : GotoTargetsArguments) :
    GotoTargetsArguments :=
  arguments

end GotoTargetsArguments

structure GotoTargetsRequest extends Request where
  arguments : GotoTargetsArguments
  deriving DecidableEq, Repr

namespace GotoTargetsRequest

def fresh : GotoTargetsRequest where
  toRequest := Request.fresh "gotoTargets"
  arguments := GotoTargetsArguments.fresh

def to_ (request : GotoTargetsRequest) : Json :=
  request.toRequest.to_
    |> add "arguments" request.arguments.to_

def from_ (json : Option Json) (request : GotoTargetsRequest) :
    GotoTargetsRequest :=
  { request with
    toRequest := request.toRequest.from_ json
    arguments := request.arguments.from_ (property json "arguments") }

end GotoTargetsRequest

structure GotoTargetsInfo where
  id : Int
  label : WxString
  line : Int
  column : Int
  endLine : Int
  endColumn : Int
  instructionPointerReference : WxString
  deriving DecidableEq, Repr

namespace GotoTargetsInfo

def fresh : GotoTargetsInfo where
  id := -1
  label := []
  line := -1
  column := -1
  endLine := -1
  endColumn := -1
  instructionPointerReference := []

def to_ (info : GotoTargetsInfo) : Json :=
  createObject
    |> addInteger "id" info.id
    |> addString "label" info.label
    |> addInteger "line" info.line
    |> addInteger "column" info.column
    |> addInteger "endLine" info.endLine
    |> addInteger "endColumn" info.endColumn
    |> addString "instructionPointerReference"
      info.instructionPointerReference

def from_ (json : Option Json) (info : GotoTargetsInfo) : GotoTargetsInfo :=
  { info with
    id := Json.getInteger (property json "id") (-1)
    label := Json.getString (property json "label") []
    line := Json.getInteger (property json "line") (-1)
    column := Json.getInteger (property json "column") (-1)
    endLine := Json.getInteger (property json "endLine") (-1)
    endColumn := Json.getInteger (property json "endColumn") (-1)
    instructionPointerReference :=
      Json.getString (property json "instructionPointerReference") [] }

end GotoTargetsInfo

structure GotoTargetsResponse extends Response where
  gotoTargetsInfo : List GotoTargetsInfo
  deriving DecidableEq, Repr

namespace GotoTargetsResponse

def fresh : GotoTargetsResponse where
  toResponse := Response.fresh "gotoTargets"
  gotoTargetsInfo := []

def to_ (response : GotoTargetsResponse) : Json :=
  response.toResponse.to_
    |> add "body"
      (createObject
        |> add "gotoTargets"
          (.array (response.gotoTargetsInfo.map GotoTargetsInfo.to_)))

/-- The targets are read under another name than they are written. -/
def from_ (json : Option Json) (response : GotoTargetsResponse) :
    GotoTargetsResponse :=
  let arr := property (property json "body") "targets"
  { response with
    toResponse := response.toResponse.from_ json
    gotoTargetsInfo := readAll GotoTargetsInfo.fresh GotoTargetsInfo.from_ arr }

end GotoTargetsResponse

end DebuggerDap.Protocol.Codecs
