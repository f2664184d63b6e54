import DebuggerDap.Protocol.CodecRoundTrip

/-!
# The codecs of execution control

Every Boolean of these messages is read by `GetBool`, which returns its
default for a `false` node too, or by a number getter, which finds no number.
A Boolean whose default is `true`, or is the member it is read into and that
member starts as `true`, never comes back as `false`.
-/

namespace DebuggerDap.Protocol.Codecs

open DebuggerDap.Text.Strings
open DebuggerDap.Protocol.JsonTree

/-! ## Stepping -/

/-- `StepArguments`, of stepping in and of stepping out. -/
structure StepArguments where
  threadId : Int
  singleThread : Bool
  granularity : WxString
  deriving DecidableEq, Repr

namespace StepArguments

def fresh : StepArguments where
  threadId := -1
  singleThread := true
  granularity := "line".toList

def to_ (arguments : StepArguments) : Json :=
  createObject
    |> addInteger "threadId" arguments.threadId
    |> addBool "singleThread" arguments.singleThread
    |> addString "granularity" arguments.granularity

/-- Two of the defaults are the members themselves. -/
def from_ (json : Option Json) (arguments : StepArguments) :
    StepArguments :=
  { arguments with
    threadId := Json.getInteger (property json "threadId") (-1)
    singleThread :=
      Json.getBool (property json "singleThread") arguments.singleThread
    granularity :=
      Json.getString (property json "granularity") arguments.granularity }

end StepArguments

/-- `StepInRequest` and `StepOutRequest` differ in their command only. -/
structure StepRequest extends Request where
  arguments : StepArguments
  deriving DecidableEq, Repr

namespace StepRequest

def fresh (command : String) : StepRequest where
  toRequest := Request.fresh command
  arguments := StepArguments.fresh

def to_ (request : StepRequest) : Json :=
  request.toRequest.to_
    |> add "arguments" request.arguments.to_

def from_ (json : Option Json) (request : StepRequest) : StepRequest :=
  { request with
    toRequest := request.toRequest.from_ json
    arguments := request.arguments.from_ (property json "arguments") }

end StepRequest

structure NextArguments where
  threadId : Int
  granularity : WxString
  singleThread : Bool
  deriving DecidableEq, Repr

namespace NextArguments

def fresh : NextArguments where
  threadId := -1
  granularity := "line".toList
  singleThread := true

def to_ (arguments : NextArguments) : Json :=
  createObject
    |> addInteger "threadId" arguments.threadId
    |> addString "granularity" arguments.granularity
    |> addBool "singleThread" arguments.singleThread

def from_ (json : Option Json) (arguments : NextArguments) :
    NextArguments :=
  { arguments with
    threadId := Json.getInteger (property json "threadId") (-1)
    granularity := Json.getString (property json "granularity") []
    singleThread := Json.getBool (property json "singleThread") false }

end NextArguments

structure NextRequest extends Request where
  arguments : NextArguments
  deriving DecidableEq, Repr

namespace NextRequest

def fresh : NextRequest where
  toRequest := Request.fresh "next"
  arguments := NextArguments.fresh

def to_ (request : NextRequest) : Json :=
  request.toRequest.to_
    |> add "arguments" request.arguments.to_

def from_ (json : Option Json) (request : NextRequest) : NextRequest :=
  { request with
    toRequest := request.toRequest.from_ json
    arguments := request.arguments.from_ (property json "arguments") }

end NextRequest

/-! ## Continuing -/

structure ContinueArguments where
  threadId : Int
  singleThread : Bool
  deriving DecidableEq, Repr

namespace ContinueArguments

def fresh : ContinueArguments where
  threadId := -1
  singleThread := false

def to_ (arguments : ContinueArguments) : Json :=
  createObject
    |> addInteger "threadId" arguments.threadId
    |> addBool "singleThread" arguments.singleThread

def from_ (json : Option Json) (arguments : ContinueArguments) :
    ContinueArguments :=
  { arguments with
    threadId := Json.getInteger (property json "threadId") (-1)
    singleThread := Json.getBool (property json "singleThread") false }

end ContinueArguments

structure ContinueRequest extends Request where
  arguments : ContinueArguments
  deriving DecidableEq, Repr

namespace ContinueRequest

def fresh : ContinueRequest where
  toRequest := Request.fresh "continue"
  arguments := ContinueArguments.fresh

def to_ (request : ContinueRequest) : Json :=
  request.toRequest.to_
    |> add "arguments" request.arguments.to_

def from_ (json : Option Json) (request : ContinueRequest) :
    ContinueRequest :=
  { request with
    toRequest := request.toRequest.from_ json
    arguments := request.arguments.from_ (property json "arguments") }

end ContinueRequest

structure ContinueResponse extends Response where
  allThreadsContinued : Bool
  deriving DecidableEq, Repr

namespace ContinueResponse

def fresh : ContinueResponse where
  toResponse := Response.fresh "continue"
  allThreadsContinued := true

def to_ (response : ContinueResponse) : Json :=
  response.toResponse.to_
    |> add "body"
      (createObject
        |> addBool "allThreadsContinued" response.allThreadsContinued)

/--
`GetNumber`, stored into a `bool`: any number but zero is `true`, and so is
the default.
-/
def getNumberAsBool : Option Json → Bool
  | some (.number value) => value ≠ 0
  | _ => true

def from_ (json : Option Json) (response : ContinueResponse) :
    ContinueResponse :=
  let body := property json "body"
  { response with
    toResponse := response.toResponse.from_ json
    allThreadsContinued :=
      getNumberAsBool (property body "allThreadsContinued") }

end ContinueResponse

/-! ## Ending a session -/

structure DisconnectRequest extends Request where
  restart : Bool
  terminateDebuggee : Bool
  deriving DecidableEq, Repr

namespace DisconnectRequest

def fresh : DisconnectRequest where
  toRequest := Request.fresh "disconnect"
  restart := false
  terminateDebuggee := true

def to_ (request : DisconnectRequest) : Json :=
  request.toRequest.to_
    |> add "arguments"
      (createObject
        |> addBool "restart" request.restart
        |> addBool "terminateDebuggee" request.terminateDebuggee)

def from_ (json : Option Json) (request : DisconnectRequest) :
    DisconnectRequest :=
  let arguments := property json "arguments"
  { request with
    toRequest := request.toRequest.from_ json
    restart := Json.getBool (property arguments "restart") false
    terminateDebuggee :=
      Json.getBool (property arguments "terminateDebuggee")
        request.terminateDebuggee }

end DisconnectRequest

structure TerminateArguments where
  restart : Bool
  deriving DecidableEq, Repr

namespace TerminateArguments

def fresh : TerminateArguments where
  restart := false

def to_ (arguments : TerminateArguments) : Json :=
  createObject
    |> addBool "restart" arguments.restart

def from_ (json : Option Json) (arguments : TerminateArguments) :
    TerminateArguments :=
  { arguments with
    restart := Json.getBool (property json "restart") false }

end TerminateArguments

structure TerminateRequest extends Request where
  arguments : TerminateArguments
  deriving DecidableEq, Repr

namespace TerminateRequest

def fresh : TerminateRequest where
  toRequest := Request.fresh "terminate"
  arguments := TerminateArguments.fresh

def to_ (request : TerminateRequest) : Json :=
  request.toRequest.to_
    |> add "arguments" request.arguments.to_

def from_ (json : Option Json) (request : TerminateRequest) :
    TerminateRequest :=
  { request with
    toRequest := request.toRequest.from_ json
    arguments := request.arguments.from_ (property json "arguments") }

end TerminateRequest

/-! ## A new process -/

structure ProcessEvent extends Event where
  name : WxString
  systemProcessId : Int
  isLocalProcess : Bool
  startMethod : WxString
  pointerSize : Int
  deriving DecidableEq, Repr

namespace ProcessEvent

/-- A pointer of the machine takes eight bytes. -/
def fresh : ProcessEvent where
  toEvent := Event.fresh "process"
  name := []
  systemProcessId := -1
  isLocalProcess := true
  startMethod := []
  pointerSize := 8

def to_ (event : ProcessEvent) : Json :=
  event.toEvent.to_
    |> add "body"
      (createObject
        |> addString "name" event.name
        |> addInteger "systemProcessId" event.systemProcessId
        |> addBool "isLocalProcess" event.isLocalProcess
        |> addString "startMethod" event.startMethod
        |> addInteger "pointerSize" event.pointerSize)

def from_ (json : Option Json) (event : ProcessEvent) : ProcessEvent :=
  let body := property json "body"
  { event with
    toEvent := event.toEvent.from_ json
    name := Json.getString (property body "name") []
    systemProcessId := Json.getInteger (property body "systemProcessId") (-1)
    isLocalProcess := Json.getBool (property body "isLocalProcess") true
    startMethod := Json.getString (property body "startMethod") []
    pointerSize := Json.getInteger (property body "pointerSize") (-1) }

end ProcessEvent

end DebuggerDap.Protocol.Codecs
