import DebuggerDap.Protocol.JsonTree

/-!
# Protocol messages

Commands and event names with their spelling on the wire, the arguments of
the requests the client sends, and the reading of an arriving tree by
`ObjGenerator::FromJSON`: a message whose type or name is not registered
yields no object.
-/

namespace DebuggerDap.Protocol.Messages

open DebuggerDap.Text.Strings
open DebuggerDap.Protocol.JsonTree

/-- The commands of requests and responses. -/
inductive Command where
  | cancel
  | initialize_
  | breakpointLocations
  | configurationDone
  | launch
  | disconnect
  | terminate
  | setBreakpoints
  | setExceptionBreakpoints
  | setFunctionBreakpoints
  | continue_
  | next
  | stepIn
  | stepOut
  | threads
  | scopes
  | stackTrace
  | variables
  | pause
  | runInTerminal
  | source
  | evaluate
  | attach
  | disassemble
  | goto
  | gotoTargets
  | readMemory
  /-- `EmptyAckResponse` registers itself under the empty name. -/
  | emptyAck
  deriving DecidableEq, Repr

namespace Command

def all : List Command :=
  [.cancel, .initialize_, .breakpointLocations, .configurationDone, .launch,
    .disconnect, .terminate, .setBreakpoints, .setExceptionBreakpoints,
    .setFunctionBreakpoints, .continue_, .next, .stepIn, .stepOut, .threads,
    .scopes, .stackTrace, .variables, .pause, .runInTerminal, .source,
    .evaluate, .attach, .disassemble, .goto, .gotoTargets, .readMemory,
    .emptyAck]

/-- The spelling of a command on the wire. -/
def name : Command → WxString
  | .cancel => "cancel".toList
  | .initialize_ => "initialize".toList
  | .breakpointLocations => "breakpointLocations".toList
  | .configurationDone => "configurationDone".toList
  | .launch => "launch".toList
  | .disconnect => "disconnect".toList
  | .terminate => "terminate".toList
  | .setBreakpoints => "setBreakpoints".toList
  | .setExceptionBreakpoints => "setExceptionBreakpoints".toList
  | .setFunctionBreakpoints => "setFunctionBreakpoints".toList
  | .continue_ => "continue".toList
  | .next => "next".toList
  | .stepIn => "stepIn".toList
  | .stepOut => "stepOut".toList
  | .threads => "threads".toList
  | .scopes => "scopes".toList
  | .stackTrace => "stackTrace".toList
  | .variables => "variables".toList
  | .pause => "pause".toList
  | .runInTerminal => "runInTerminal".toList
  | .source => "source".toList
  | .evaluate => "evaluate".toList
  | .attach => "attach".toList
  | .disassemble => "disassemble".toList
  | .goto => "goto".toList
  | .gotoTargets => "gotoTargets".toList
  | .readMemory => "readMemory".toList
  | .emptyAck => []

/-- The registered class of a command name. -/
def ofName (text : WxString) : Option Command :=
  all.find? fun command => command.name == text

/-- No two commands share a spelling. -/
@[simp]
theorem ofName_name (command : Command) :
    ofName command.name = some command := by
  cases command <;> decide

end Command

/-- The registered events. -/
inductive EventName where
  | initialized
  | stopped
  | continued
  | exited
  | terminated
  | thread
  | output
  | breakpoint
  | process
  | module_
  /-- `DebugpyWaitingForServerEvent` has the empty name. -/
  | debugpyWaitingForServer
  deriving DecidableEq, Repr

namespace EventName

def all : List EventName :=
  [.initialized, .stopped, .continued, .exited, .terminated, .thread,
    .output, .breakpoint, .process, .module_, .debugpyWaitingForServer]

def name : EventName → WxString
  | .initialized => "initialized".toList
  | .stopped => "stopped".toList
  | .continued => "continued".toList
  | .exited => "exited".toList
  | .terminated => "terminated".toList
  | .thread => "thread".toList
  | .output => "output".toList
  | .breakpoint => "breakpoint".toList
  | .process => "process".toList
  | .module_ => "module".toList
  | .debugpyWaitingForServer => []

def ofName (text : WxString) : Option EventName :=
  all.find? fun event => event.name == text

end EventName

/-! ## Arguments of requests -/

inductive EvaluateContext where
  | variables
  | watch
  | repl
  | hover
  | clipboard
  deriving DecidableEq, Repr

def EvaluateContext.name : EvaluateContext → WxString
  | .variables => "variables".toList
  | .watch => "watch".toList
  | .repl => "repl".toList
  | .hover => "hover".toList
  | .clipboard => "clipboard".toList

inductive ValueDisplayFormat where
  | native
  | hex
  deriving DecidableEq, Repr

inductive SteppingGranularity where
  | line
  | statement
  | instruction
  deriving DecidableEq, Repr

def SteppingGranularity.name : SteppingGranularity → WxString
  | .line => "line".toList
  | .statement => "statement".toList
  | .instruction => "instruction".toList

inductive EnvFormat where
  | dictionary
  | list
  | none
  deriving DecidableEq, Repr

structure Environment where
  format : EnvFormat
  vars : List (WxString × WxString)
  deriving DecidableEq, Repr

structure Source where
  name : WxString
  path : WxString
  sourceReference : Int
  deriving DecidableEq, Repr

structure SourceBreakpoint where
  line : Int
  condition : WxString
  deriving DecidableEq, Repr

structure FunctionBreakpoint where
  name : WxString
  condition : WxString
  deriving DecidableEq, Repr

structure InitializeRequestArguments where
  clientID : WxString := []
  clientName : WxString := []
  adapterID : WxString := []
  locale : WxString := "en-US".toList
  linesStartAt1 : Bool := false
  columnsStartAt1 : Bool := false
  pathFormat : WxString := "path".toList
  supportsVariableType : Bool := false
  supportsVariablePaging : Bool := false
  supportsRunInTerminalRequest : Bool := false
  supportsMemoryReferences : Bool := false
  supportsProgressReporting : Bool := false
  supportsInvalidatedEvent : Bool := false
  supportsMemoryEvent : Bool := false
  supportsArgsCanBeInterpretedByShell : Bool := false
  deriving DecidableEq, Repr

structure VariablesArguments where
  variablesReference : Int
  hex : Bool
  start : Int := 0
  count : Int := 0
  filter : WxString := []
  deriving DecidableEq, Repr

structure EvaluateArguments where
  expression : WxString
  frameId : Int
  context : WxString
  hex : Bool
  deriving DecidableEq, Repr

structure DisassembleArguments where
  memoryReference : WxString
  offset : Int
  instructionOffset : Int
  instructionCount : Int
  resolveSymbols : Bool
  deriving DecidableEq, Repr

/-- The command of a request together with its arguments. -/
inductive RequestBody where
  | initialize_ (arguments : InitializeRequestArguments)
  | setBreakpoints (source : Source) (breakpoints : List SourceBreakpoint)
  | configurationDone
  | launch
      (program : WxString) (args : List WxString) (cwd : WxString)
      (env : Environment)
  | threads
  | scopes (frameId : Int)
  | stackTrace (threadId startFrame levels : Int)
  | next (threadId : Int) (singleThread : Bool) (granularity : WxString)
  | continue_ (threadId : Int) (singleThread : Bool)
  | setExceptionBreakpoints (filters : List WxString)
  | setFunctionBreakpoints (breakpoints : List FunctionBreakpoint)
  | stepIn (threadId : Int) (singleThread : Bool) (granularity : WxString)
  | stepOut (threadId : Int) (singleThread : Bool)
  | variables (arguments : VariablesArguments)
  | pause (threadId : Int)
  | breakpointLocations (path : WxString) (line endLine : Int)
  | readMemory (memoryReference : WxString) (offset count : Int)
  | disassemble (arguments : DisassembleArguments)
  | goto (threadId targetId : Int)
  | gotoTargets (source : Source) (line column : Int)
  | source (source : Source) (sourceReference : Int)
  | evaluate (arguments : EvaluateArguments)
  | attach (pid : Int)
  | disconnect (restart terminateDebuggee : Bool)
  | terminate (restart : Bool)
  deriving DecidableEq, Repr

def RequestBody.command : RequestBody → Command
  | .initialize_ .. => .initialize_
  | .setBreakpoints .. => .setBreakpoints
  | .configurationDone => .configurationDone
  | .launch .. => .launch
  | .threads => .threads
  | .scopes .. => .scopes
  | .stackTrace .. => .stackTrace
  | .next .. => .next
  | .continue_ .. => .continue_
  | .setExceptionBreakpoints .. => .setExceptionBreakpoints
  | .setFunctionBreakpoints .. => .setFunctionBreakpoints
  | .stepIn .. => .stepIn
  | .stepOut .. => .stepOut
  | .variables .. => .variables
  | .pause .. => .pause
  | .breakpointLocations .. => .breakpointLocations
  | .readMemory .. => .readMemory
  | .disassemble .. => .disassemble
  | .goto .. => .goto
  | .gotoTargets .. => .gotoTargets
  | .source .. => .source
  | .evaluate .. => .evaluate
  | .attach .. => .attach
  | .disconnect .. => .disconnect
  | .terminate .. => .terminate

structure Request where
  seq : Nat
  body : RequestBody
  deriving DecidableEq, Repr

/-! ## Reading an arriving message -/

/-- The header of a response; the rest stays in its tree. -/
structure Response where
  requestSeq : Int
  success : Bool
  command : Command
  deriving DecidableEq, Repr

inductive ProtocolMessage where
  | request (command : Command)
  | response (response : Response)
  | event (event : EventName)
  deriving DecidableEq, Repr

def messageType (json : Json) : WxString :=
  Json.getString (Json.child (some json) "type".toList) []

def messageCommand (json : Json) : WxString :=
  Json.getString (Json.child (some json) "command".toList) []

def messageEvent (json : Json) : WxString :=
  Json.getString (Json.child (some json) "event".toList) []

def messageRequestSeq (json : Json) : Int :=
  Json.getInteger (Json.child (some json) "request_seq".toList) (-1)

def messageSuccess (json : Json) : Bool :=
  Json.getBool (Json.child (some json) "success".toList) false

def messageBody (json : Json) (name : WxString) : Option Json :=
  Json.child (Json.child (some json) "body".toList) name

/-- `ObjGenerator::FromJSON`. -/
def fromJson (json : Json) : Option ProtocolMessage :=
  if messageType json = "response".toList then
    (Command.ofName (messageCommand json)).map fun command =>
      .response ⟨messageRequestSeq json, messageSuccess json, command⟩
  else if messageType json = "request".toList then
    (Command.ofName (messageCommand json)).map .request
  else if messageType json = "event".toList then
    (EventName.ofName (messageEvent json)).map .event
  else none

/-- A tree that is a response. -/
def IsResponse (json : Json) : Prop :=
  messageType json = "response".toList

instance (json : Json) : Decidable (IsResponse json) :=
  inferInstanceAs (Decidable (messageType json = "response".toList))

/-- A tree that answers a given request. -/
structure Answers (json : Json) (request : Request) : Prop where
  isResponse : IsResponse json
  sameCommand : messageCommand json = request.body.command.name
  sameSeq : messageRequestSeq json = request.seq

instance (json : Json) (request : Request) :
    Decidable (Answers json request) :=
  decidable_of_iff
    (IsResponse json ∧
      messageCommand json = request.body.command.name ∧
        messageRequestSeq json = request.seq)
    ⟨fun ⟨isResponse, sameCommand, sameSeq⟩ =>
        ⟨isResponse, sameCommand, sameSeq⟩,
      fun ⟨isResponse, sameCommand, sameSeq⟩ =>
        ⟨isResponse, sameCommand, sameSeq⟩⟩

/-- The tree of a response with the members of its body. -/
def responseTree
    (command : Command)
    (requestSeq : Int)
    (success : Bool)
    (body : List (WxString × Json)) : Json :=
  .object
    [("type".toList, .string "response".toList),
      ("command".toList, .string command.name),
      ("request_seq".toList, .number requestSeq),
      ("success".toList, .bool success),
      ("body".toList, .object body)]

/-- Every request has replies, successful or not, with any body. -/
theorem answers_responseTree
    (request : Request)
    (success : Bool)
    (body : List (WxString × Json)) :
    Answers (responseTree request.body.command request.seq success body)
      request := by
  constructor
  case isResponse => rfl
  case sameCommand => rfl
  case sameSeq =>
    exact Json.getInteger_number request.seq (-1)

/-- A reply is read as a response with the command of its request. -/
theorem fromJson_of_answers
    {json : Json}
    {request : Request}
    (answers : Answers json request) :
    fromJson json =
      some (.response
        ⟨request.seq, messageSuccess json, request.body.command⟩) := by
  have isResponse : messageType json = "response".toList :=
    answers.isResponse
  rw [fromJson, if_pos isResponse, answers.sameCommand,
    Command.ofName_name, answers.sameSeq]
  rfl

/-- A command is registered under its own spelling only. -/
theorem Command.name_of_ofName
    {text : WxString}
    {command : Command}
    (found : Command.ofName text = some command) :
    command.name = text := by
  have matching := List.find?_some found
  exact beq_iff_eq.mp matching

/-- Only a response is read as a response. -/
theorem isResponse_of_fromJson
    {json : Json}
    {response : Response}
    (read : fromJson json = some (.response response)) :
    IsResponse json ∧
      messageCommand json = response.command.name ∧
        messageRequestSeq json = response.requestSeq := by
  unfold fromJson at read
  split at read
  · next isResponse =>
      rcases Option.map_eq_some_iff.mp read with ⟨command, found, equal⟩
      cases equal
      exact ⟨isResponse, (Command.name_of_ofName found).symm, rfl⟩
  · split at read
    · rcases Option.map_eq_some_iff.mp read with ⟨command, -, equal⟩
      cases equal
    · split at read
      · rcases Option.map_eq_some_iff.mp read with ⟨event, -, equal⟩
        cases equal
      · cases read

end DebuggerDap.Protocol.Messages
