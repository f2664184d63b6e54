import DebuggerDap.DapClient.Sessions
import DebuggerDap.Protocol.CodecRoundTrip
import DebuggerDap.Protocol.LengthArithmetic

/-!
# The arguments of a request on the wire

What a call of the API is given goes through the arguments of a request and
from there into the object that is sent.  Some of it ends on the way: the
range of frames, which is compiled out of `To`, and the filter and the start
of a range of variables, which `To` does not know.  A frame that is not
positive stands for none, a count is narrowed to an `int`, and an expression
ends at its first NUL.

What is carried by a call is the rest.  Calls that carry different things
send different objects.
-/

namespace DebuggerDap.DapClient.RequestArguments

open DebuggerDap.Text.Strings
open DebuggerDap.Protocol.JsonTree
open DebuggerDap.Protocol.Messages
open DebuggerDap.Protocol.Codecs
  (createObject add addString addInteger addBool cString createString property
    NoNul cString_of_noNul)
open DebuggerDap.Protocol.LengthArithmetic (intRange)
open DebuggerDap.DapClient.State
open DebuggerDap.DapClient.Sessions (sentRequests_sent)

/-! ## Encoding -/

/-- `StackTraceArguments::To`; the range of frames is compiled out. -/
def stackTraceArgumentsTo (threadId _startFrame _levels : Int) : Json :=
  createObject |> addInteger "threadId" threadId

/-- `ValueFormat::To`. -/
def valueFormatTo (hex : Bool) : Json :=
  createObject |> addBool "hex" hex

/-- `VariablesArguments::To`; the start and the filter are not written. -/
def variablesArgumentsTo (arguments : VariablesArguments) : Json :=
  createObject
    |> addInteger "variablesReference" arguments.variablesReference
    |> addInteger "count" arguments.count
    |> add "format" (valueFormatTo arguments.hex)

/-- `EvaluateArguments::To`; a frame is written if there is one. -/
def evaluateArgumentsTo (arguments : EvaluateArguments) : Json :=
  let expression :=
    createObject |> addString "expression" arguments.expression
  let framed :=
    if 0 < arguments.frameId then
      addInteger "frameId" arguments.frameId expression
    else expression
  framed
    |> addString "context" arguments.context
    |> add "format" (valueFormatTo arguments.hex)

/-- The arguments object of the requests that are looked at. -/
def argumentsObject : RequestBody → Option Json
  | .stackTrace threadId startFrame levels =>
      some (stackTraceArgumentsTo threadId startFrame levels)
  | .variables arguments => some (variablesArgumentsTo arguments)
  | .evaluate arguments => some (evaluateArgumentsTo arguments)
  | _ => none

/-! ## Calls -/

/-- A call that asks for data, with everything the API lets it ask for. -/
inductive DataCall where
  | getFrames (threadId startingFrame frameCount : Int)
  | getChildrenVariables
      (variablesReference : Int) (context : EvaluateContext) (count : UInt64)
      (format : ValueDisplayFormat)
  | getVariableInfo
      (variablesReference : Int) (filter : WxString) (start count : Int)
      (format : ValueDisplayFormat)
  | evaluateExpression
      (expression : WxString) (frameId : Int) (context : EvaluateContext)
      (format : ValueDisplayFormat)
  deriving DecidableEq

/-- A `size_t` stored into an `int`. -/
def narrow (count : UInt64) : Int :=
  intRange.wrap count.toNat

namespace DataCall

variable {κ : Type*}

/-- Make the call; the start of the variables is not used. -/
def perform
    (toolkit : Toolkit)
    (callback : κ)
    (client : Client κ) : DataCall → Client κ × List (Output κ)
  | getFrames threadId startingFrame frameCount =>
      client.getFrames toolkit threadId startingFrame frameCount
  | getChildrenVariables variablesReference context count format =>
      client.getChildrenVariables toolkit variablesReference context
        (narrow count) format
  | getVariableInfo variablesReference filter _ count format =>
      client.getVariableInfo toolkit variablesReference filter count format
  | evaluateExpression expression frameId context format =>
      client.evaluateExpression toolkit expression frameId context callback
        format

/-- The arguments objects the call puts on the wire. -/
def wire
    (toolkit : Toolkit)
    (callback : κ)
    (client : Client κ)
    (call : DataCall) : List Json :=
  (sentRequests (call.perform toolkit callback client).2).filterMap
    fun request => argumentsObject request.body

/-- A thread is named, not left to the client. -/
def NamesThread : DataCall → Prop
  | getFrames threadId _ _ => threadId ≠ notFound
  | _ => True

end DataCall

/-! ## What is carried -/

theorem noNul_cString (value : WxString) : NoNul (cString value) := by
  intro nul
  have kept := List.all_eq_true.mp (List.all_takeWhile) _ nul
  simp at kept

/-- What an object has of the call it was made for; no frame counts as 0. -/
inductive Carried where
  | stackTrace (threadId : Int)
  | members
      (variablesReference count : Int) (format : ValueDisplayFormat)
  | evaluate
      (expression : { text : WxString // NoNul text }) (frameId : Nat)
      (context : EvaluateContext) (format : ValueDisplayFormat)
  deriving DecidableEq

def DataCall.carried : DataCall → Carried
  | getFrames threadId _ _ => .stackTrace threadId
  | getChildrenVariables variablesReference _ count format =>
      .members variablesReference (narrow count) format
  | getVariableInfo variablesReference _ _ count format =>
      .members variablesReference count format
  | evaluateExpression expression frameId context format =>
      .evaluate ⟨cString expression, noNul_cString expression⟩ frameId.toNat
        context format

namespace Carried

/-- The object made from what is carried. -/
def object : Carried → Json
  | .stackTrace threadId => stackTraceArgumentsTo threadId 0 0
  | .members variablesReference count format =>
      variablesArgumentsTo
        { variablesReference := variablesReference
          hex := format == ValueDisplayFormat.hex
          count := count }
  | .evaluate expression frameId context format =>
      evaluateArgumentsTo
        { expression := expression
          frameId := frameId
          context := context.name
          hex := format == ValueDisplayFormat.hex }

theorem format_eq_of_hex
    {first second : ValueDisplayFormat}
    (same :
      (first == ValueDisplayFormat.hex) =
        (second == ValueDisplayFormat.hex)) :
    first = second := by
  revert same
  cases first <;> cases second <;> decide

theorem context_eq_of_name
    {first second : EvaluateContext}
    (same : first.name = second.name) :
    first = second := by
  revert same
  cases first <;> cases second <;> decide

theorem cString_name (context : EvaluateContext) :
    cString context.name = context.name := by
  cases context <;> rfl

theorem hex_eq_of_valueFormatTo
    {first second : Bool}
    (same : valueFormatTo first = valueFormatTo second) :
    first = second := by
  have hex := congrArg (fun json => property (some json) "hex") same
  simpa [valueFormatTo, addBool] using hex

/-- The members of the arguments of an evaluation, by their names. -/
theorem property_evaluateArgumentsTo
    (arguments : EvaluateArguments)
    (name : String) :
    property (some (evaluateArgumentsTo arguments)) name =
      if name = "expression" then some (createString arguments.expression)
      else if name = "frameId" then
        if 0 < arguments.frameId then some (.number arguments.frameId)
        else none
      else if name = "context" then some (createString arguments.context)
      else if name = "format" then some (valueFormatTo arguments.hex)
      else none := by
  unfold evaluateArgumentsTo
  by_cases framed : 0 < arguments.frameId
  all_goals
    by_cases isExpression : name = "expression"
    · simp [framed, isExpression, addString, addInteger]
    · by_cases isFrame : name = "frameId"
      · simp [framed, isFrame, addString, addInteger]
      · simp [framed, isExpression, isFrame, addString, addInteger]
        split <;> rfl

/-- A frame is left out exactly if it is none. -/
theorem frame_eq_of_member
    {first second : Nat}
    (same :
      (if 0 < first then some (Json.number (first : Int)) else none) =
        if 0 < second then some (Json.number (second : Int)) else none) :
    first = second := by
  by_cases firstFramed : 0 < first
  · by_cases secondFramed : 0 < second
    · rw [if_pos firstFramed, if_pos secondFramed, Option.some.injEq,
        Json.number.injEq] at same
      exact_mod_cast same
    · rw [if_pos firstFramed, if_neg secondFramed] at same
      cases same
  · by_cases secondFramed : 0 < second
    · rw [if_neg firstFramed, if_pos secondFramed] at same
      cases same
    · omega

/-- What is carried can be read off the object. -/
theorem object_injective
    {first second : Carried}
    (same : first.object = second.object) :
    first = second := by
  have read := fun name =>
    congrArg (fun json => property (some json) name) same
  -- the thread and the reference of the variables tell the kinds apart
  have thread := read "threadId"
  have reference := read "variablesReference"
  cases first with
  | stackTrace firstId =>
      cases second with
      | stackTrace secondId =>
          have threadId : firstId = secondId := by
            simpa [object, stackTraceArgumentsTo, addInteger] using thread
          rw [threadId]
      | members =>
          simp [object, stackTraceArgumentsTo, variablesArgumentsTo,
            addInteger] at thread
      | evaluate =>
          simp [object, stackTraceArgumentsTo, property_evaluateArgumentsTo,
            addInteger] at thread
  | members firstReference firstCount firstFormat =>
      cases second with
      | stackTrace =>
          simp [object, stackTraceArgumentsTo, variablesArgumentsTo,
            addInteger] at thread
      | members secondReference secondCount secondFormat =>
          have references : firstReference = secondReference := by
            simpa [object, variablesArgumentsTo, addInteger] using reference
          have counts : firstCount = secondCount := by
            simpa [object, variablesArgumentsTo, addInteger] using
              read "count"
          have formats : firstFormat = secondFormat := by
            apply format_eq_of_hex
            apply hex_eq_of_valueFormatTo
            simpa [object, variablesArgumentsTo, addInteger] using
              read "format"
          rw [references, counts, formats]
      | evaluate =>
          simp [object, variablesArgumentsTo, property_evaluateArgumentsTo,
            addInteger] at reference
  | evaluate firstExpression firstFrame firstContext firstFormat =>
      cases second with
      | stackTrace =>
          simp [object, stackTraceArgumentsTo, property_evaluateArgumentsTo,
            addInteger] at thread
      | members =>
          simp [object, variablesArgumentsTo, property_evaluateArgumentsTo,
            addInteger] at reference
      | evaluate secondExpression secondFrame secondContext secondFormat =>
          have expressions : firstExpression = secondExpression := by
            have written :
                cString firstExpression = cString secondExpression := by
              simpa [object, property_evaluateArgumentsTo, createString] using
                read "expression"
            rw [cString_of_noNul firstExpression.2,
              cString_of_noNul secondExpression.2] at written
            exact Subtype.ext written
          have frames : firstFrame = secondFrame := by
            apply frame_eq_of_member
            simpa [object, property_evaluateArgumentsTo] using read "frameId"
          have contexts : firstContext = secondContext := by
            apply context_eq_of_name
            have written :
                cString firstContext.name = cString secondContext.name := by
              simpa [object, property_evaluateArgumentsTo, createString] using
                read "context"
            rwa [cString_name, cString_name] at written
          have formats : firstFormat = secondFormat := by
            apply format_eq_of_hex
            apply hex_eq_of_valueFormatTo
            simpa [object, property_evaluateArgumentsTo] using read "format"
          rw [expressions, frames, contexts, formats]

end Carried

/-! ## Different calls -/

section Wire

variable {κ : Type*}
variable {client : Client κ}

/-- The object of an evaluation has what is carried of the call. -/
theorem evaluateArgumentsTo_carried
    (expression : WxString)
    (frameId : Int)
    (context : WxString)
    (hex : Bool) :
    evaluateArgumentsTo
        { expression := expression
          frameId := frameId
          context := context
          hex := hex } =
      evaluateArgumentsTo
        { expression := cString expression
          frameId := frameId.toNat
          context := context
          hex := hex } := by
  have whole : cString (cString expression) = cString expression :=
    cString_of_noNul (noNul_cString expression)
  unfold evaluateArgumentsTo
  by_cases positive : 0 < frameId
  · have number : (frameId.toNat : Int) = frameId := by omega
    simp [addString, createString, whole, positive, number]
  · simp [addString, createString, whole, positive]

/-- A request of a connected client is sent, and nothing else is. -/
theorem sentRequests_request
    (asking : Client κ)
    (toolkit : Toolkit)
    (body : RequestBody)
    (connected : asking.transport.isSome = true) :
    sentRequests (asking.request toolkit body).2 =
      [⟨asking.requestSequence + 1, body⟩] := by
  have stillConnected : asking.nextSequence.transport.isSome = true :=
    connected
  unfold Client.request Client.sendRequest
  rw [if_pos stillConnected]
  exact sentRequests_sent asking.nextSequence _ _

/-- A call puts one object on the wire, made from what it carries. -/
theorem wire_eq
    (connected : client.transport.isSome = true)
    (toolkit : Toolkit)
    (callback : κ)
    {call : DataCall}
    (named : call.NamesThread) :
    call.wire toolkit callback client = [call.carried.object] := by
  unfold DataCall.wire
  cases call with
  | getFrames threadId startingFrame frameCount =>
      have resolved : client.resolveThread threadId = threadId :=
        if_neg named
      rw [DataCall.perform, Client.getFrames, resolved, sentRequests_request]
      · rfl
      · exact connected
  | getChildrenVariables reference context count format =>
      rw [DataCall.perform, Client.getChildrenVariables, sentRequests_request]
      · rfl
      · exact connected
  | getVariableInfo reference filter start count format =>
      rw [DataCall.perform, Client.getVariableInfo, sentRequests_request]
      · rfl
      · exact connected
  | evaluateExpression expression frameId context format =>
      rw [DataCall.perform, Client.evaluateExpression, sentRequests_request]
      · exact congrArg (fun object => [object])
          (evaluateArgumentsTo_carried expression frameId context.name
            (format == ValueDisplayFormat.hex))
      · exact connected

/--
Two calls of a connected client that carry different things put different
arguments objects on the wire.
-/
theorem wire_ne_of_carried_ne
    (connected : client.transport.isSome = true)
    (toolkit : Toolkit)
    (callback : κ)
    {first second : DataCall}
    (firstNamed : first.NamesThread)
    (secondNamed : second.NamesThread)
    (different : first.carried ≠ second.carried) :
    first.wire toolkit callback client ≠
      second.wire toolkit callback client := by
  intro same
  rw [wire_eq connected toolkit callback firstNamed,
    wire_eq connected toolkit callback secondNamed] at same
  exact different (Carried.object_injective (List.cons.inj same).1)

end Wire

/-- A client that has just been given a transport. -/
def connectedClient : Client Unit :=
  (Client.new Unit).setTransport 0

/-- An expression is told apart in one frame and in another. -/
theorem wire_ne_of_frames :
    (DataCall.evaluateExpression "x".toList 1 .watch .native).wire
        plainToolkit () connectedClient ≠
      (DataCall.evaluateExpression "x".toList 2 .watch .native).wire
        plainToolkit () connectedClient :=
  wire_ne_of_carried_ne rfl plainToolkit () trivial trivial (by decide)

/-- The calls differ, and what they put on the wire does not. -/
def Confused (first second : DataCall) : Prop :=
  first ≠ second ∧
    first.wire plainToolkit () connectedClient =
      second.wire plainToolkit () connectedClient

/--
A range of frames, a range of variables and their filter, a frame that is not
positive, a count too large for an `int` and an expression behind a NUL are
not told apart.
-/
theorem confused_calls :
    Confused (.getFrames 1 0 10) (.getFrames 1 5 20) ∧
      Confused (.getVariableInfo 7 "named".toList 0 1 .native)
        (.getVariableInfo 7 "indexed".toList 3 1 .native) ∧
      Confused (.evaluateExpression "x".toList 0 .watch .native)
        (.evaluateExpression "x".toList (-1) .watch .native) ∧
      Confused (.getChildrenVariables 7 .watch 10 .native)
        (.getChildrenVariables 7 .watch 4294967306 .native) ∧
      Confused (.evaluateExpression "x".toList 1 .watch .native)
        (.evaluateExpression "x\x00y".toList 1 .watch .native) := by
  refine ⟨⟨by decide, rfl⟩, ⟨by decide, rfl⟩, ⟨by decide, rfl⟩,
    ⟨by decide, ?_⟩, ⟨by decide, ?_⟩⟩
  · rfl
  · rfl

end DebuggerDap.DapClient.RequestArguments
