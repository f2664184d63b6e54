import DebuggerDap.Protocol.ControlCodecs

/-!
# Round trip of execution control

What comes back of a Boolean is that it is `true`, or that the default of its
getter is.  So a step in a single thread, a disconnect that ends the debuggee,
a reply that all threads continue and a local process come back as they were;
the other value of each of these members is lost.
-/

namespace DebuggerDap.Protocol.Codecs

open DebuggerDap.Text.Strings
open DebuggerDap.Protocol.JsonTree

/-! ## Parts -/

/-- A `false` node is read as the default. -/
theorem getBool_eq_or (value defaultValue : Bool) :
    Json.getBool (some (.bool value)) defaultValue =
      (value || defaultValue) := by
  cases value <;> rfl

theorem getString_createString_default
    {value : WxString}
    (noNul : NoNul value)
    (defaultValue : WxString) :
    Json.getString (some (createString value)) defaultValue = value := by
  rw [createString, cString_of_noNul noNul]
  rfl

theorem StepArguments.from_to
    {arguments : StepArguments}
    (granularity : NoNul arguments.granularity)
    (used : StepArguments) :
    used.from_ (some arguments.to_) =
      { arguments with
        singleThread := arguments.singleThread || used.singleThread } := by
  simp [StepArguments.from_, StepArguments.to_, addInteger, addString,
    addBool, getBool_eq_or, getString_createString_default granularity]

theorem NextArguments.from_to
    {arguments : NextArguments}
    (granularity : NoNul arguments.granularity)
    (used : NextArguments) :
    used.from_ (some arguments.to_) = arguments := by
  simp [NextArguments.from_, NextArguments.to_, addInteger, addString,
    addBool, getString_createString granularity]

theorem ContinueArguments.from_to (arguments used : ContinueArguments) :
    used.from_ (some arguments.to_) = arguments := by
  simp [ContinueArguments.from_, ContinueArguments.to_, addInteger, addBool]

theorem TerminateArguments.from_to (arguments used : TerminateArguments) :
    used.from_ (some arguments.to_) = arguments := by
  simp [TerminateArguments.from_, TerminateArguments.to_, addBool]

/-! ## Messages -/

theorem StepRequest.from_to
    {request : StepRequest}
    (fits : request.toRequest.Fits)
    (granularity : NoNul request.arguments.granularity)
    (used : StepRequest) :
    used.from_ (some request.to_) =
      { request with
        arguments :=
          { request.arguments with
            singleThread :=
              request.arguments.singleThread ||
                used.arguments.singleThread } } := by
  simp [StepRequest.from_, StepRequest.to_, Request.from_to fits,
    StepArguments.from_to granularity]

theorem StepRequest.from_to_fresh_iff
    {request : StepRequest}
    (fits : request.toRequest.Fits)
    (granularity : NoNul request.arguments.granularity)
    (command : String) :
    (StepRequest.fresh command).from_ (some request.to_) = request ↔
      request.arguments.singleThread = true := by
  rw [StepRequest.from_to fits granularity]
  rcases request with ⟨header, threadId, singleThread, granularity⟩
  simp [StepRequest.fresh, StepArguments.fresh, eq_comm]

theorem NextRequest.from_to
    {request : NextRequest}
    (fits : request.toRequest.Fits)
    (granularity : NoNul request.arguments.granularity)
    (used : NextRequest) :
    used.from_ (some request.to_) = request := by
  simp [NextRequest.from_, NextRequest.to_, Request.from_to fits,
    NextArguments.from_to granularity]

theorem ContinueRequest.from_to
    {request : ContinueRequest}
    (fits : request.toRequest.Fits)
    (used : ContinueRequest) :
    used.from_ (some request.to_) = request := by
  simp [ContinueRequest.from_, ContinueRequest.to_, Request.from_to fits,
    ContinueArguments.from_to]

/-- The Boolean node is no number, so `true` is read. -/
theorem ContinueResponse.from_to
    {response : ContinueResponse}
    (fits : response.toResponse.Fits)
    (used : ContinueResponse) :
    used.from_ (some response.to_) =
      { response with allThreadsContinued := true } := by
  simp [ContinueResponse.from_, ContinueResponse.to_, addBool,
    Response.from_to fits, ContinueResponse.getNumberAsBool]

theorem ContinueResponse.from_to_fresh_iff
    {response : ContinueResponse}
    (fits : response.toResponse.Fits) :
    ContinueResponse.fresh.from_ (some response.to_) = response ↔
      response.allThreadsContinued = true := by
  rw [ContinueResponse.from_to fits]
  rcases response with ⟨header, allThreadsContinued⟩
  simp [eq_comm]

theorem DisconnectRequest.from_to
    {request : DisconnectRequest}
    (fits : request.toRequest.Fits)
    (used : DisconnectRequest) :
    used.from_ (some request.to_) =
      { request with
        terminateDebuggee :=
          request.terminateDebuggee || used.terminateDebuggee } := by
  simp [DisconnectRequest.from_, DisconnectRequest.to_, addBool,
    Request.from_to fits, getBool_eq_or]

theorem DisconnectRequest.from_to_fresh_iff
    {request : DisconnectRequest}
    (fits : request.toRequest.Fits) :
    DisconnectRequest.fresh.from_ (some request.to_) = request ↔
      request.terminateDebuggee = true := by
  rw [DisconnectRequest.from_to fits]
  rcases request with ⟨header, restart, terminateDebuggee⟩
  simp [DisconnectRequest.fresh, eq_comm]

theorem TerminateRequest.from_to
    {request : TerminateRequest}
    (fits : request.toRequest.Fits)
    (used : TerminateRequest) :
    used.from_ (some request.to_) = request := by
  simp [TerminateRequest.from_, TerminateRequest.to_, Request.from_to fits,
    TerminateArguments.from_to]

theorem ProcessEvent.from_to
    {event : ProcessEvent}
    (fits : event.toEvent.Fits)
    (name : NoNul event.name)
    (startMethod : NoNul event.startMethod)
    (used : ProcessEvent) :
    used.from_ (some event.to_) = { event with isLocalProcess := true } := by
  simp [ProcessEvent.from_, ProcessEvent.to_, addString, addInteger, addBool,
    Event.from_to fits, getBool_eq_or, getString_createString name,
    getString_createString startMethod]

theorem ProcessEvent.from_to_fresh_iff
    {event : ProcessEvent}
    (fits : event.toEvent.Fits)
    (name : NoNul event.name)
    (startMethod : NoNul event.startMethod) :
    ProcessEvent.fresh.from_ (some event.to_) = event ↔
      event.isLocalProcess = true := by
  rw [ProcessEvent.from_to fits name startMethod]
  rcases event with
    ⟨header, name, systemProcessId, isLocalProcess, startMethod, pointerSize⟩
  simp [eq_comm]

/-! ## The messages as one kind -/

/-- A message of execution control. -/
inductive ControlMessage where
  | stepIn (request : StepRequest)
  | stepOut (request : StepRequest)
  | next (request : NextRequest)
  | continue_ (request : ContinueRequest)
  | disconnect (request : DisconnectRequest)
  | terminate (request : TerminateRequest)
  | continued (response : ContinueResponse)
  | process (event : ProcessEvent)
  deriving DecidableEq, Repr

namespace ControlMessage

def to_ : ControlMessage → Json
  | stepIn request => request.to_
  | stepOut request => request.to_
  | next request => request.to_
  | continue_ request => request.to_
  | disconnect request => request.to_
  | terminate request => request.to_
  | continued response => response.to_
  | process event => event.to_

/-- A new object of the class. -/
def fresh : ControlMessage → ControlMessage
  | stepIn _ => .stepIn (.fresh "stepIn")
  | stepOut _ => .stepOut (.fresh "stepOut")
  | next _ => .next .fresh
  | continue_ _ => .continue_ .fresh
  | disconnect _ => .disconnect .fresh
  | terminate _ => .terminate .fresh
  | continued _ => .continued .fresh
  | process _ => .process .fresh

def from_ (json : Option Json) : ControlMessage → ControlMessage
  | stepIn request => .stepIn (request.from_ json)
  | stepOut request => .stepOut (request.from_ json)
  | next request => .next (request.from_ json)
  | continue_ request => .continue_ (request.from_ json)
  | disconnect request => .disconnect (request.from_ json)
  | terminate request => .terminate (request.from_ json)
  | continued response => .continued (response.from_ json)
  | process event => .process (event.from_ json)

/-- No text of the message has a NUL. -/
def Fits : ControlMessage → Prop
  | stepIn request =>
      request.toRequest.Fits ∧ NoNul request.arguments.granularity
  | stepOut request =>
      request.toRequest.Fits ∧ NoNul request.arguments.granularity
  | next request =>
      request.toRequest.Fits ∧ NoNul request.arguments.granularity
  | continue_ request => request.toRequest.Fits
  | disconnect request => request.toRequest.Fits
  | terminate request => request.toRequest.Fits
  | continued response => response.toResponse.Fits
  | process event =>
      event.toEvent.Fits ∧ NoNul event.name ∧ NoNul event.startMethod

/-- The Boolean whose getter has the default `true` is `true`. -/
def DefaultsKept : ControlMessage → Prop
  | stepIn request => request.arguments.singleThread = true
  | stepOut request => request.arguments.singleThread = true
  | disconnect request => request.terminateDebuggee = true
  | continued response => response.allThreadsContinued = true
  | process event => event.isLocalProcess = true
  | next _ | continue_ _ | terminate _ => True

/--
A message of execution control comes back exactly if no Boolean differs from
the default `true` it is read with.
-/
theorem control_from_to_iff
    (message : ControlMessage)
    (fits : message.Fits) :
    message.fresh.from_ (some message.to_) = message ↔
      message.DefaultsKept := by
  cases message with
  | stepIn request =>
      rw [fresh, from_, to_, stepIn.injEq]
      exact StepRequest.from_to_fresh_iff fits.1 fits.2 "stepIn"
  | stepOut request =>
      rw [fresh, from_, to_, stepOut.injEq]
      exact StepRequest.from_to_fresh_iff fits.1 fits.2 "stepOut"
  | next request =>
      have back := NextRequest.from_to fits.1 fits.2 NextRequest.fresh
      exact iff_of_true (congrArg next back) trivial
  | continue_ request =>
      have back := ContinueRequest.from_to fits ContinueRequest.fresh
      exact iff_of_true (congrArg continue_ back) trivial
  | disconnect request =>
      rw [fresh, from_, to_, disconnect.injEq]
      exact DisconnectRequest.from_to_fresh_iff fits
  | terminate request =>
      have back := TerminateRequest.from_to fits TerminateRequest.fresh
      exact iff_of_true (congrArg terminate back) trivial
  | continued response =>
      rw [fresh, from_, to_, continued.injEq]
      exact ContinueResponse.from_to_fresh_iff fits
  | process event =>
      rw [fresh, from_, to_, process.injEq]
      exact ProcessEvent.from_to_fresh_iff fits.1 fits.2.1 fits.2.2

/-- The debuggee is to be left running. -/
def detaching : DisconnectRequest :=
  { DisconnectRequest.fresh with
    seq := 12
    terminateDebuggee := false }

/-- A step of a single thread comes back. -/
theorem from_to_fresh_stepIn :
    (stepIn (.fresh "stepIn")).fresh.from_
        (some (stepIn (.fresh "stepIn")).to_) =
      stepIn (.fresh "stepIn") :=
  (control_from_to_iff (stepIn (.fresh "stepIn"))
    ⟨by decide, by decide⟩).mpr rfl

/-- A disconnect that was to leave the debuggee running would end it. -/
theorem from_to_fresh_detaching :
    (disconnect detaching).Fits ∧
      (disconnect detaching).fresh.from_ (some (disconnect detaching).to_) ≠
        disconnect detaching := by
  have fits : detaching.toRequest.Fits := by decide
  refine ⟨fits, ?_⟩
  show disconnect (DisconnectRequest.fresh.from_ (some detaching.to_)) ≠ _
  rw [DisconnectRequest.from_to fits]
  decide

end ControlMessage

end DebuggerDap.Protocol.Codecs
