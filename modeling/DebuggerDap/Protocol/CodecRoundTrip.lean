import DebuggerDap.Protocol.Codecs
import DebuggerDap.Text.Utf8
import Mathlib.Data.List.TakeWhile

/-!
# Round trip of the nested replies

Reading the tree of a reply into a new reply gives the reply back, but for
the members that `To` leaves out, which are those of a new one.  A part that
`To` writes in full is read back into any object, used or not, so a list of
parts comes back part by part.
-/

namespace DebuggerDap.Protocol.Codecs

open DebuggerDap.Text.Strings
open DebuggerDap.Text.Utf8
open DebuggerDap.Protocol.JsonTree
open DebuggerDap.Protocol.Messages (Source)

/-! ## Texts without NUL -/

/-- A text that is a C string as it stands. -/
def NoNul (value : WxString) : Prop :=
  '\x00' ∉ value

instance (value : WxString) : Decidable (NoNul value) :=
  inferInstanceAs (Decidable ('\x00' ∉ value))

theorem cString_of_noNul
    {value : WxString}
    (noNul : NoNul value) :
    cString value = value := by
  rw [cString, List.takeWhile_eq_self_iff]
  intro ch chIn
  have different : ch ≠ '\x00' := fun same => noNul (same ▸ chIn)
  simpa using different

/-- A text is read back exactly if it is a C string. -/
theorem cString_eq_iff (value : WxString) :
    cString value = value ↔ NoNul value := by
  constructor
  · intro whole nul
    rw [cString, List.takeWhile_eq_self_iff] at whole
    have different := whole '\x00' nul
    simp at different
  · exact cString_of_noNul

/-- A C string ends in the UTF-8 form where it ends in the text. -/
theorem utf8_cString (value : WxString) :
    utf8 (cString value) = (utf8 value).takeWhile fun byte => byte ≠ 0 := by
  induction value with
  | nil => rfl
  | cons ch rest inductionHypothesis =>
      by_cases nul : ch = '\x00'
      · subst nul
        simp [cString, utf8_cons, String.utf8EncodeChar]
      · have noZero : ∀ byte ∈ String.utf8EncodeChar ch,
            decide (byte ≠ 0) = true := by
          intro byte byteIn
          have different : byte ≠ 0 :=
            fun same => zero_not_mem_utf8EncodeChar nul (same ▸ byteIn)
          simpa using different
        rw [utf8_cons, List.takeWhile_append_of_pos noZero,
          ← inductionHypothesis, ← utf8_cons]
        congr 1
        exact List.takeWhile_cons_of_pos (by simpa using nul)

/-! ## Members of a tree -/

def IsObject (json : Json) : Prop :=
  ∃ members, json = .object members

@[simp]
theorem isObject_createObject : IsObject createObject :=
  ⟨[], rfl⟩

@[simp]
theorem isObject_add (name : String) (item json : Json) :
    IsObject (add name item json) ↔ IsObject json := by
  cases json <;> simp [IsObject, add]

@[simp]
theorem property_createObject (name : String) :
    property (some createObject) name = none :=
  rfl

/-- A member added last is found unless one of its name is there before. -/
@[simp]
theorem property_add
    {name other : String}
    {item json : Json}
    (object : IsObject json) :
    property (some (add name item json)) other =
      (property (some json) other).or
        (if other = name then some item else none) := by
  rcases object with ⟨members, rfl⟩
  have last :
      List.lookup other.toList [(name.toList, item)] =
        if other = name then some item else none := by
    rw [List.lookup_cons]
    by_cases same : other = name
    · simp [same]
    · have namesDiffer : (other.toList == name.toList) = false :=
        beq_false_of_ne fun equal => same (String.toList_inj.mp equal)
      rw [namesDiffer, if_neg same]
      rfl
  simp [property, add, List.lookup_append, last]

theorem getString_createString
    {value : WxString}
    (noNul : NoNul value) :
    Json.getString (some (createString value)) [] = value := by
  rw [createString, cString_of_noNul noNul]
  rfl

theorem getStringArray_map
    {values : List WxString}
    (noNul : ∀ value ∈ values, NoNul value) :
    getStringArray (some (.array (values.map createString))) = values := by
  calc
    getStringArray (some (.array (values.map createString))) =
        values.map fun value =>
          Json.getString (some (createString value)) [] :=
      List.map_map
    _ = values.map id :=
      List.map_congr_left fun value valueIn =>
        getString_createString (noNul value valueIn)
    _ = values :=
      List.map_id values

/-- What an item codec gives back, the codec of a list gives back in order. -/
theorem readAll_map
    {α : Type*}
    {fresh : α}
    {from_ : Option Json → α → α}
    {to_ : α → Json}
    {items : List α}
    (fromTo : ∀ item ∈ items, from_ (some (to_ item)) fresh = item) :
    readAll fresh from_ (some (.array (items.map to_))) = items := by
  rw [readAll, Json.children, List.map_map]
  calc
    items.map ((fun json => from_ (some json) fresh) ∘ to_) =
        items.map id :=
      List.map_congr_left fromTo
    _ = items :=
      List.map_id items

/-! ## Parts -/

structure SourceFits (source : Source) : Prop where
  name : NoNul source.name
  path : NoNul source.path
  sourceReference : 0 ≤ source.sourceReference

/-- A member that is left out is read as the value it was left out for. -/
theorem sourceFrom_sourceTo
    {source : Source}
    (fits : SourceFits source)
    (used : Source) :
    sourceFrom (some (sourceTo source)) used = source := by
  have name := getString_createString fits.name
  have path := getString_createString fits.path
  have unreferenced :
      ¬0 < source.sourceReference → 0 = source.sourceReference :=
    fun notPositive =>
      Int.le_antisymm fits.sourceReference (Int.not_lt.mp notPositive)
  rcases source with ⟨sourceName, sourcePath, reference⟩
  by_cases pathEmpty : sourcePath = []
  all_goals by_cases referenced : 0 < reference
  all_goals
    simp_all [sourceFrom, sourceTo, addInteger, addString, getNumber]

structure StackFrame.Fits (frame : StackFrame) : Prop where
  name : NoNul frame.name
  source : SourceFits frame.source
  instructionPointerReference : NoNul frame.instructionPointerReference

theorem StackFrame.from_to
    {frame : StackFrame}
    (fits : frame.Fits)
    (used : StackFrame) :
    used.from_ (some frame.to_) = frame := by
  simp [StackFrame.from_, StackFrame.to_, addInteger, addString,
    getString_createString fits.name,
    getString_createString fits.instructionPointerReference,
    sourceFrom_sourceTo fits.source]

structure Breakpoint.Fits (breakpoint : Breakpoint) : Prop where
  message : NoNul breakpoint.message
  source : SourceFits breakpoint.source

theorem Breakpoint.from_to
    {breakpoint : Breakpoint}
    (fits : breakpoint.Fits)
    (used : Breakpoint) :
    used.from_ (some breakpoint.to_) = breakpoint := by
  simp [Breakpoint.from_, Breakpoint.to_, addInteger, addString, addBool,
    getString_createString fits.message, sourceFrom_sourceTo fits.source]

structure Thread.Fits (thread : Thread) : Prop where
  name : NoNul thread.name

theorem Thread.from_to
    {thread : Thread}
    (fits : thread.Fits)
    (used : Thread) :
    used.from_ (some thread.to_) = thread := by
  simp [Thread.from_, Thread.to_, addInteger, addString,
    getString_createString fits.name]

structure VariablePresentationHint.Fits
    (hint : VariablePresentationHint) : Prop where
  kind : NoNul hint.kind
  attributes : ∀ value ∈ hint.attributes, NoNul value
  visibility : NoNul hint.visibility

theorem VariablePresentationHint.from_to
    {hint : VariablePresentationHint}
    (fits : hint.Fits)
    (used : VariablePresentationHint) :
    used.from_ (some hint.to_) = hint := by
  simp [VariablePresentationHint.from_, VariablePresentationHint.to_,
    addString, addStringArray, getString_createString fits.kind,
    getString_createString fits.visibility,
    getStringArray_map fits.attributes]

structure Variable.Fits (var : Variable) : Prop where
  name : NoNul var.name
  value : NoNul var.value
  type : NoNul var.type
  presentationHint : var.presentationHint.Fits

theorem Variable.from_to
    {var : Variable}
    (fits : var.Fits)
    (used : Variable) :
    used.from_ (some var.to_) = var := by
  simp [Variable.from_, Variable.to_, addInteger, addString,
    getString_createString fits.name, getString_createString fits.value,
    getString_createString fits.type,
    VariablePresentationHint.from_to fits.presentationHint]

structure Scope.Fits (scope : Scope) : Prop where
  name : NoNul scope.name

theorem Scope.from_to
    {scope : Scope}
    (fits : scope.Fits)
    (used : Scope) :
    used.from_ (some scope.to_) = scope := by
  simp [Scope.from_, Scope.to_, addInteger, addString, addBool,
    getString_createString fits.name]

/-! ## Messages with a body -/

structure Request.Fits (request : Request) : Prop where
  type : NoNul request.type
  command : NoNul request.command

instance (request : Request) : Decidable request.Fits :=
  decidable_of_iff (NoNul request.type ∧ NoNul request.command)
    ⟨fun ⟨type, command⟩ => ⟨type, command⟩,
      fun fits => ⟨fits.type, fits.command⟩⟩

@[simp]
theorem Request.property_arguments (request : Request) (arguments : Json) :
    property (some (add "arguments" arguments request.to_)) "arguments" =
      some arguments := by
  simp [Request.to_, ProtocolMessage.to_, addInteger, addString]

/-- The arguments do not hide a member of the request. -/
theorem Request.from_to_iff
    (request used : Request)
    (arguments : Json) :
    used.from_ (some (add "arguments" arguments request.to_)) = request ↔
      request.Fits := by
  have back :
      used.from_ (some (add "arguments" arguments request.to_)) =
        { seq := request.seq
          type := cString request.type
          command := cString request.command } := by
    simp [Request.from_, Request.to_, ProtocolMessage.from_,
      ProtocolMessage.to_, addInteger, addString, getNumber, createString]
  rw [back]
  constructor
  · intro same
    have sameType := congrArg (fun request => request.type) same
    have sameCommand := congrArg Request.command same
    exact ⟨(cString_eq_iff _).mp sameType, (cString_eq_iff _).mp sameCommand⟩
  · intro fits
    rw [cString_of_noNul fits.type, cString_of_noNul fits.command]

theorem Request.from_to
    {request : Request}
    (fits : request.Fits)
    (used : Request)
    (arguments : Json) :
    used.from_ (some (add "arguments" arguments request.to_)) = request :=
  (Request.from_to_iff request used arguments).mpr fits

structure Event.Fits (event : Event) : Prop where
  type : NoNul event.type
  event : NoNul event.event

@[simp]
theorem Event.property_body (event : Event) (body : Json) :
    property (some (add "body" body event.to_)) "body" = some body := by
  simp [Event.to_, ProtocolMessage.to_, addInteger, addString]

/-- The body does not hide a member of the event. -/
theorem Event.from_to
    {event : Event}
    (fits : event.Fits)
    (used : Event)
    (body : Json) :
    used.from_ (some (add "body" body event.to_)) = event := by
  simp [Event.from_, Event.to_, ProtocolMessage.from_, ProtocolMessage.to_,
    addInteger, addString, getNumber, getString_createString fits.type,
    getString_createString fits.event]

structure Response.Fits (response : Response) : Prop where
  type : NoNul response.type
  command : NoNul response.command
  message : NoNul response.message

@[simp]
theorem Response.property_body (response : Response) (body : Json) :
    property (some (add "body" body response.to_)) "body" = some body := by
  simp [Response.to_, ProtocolMessage.to_, addInteger, addString, addBool]

/-- Only a response that fits is read back as it was. -/
theorem Response.from_to_iff
    (response used : Response)
    (body : Json) :
    used.from_ (some (add "body" body response.to_)) = response ↔
      response.Fits := by
  have back :
      used.from_ (some (add "body" body response.to_)) =
        { seq := response.seq
          type := cString response.type
          requestSeq := response.requestSeq
          success := response.success
          command := cString response.command
          message := cString response.message } := by
    simp [Response.from_, Response.to_, ProtocolMessage.from_,
      ProtocolMessage.to_, addInteger, addString, addBool, getNumber,
      createString]
  rw [back]
  constructor
  · intro same
    have sameType := congrArg (fun response => response.type) same
    have sameCommand := congrArg Response.command same
    have sameMessage := congrArg Response.message same
    exact ⟨(cString_eq_iff _).mp sameType, (cString_eq_iff _).mp sameCommand,
      (cString_eq_iff _).mp sameMessage⟩
  · intro fits
    rw [cString_of_noNul fits.type, cString_of_noNul fits.command,
      cString_of_noNul fits.message]

/-- The body does not hide a member of the response. -/
theorem Response.from_to
    {response : Response}
    (fits : response.Fits)
    (used : Response)
    (body : Json) :
    used.from_ (some (add "body" body response.to_)) = response :=
  (Response.from_to_iff response used body).mpr fits

/-! ## Replies -/

theorem StackTraceResponse.from_to
    {response : StackTraceResponse}
    (fits : response.toResponse.Fits)
    (frames : ∀ frame ∈ response.stackFrames, frame.Fits)
    (used : StackTraceResponse) :
    used.from_ (some response.to_) =
      { response with refId := used.refId } := by
  have items :=
    readAll_map fun frame frameIn =>
      StackFrame.from_to (frames frame frameIn) StackFrame.fresh
  simp [StackTraceResponse.from_, StackTraceResponse.to_,
    Response.from_to fits, items]

/-- Scopes that are read into a used object come after the ones there. -/
theorem ScopesResponse.from_to
    {response : ScopesResponse}
    (fits : response.toResponse.Fits)
    (scopes : ∀ scope ∈ response.scopes, scope.Fits)
    (used : ScopesResponse) :
    used.from_ (some response.to_) =
      { response with
        scopes := used.scopes ++ response.scopes
        refId := used.refId } := by
  have items :=
    readAll_map fun scope scopeIn =>
      Scope.from_to (scopes scope scopeIn) Scope.fresh
  simp [ScopesResponse.from_, ScopesResponse.to_, Response.from_to fits,
    items]

/-- Variables that are read into a used object come after the ones there. -/
theorem VariablesResponse.from_to
    {response : VariablesResponse}
    (fits : response.toResponse.Fits)
    (vars : ∀ var ∈ response.vars, var.Fits)
    (used : VariablesResponse) :
    used.from_ (some response.to_) =
      { response with
        vars := used.vars ++ response.vars
        refId := used.refId
        context := used.context } := by
  have items :=
    readAll_map fun var varIn =>
      Variable.from_to (vars var varIn) Variable.fresh
  simp [VariablesResponse.from_, VariablesResponse.to_,
    Response.from_to fits, items]

theorem ThreadsResponse.from_to
    {response : ThreadsResponse}
    (fits : response.toResponse.Fits)
    (threads : ∀ thread ∈ response.threads, thread.Fits)
    (used : ThreadsResponse) :
    used.from_ (some response.to_) = response := by
  have items :=
    readAll_map fun thread threadIn =>
      Thread.from_to (threads thread threadIn) Thread.fresh
  simp [ThreadsResponse.from_, ThreadsResponse.to_, Response.from_to fits,
    items]

theorem SetBreakpointsResponse.from_to
    {response : SetBreakpointsResponse}
    (fits : response.toResponse.Fits)
    (breakpoints : ∀ breakpoint ∈ response.breakpoints, breakpoint.Fits)
    (used : SetBreakpointsResponse) :
    used.from_ (some response.to_) =
      { response with originSource := used.originSource } := by
  have items :=
    readAll_map fun breakpoint breakpointIn =>
      Breakpoint.from_to (breakpoints breakpoint breakpointIn)
        Breakpoint.fresh
  simp [SetBreakpointsResponse.from_, SetBreakpointsResponse.to_,
    Response.from_to fits, items]

theorem BreakpointEvent.from_to
    {event : BreakpointEvent}
    (fits : event.toEvent.Fits)
    (reason : NoNul event.reason)
    (breakpoint : event.breakpoint.Fits)
    (used : BreakpointEvent) :
    used.from_ (some event.to_) = event := by
  simp [BreakpointEvent.from_, BreakpointEvent.to_, addString,
    Event.from_to fits, getString_createString reason,
    Breakpoint.from_to breakpoint]

theorem EvaluateResponse.from_to
    {response : EvaluateResponse}
    (fits : response.toResponse.Fits)
    (result : NoNul response.result)
    (resultType : NoNul response.resultType)
    (used : EvaluateResponse) :
    used.from_ (some response.to_) = response := by
  simp [EvaluateResponse.from_, EvaluateResponse.to_, addString, addInteger,
    getNumber, Response.from_to fits, getString_createString result,
    getString_createString resultType]

theorem SourceResponse.from_to
    {response : SourceResponse}
    (fits : response.toResponse.Fits)
    (content : NoNul response.content)
    (mimeType : NoNul response.mimeType)
    (used : SourceResponse) :
    used.from_ (some response.to_) = response := by
  simp [SourceResponse.from_, SourceResponse.to_, addString,
    Response.from_to fits, getString_createString content,
    getString_createString mimeType]

theorem ReadMemoryResponse.from_to
    {response : ReadMemoryResponse}
    (fits : response.toResponse.Fits)
    (address : NoNul response.address)
    (data : NoNul response.data)
    (used : ReadMemoryResponse) :
    used.from_ (some response.to_) = response := by
  simp [ReadMemoryResponse.from_, ReadMemoryResponse.to_, addString,
    addInteger, Response.from_to fits, getString_createString address,
    getString_createString data]

/-! ## The nested replies as one kind -/

/-- A reply of one of the nested classes. -/
inductive NestedReply where
  | stackTrace (response : StackTraceResponse)
  | scopes (response : ScopesResponse)
  | vars (response : VariablesResponse)
  | threads (response : ThreadsResponse)
  | setBreakpoints (response : SetBreakpointsResponse)
  | breakpoint (event : BreakpointEvent)
  | evaluate (response : EvaluateResponse)
  | source (response : SourceResponse)
  | readMemory (response : ReadMemoryResponse)
  deriving DecidableEq, Repr

namespace NestedReply

def to_ : NestedReply → Json
  | stackTrace response => response.to_
  | scopes response => response.to_
  | vars response => response.to_
  | threads response => response.to_
  | setBreakpoints response => response.to_
  | breakpoint event => event.to_
  | evaluate response => response.to_
  | source response => response.to_
  | readMemory response => response.to_

/-- A new object of the class. -/
def fresh : NestedReply → NestedReply
  | stackTrace _ => .stackTrace .fresh
  | scopes _ => .scopes .fresh
  | vars _ => .vars .fresh
  | threads _ => .threads .fresh
  | setBreakpoints _ => .setBreakpoints .fresh
  | breakpoint _ => .breakpoint .fresh
  | evaluate _ => .evaluate .fresh
  | source _ => .source .fresh
  | readMemory _ => .readMemory .fresh

def from_ (json : Option Json) : NestedReply → NestedReply
  | stackTrace response => .stackTrace (response.from_ json)
  | scopes response => .scopes (response.from_ json)
  | vars response => .vars (response.from_ json)
  | threads response => .threads (response.from_ json)
  | setBreakpoints response => .setBreakpoints (response.from_ json)
  | breakpoint event => .breakpoint (event.from_ json)
  | evaluate response => .evaluate (response.from_ json)
  | source response => .source (response.from_ json)
  | readMemory response => .readMemory (response.from_ json)

/-- The reply with the members that `To` leaves out as in a new one. -/
def serialised : NestedReply → NestedReply
  | stackTrace response => .stackTrace { response with refId := -1 }
  | scopes response => .scopes { response with refId := -1 }
  | vars response =>
      .vars { response with refId := -1, context := .variables }
  | setBreakpoints response =>
      .setBreakpoints { response with originSource := [] }
  | reply => reply

/-- No text of the reply has a NUL, and no source reference is negative. -/
def Fits : NestedReply → Prop
  | stackTrace response =>
      response.toResponse.Fits ∧
        ∀ frame ∈ response.stackFrames, frame.Fits
  | scopes response =>
      response.toResponse.Fits ∧ ∀ scope ∈ response.scopes, scope.Fits
  | vars response =>
      response.toResponse.Fits ∧ ∀ var ∈ response.vars, var.Fits
  | threads response =>
      response.toResponse.Fits ∧ ∀ thread ∈ response.threads, thread.Fits
  | setBreakpoints response =>
      response.toResponse.Fits ∧
        ∀ breakpoint ∈ response.breakpoints, breakpoint.Fits
  | breakpoint event =>
      event.toEvent.Fits ∧ NoNul event.reason ∧ event.breakpoint.Fits
  | evaluate response =>
      response.toResponse.Fits ∧
        NoNul response.result ∧ NoNul response.resultType
  | source response =>
      response.toResponse.Fits ∧
        NoNul response.content ∧ NoNul response.mimeType
  | readMemory response =>
      response.toResponse.Fits ∧
        NoNul response.address ∧ NoNul response.data

/-- Every nested reply comes back from its own tree. -/
theorem from_to_fresh
    (reply : NestedReply)
    (fits : reply.Fits) :
    reply.fresh.from_ (some reply.to_) = reply.serialised := by
  cases reply with
  | stackTrace response =>
      have back :=
        StackTraceResponse.from_to fits.1 fits.2 StackTraceResponse.fresh
      exact congrArg stackTrace back
  | scopes response =>
      have back := ScopesResponse.from_to fits.1 fits.2 ScopesResponse.fresh
      exact congrArg scopes back
  | vars response =>
      have back :=
        VariablesResponse.from_to fits.1 fits.2 VariablesResponse.fresh
      exact congrArg vars back
  | threads response =>
      have back :=
        ThreadsResponse.from_to fits.1 fits.2 ThreadsResponse.fresh
      exact congrArg threads back
  | setBreakpoints response =>
      have back :=
        SetBreakpointsResponse.from_to fits.1 fits.2
          SetBreakpointsResponse.fresh
      exact congrArg setBreakpoints back
  | breakpoint event =>
      rcases fits with ⟨fits, reason, breakpointFits⟩
      have back :=
        BreakpointEvent.from_to fits reason breakpointFits
          BreakpointEvent.fresh
      exact congrArg breakpoint back
  | evaluate response =>
      rcases fits with ⟨fits, result, resultType⟩
      have back :=
        EvaluateResponse.from_to fits result resultType
          EvaluateResponse.fresh
      exact congrArg evaluate back
  | source response =>
      rcases fits with ⟨fits, content, mimeType⟩
      have back :=
        SourceResponse.from_to fits content mimeType SourceResponse.fresh
      exact congrArg source back
  | readMemory response =>
      rcases fits with ⟨fits, address, data⟩
      have back :=
        ReadMemoryResponse.from_to fits address data ReadMemoryResponse.fresh
      exact congrArg readMemory back

/-- A stopped frame in a source that is known by its reference only. -/
def referencedFrames : StackTraceResponse where
  toResponse := Response.fresh "stackTrace"
  stackFrames :=
    [{ id := 7
       name := "main".toList
       source := { name := "crt0".toList, path := [], sourceReference := 3 }
       line := -1
       instructionPointerReference := "0x401000".toList },
     StackFrame.fresh]
  refId := 4

theorem from_to_fresh_referencedFrames :
    (stackTrace referencedFrames).fresh.from_
        (some (stackTrace referencedFrames).to_) =
      .stackTrace { referencedFrames with refId := -1 } := by
  apply from_to_fresh (stackTrace referencedFrames)
  refine ⟨⟨by decide, by decide, by decide⟩, ?_⟩
  intro frame frameIn
  simp only [referencedFrames, List.mem_cons, List.not_mem_nil, or_false]
    at frameIn
  rcases frameIn with rfl | rfl
  · exact ⟨by decide, ⟨by decide, by decide, by decide⟩, by decide⟩
  · exact ⟨by decide, ⟨by decide, by decide, by decide⟩, by decide⟩

end NestedReply

end DebuggerDap.Protocol.Codecs
