import DebuggerDap.Protocol.NavigationCodecs

/-!
# Round trip of configuration and navigation

None of these messages comes back in general.  Where `From` reads nothing, or
reads other names, a member keeps the value of a new object or takes the
default of its getter, so it comes back if it had this value to begin with.
-/

namespace DebuggerDap.Protocol.Codecs

open DebuggerDap.Text.Strings
open DebuggerDap.Library.MachineInt
open DebuggerDap.Protocol.JsonTree
open DebuggerDap.Protocol.JsonText

/-! ## Parts -/

/-- The text of a node is never the text in it. -/
theorem printString_cString_ne (value : WxString) :
    printString (cString value) ≠ value := by
  intro same
  have noNul : NoNul value := same ▸ nul_not_mem_printString (cString value)
  rw [cString_of_noNul noNul] at same
  have longer := length_lt_printString value
  rw [same] at longer
  exact Nat.lt_irrefl _ longer

@[simp]
theorem property_none (name : String) : property none name = none :=
  rfl

/-- An instruction of which there is only the address and the column. -/
def DisassembleInfo.Restorable (info : DisassembleInfo) : Prop :=
  NoNul info.address ∧
    info.instruction = [] ∧ info.instructionBytes = [] ∧
      info.line = -1 ∧ info.name = [] ∧ info.path = []

instance : DecidablePred DisassembleInfo.Restorable := fun info =>
  inferInstanceAs
    (Decidable
      (NoNul info.address ∧
        info.instruction = [] ∧ info.instructionBytes = [] ∧
          info.line = -1 ∧ info.name = [] ∧ info.path = []))

theorem DisassembleInfo.from_to_fresh_iff (info : DisassembleInfo) :
    DisassembleInfo.fresh.from_ (some info.to_) = info ↔
      info.Restorable := by
  have back :
      DisassembleInfo.fresh.from_ (some info.to_) =
        { address := cString info.address
          column := info.column
          instruction := []
          instructionBytes := []
          line := -1
          name := []
          path := [] } := by
    simp [DisassembleInfo.from_, DisassembleInfo.to_, addString, addInteger,
      createString]
  rw [back, DisassembleInfo.Restorable, ← cString_eq_iff]
  rcases info with
    ⟨address, column, instruction, instructionBytes, line, name, path⟩
  simp [eq_comm]

/-! ## Messages -/

section Messages

theorem CancelRequest.from_to_fresh_iff (request : CancelRequest) :
    CancelRequest.fresh.from_ (some request.to_) = request ↔
      request.toRequest.Fits ∧ request.requestId = -1 := by
  rcases request with ⟨header, requestId⟩
  rw [← Request.from_to_iff header CancelRequest.fresh.toRequest
    (createObject |> addInteger "requestId" requestId)]
  -- the arguments are an object, not a number
  have noNumber :
      Json.getInteger
          (some (createObject |> addInteger "requestId" requestId)) (-1) =
        -1 :=
    rfl
  simp [CancelRequest.from_, CancelRequest.to_, noNumber,
    eq_comm (a := requestId)]

variable {int : SignedRange}
variable {printDouble : Rat → WxString}

theorem SetExceptionBreakpointsRequest.from_to_fresh_iff
    (request : SetExceptionBreakpointsRequest) :
    SetExceptionBreakpointsRequest.fresh.from_ int printDouble
        (some request.to_) =
        request ↔
      request.toRequest.Fits ∧ request.filters = [] := by
  rcases request with ⟨header, filters⟩
  rw [← Request.from_to_iff header
    SetExceptionBreakpointsRequest.fresh.toRequest
    (createObject |> add "filters" (.array (filters.map createString)))]
  have texts :
      (filters.map fun filter => printString (cString filter)) = filters ↔
        filters = [] := by
    cases filters with
    | nil => simp
    | cons filter filters =>
        simp [printString_cString_ne]
  rw [← texts]
  simp [SetExceptionBreakpointsRequest.from_,
    SetExceptionBreakpointsRequest.to_, Json.children, Function.comp_def,
    createString, toString_, printValue_string]

/-- Reading the arguments changes nothing. -/
theorem DisassembleRequest.from_to_fresh_iff (request : DisassembleRequest) :
    DisassembleRequest.fresh.from_ (some request.to_) = request ↔
      request.toRequest.Fits ∧
        request.arguments = freshDisassembleArguments := by
  rcases request with ⟨header, arguments⟩
  rw [← Request.from_to_iff header DisassembleRequest.fresh.toRequest
    (disassembleArgumentsTo arguments)]
  simp [DisassembleRequest.from_, DisassembleRequest.to_,
    DisassembleRequest.fresh, disassembleArgumentsFrom, eq_comm]

theorem DisassembleResponse.from_to_fresh_iff
    (response : DisassembleResponse) :
    DisassembleResponse.fresh.from_ (some response.to_) = response ↔
      response.toResponse.Fits ∧
        ∀ info ∈ response.disassembleInfo, info.Restorable := by
  rcases response with ⟨header, disassembleInfo⟩
  have items :
      readAll DisassembleInfo.fresh DisassembleInfo.from_
          (some (.array (disassembleInfo.map DisassembleInfo.to_))) =
          disassembleInfo ↔
        ∀ info ∈ disassembleInfo, info.Restorable :=
    (readAll_map_iff disassembleInfo).trans
      (forall₂_congr fun info _ => DisassembleInfo.from_to_fresh_iff info)
  rw [← items, ← Response.from_to_iff header
    DisassembleResponse.fresh.toResponse
    (createObject
      |> add "instructions"
        (.array (disassembleInfo.map DisassembleInfo.to_)))]
  simp [DisassembleResponse.from_, DisassembleResponse.to_]

/-- Reading the arguments changes nothing. -/
theorem GotoRequest.from_to_fresh_iff (request : GotoRequest) :
    GotoRequest.fresh.from_ (some request.to_) = request ↔
      request.toRequest.Fits ∧ request.arguments = GotoArguments.fresh := by
  rcases request with ⟨header, arguments⟩
  rw [← Request.from_to_iff header GotoRequest.fresh.toRequest arguments.to_]
  simp [GotoRequest.from_, GotoRequest.to_, GotoRequest.fresh,
    GotoArguments.from_, eq_comm]

/-- Reading the arguments changes nothing. -/
theorem GotoTargetsRequest.from_to_fresh_iff (request : GotoTargetsRequest) :
    GotoTargetsRequest.fresh.from_ (some request.to_) = request ↔
      request.toRequest.Fits ∧
        request.arguments = GotoTargetsArguments.fresh := by
  rcases request with ⟨header, arguments⟩
  rw [← Request.from_to_iff header GotoTargetsRequest.fresh.toRequest
    arguments.to_]
  simp [GotoTargetsRequest.from_, GotoTargetsRequest.to_,
    GotoTargetsRequest.fresh, GotoTargetsArguments.from_, eq_comm]

/-- Where the targets are looked for there are none. -/
theorem GotoTargetsResponse.from_to_fresh_iff
    (response : GotoTargetsResponse) :
    GotoTargetsResponse.fresh.from_ (some response.to_) = response ↔
      response.toResponse.Fits ∧ response.gotoTargetsInfo = [] := by
  rcases response with ⟨header, gotoTargetsInfo⟩
  rw [← Response.from_to_iff header GotoTargetsResponse.fresh.toResponse
    (createObject
      |> add "gotoTargets"
        (.array (gotoTargetsInfo.map GotoTargetsInfo.to_)))]
  simp [GotoTargetsResponse.from_, GotoTargetsResponse.to_, readAll,
    Json.children, eq_comm]

end Messages

/-! ## The messages as one kind -/

/-- A message of configuration or navigation. -/
inductive NavigationMessage where
  | cancel (request : CancelRequest)
  | setExceptionBreakpoints (request : SetExceptionBreakpointsRequest)
  | disassemble (request : DisassembleRequest)
  | disassembled (response : DisassembleResponse)
  | goto (request : GotoRequest)
  | gotoTargets (request : GotoTargetsRequest)
  | gotoTargetsFound (response : GotoTargetsResponse)
  deriving DecidableEq, Repr

namespace NavigationMessage

def to_ : NavigationMessage → Json
  | cancel request => request.to_
  | setExceptionBreakpoints request => request.to_
  | disassemble request => request.to_
  | disassembled response => response.to_
  | goto request => request.to_
  | gotoTargets request => request.to_
  | gotoTargetsFound response => response.to_

/-- A new object of the class. -/
def fresh : NavigationMessage → NavigationMessage
  | cancel _ => .cancel .fresh
  | setExceptionBreakpoints _ => .setExceptionBreakpoints .fresh
  | disassemble _ => .disassemble .fresh
  | disassembled _ => .disassembled .fresh
  | goto _ => .goto .fresh
  | gotoTargets _ => .gotoTargets .fresh
  | gotoTargetsFound _ => .gotoTargetsFound .fresh

def from_
    (int : SignedRange)
    (printDouble : Rat → WxString)
    (json : Option Json) : NavigationMessage → NavigationMessage
  | cancel request => .cancel (request.from_ json)
  | setExceptionBreakpoints request =>
      .setExceptionBreakpoints (request.from_ int printDouble json)
  | disassemble request => .disassemble (request.from_ json)
  | disassembled response => .disassembled (response.from_ json)
  | goto request => .goto (request.from_ json)
  | gotoTargets request => .gotoTargets (request.from_ json)
  | gotoTargetsFound response => .gotoTargetsFound (response.from_ json)

/-- No text of the header has a NUL. -/
def HeaderFits : NavigationMessage → Prop
  | cancel request => request.toRequest.Fits
  | setExceptionBreakpoints request => request.toRequest.Fits
  | disassemble request => request.toRequest.Fits
  | disassembled response => response.toResponse.Fits
  | goto request => request.toRequest.Fits
  | gotoTargets request => request.toRequest.Fits
  | gotoTargetsFound response => response.toResponse.Fits

/-- What `From` does not read has the value of a new object. -/
def Unset : NavigationMessage → Prop
  | cancel request => request.requestId = -1
  | setExceptionBreakpoints request => request.filters = []
  | disassemble request => request.arguments = freshDisassembleArguments
  | disassembled response =>
      ∀ info ∈ response.disassembleInfo, info.Restorable
  | goto request => request.arguments = GotoArguments.fresh
  | gotoTargets request => request.arguments = GotoTargetsArguments.fresh
  | gotoTargetsFound response => response.gotoTargetsInfo = []

/-- A message comes back exactly if there was nothing in it to lose. -/
theorem navigation_from_to_iff
    (int : SignedRange)
    (printDouble : Rat → WxString)
    (message : NavigationMessage) :
    message.fresh.from_ int printDouble (some message.to_) = message ↔
      message.HeaderFits ∧ message.Unset := by
  cases message with
  | cancel request =>
      rw [fresh, from_, to_, cancel.injEq]
      exact CancelRequest.from_to_fresh_iff request
  | setExceptionBreakpoints request =>
      rw [fresh, from_, to_, setExceptionBreakpoints.injEq]
      exact SetExceptionBreakpointsRequest.from_to_fresh_iff request
  | disassemble request =>
      rw [fresh, from_, to_, disassemble.injEq]
      exact DisassembleRequest.from_to_fresh_iff request
  | disassembled response =>
      rw [fresh, from_, to_, disassembled.injEq]
      exact DisassembleResponse.from_to_fresh_iff response
  | goto request =>
      rw [fresh, from_, to_, goto.injEq]
      exact GotoRequest.from_to_fresh_iff request
  | gotoTargets request =>
      rw [fresh, from_, to_, gotoTargets.injEq]
      exact GotoTargetsRequest.from_to_fresh_iff request
  | gotoTargetsFound response =>
      rw [fresh, from_, to_, gotoTargetsFound.injEq]
      exact GotoTargetsResponse.from_to_fresh_iff response

/-- A jump to the third target in the first thread. -/
def jump : GotoRequest :=
  { GotoRequest.fresh with
    seq := 20
    arguments := { threadId := 1, targetId := 3 } }

/-- The jump comes back without its thread and its target. -/
theorem from_to_fresh_jump :
    (goto jump).fresh.from_ ⟨2147483648, by decide⟩ (fun _ => [])
        (some (goto jump).to_) ≠
      goto jump := by
  show goto (GotoRequest.fresh.from_ (some jump.to_)) ≠ _
  decide

end NavigationMessage

end DebuggerDap.Protocol.Codecs
