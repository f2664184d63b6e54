import DebuggerDap.Protocol.CodecRoundTrip

/-!
# The codecs of breakpoint locations

The client asks for the places in a range of lines where a breakpoint can be
set.  Both the arguments of the request and each location of the reply are
written under the names of their four coordinates.  They are read alike: the
line under the name `restart`, and the column twice instead of the last line.
Nothing is ever written under `restart`, so these two keep the value of a new
object.
-/

namespace DebuggerDap.Protocol.Codecs

open DebuggerDap.Text.Strings
open DebuggerDap.Protocol.JsonTree
open DebuggerDap.Protocol.Messages (Source)

/-! ## The coordinates -/

/-- The properties of a `BreakpointLocation`. -/
structure BreakpointLocation where
  line : Int
  column : Int
  endLine : Int
  endColumn : Int
  deriving DecidableEq, Repr

namespace BreakpointLocation

def fresh : BreakpointLocation where
  line := -1
  column := -1
  endLine := -1
  endColumn := -1

def to_ (location : BreakpointLocation) : Json :=
  createObject
    |> addInteger "line" location.line
    |> addInteger "column" location.column
    |> addInteger "endLine" location.endLine
    |> addInteger "endColumn" location.endColumn

/-- The column is read twice, and the last line is not. -/
def from_ (json : Option Json) (location : BreakpointLocation) :
    BreakpointLocation :=
  { location with
    line := Json.getInteger (property json "restart") location.line
    column := Json.getInteger (property json "column") location.column
    endColumn := Json.getInteger (property json "endColumn") location.endColumn }

end BreakpointLocation

structure BreakpointLocationsArguments where
  source : Source
  line : Int
  column : Int
  endLine : Int
  endColumn : Int
  deriving DecidableEq, Repr

namespace BreakpointLocationsArguments

def fresh : BreakpointLocationsArguments where
  source := freshSource
  line := -1
  column := -1
  endLine := -1
  endColumn := -1

def to_ (arguments : BreakpointLocationsArguments) : Json :=
  createObject
    |> add "source" (sourceTo arguments.source)
    |> addInteger "line" arguments.line
    |> addInteger "column" arguments.column
    |> addInteger "endLine" arguments.endLine
    |> addInteger "endColumn" arguments.endColumn

/-- The coordinates are read as those of a location. -/
def from_
    (json : Option Json)
    (arguments : BreakpointLocationsArguments) :
    BreakpointLocationsArguments :=
  { arguments with
    source := sourceFrom (property json "source") arguments.source
    line := Json.getInteger (property json "restart") arguments.line
    column := Json.getInteger (property json "column") arguments.column
    endColumn :=
      Json.getInteger (property json "endColumn") arguments.endColumn }

end BreakpointLocationsArguments

/-! ## Messages -/

structure BreakpointLocationsRequest extends Request where
  arguments : BreakpointLocationsArguments
  deriving DecidableEq, Repr

namespace BreakpointLocationsRequest

def fresh : BreakpointLocationsRequest where
  toRequest := Request.fresh "breakpointLocations"
  arguments := BreakpointLocationsArguments.fresh

def to_ (request : BreakpointLocationsRequest) : Json :=
  request.toRequest.to_
    |> add "arguments" request.arguments.to_

def from_ (json : Option Json) (request : BreakpointLocationsRequest) :
    BreakpointLocationsRequest :=
  { request with
    toRequest := request.toRequest.from_ json
    arguments := request.arguments.from_ (property json "arguments") }

end BreakpointLocationsRequest

/-- `filepath` is for the plugin and is not written. -/
structure BreakpointLocationsResponse extends Response where
  filepath : WxString
  breakpoints : List BreakpointLocation
  deriving DecidableEq, Repr

namespace BreakpointLocationsResponse

def fresh : BreakpointLocationsResponse where
  toResponse := Response.fresh "breakpointLocations"
  filepath := []
  breakpoints := []

def to_ (response : BreakpointLocationsResponse) : Json :=
  response.toResponse.to_
    |> add "body"
      (createObject
        |> add "breakpoints"
          (.array (response.breakpoints.map BreakpointLocation.to_)))

def from_ (json : Option Json) (response : BreakpointLocationsResponse) :
    BreakpointLocationsResponse :=
  let arr := property (property json "body") "breakpoints"
  { response with
    toResponse := response.toResponse.from_ json
    breakpoints :=
      readAll BreakpointLocation.fresh BreakpointLocation.from_ arr }

end BreakpointLocationsResponse

/-! ## What comes back -/

/-- A location comes back without its lines. -/
theorem BreakpointLocation.from_to (location used : BreakpointLocation) :
    used.from_ (some location.to_) =
      { location with
        line := used.line
        endLine := used.endLine } := by
  simp [BreakpointLocation.from_, BreakpointLocation.to_, addInteger]

theorem BreakpointLocation.from_to_fresh_iff (location : BreakpointLocation) :
    BreakpointLocation.fresh.from_ (some location.to_) = location ↔
      location.line = -1 ∧ location.endLine = -1 := by
  rw [BreakpointLocation.from_to]
  rcases location with ⟨line, column, endLine, endColumn⟩
  simp [BreakpointLocation.fresh, eq_comm]

/-- Exactly a source that fits comes back. -/
theorem sourceFrom_sourceTo_iff (source used : Source) :
    sourceFrom (some (sourceTo source)) used = source ↔
      SourceFits source := by
  constructor
  · intro same
    have name := congrArg Source.name same
    have path := congrArg Source.path same
    have reference := congrArg Source.sourceReference same
    rcases source with ⟨sourceName, sourcePath, sourceReference⟩
    refine ⟨?_, ?_, ?_⟩
    · refine (cString_eq_iff sourceName).mp ?_
      by_cases pathEmpty : sourcePath = []
      all_goals by_cases referenced : 0 < sourceReference
      all_goals
        simpa [sourceFrom, sourceTo, addInteger, addString, createString,
          pathEmpty, referenced] using name
    · by_cases pathEmpty : sourcePath = []
      · rw [pathEmpty]
        exact List.not_mem_nil
      · refine (cString_eq_iff sourcePath).mp ?_
        by_cases referenced : 0 < sourceReference
        all_goals
          simpa [sourceFrom, sourceTo, addInteger, addString, createString,
            pathEmpty, referenced] using path
    · by_cases referenced : 0 < sourceReference
      · exact Int.le_of_lt referenced
      · by_cases pathEmpty : sourcePath = []
        all_goals
          have zero : 0 = sourceReference := by
            simpa [sourceFrom, sourceTo, addString, getNumber, pathEmpty,
              referenced] using reference
          exact Int.le_of_eq zero
  · intro fits
    exact sourceFrom_sourceTo fits used

theorem BreakpointLocationsArguments.from_to_fresh_iff
    (arguments : BreakpointLocationsArguments) :
    BreakpointLocationsArguments.fresh.from_ (some arguments.to_) =
        arguments ↔
      SourceFits arguments.source ∧
        arguments.line = -1 ∧ arguments.endLine = -1 := by
  have back :
      BreakpointLocationsArguments.fresh.from_ (some arguments.to_) =
        { arguments with
          source := sourceFrom (some (sourceTo arguments.source)) freshSource
          line := -1
          endLine := -1 } := by
    simp [BreakpointLocationsArguments.from_,
      BreakpointLocationsArguments.to_, BreakpointLocationsArguments.fresh,
      addInteger]
  rw [back, ← sourceFrom_sourceTo_iff arguments.source freshSource]
  rcases arguments with ⟨source, line, column, endLine, endColumn⟩
  simp [eq_comm]

/-- A list of parts comes back if and only if each of its parts does. -/
theorem readAll_map_iff
    {α : Type*}
    {fresh : α}
    {from_ : Option Json → α → α}
    {to_ : α → Json}
    (items : List α) :
    readAll fresh from_ (some (.array (items.map to_))) = items ↔
      ∀ item ∈ items, from_ (some (to_ item)) fresh = item := by
  have read :
      readAll fresh from_ (some (.array (items.map to_))) =
        items.map fun item => from_ (some (to_ item)) fresh := by
    simp [readAll, Json.children]
  calc
    readAll fresh from_ (some (.array (items.map to_))) = items ↔
        (items.map fun item => from_ (some (to_ item)) fresh) =
          items.map id := by
      rw [read, List.map_id]
    _ ↔ ∀ item ∈ items, from_ (some (to_ item)) fresh = item :=
      List.map_inj_left

/--
The arguments of a request come back exactly if their source fits and neither
line is given, and the locations of a reply exactly if none has a line.
-/
theorem breakpointLocations_from_to_iff
    (request : BreakpointLocationsRequest)
    (response : BreakpointLocationsResponse) :
    ((BreakpointLocationsRequest.fresh.from_ (some request.to_)).arguments =
          request.arguments ↔
        SourceFits request.arguments.source ∧
          request.arguments.line = -1 ∧ request.arguments.endLine = -1) ∧
      ((BreakpointLocationsResponse.fresh.from_
            (some response.to_)).breakpoints =
          response.breakpoints ↔
        ∀ location ∈ response.breakpoints,
          location.line = -1 ∧ location.endLine = -1) := by
  constructor
  · have arguments :
        (BreakpointLocationsRequest.fresh.from_ (some request.to_)).arguments =
          BreakpointLocationsArguments.fresh.from_
            (some request.arguments.to_) := by
      simp [BreakpointLocationsRequest.from_, BreakpointLocationsRequest.to_,
        BreakpointLocationsRequest.fresh]
    rw [arguments]
    exact BreakpointLocationsArguments.from_to_fresh_iff request.arguments
  · have locations :
        (BreakpointLocationsResponse.fresh.from_
            (some response.to_)).breakpoints =
          readAll BreakpointLocation.fresh BreakpointLocation.from_
            (some (.array
              (response.breakpoints.map BreakpointLocation.to_))) := by
      simp [BreakpointLocationsResponse.from_, BreakpointLocationsResponse.to_]
    rw [locations, readAll_map_iff]
    exact forall₂_congr fun location _ =>
      BreakpointLocation.from_to_fresh_iff location

/-- The lines 10 to 20 of a file. -/
def tenLines : BreakpointLocationsRequest :=
  { BreakpointLocationsRequest.fresh with
    seq := 5
    arguments :=
      { BreakpointLocationsArguments.fresh with
        source := { freshSource with path := "main.cpp".toList }
        line := 10
        endLine := 20 } }

/-- A breakpoint can be set in line 12. -/
def oneLocation : BreakpointLocationsResponse :=
  { BreakpointLocationsResponse.fresh with
    breakpoints := [{ BreakpointLocation.fresh with line := 12 }] }

/-- The range and the location are lost, though the source comes back. -/
theorem breakpointLocations_from_to_false :
    SourceFits tenLines.arguments.source ∧
      (BreakpointLocationsRequest.fresh.from_
          (some tenLines.to_)).arguments ≠
        tenLines.arguments ∧
      (BreakpointLocationsResponse.fresh.from_
          (some oneLocation.to_)).breakpoints ≠
        oneLocation.breakpoints := by
  refine ⟨⟨by decide, by decide, by decide⟩, ?_, ?_⟩
  · decide
  · decide

end DebuggerDap.Protocol.Codecs
