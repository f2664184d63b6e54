import DebuggerDap.Protocol.Messages

/-!
# The call stack of the plugin

`DBG_DAP_CallStack` keeps the frames of the last stack trace reply and the
frame that is selected.  The frames and the selection live in two objects; a
reply replaces the frames and keeps a frame the user has selected.

An operation that would index the frames out of range has no result.
-/

namespace DebuggerDap.Plugin.Backtrace

open DebuggerDap.Text.Strings
open DebuggerDap.Protocol.JsonTree
open DebuggerDap.Protocol.Messages

/-! ## Frames -/

/-- The members of `cbStackFrameXtn`; the address stays in its text. -/
structure StackFrame where
  number : Nat
  filename : WxString
  line : Int
  symbol : WxString
  dapStackId : Int
  instructionPointerReference : WxString
  deriving DecidableEq, Repr

/-- The frame made from an entry of the reply, with its position. -/
def stackFrame (entry : Json × Nat) : StackFrame :=
  let source := Json.child (some entry.1) "source".toList
  { number := entry.2
    filename := Json.getString (Json.child source "path".toList) []
    line := Json.getInteger (Json.child (some entry.1) "line".toList) (-1)
    symbol := Json.getString (Json.child (some entry.1) "name".toList) []
    dapStackId := Json.getInteger (Json.child (some entry.1) "id".toList) (-1)
    instructionPointerReference :=
      Json.getString
        (Json.child (some entry.1) "instructionPointerReference".toList) [] }

/-- The frames of a stack trace reply, which may have failed. -/
def stackFrames (json : Json) : List StackFrame :=
  (Json.children (messageBody json "stackFrames".toList)).zipIdx.map
    stackFrame

/-- Every frame carries its position. -/
theorem number_stackFrames
    {json : Json}
    {index : Nat}
    {frame : StackFrame}
    (found : (stackFrames json)[index]? = some frame) :
    frame.number = index := by
  rw [stackFrames, List.getElem?_map, List.getElem?_zipIdx] at found
  rcases Option.map_eq_some_iff.mp found with ⟨entry, among, rfl⟩
  rcases Option.map_eq_some_iff.mp among with ⟨node, -, rfl⟩
  exact Nat.zero_add index

/-! ## The selected frame -/

/-- The members of `DAPCurrentFrame` that are read. -/
structure CurrentFrame where
  stackFrame : Int
  userSelectedStackFrame : Int
  thread : Int
  deriving DecidableEq, Repr

namespace CurrentFrame

/-- The constructor. -/
def new : CurrentFrame :=
  ⟨-1, -1, -1⟩

def reset (current : CurrentFrame) : CurrentFrame :=
  { current with
    stackFrame := -1
    userSelectedStackFrame := -1 }

def dapSwitchToFrame (frameNumber : Int) (current : CurrentFrame) :
    CurrentFrame :=
  { current with
    stackFrame := frameNumber
    userSelectedStackFrame := frameNumber }

def setFrame (frameNumber : Int) (current : CurrentFrame) : CurrentFrame :=
  if 0 ≤ current.userSelectedStackFrame then
    { current with stackFrame := current.userSelectedStackFrame }
  else { current with stackFrame := frameNumber }

def setThreadId (threadId : Int) (current : CurrentFrame) : CurrentFrame :=
  { current with thread := threadId }

end CurrentFrame

/-! ## The call stack -/

/-- The members of `DBG_DAP_CallStack` that are read. -/
structure CallStack where
  currentFrame : CurrentFrame
  backtrace : List StackFrame
  oldActiveFrame : Int
  deriving DecidableEq, Repr

namespace CallStack

/-- The constructor. -/
def new : CallStack :=
  ⟨CurrentFrame.new, [], 0⟩

/-- `DAPDebuggerResetData`. -/
def resetData (stack : CallStack) : CallStack :=
  { stack with
    backtrace := []
    currentFrame := stack.currentFrame.reset }

def getStackFrameCount (stack : CallStack) : Nat :=
  stack.backtrace.length

/-- `m_backtrace[index]`, if the index is in range. -/
def getStackFrame (index : Int) (stack : CallStack) : Option StackFrame :=
  if 0 ≤ index then stack.backtrace[index.toNat]? else none

def getActiveStackFrame (stack : CallStack) : Int :=
  stack.currentFrame.stackFrame

/-- `SwitchToFrame` once the debugger is found running and stopped. -/
def switchToFrame (number : Int) (stack : CallStack) : Option CallStack :=
  if number < stack.getStackFrameCount then
    (stack.getStackFrame number).map fun _ =>
      { stack with currentFrame := stack.currentFrame.dapSwitchToFrame number }
  else some stack

/-- The part of `SwitchToThread` before the frames are requested. -/
def switchToThread (threadNumber : Int) (stack : CallStack) : CallStack :=
  { stack with
    currentFrame := stack.currentFrame.reset.setThreadId threadNumber }

/-- What `OnStackTrace` finds: the dialog, a flag and the debugger state. -/
structure Display where
  backtraceDialog : Bool
  autoSwitchFrame : Bool
  runningAndStopped : Bool
  deriving DecidableEq, Repr

/-- `m_first_valid`, as every frame is made valid. -/
def firstValid (frames : List StackFrame) : Int :=
  if frames.isEmpty then -1 else 0

/-- The frame `OnStackTrace` chooses. -/
def chosenFrame (display : Display) (stack : CallStack) : Int :=
  let frame := stack.currentFrame.userSelectedStackFrame
  let automatic :=
    if frame < 0 ∧ display.autoSwitchFrame = true then
      firstValid stack.backtrace
    else frame
  if automatic < 0 then 0 else automatic

def onStackTrace
    (display : Display)
    (frames : List StackFrame)
    (stack : CallStack) : Option CallStack :=
  let filled := { stack with backtrace := frames }
  if display.backtraceDialog = false ∨ frames.isEmpty then some filled
  else
    let frame := filled.chosenFrame display
    let chosen :=
      { filled with currentFrame := filled.currentFrame.setFrame frame }
    (chosen.getStackFrame frame).bind fun shown =>
      if chosen.oldActiveFrame ≠ shown.number ∧
          display.runningAndStopped = true then
        chosen.switchToFrame shown.number
      else some chosen

/-! ## When the selected frame is in range -/

/-- No frame is selected, or one of those shown. -/
def Valid (stack : CallStack) : Prop :=
  stack.getActiveStackFrame < 0 ∨
    stack.getActiveStackFrame < stack.getStackFrameCount

/-- A reply does not leave the selected frame behind. -/
def Fits
    (display : Display)
    (frames : List StackFrame)
    (stack : CallStack) : Prop :=
  if frames = [] then stack.getActiveStackFrame < 0
  else if display.backtraceDialog = true then
    stack.currentFrame.userSelectedStackFrame < frames.length
  else stack.getActiveStackFrame < frames.length

instance (display : Display) (frames : List StackFrame) (stack : CallStack) :
    Decidable (stack.Fits display frames) := by
  unfold Fits
  infer_instance

theorem valid_new : new.Valid :=
  Or.inl (by decide)

theorem minusOne_neg : (-1 : Int) < 0 := by
  decide

theorem valid_resetData (stack : CallStack) : stack.resetData.Valid :=
  Or.inl minusOne_neg

theorem valid_switchToThread (thread : Int) (stack : CallStack) :
    (stack.switchToThread thread).Valid :=
  Or.inl minusOne_neg

theorem getStackFrame_isSome (index : Int) (stack : CallStack) :
    (∃ frame, stack.getStackFrame index = some frame) ↔
      0 ≤ index ∧ index < stack.getStackFrameCount := by
  unfold getStackFrame getStackFrameCount
  by_cases negative : 0 ≤ index
  · rw [if_pos negative]
    constructor
    · rintro ⟨frame, found⟩
      have inside := (List.getElem?_eq_some_iff.mp found).1
      exact ⟨negative, by omega⟩
    · rintro ⟨-, inside⟩
      have bound : index.toNat < stack.backtrace.length := by omega
      exact ⟨stack.backtrace[index.toNat], List.getElem?_eq_getElem bound⟩
  · rw [if_neg negative]
    constructor
    · rintro ⟨frame, found⟩
      cases found
    · rintro ⟨nonnegative, -⟩
      exact absurd nonnegative negative

/-- A selected frame of a valid call stack can be looked up. -/
theorem Valid.getStackFrame
    {stack : CallStack}
    (valid : stack.Valid)
    (selected : ¬ stack.getActiveStackFrame < 0) :
    ∃ frame,
      stack.getStackFrame stack.getActiveStackFrame = some frame := by
  rcases valid with none | inside
  · exact absurd none selected
  · exact (getStackFrame_isSome _ stack).mpr ⟨Int.not_lt.mp selected, inside⟩

/-- A frame number that is not negative is looked up or ignored. -/
theorem switchToFrame_some
    {number : Int}
    {stack : CallStack}
    (nonnegative : 0 ≤ number) :
    ∃ next, stack.switchToFrame number = some next ∧
      (next = stack ∨
        number < stack.getStackFrameCount ∧
          next =
            { stack with
              currentFrame := stack.currentFrame.dapSwitchToFrame number }) := by
  unfold switchToFrame
  by_cases inside : number < stack.getStackFrameCount
  · rw [if_pos inside]
    rcases (getStackFrame_isSome number stack).mpr ⟨nonnegative, inside⟩ with
      ⟨frame, found⟩
    rw [found]
    exact ⟨_, rfl, Or.inr ⟨inside, rfl⟩⟩
  · rw [if_neg inside]
    exact ⟨stack, rfl, Or.inl rfl⟩

theorem valid_switchToFrame
    {number : Int}
    {stack : CallStack}
    (valid : stack.Valid)
    (nonnegative : 0 ≤ number) :
    ∃ next, stack.switchToFrame number = some next ∧ next.Valid := by
  rcases @switchToFrame_some number stack nonnegative with
    ⟨next, switched, rfl | ⟨inside, rfl⟩⟩
  · exact ⟨next, switched, valid⟩
  · exact ⟨_, switched, Or.inr inside⟩

/-- The only check is against the number of frames. -/
theorem switchToFrame_negative
    {number : Int}
    {stack : CallStack}
    (negative : number < 0) :
    stack.switchToFrame number = none := by
  have below : number < stack.getStackFrameCount := by
    have : (0 : Int) ≤ stack.getStackFrameCount := Int.natCast_nonneg _
    omega
  have absent : stack.getStackFrame number = none := if_neg (by omega)
  unfold switchToFrame
  rw [if_pos below, absent]
  rfl

theorem backtrace_switchToFrame
    {number : Int}
    {stack next : CallStack}
    (switched : stack.switchToFrame number = some next) :
    next.backtrace = stack.backtrace := by
  unfold switchToFrame at switched
  split at switched
  · rcases Option.map_eq_some_iff.mp switched with ⟨frame, -, rfl⟩
    rfl
  · cases switched
    rfl

/-- A reply replaces the frames, whatever it selects. -/
theorem backtrace_onStackTrace
    {display : Display}
    {frames : List StackFrame}
    {stack next : CallStack}
    (shown : stack.onStackTrace display frames = some next) :
    next.backtrace = frames := by
  unfold onStackTrace at shown
  dsimp only at shown
  split at shown
  · cases shown
    rfl
  · rcases Option.bind_eq_some_iff.mp shown with ⟨frame, -, chosen⟩
    split at chosen
    · exact backtrace_switchToFrame chosen
    · cases chosen
      rfl

/-- Without a selection of the user the first frame is chosen. -/
theorem chosenFrame_eq (display : Display) (stack : CallStack) :
    stack.chosenFrame display =
      max stack.currentFrame.userSelectedStackFrame 0 := by
  unfold chosenFrame firstValid
  dsimp only
  split
  · split <;> omega
  · omega

/-- The frame that is chosen is selected, whoever selected it. -/
theorem setFrame_chosen (display : Display) (stack : CallStack) :
    (stack.currentFrame.setFrame (stack.chosenFrame display)).stackFrame =
      max stack.currentFrame.userSelectedStackFrame 0 := by
  rw [chosenFrame_eq]
  unfold CurrentFrame.setFrame
  split
  · next selected =>
      show stack.currentFrame.userSelectedStackFrame = _
      omega
  · rfl

/--
A reply keeps the indices in range exactly when it fits the selection.
-/
theorem onStackTrace_valid_iff
    (display : Display)
    (frames : List StackFrame)
    (stack : CallStack) :
    (∃ next, stack.onStackTrace display frames = some next ∧ next.Valid) ↔
      stack.Fits display frames := by
  let filled : CallStack := { stack with backtrace := frames }
  unfold onStackTrace Fits
  by_cases empty : frames = []
  · rw [if_pos (Or.inr (List.isEmpty_iff.mpr empty)), if_pos empty]
    constructor
    · rintro ⟨next, result, valid⟩
      cases result
      rcases valid with none | inside
      · exact none
      · rw [getStackFrameCount, empty] at inside
        exact inside
    · exact fun none => ⟨filled, rfl, Or.inl none⟩
  · have some_ : 0 < frames.length := List.length_pos_iff.mpr empty
    rw [if_neg empty]
    cases dialog : display.backtraceDialog
    case false =>
      rw [if_pos (Or.inl rfl), if_neg Bool.false_ne_true]
      constructor
      · rintro ⟨next, result, valid⟩
        cases result
        rcases valid with none | inside
        · exact Int.lt_trans none (Int.natCast_pos.mpr some_)
        · exact inside
      · exact fun inside => ⟨filled, rfl, Or.inr inside⟩
    case true =>
      have shown : ¬ (true = false ∨ frames.isEmpty = true) := by
        simp [empty]
      rw [if_neg shown, if_pos rfl]
      let frame := filled.chosenFrame display
      have chosen : frame = max stack.currentFrame.userSelectedStackFrame 0 :=
        chosenFrame_eq display filled
      have selected :
          (filled.currentFrame.setFrame frame).stackFrame = frame := by
        rw [chosen]
        exact chosen ▸ setFrame_chosen display filled
      let moved : CallStack :=
        { filled with currentFrame := filled.currentFrame.setFrame frame }
      show (∃ next,
          ((moved.getStackFrame frame).bind fun shown =>
            if moved.oldActiveFrame ≠ shown.number ∧
                display.runningAndStopped = true then
              moved.switchToFrame shown.number
            else some moved) = some next ∧ next.Valid) ↔ _
      have inRange := getStackFrame_isSome frame moved
      constructor
      · rintro ⟨next, result, -⟩
        rcases Option.bind_eq_some_iff.mp result with ⟨shown, found, -⟩
        have inside : frame < frames.length := (inRange.mp ⟨shown, found⟩).2
        omega
      · intro inside
        have bound : frame < frames.length := by omega
        have active : moved.getActiveStackFrame = frame := selected
        have valid : moved.Valid := by
          refine Or.inr ?_
          rw [active]
          exact bound
        rcases inRange.mpr ⟨by omega, bound⟩ with ⟨shown, found⟩
        rw [found, Option.bind_some]
        split
        · exact valid_switchToFrame valid (Int.natCast_nonneg shown.number)
        · exact ⟨moved, rfl, valid⟩

end CallStack

end DebuggerDap.Plugin.Backtrace
