import DebuggerDap.Plugin.SentRequests
import DebuggerDap.Text.Numbers

/-!
# The addresses of frames

The address of a frame comes as a text and goes back to the adapter as one.
Between the two it is an unsigned number of 64 bits, but it is read as a
signed one: where no number that fits is found, the address is whatever the
variable held that was to receive it.
-/

namespace DebuggerDap.Plugin.Addresses

open DebuggerDap.Text.Strings
open DebuggerDap.Text.Numbers
open DebuggerDap.Library.MachineInt
open DebuggerDap.Protocol.JsonTree
open DebuggerDap.Protocol.Messages
open DebuggerDap.DapClient.State
open DebuggerDap.Plugin.Lifecycle (Debugger)
open DebuggerDap.Plugin.Backtrace
open DebuggerDap.Plugin.ActiveFrame (plainSetup)
open DebuggerDap.Plugin.Sessions
open DebuggerDap.Plugin.SentRequests

variable {κ : Type*}

/-! ## Reading an address -/

/-- The range of `long long`. -/
def longLong : SignedRange where
  half := 2 ^ 63
  room := by decide

/-- `HexStrToBinary`, given what its variable holds before it is set. -/
def hexStrToBinary (hexInt : Int64) (hexString : WxString) : Int64 :=
  let cleanHexString :=
    if "0x".toList <+: hexString then hexString.drop 2 else hexString
  Int64.ofInt (toLongLongHex longLong cleanHexString hexInt.toInt).2

/-- The setup that reads addresses so; `SetAddress` takes them unsigned. -/
def reading (hexInt : Int64) (setup : Setup) : Setup :=
  { setup with
    hexStrToBinary := fun text => (hexStrToBinary hexInt text).toUInt64 }

/-- The text is `0x` and hexadecimal digits of the address. -/
def Denotes (text : WxString) (address : UInt64) : Prop :=
  ∃ digits, text = '0' :: 'x' :: digits ∧ digits ≠ [] ∧
    (∀ ch ∈ digits, isHexDigit ch = true) ∧
      hexNumber digits = address.toNat

/-- A printed address denotes itself. -/
theorem denotes_formatAddress (address : UInt64) :
    Denotes (Client.formatAddress address) address :=
  ⟨Nat.toDigits 16 address.toNat, rfl, Nat.toDigits_ne_nil,
    (hexNumber_toDigits address.toNat).2,
    (hexNumber_toDigits address.toNat).1⟩

theorem contains_longLong_iff (number : Nat) :
    longLong.Contains number ↔ number < 2 ^ 63 := by
  simp only [SignedRange.Contains, SignedRange.min, SignedRange.max, longLong]
  omega

/-- Only an address in the lower half is read. -/
theorem hexStrToBinary_of_denotes
    {text : WxString}
    {address : UInt64}
    (denotes : Denotes text address)
    (hexInt : Int64) :
    (hexStrToBinary hexInt text).toUInt64 =
      if address.toNat < 2 ^ 63 then address else hexInt.toUInt64 := by
  rcases denotes with ⟨digits, rfl, nonempty, hexadecimal, number⟩
  have clean :
      (if "0x".toList <+: '0' :: 'x' :: digits then
        ('0' :: 'x' :: digits).drop 2
      else '0' :: 'x' :: digits) = digits :=
    if_pos (List.prefix_append ['0', 'x'] digits)
  rw [hexStrToBinary, clean, toLongLongHex_of_hexDigits nonempty hexadecimal]
  simp only [contains_longLong_iff, number]
  split
  · exact UInt64.ofNat_toNat
  · exact congrArg Int64.toUInt64 (Int64.ofInt_toInt hexInt)

/-! ## Between a reply and a request -/

/-- `OnStackTrace` has stored the address for a frame. -/
def Stores
    (setup : Setup)
    (stack : CallStack)
    (index : Nat)
    (address : UInt64) : Prop :=
  ∃ frame, stack.getStackFrame index = some frame ∧
    setup.hexStrToBinary frame.instructionPointerReference = address

/-- `RequestUpdate(Disassembly)` asks for the instructions at the address. -/
def Requests
    (setup : Setup)
    (session : Session κ)
    (address : UInt64) : Prop :=
  ∃ next memoryReference,
    session.requestUpdate setup (.disassembly true) = some next ∧
      Sends
        [.disassemble
          { memoryReference := memoryReference
            offset := 0
            instructionOffset := 0
            instructionCount := 16
            resolveSymbols := true }]
        session next ∧
      Denotes memoryReference address

/-- A frame of the call stack is active while the debuggee stands. -/
structure Selected
    (stack : CallStack)
    (index : Nat)
    (session : Session κ) : Prop where
  backtrace : session.callStack.backtrace = stack.backtrace
  active : session.callStack.getActiveStackFrame = index
  stands : session.runningAndStopped = true
  linked : Linked session

section Survival

variable
  {setup : Setup}
  {stack shown : CallStack}
  {index : Nat}
  {frame : StackFrame}
  {session : Session κ}
  {address : UInt64}

/-- The address that is asked for is the one that was stored. -/
theorem requests_of_stores
    (stored : Stores setup shown index address)
    (selected : Selected shown index session) :
    Requests setup session address := by
  rcases stored with ⟨frame, found, read⟩
  have looked :
      session.callStack.getStackFrame
        session.callStack.getActiveStackFrame = some frame := by
    rw [selected.active, ← found, CallStack.getStackFrame,
      CallStack.getStackFrame, selected.backtrace]
  have active : ¬ session.callStack.getActiveStackFrame < 0 := by
    rw [selected.active]
    omega
  refine ⟨session.perform setup (.getDisassemble address 0 0 16),
    Client.formatAddress address, ?_, sends_request selected.linked rfl,
    denotes_formatAddress address⟩
  rw [Session.requestUpdate, if_neg (by simp [selected.stands])]
  simp only [Session.withActiveFrame, Bool.true_eq_false, if_false]
  rw [if_neg active, looked, Option.map_some, read]

/-- What is stored for a frame of a reply is read from its text. -/
theorem stores_iff
    {display : CallStack.Display}
    {json : Json}
    (received : stack.onStackTrace display (stackFrames json) = some shown)
    (entry : (stackFrames json)[index]? = some frame) :
    Stores setup shown index address ↔
      setup.hexStrToBinary frame.instructionPointerReference = address := by
  have found : shown.getStackFrame index = some frame := by
    rw [CallStack.getStackFrame, CallStack.backtrace_onStackTrace received,
      if_pos (Int.natCast_nonneg index), Int.toNat_natCast, entry]
  constructor
  · rintro ⟨other, same, read⟩
    cases found.symm.trans same
    exact read
  · intro read
    exact ⟨frame, found, read⟩

/--
Whatever the variable of `HexStrToBinary` holds, an address comes through a
reply and back to the adapter, if and only if it is in the lower half.
-/
theorem address_survives_iff
    {display : CallStack.Display}
    {json : Json}
    (received : stack.onStackTrace display (stackFrames json) = some shown)
    (entry : (stackFrames json)[index]? = some frame)
    (selected : Selected shown index session)
    (denotes : Denotes frame.instructionPointerReference address) :
    (∀ hexInt,
      Stores (reading hexInt setup) shown index address ∧
        Requests (reading hexInt setup) session address) ↔
      address.toNat < 2 ^ 63 := by
  have stored : ∀ hexInt,
      Stores (reading hexInt setup) shown index address ↔
        (if address.toNat < 2 ^ 63 then address else hexInt.toUInt64) =
          address := by
    intro hexInt
    rw [stores_iff received entry, ← hexStrToBinary_of_denotes denotes hexInt]
    exact Iff.rfl
  constructor
  · intro survives
    by_contra upper
    have zero := (stored 0).mp (survives 0).1
    rw [if_neg upper] at zero
    rw [← zero] at upper
    exact upper (by decide)
  · intro lower hexInt
    have here := (stored hexInt).mpr (if_pos lower)
    exact ⟨here, requests_of_stores here selected⟩

end Survival

/-! ## The upper half -/

/-- A stack trace reply with one frame at an address. -/
def frameAt (address : WxString) : Json :=
  responseTree .stackTrace 3 true
    [("stackFrames".toList,
      .array
        [.object [("instructionPointerReference".toList,
          .string address)]])]

/-- The call stack of a plugin that has got the reply. -/
def stackAt (address : WxString) : CallStack :=
  { CallStack.new with
    currentFrame := CallStack.new.currentFrame.setFrame 0
    backtrace := stackFrames (frameAt address) }

/-- A session that stands at the frame. -/
def standingAt (address : WxString) : Session Unit :=
  { Session.new Unit with
    debugger :=
      { Debugger.new Unit with
        state :=
          (((Debugger.new Unit).state.addState .connected).addState
            .running).addState .stopped
        client := (Client.new Unit).setTransport 0 }
    callStack := stackAt address }

/-- What the plugin makes of the reply. -/
theorem onStackTrace_frameAt (address : WxString) :
    CallStack.new.onStackTrace ⟨true, true, false⟩
        (stackFrames (frameAt address)) =
      some (stackAt address) :=
  rfl

theorem selected_standingAt (address : WxString) :
    Selected (stackAt address) 0 (standingAt address) :=
  ⟨rfl, rfl, rfl, rfl⟩

/-- An address of the program, which comes back whatever the variable held. -/
theorem address_survives_user :
    Stores (reading 0 plainSetup) (stackAt "0x401136".toList) 0 0x401136 ∧
      Requests (reading 0 plainSetup) (standingAt "0x401136".toList)
        0x401136 :=
  (address_survives_iff (onStackTrace_frameAt "0x401136".toList) rfl
    (selected_standingAt "0x401136".toList)
    ⟨"401136".toList, rfl, by decide, List.all_eq_true.mp rfl, by decide⟩).mpr
    (by decide) 0

/-- An address of the kernel; the variable happens to hold 0. -/
theorem kernelAddress_not_stored :
    ¬ Stores (reading 0 plainSetup) (stackAt "0xffffffff80000000".toList) 0
      0xffffffff80000000 := by
  rw [stores_iff (onStackTrace_frameAt "0xffffffff80000000".toList) rfl]
  decide

end DebuggerDap.Plugin.Addresses
