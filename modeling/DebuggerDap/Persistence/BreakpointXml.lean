import DebuggerDap.Persistence.WatchXml

/-!
# A breakpoint and its record

The members of a breakpoint are written as texts and read by the helper for
their type.  An address is written in hexadecimal, padded to the width of the
machine: with zeros behind the `0x`, or with blanks in front of it.  The
`0x` is missing before zero.  `strtoull` reads all of these.
-/

namespace DebuggerDap.Persistence.BreakpointXml

open DebuggerDap.Text.Strings
open DebuggerDap.Text.Numbers
open DebuggerDap.Library.MachineInt
open DebuggerDap.Breakpoints.Store
open DebuggerDap.Persistence.StateFile
open DebuggerDap.Persistence.RoundTrip
open DebuggerDap.Persistence.WatchXml

/-! ## Loading -/

/-- A text that is no number leaves the variable as it was. -/
def readChildNodeHex
    (ide : Ide)
    (pElementParent : XmlElement)
    (childName : WxString) : Nat :=
  let value := readChildNodewxString pElementParent childName
  (toULongHex uint64 value (BitVec.ofInt 64 ide.indeterminate).toNat).2

/-- `SetType` by a name; another name changes nothing. -/
def setType (type : WxString) (current : BreakpointType) : BreakpointType :=
  if isSameAs type "bptCode".toList then .bptCode
  else if isSameAs type "bptFunction".toList then .bptFunction
  else if isSameAs type "bptData".toList then .bptData
  else current

/-- What becomes of a breakpoint that was loaded. -/
inductive Placement where
  | updateOrAddBreakpoint
      (filename : WxString)
      (line : Int)
      (enabled : Bool)
      (id : Int)
  /-- An editor that has the file open counts lines from zero. -/
  | addToEditor (line : Int)
  deriving DecidableEq, Repr

/-- A breakpoint, by all its members. -/
structure WholeBreakpoint where
  breakpoint : DapBreakpoint
  details : Details
  deriving DecidableEq, Repr

/-- The assignments of `LoadBreakpointFromXML`. -/
def readMembers
    (ide : Ide)
    (pElementBreakpoint : XmlElement)
    (before : WholeBreakpoint) : WholeBreakpoint where
  breakpoint :=
    { before.breakpoint with
      type :=
        setType (readChildNodewxString pElementBreakpoint "type".toList)
          before.breakpoint.type
      filename := readChildNodewxString pElementBreakpoint "filename".toList
      line := readChildNodeInt ide pElementBreakpoint "line".toList
      enabled := readChildNodeBool pElementBreakpoint "enabled".toList
      breakAddress :=
        readChildNodewxString pElementBreakpoint "breakAddress".toList }
  details :=
    { temporary := readChildNodeBool pElementBreakpoint "temporary".toList
      active := readChildNodeBool pElementBreakpoint "active".toList
      useIgnoreCount :=
        readChildNodeBool pElementBreakpoint "useIgnoreCount".toList
      ignoreCount :=
        readChildNodeInt ide pElementBreakpoint "ignoreCount".toList
      useCondition :=
        readChildNodeBool pElementBreakpoint "useCondition".toList
      wantsCondition :=
        readChildNodeBool pElementBreakpoint "wantsCondition".toList
      condition :=
        readChildNodewxString pElementBreakpoint "condition".toList
      function := readChildNodewxString pElementBreakpoint "function".toList
      address := readChildNodeHex ide pElementBreakpoint "address".toList
      alreadySet := readChildNodeBool pElementBreakpoint "alreadySet".toList
      lineText := readChildNodewxString pElementBreakpoint "lineText".toList
      breakOnRead :=
        readChildNodeBool pElementBreakpoint "breakOnRead".toList
      breakOnWrite :=
        readChildNodeBool pElementBreakpoint "breakOnWrite".toList }

/-- `LoadBreakpointFromXML`, given which files an editor has open. -/
def loadBreakpointFromXML
    (ide : Ide)
    (isBuiltinOpen : WxString → Bool)
    (pElementBreakpoint : XmlElement)
    (before : WholeBreakpoint) : WholeBreakpoint × Placement :=
  let loaded := readMembers ide pElementBreakpoint before
  (loaded,
    if isBuiltinOpen loaded.breakpoint.filename then
      .addToEditor (loaded.breakpoint.line - 1)
    else
      .updateOrAddBreakpoint loaded.breakpoint.filename
        loaded.breakpoint.line loaded.breakpoint.enabled (-1))

/-! ## The helpers -/

theorem setType_getTypewxString (type current : BreakpointType) :
    setType (getTypewxString type) current = type := by
  cases type
  · exact if_pos (by decide)
  · exact (if_neg (by decide)).trans (if_pos (by decide))
  · exact (if_neg (by decide)).trans
      ((if_neg (by decide)).trans (if_pos (by decide)))

/-- An `int` is read through a `long` that holds it. -/
theorem readChildNodeInt_of_written
    (element : XmlElement)
    {childName : WxString}
    {long : SignedRange}
    {value : Int}
    (ide : Ide)
    (wide : int.half ≤ long.half)
    (contains : int.Contains value)
    (written :
      readChildNodewxString element childName = intTowxString value) :
    readChildNodeInt (withLong long ide) element childName = value := by
  have inLong : long.Contains value := by
    simp only [SignedRange.Contains, SignedRange.min, SignedRange.max]
      at contains ⊢
    omega
  have read :=
    readChildNodeLong_of_written element long ide inLong written
  rw [readChildNodeInt, read]
  exact (toInt_ofInt_eq_iff value).mpr contains

/-! ## Addresses -/

/-- The digits of an address behind some zeros. -/
def padded (count address : Nat) : WxString :=
  List.replicate count '0' ++ Nat.toDigits 16 address

section Addresses

variable {address : Nat}

theorem padded_ne_nil (count : Nat) : padded count address ≠ [] := by
  simp [padded, Nat.toDigits_ne_nil]

theorem isHexDigit_of_mem_padded (count : Nat) :
    ∀ ch ∈ padded count address, isHexDigit ch = true := by
  intro ch member
  rcases List.mem_append.mp member with zero | digit
  · rw [List.eq_of_mem_replicate zero]
    decide
  · exact (hexNumber_toDigits address).2 ch digit

theorem hexNumber_padded (count : Nat) :
    hexNumber (padded count address) = address :=
  (hexNumber_zeros count _).trans (hexNumber_toDigits address).1

/-- Padded digits are read, with a mark in front and without. -/
theorem toULongHex_padded
    (fits : address < 2 ^ 64)
    (count value : Nat) :
    toULongHex uint64 (padded count address) value = (true, address) ∧
      toULongHex uint64 ('0' :: 'x' :: padded count address) value =
        (true, address) := by
  have paddedFits :
      hexNumber (padded count address) < 2 ^ uint64.bits := by
    rw [hexNumber_padded]
    exact fits
  have plain := toULongHex_of_hexDigits (padded_ne_nil count)
    (isHexDigit_of_mem_padded count) paddedFits value
  have marked := toULongHex_of_marked (padded_ne_nil count)
    (isHexDigit_of_mem_padded count) paddedFits value
  rw [hexNumber_padded] at plain marked
  exact ⟨plain, marked⟩

/-- An address is read as it was written, in either format. -/
theorem toULongHex_hexTowxString
    (bitness64 : Bool)
    (fits : address < 2 ^ 64)
    (value : Nat) :
    toULongHex uint64 (hexTowxString bitness64 address) value =
      (true, address) := by
  have blanks (count : Nat) :
      ∀ ch ∈ List.replicate count ' ', isSpace ch = true := by
    intro ch member
    rw [List.eq_of_mem_replicate member]
    rfl
  have read := fun count => toULongHex_padded fits count value
  by_cases zero : address = 0
  · cases bitness64 with
    | true =>
        rw [hexTowxString, if_pos zero, if_pos rfl]
        exact (read _).1
    | false =>
        rw [hexTowxString, if_pos zero, if_neg Bool.false_ne_true,
          List.append_nil, toULongHex_blank (blanks _)]
        exact (read 0).1
  · cases bitness64 with
    | true =>
        rw [hexTowxString, if_neg zero, if_pos rfl]
        exact (read _).2
    | false =>
        rw [hexTowxString, if_neg zero, if_neg Bool.false_ne_true,
          List.append_assoc, toULongHex_blank (blanks _)]
        exact (read 0).2

end Addresses

/-! ## The round trip -/

/-- Every member that is saved is the same in both breakpoints. -/
structure Restored (saved loaded : WholeBreakpoint) : Prop where
  type : loaded.breakpoint.type = saved.breakpoint.type
  filename : loaded.breakpoint.filename = saved.breakpoint.filename
  line : loaded.breakpoint.line = saved.breakpoint.line
  temporary : loaded.details.temporary = saved.details.temporary
  enabled : loaded.breakpoint.enabled = saved.breakpoint.enabled
  active : loaded.details.active = saved.details.active
  useIgnoreCount :
    loaded.details.useIgnoreCount = saved.details.useIgnoreCount
  ignoreCount : loaded.details.ignoreCount = saved.details.ignoreCount
  useCondition : loaded.details.useCondition = saved.details.useCondition
  wantsCondition :
    loaded.details.wantsCondition = saved.details.wantsCondition
  condition : loaded.details.condition = saved.details.condition
  function : loaded.details.function = saved.details.function
  address : loaded.details.address = saved.details.address
  alreadySet : loaded.details.alreadySet = saved.details.alreadySet
  lineText : loaded.details.lineText = saved.details.lineText
  breakAddress :
    loaded.breakpoint.breakAddress = saved.breakpoint.breakAddress
  breakOnRead : loaded.details.breakOnRead = saved.details.breakOnRead
  breakOnWrite : loaded.details.breakOnWrite = saved.details.breakOnWrite

/-- The numbers of a breakpoint are of their types. -/
structure WellTyped (saved : WholeBreakpoint) : Prop where
  line : int.Contains saved.breakpoint.line
  ignoreCount : int.Contains saved.details.ignoreCount
  address : saved.details.address < 2 ^ 64

section RoundTrip

variable
  (long : SignedRange)
  (ide : Ide)
  (isBuiltinOpen : WxString → Bool)
  (title : WxString)
  (saved before : WholeBreakpoint)

/--
A breakpoint comes back from its record, whatever the object it is loaded
into was before.
-/
theorem breakpoint_restored
    (wide : int.half ≤ long.half)
    (wellTyped : WellTyped saved) :
    Restored saved
      (loadBreakpointFromXML (withLong long ide) isBuiltinOpen
        (saveBreakpointToXML ide title saved.breakpoint saved.details)
        before).1 := by
  let record :=
    saveBreakpointToXML ide title saved.breakpoint saved.details
  have flag := fun childName value =>
    @readChildNodeBool_of_written record childName value
  have number := fun childName value =>
    @readChildNodeInt_of_written record childName long value ide wide
  have address :
      readChildNodeHex (withLong long ide) record "address".toList =
        saved.details.address := by
    have written :
        readChildNodewxString record "address".toList =
          hexTowxString ide.bitness64 saved.details.address :=
      readChildNodewxString_ofFields _ _ _
    rw [readChildNodeHex, written,
      toULongHex_hexTowxString ide.bitness64 wellTyped.address]
  exact
    { type :=
        (congrArg (setType · before.breakpoint.type)
          (readChildNodewxString_ofFields _ "type".toList _)).trans
          (setType_getTypewxString _ _)
      filename :=
        show readChildNodewxString record "filename".toList = _ from
          readChildNodewxString_ofFields _ _ _
      line :=
        number "line".toList _ wellTyped.line
          (readChildNodewxString_ofFields _ _ _)
      temporary :=
        flag "temporary".toList _ (readChildNodewxString_ofFields _ _ _)
      enabled :=
        flag "enabled".toList _ (readChildNodewxString_ofFields _ _ _)
      active :=
        flag "active".toList _ (readChildNodewxString_ofFields _ _ _)
      useIgnoreCount :=
        flag "useIgnoreCount".toList _ (readChildNodewxString_ofFields _ _ _)
      ignoreCount :=
        number "ignoreCount".toList _ wellTyped.ignoreCount
          (readChildNodewxString_ofFields _ _ _)
      useCondition :=
        flag "useCondition".toList _ (readChildNodewxString_ofFields _ _ _)
      wantsCondition :=
        flag "wantsCondition".toList _ (readChildNodewxString_ofFields _ _ _)
      condition :=
        show readChildNodewxString record "condition".toList = _ from
          readChildNodewxString_ofFields _ _ _
      function :=
        show readChildNodewxString record "function".toList = _ from
          readChildNodewxString_ofFields _ _ _
      address := address
      alreadySet :=
        flag "alreadySet".toList _ (readChildNodewxString_ofFields _ _ _)
      lineText :=
        show readChildNodewxString record "lineText".toList = _ from
          readChildNodewxString_ofFields _ _ _
      breakAddress :=
        show readChildNodewxString record "breakAddress".toList = _ from
          readChildNodewxString_ofFields _ _ _
      breakOnRead :=
        flag "breakOnRead".toList _ (readChildNodewxString_ofFields _ _ _)
      breakOnWrite :=
        flag "breakOnWrite".toList _ (readChildNodewxString_ofFields _ _ _) }

end RoundTrip

/-- A breakpoint with an address that has 64 bits. -/
def highBreakpoint : WholeBreakpoint where
  breakpoint :=
    { DapBreakpoint.new (some 0) "m.cpp".toList (-7) 1 with
      type := .bptData
      breakAddress := "&n".toList }
  details :=
    { Details.initial with
      ignoreCount := 3
      condition := "n > 0".toList
      address := 18446744073709551615 }

theorem restored_highBreakpoint :
    Restored highBreakpoint
      (loadBreakpointFromXML (withLong int projectIde) (fun _ => false)
        (saveBreakpointToXML projectIde "p".toList
          highBreakpoint.breakpoint highBreakpoint.details)
        ⟨.new none [] (-1) (-1), .initial⟩).1 :=
  breakpoint_restored int projectIde (fun _ => false) "p".toList
    highBreakpoint ⟨.new none [] (-1) (-1), .initial⟩ (by decide)
    { line := by decide
      ignoreCount := by decide
      address := by decide }

end DebuggerDap.Persistence.BreakpointXml
