import DebuggerDap.Persistence.RoundTrip
import DebuggerDap.Text.Numbers

/-!
# A watch and its record

Every member of a watch goes through a helper for its type when it is written
and through one when it is read.  Two of them do not match.  The start of an
array is a `long` that is read through an `int`, and whether it is an array is
a `bool` that is read as a number: its text is none, so what is read is what
the variable of `ReadChildNodeLong` held before.
-/

namespace DebuggerDap.Persistence.WatchXml

open DebuggerDap.Text.Strings
open DebuggerDap.Text.Numbers
open DebuggerDap.Library.MachineInt
open DebuggerDap.Breakpoints.Store (Project)
open DebuggerDap.Persistence.StateFile
open DebuggerDap.Persistence.RoundTrip

/-- A watch with the name of its class, whatever it is. -/
structure NamedWatch extends DapWatch where
  className : WxString
  deriving DecidableEq, Repr

namespace NamedWatch

/-- `SaveWatchToXML`. -/
def saveToXML (title : WxString) (watch : NamedWatch) : XmlElement :=
  .ofFields "Watch".toList
    [("DAPWatchClassName".toList, watch.className),
      ("projectTitle".toList, title),
      ("symbol".toList, watch.symbol),
      ("type".toList, watch.type),
      ("format".toList, getWatchFormatTowxString watch.format),
      ("debug_string".toList, watch.debugString),
      ("has_been_expanded".toList, boolTowxString watch.hasBeenExpanded),
      ("for_tooltip".toList, boolTowxString watch.forTooltip),
      ("delete_on_collapse".toList, boolTowxString watch.deleteOnCollapse),
      ("array_start".toList, intTowxString watch.arrayStart),
      ("array_end".toList, intTowxString watch.arrayEnd),
      ("is_array".toList, boolTowxString watch.isArray),
      ("forTooltip".toList, boolTowxString watch.setForTooltip)]

/-- `LoadWatchFromXML` on a new watch of a project. -/
def loadFromXML
    (ide : Ide)
    (project : Project)
    (pElementWatch : XmlElement) : NamedWatch where
  toDapWatch := loadWatchFromXML ide project pElementWatch
  className :=
    readChildNodewxString pElementWatch "DAPWatchClassName".toList

/-- With the name the constructor sets the record is the one of the file. -/
theorem saveToXML_dapWatch (title : WxString) (watch : DapWatch) :
    saveToXML title ⟨watch, dapWatchClassName⟩ = saveWatchToXML title watch :=
  rfl

/-- Every member that is saved is the same in both watches. -/
structure Restored (watch loaded : NamedWatch) : Prop where
  className : loaded.className = watch.className
  symbol : loaded.symbol = watch.symbol
  type : loaded.type = watch.type
  format : loaded.format = watch.format
  debugString : loaded.debugString = watch.debugString
  hasBeenExpanded : loaded.hasBeenExpanded = watch.hasBeenExpanded
  forTooltip : loaded.forTooltip = watch.forTooltip
  deleteOnCollapse : loaded.deleteOnCollapse = watch.deleteOnCollapse
  arrayStart : loaded.arrayStart = watch.arrayStart
  arrayEnd : loaded.arrayEnd = watch.arrayEnd
  isArray : loaded.isArray = watch.isArray
  setForTooltip : loaded.setForTooltip = watch.setForTooltip

end NamedWatch

/-! ## The typed helpers -/

/-- The range of `int`. -/
def int : SignedRange where
  half := 2 ^ 31
  room := by decide

/-- The surroundings where `wxString::ToLong` is the one for this `long`. -/
def withLong (long : SignedRange) (ide : Ide) : Ide :=
  { ide with toLong := toLong long }

theorem wxStringToBool_boolTowxString (value : Bool) :
    wxStringToBool (boolTowxString value) = value := by
  cases value <;> decide

/-- The text of a Boolean is no number. -/
theorem toLong_boolTowxString (long : SignedRange) (value : Bool) :
    toLong long (boolTowxString value) = none := by
  refine if_neg fun number => number.1 ?_
  cases value <;> decide

/-- A number survives the conversion to 32 bits if they hold it. -/
theorem toInt_ofInt_eq_iff (value : Int) :
    (BitVec.ofInt 32 value).toInt = value ↔ int.Contains value := by
  rw [BitVec.toInt_ofInt]
  constructor
  · intro same
    have kept := @SignedRange.contains_wrap int value
    rw [SignedRange.wrap] at kept
    exact same ▸ kept
  · exact SignedRange.wrap_of_contains

section Written

variable (element : XmlElement) {childName : WxString}
variable (long : SignedRange) (ide : Ide)

/-- A Boolean that was written is read as it was. -/
theorem readChildNodeBool_of_written
    {value : Bool}
    (written :
      readChildNodewxString element childName = boolTowxString value) :
    readChildNodeBool element childName = value := by
  rw [readChildNodeBool, written, wxStringToBool_boolTowxString]

/-- A number that was written is read as it was. -/
theorem readChildNodeLong_of_written
    {value : Int}
    (contains : long.Contains value)
    (written :
      readChildNodewxString element childName = intTowxString value) :
    readChildNodeLong (withLong long ide) element childName = value := by
  show (toLong long _).getD ide.indeterminate = value
  rw [written, intTowxString, toLong_toString contains]
  rfl

/-- A Boolean that was written is no number. -/
theorem readChildNodeLong_of_boolTowxString
    {value : Bool}
    (written :
      readChildNodewxString element childName = boolTowxString value) :
    readChildNodeLong (withLong long ide) element childName =
      ide.indeterminate := by
  show (toLong long _).getD ide.indeterminate = ide.indeterminate
  rw [written, toLong_boolTowxString]
  rfl

end Written

/-! ## The round trip -/

namespace NamedWatch

section RoundTrip

variable
  (long : SignedRange)
  (ide : Ide)
  (project : Project)
  (title : WxString)
  (watch : NamedWatch)

/--
A watch comes back from its record if its start is an `int` and the variable
that is not set happens to hold whether it is an array.
-/
theorem watch_restored_iff
    (start : long.Contains watch.arrayStart)
    (last : long.Contains watch.arrayEnd) :
    watch.Restored
        (loadFromXML (withLong long ide) project (watch.saveToXML title)) ↔
      int.Contains watch.arrayStart ∧
        watch.isArray = decide (ide.indeterminate ≠ 0) := by
  let record := watch.saveToXML title
  have readStart :=
    readChildNodeLong_of_written record long ide start
      (readChildNodewxString_ofFields _ "array_start".toList _)
  have readArray :=
    readChildNodeLong_of_boolTowxString record long ide
      (readChildNodewxString_ofFields _ "is_array".toList _)
  have loadedStart :
      (loadFromXML (withLong long ide) project record).arrayStart =
        (BitVec.ofInt 32 watch.arrayStart).toInt :=
    congrArg (fun value => (BitVec.ofInt 32 value).toInt) readStart
  have loadedArray :
      (loadFromXML (withLong long ide) project record).isArray =
        decide (ide.indeterminate ≠ 0) :=
    congrArg (fun value : Int => decide (value ≠ 0)) readArray
  have flag := fun childName value =>
    @readChildNodeBool_of_written record childName value
  constructor
  · intro restored
    exact ⟨(toInt_ofInt_eq_iff _).mp
        (loadedStart.symm.trans restored.arrayStart),
      restored.isArray.symm.trans loadedArray⟩
  · rintro ⟨fits, isArray⟩
    exact
      { className :=
          show readChildNodewxString record "DAPWatchClassName".toList = _ from
            readChildNodewxString_ofFields _ _ _
        symbol :=
          show readChildNodewxString record "symbol".toList = _ from
            readChildNodewxString_ofFields _ _ _
        type :=
          show readChildNodewxString record "type".toList = _ from
            readChildNodewxString_ofFields _ _ _
        format :=
          (congrArg getWatchFormatFromwxString
            (readChildNodewxString_ofFields _ "format".toList _)).trans
            (watchFormat_roundTrip watch.format)
        debugString :=
          show readChildNodewxString record "debug_string".toList = _ from
            readChildNodewxString_ofFields _ _ _
        hasBeenExpanded :=
          flag "has_been_expanded".toList _
            (readChildNodewxString_ofFields _ _ _)
        forTooltip :=
          flag "for_tooltip".toList _ (readChildNodewxString_ofFields _ _ _)
        deleteOnCollapse :=
          flag "delete_on_collapse".toList _
            (readChildNodewxString_ofFields _ _ _)
        arrayStart := loadedStart.trans ((toInt_ofInt_eq_iff _).mpr fits)
        arrayEnd :=
          readChildNodeLong_of_written record long ide last
            (readChildNodewxString_ofFields _ "array_end".toList _)
        isArray := loadedArray.trans isArray.symm
        setForTooltip :=
          flag "forTooltip".toList _ (readChildNodewxString_ofFields _ _ _) }

end RoundTrip

/-- A slice of an array, named as the constructor names it. -/
def slice : NamedWatch where
  toDapWatch :=
    { countWatch with
      arrayStart := -3
      arrayEnd := 7
      isArray := true }
  className := dapWatchClassName

theorem restored_slice :
    slice.Restored
      (loadFromXML (withLong int { projectIde with indeterminate := 9 }) 0
        (slice.saveToXML "p".toList)) :=
  (watch_restored_iff int { projectIde with indeterminate := 9 } 0 "p".toList slice
    (by decide) (by decide)).mpr ⟨by decide, by decide⟩

/-- A watch that is no array comes back as one. -/
theorem countWatch_not_restored :
    ¬ Restored ⟨countWatch, dapWatchClassName⟩
        (loadFromXML (withLong int { projectIde with indeterminate := 9 }) 0
          (saveToXML "p".toList ⟨countWatch, dapWatchClassName⟩)) := by
  intro restored
  exact absurd restored.isArray (by decide)

end NamedWatch

end DebuggerDap.Persistence.WatchXml
