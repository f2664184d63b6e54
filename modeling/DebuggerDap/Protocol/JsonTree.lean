import DebuggerDap.Text.Strings
import Mathlib.Data.Rat.Defs

/-!
# The JSON tree read by the protocol classes

A `dap::Json` is a handle on a node of a parsed tree; it may hold no node at
all.  Handles are options here, and every getter takes the default it returns
when the node is missing or has another type.
-/

namespace DebuggerDap.Protocol.JsonTree

open DebuggerDap.Text.Strings

/-- A node of the tree. -/
inductive Json where
  | null
  | bool (value : Bool)
  | number (value : Rat)
  | string (value : WxString)
  | array (items : List Json)
  | object (members : List (WxString × Json))

namespace Json

/-- `json[name]`: the first child of that name. -/
def child (json : Option Json) (name : WxString) : Option Json :=
  match json with
  | some (.object members) => members.lookup name
  | _ => none

/-- The children `GetCount` counts and `json[index]` finds. -/
def children (json : Option Json) : List Json :=
  match json with
  | some (.array items) => items
  | some (.object members) => members.map Prod.snd
  | _ => []

def getString
    (json : Option Json)
    (defaultValue : WxString) : WxString :=
  match json with
  | some (.string value) => value
  | _ => defaultValue

/--
A number stored into an `int`: the fraction is dropped.  C++ leaves open what
becomes of a number that no `int` holds.
-/
def getInteger (json : Option Json) (defaultValue : Int) : Int :=
  match json with
  | some (.number value) => value.num.tdiv value.den
  | _ => defaultValue

/--
The guard of `GetBool` compares the node's address, not its type, with the
`False` tag, so a `False` node also yields the default.
-/
def getBool (json : Option Json) (defaultValue : Bool) : Bool :=
  match json with
  | some (.bool true) => true
  | _ => defaultValue

@[simp]
theorem child_none (name : WxString) : child none name = none :=
  rfl

@[simp]
theorem child_object
    (members : List (WxString × Json))
    (name : WxString) :
    child (some (.object members)) name = members.lookup name :=
  rfl

@[simp]
theorem getString_none (defaultValue : WxString) :
    getString none defaultValue = defaultValue :=
  rfl

@[simp]
theorem getInteger_none (defaultValue : Int) :
    getInteger none defaultValue = defaultValue :=
  rfl

@[simp]
theorem getString_string (value defaultValue : WxString) :
    getString (some (.string value)) defaultValue = value :=
  rfl

@[simp]
theorem getInteger_number (value defaultValue : Int) :
    getInteger (some (.number value)) defaultValue = value := by
  simp [getInteger]

/-- With the default `false`, `GetBool` reads every Boolean node correctly. -/
@[simp]
theorem getBool_bool (value : Bool) :
    getBool (some (.bool value)) false = value := by
  cases value <;> rfl

end Json

end DebuggerDap.Protocol.JsonTree
