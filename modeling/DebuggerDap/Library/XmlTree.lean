import Mathlib.Data.List.Basic

/-!
# Trees of named elements

An element has a name, attributes, a text and child elements.  A record is
stored as an element with one child for each of its fields, and read back
field by field; a list of records is stored as the children of one element.
-/

namespace DebuggerDap.Library.XmlTree

variable {ν τ : Type}

/-- An element over names `ν` and texts `τ`; the text may be missing. -/
inductive Element (ν τ : Type) where
  | mk
      (name : ν)
      (attributes : List (ν × τ))
      (text : Option τ)
      (children : List (Element ν τ))

namespace Element

def name : Element ν τ → ν
  | mk name _ _ _ => name

def text : Element ν τ → Option τ
  | mk _ _ text _ => text

def children : Element ν τ → List (Element ν τ)
  | mk _ _ _ children => children

/-- An element with a text and nothing below it. -/
def leaf (name : ν) (text : τ) : Element ν τ :=
  mk name [] (some text) []

/-- An element with a leaf for every field. -/
def ofFields (name : ν) (fields : List (ν × τ)) : Element ν τ :=
  mk name [] none (fields.map fun field => leaf field.1 field.2)

section Reading

variable [DecidableEq ν]

/-- The first of some elements with a name. -/
def first (wanted : ν) (elements : List (Element ν τ)) :
    Option (Element ν τ) :=
  elements.find? fun element => element.name = wanted

/-- The first of some elements with a name, and all those after it. -/
def onward (wanted : ν) (elements : List (Element ν τ)) :
    List (Element ν τ) :=
  elements.dropWhile fun element => element.name ≠ wanted

/-- The text of the first child with a name. -/
def childText (wanted : ν) (element : Element ν τ) : Option τ :=
  (first wanted element.children).bind text

theorem first_cons
    (wanted : ν)
    (element : Element ν τ)
    (elements : List (Element ν τ)) :
    first wanted (element :: elements) =
      if element.name = wanted then some element
      else first wanted elements := by
  by_cases same : element.name = wanted
  · simp [first, same]
  · simp [first, same]

/-- Among elements with distinct names each is the first with its name. -/
theorem first_of_mem
    {element : Element ν τ}
    {elements : List (Element ν τ)}
    (distinct : (elements.map name).Nodup)
    (member : element ∈ elements) :
    first element.name elements = some element := by
  induction elements with
  | nil => exact absurd member List.not_mem_nil
  | cons head elements ih =>
      rw [List.map_cons, List.nodup_cons] at distinct
      rw [first_cons]
      rcases List.mem_cons.mp member with rfl | later
      · exact if_pos rfl
      · have apart : head.name ≠ element.name := fun same =>
          distinct.1 (same ▸ List.mem_map_of_mem later)
        rw [if_neg apart]
        exact ih distinct.2 later

/-- What is read back of a record is the first field with the name. -/
theorem childText_ofFields
    [BEq ν] [LawfulBEq ν]
    (name wanted : ν)
    (fields : List (ν × τ)) :
    childText wanted (ofFields name fields) = fields.lookup wanted := by
  show (first wanted (fields.map fun field => leaf field.1 field.2)).bind
    text = _
  induction fields with
  | nil => rfl
  | cons field fields ih =>
      rw [List.map_cons, first_cons, List.lookup_cons]
      by_cases same : field.1 = wanted
      · have sameName : (wanted == field.1) = true := beq_iff_eq.mpr same.symm
        rw [if_pos (show (leaf field.1 field.2).name = wanted from same),
          sameName]
        rfl
      · have differs : (wanted == field.1) = false :=
          beq_false_of_ne (Ne.symm same)
        rw [if_neg (show ¬ (leaf field.1 field.2).name = wanted from same),
          differs]
        exact ih

/-- Where all elements have the name, all of them follow. -/
theorem onward_of_forall
    {wanted : ν}
    {elements : List (Element ν τ)}
    (named : ∀ element ∈ elements, element.name = wanted) :
    onward wanted elements = elements := by
  cases elements with
  | nil => rfl
  | cons element elements =>
      exact List.dropWhile_cons_of_neg
        (by simpa using named element List.mem_cons_self)

end Reading

end Element

end DebuggerDap.Library.XmlTree
