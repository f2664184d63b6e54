import DebuggerDap.Watches.Forest

/-!
# Where a child is inserted

The reply to a request for children is matched by the number of the request.
The search goes through the tree from above and from the left, and the first
watch with this number gets the child behind those it has.  The search gives
a variable a name, which is of no effect on where the child goes.
-/

namespace DebuggerDap.Watches.Insertion

open DebuggerDap.Library.RoseTree
open DebuggerDap.Breakpoints.Store
open DebuggerDap.Protocol.Codecs (Variable)
open DebuggerDap.Watches.Forest

/-- What a new child shows, and the one child it has if it is structured. -/
structure BuiltFrom
    (project : Option Project)
    (var : Variable)
    (child : Watch) : Prop where
  project_eq : child.value.project = project
  symbol_eq :
    child.value.symbol =
      if var.name = [] then "anonymous".toList else var.name
  value_eq : child.value.value = var.value
  type_eq : child.value.type = var.type
  reference_eq :
    child.value.dapVariableReference = UInt64.ofInt var.variablesReference
  placeholder :
    child.children =
      if 0 < var.variablesReference then
        [.leaf (newWatch project "updating...".toList)]
      else []

/-- The child is the last one of the first watch that holds the request. -/
def Inserted
    (project : Option Project)
    (requestSeq : RequestNumber)
    (var : Variable)
    (before after : Watch) : Prop :=
  ∃ path child,
    RoseTree.First (Holds requestSeq) before path ∧
    BuiltFrom project var child ∧
    after = RoseTree.modify (RoseTree.extend [child]) path before

/-- The flag says whether a watch holds the request, and so gets the child. -/
structure InsertsChild
    (project : Option Project)
    (requestSeq : RequestNumber)
    (var : Variable)
    (before : Watch)
    (added : Watch × Variable × Bool) : Prop where
  found_iff :
    added.2.2 = true ↔
      ∃ found ∈ RoseTree.nodes before, Holds requestSeq found.value
  inserted :
    added.2.2 = true → Inserted project requestSeq var before added.1
  unchanged : added.2.2 = false → added.1 = before

section Variables

variable (project : Option Project)
variable (requestSeq : RequestNumber)
variable (watch : Watch)
variable (var : Variable)

/-- Only the name of a variable is set. -/
theorem nameAnonymous_eq :
    nameAnonymous var =
      { var with
        name := if var.name = [] then "anonymous".toList else var.name } := by
  unfold nameAnonymous
  split
  · rfl
  · rfl

theorem builtFrom_childWatch :
    BuiltFrom project var (childWatch project var) := by
  rw [childWatch, nameAnonymous_eq]
  by_cases structured : 0 < var.variablesReference
  · rw [watchOf, if_pos structured]
    exact
      { project_eq := rfl
        symbol_eq := rfl
        value_eq := rfl
        type_eq := rfl
        reference_eq := rfl
        placeholder := (if_pos structured).symm }
  · rw [watchOf, if_neg structured]
    exact
      { project_eq := rfl
        symbol_eq := rfl
        value_eq := rfl
        type_eq := rfl
        reference_eq := rfl
        placeholder := (if_neg structured).symm }

/-- The child is inserted where it belongs, or nothing changes. -/
theorem addWatchChildByRequestSequence_inserts :
    InsertsChild project requestSeq var watch
      (addWatchChildByRequestSequence project requestSeq watch var) := by
  rw [addWatchChildByRequestSequence_eq]
  rcases RoseTree.first_or_unwanted (Holds requestSeq)
      [childWatch project var] watch with
    ⟨path, first, grafted⟩ | ⟨unwanted, ungrafted⟩
  · rw [grafted]
    rcases first.wantedThere with ⟨found, there, holds⟩
    have foundIn := RoseTree.mem_nodes_of_subtree? there
    exact
      { found_iff := iff_of_true rfl ⟨found, foundIn, holds⟩
        inserted := fun _ =>
          ⟨path, childWatch project var, first,
            builtFrom_childWatch project var, rfl⟩
        unchanged := nofun }
  · rw [ungrafted]
    have nowhere :
        ¬∃ found ∈ RoseTree.nodes watch, Holds requestSeq found.value := by
      rintro ⟨found, foundIn, holds⟩
      exact unwanted found foundIn holds
    exact
      { found_iff := iff_of_false nofun nowhere
        inserted := nofun
        unchanged := fun _ => rfl }

end Variables

end DebuggerDap.Watches.Insertion
