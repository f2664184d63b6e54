import Mathlib.Data.List.Basic

/-!
# Ordered trees

A node has a value and any number of children in order.  The nodes of a tree
are listed with every node before those below it.  `graft` puts new children
behind those of the first node whose value is wanted, and does not look below
such a node.

Two grafts onto the same tree are one graft of all the new children, and a
graft tells which children were grafted.
-/

namespace DebuggerDap.Library.RoseTree

/-- A tree with values in its nodes. -/
inductive RoseTree (α : Type) where
  | node (value : α) (children : List (RoseTree α))

namespace RoseTree

variable {α : Type}

def value : RoseTree α → α
  | node value _ => value

def children : RoseTree α → List (RoseTree α)
  | node _ children => children

/-- A node without children. -/
def leaf (value : α) : RoseTree α :=
  node value []

@[simp]
theorem value_node (value : α) (children : List (RoseTree α)) :
    (node value children).value = value :=
  rfl

@[simp]
theorem children_node (value : α) (children : List (RoseTree α)) :
    (node value children).children = children :=
  rfl

/-! ## Nodes -/

mutual

/-- The trees that begin at the nodes of a tree, from above. -/
def nodes : RoseTree α → List (RoseTree α)
  | node value children => node value children :: forestNodes children

def forestNodes : List (RoseTree α) → List (RoseTree α)
  | [] => []
  | tree :: trees => nodes tree ++ forestNodes trees

end

@[simp]
theorem nodes_node (value : α) (children : List (RoseTree α)) :
    nodes (node value children) =
      node value children :: forestNodes children :=
  rfl

@[simp]
theorem forestNodes_nil : forestNodes ([] : List (RoseTree α)) = [] :=
  rfl

@[simp]
theorem forestNodes_cons (tree : RoseTree α) (trees : List (RoseTree α)) :
    forestNodes (tree :: trees) = nodes tree ++ forestNodes trees :=
  rfl

@[simp]
theorem forestNodes_append (left right : List (RoseTree α)) :
    forestNodes (left ++ right) = forestNodes left ++ forestNodes right := by
  induction left with
  | nil => rfl
  | cons tree left inductionHypothesis =>
      simp [inductionHypothesis]

theorem forall_nodes_node
    {property : α → Prop}
    {value : α}
    {children : List (RoseTree α)} :
    (∀ found ∈ nodes (node value children), property found.value) ↔
      property value ∧
        ∀ found ∈ forestNodes children, property found.value := by
  simp

theorem forall_nodes_leaf
    {property : α → Prop}
    {value : α} :
    (∀ found ∈ nodes (leaf value), property found.value) ↔
      property value := by
  simp [leaf]

theorem mem_forestNodes_iff
    {found : RoseTree α}
    {trees : List (RoseTree α)} :
    found ∈ forestNodes trees ↔ ∃ tree ∈ trees, found ∈ nodes tree := by
  induction trees with
  | nil => simp
  | cons tree trees inductionHypothesis =>
      simp [inductionHypothesis]

theorem forall_forestNodes_of_subset
    {property : α → Prop}
    {trees fewer : List (RoseTree α)}
    (subset : fewer ⊆ trees)
    (before : ∀ found ∈ forestNodes trees, property found.value) :
    ∀ found ∈ forestNodes fewer, property found.value := by
  intro found foundIn
  rcases mem_forestNodes_iff.mp foundIn with ⟨tree, treeIn, below⟩
  exact before found (mem_forestNodes_iff.mpr ⟨tree, subset treeIn, below⟩)

theorem eq_of_children_eq
    {left right : RoseTree α}
    (sameValue : left.value = right.value)
    (sameChildren : left.children = right.children) :
    left = right := by
  cases left
  cases right
  exact congrArg₂ node sameValue sameChildren

/-! ## Grafting -/

section Grafting

variable (wanted : α → Prop) [DecidablePred wanted]
variable (kids : List (RoseTree α))

mutual

/-- The tree with the kids grafted, where a node is wanted. -/
def graft? : RoseTree α → Option (RoseTree α)
  | node value children =>
      if wanted value then some (node value (children ++ kids))
      else (graftForest? children).map (node value)

def graftForest? : List (RoseTree α) → Option (List (RoseTree α))
  | [] => none
  | tree :: trees =>
      match graft? tree with
      | some grafted => some (grafted :: trees)
      | none => (graftForest? trees).map (tree :: ·)

end

/-- The tree with the kids below its first wanted node, if there is one. -/
def graft (tree : RoseTree α) : RoseTree α :=
  (graft? wanted kids tree).getD tree

end Grafting

/--
What a graft does to something that holds trees and has a wanted node:
`fill` gives the result for any kids, and a later graft finds the same node.
-/
structure Plot
    {β : Type}
    (wanted : α → Prop)
    (graft : List (RoseTree α) → β → Option β)
    (nodesOf : β → List (RoseTree α))
    (start : β)
    (fill : List (RoseTree α) → β) : Prop where
  occupied : ∃ found ∈ nodesOf start, wanted found.value
  grafted : ∀ kids, graft kids start = some (fill kids)
  again : ∀ kids more, graft more (fill kids) = some (fill (kids ++ more))
  bare : fill [] = start
  injective : Function.Injective fill
  kept : ∀ (property : α → Prop) (kids : List (RoseTree α)),
    (∀ found ∈ nodesOf start, property found.value) →
      (∀ found ∈ forestNodes kids, property found.value) →
        ∀ found ∈ nodesOf (fill kids), property found.value

/-- Nothing that holds trees is wanted, and no graft finds anything. -/
structure Barren
    {β : Type}
    (wanted : α → Prop)
    (graft : List (RoseTree α) → β → Option β)
    (nodesOf : β → List (RoseTree α))
    (start : β) : Prop where
  unwanted : ∀ found ∈ nodesOf start, ¬wanted found.value
  ungrafted : ∀ kids, graft kids start = none

section Plots

variable (wanted : α → Prop) [DecidablePred wanted]

mutual

theorem plot_or_barren : (tree : RoseTree α) →
    (∃ fill, Plot wanted (graft? wanted) nodes tree fill) ∨
      Barren wanted (graft? wanted) nodes tree
  | node value children => by
      by_cases here : wanted value
      · left
        refine ⟨fun kids => node value (children ++ kids), ?_⟩
        constructor
        case occupied =>
          exact ⟨node value children, List.mem_cons_self, here⟩
        case grafted => simp [graft?, here]
        case again => simp [graft?, here]
        case bare => simp
        case injective =>
          intro kids more same
          simpa using same
        case kept =>
          intro property kids before below
          simp_all [or_imp, forall_and]
      · rcases forestPlot_or_barren children with ⟨fill, plot⟩ | barren
        · left
          refine ⟨fun kids => node value (fill kids), ?_⟩
          constructor
          case occupied =>
            rcases plot.occupied with ⟨found, foundIn, isWanted⟩
            exact ⟨found, List.mem_cons_of_mem _ foundIn, isWanted⟩
          case grafted => simp [graft?, here, plot.grafted]
          case again => simp [graft?, here, plot.again]
          case bare => rw [plot.bare]
          case injective =>
            intro kids more same
            exact plot.injective (RoseTree.node.inj same).2
          case kept =>
            intro property kids before below
            simp only [nodes_node, List.forall_mem_cons, value_node]
              at before ⊢
            exact ⟨before.1, plot.kept property kids before.2 below⟩
        · right
          constructor
          case unwanted =>
            simp only [nodes_node, List.forall_mem_cons, value_node]
            exact ⟨here, barren.unwanted⟩
          case ungrafted => simp [graft?, here, barren.ungrafted]

theorem forestPlot_or_barren : (trees : List (RoseTree α)) →
    (∃ fill, Plot wanted (graftForest? wanted) forestNodes trees fill) ∨
      Barren wanted (graftForest? wanted) forestNodes trees
  | [] => by
      right
      constructor
      case unwanted => simp
      case ungrafted => simp [graftForest?]
  | tree :: trees => by
      rcases plot_or_barren tree with ⟨fill, plot⟩ | bare
      · left
        refine ⟨fun kids => fill kids :: trees, ?_⟩
        constructor
        case occupied =>
          rcases plot.occupied with ⟨found, foundIn, isWanted⟩
          exact ⟨found, List.mem_append_left _ foundIn, isWanted⟩
        case grafted => simp [graftForest?, plot.grafted]
        case again => simp [graftForest?, plot.again]
        case bare => rw [plot.bare]
        case injective =>
          intro kids more same
          exact plot.injective (List.cons.inj same).1
        case kept =>
          intro property kids before below
          simp only [forestNodes_cons, List.forall_mem_append] at before ⊢
          exact ⟨plot.kept property kids before.1 below, before.2⟩
      · rcases forestPlot_or_barren trees with ⟨fill, plot⟩ | barren
        · left
          refine ⟨fun kids => tree :: fill kids, ?_⟩
          constructor
          case occupied =>
            rcases plot.occupied with ⟨found, foundIn, isWanted⟩
            exact ⟨found, List.mem_append_right _ foundIn, isWanted⟩
          case grafted => simp [graftForest?, bare.ungrafted, plot.grafted]
          case again => simp [graftForest?, bare.ungrafted, plot.again]
          case bare => rw [plot.bare]
          case injective =>
            intro kids more same
            exact plot.injective (List.cons.inj same).2
          case kept =>
            intro property kids before below
            simp only [forestNodes_cons, List.forall_mem_append] at before ⊢
            exact ⟨before.1, plot.kept property kids before.2 below⟩
        · right
          constructor
          case unwanted =>
            simp only [forestNodes_cons, List.forall_mem_append]
            exact ⟨bare.unwanted, barren.unwanted⟩
          case ungrafted =>
            simp [graftForest?, bare.ungrafted, barren.ungrafted]

end

variable {wanted}
variable {kids more : List (RoseTree α)}
variable {tree : RoseTree α}

/-- A tree without a wanted value is left as it is. -/
theorem graft_of_unwanted
    (unwanted : ∀ found ∈ nodes tree, ¬wanted found.value) :
    graft wanted kids tree = tree := by
  rcases plot_or_barren wanted tree with ⟨fill, plot⟩ | barren
  · rcases plot.occupied with ⟨found, foundIn, isWanted⟩
    exact absurd isWanted (unwanted found foundIn)
  · rw [graft, barren.ungrafted]
    rfl

@[simp]
theorem graft_nil : graft wanted [] tree = tree := by
  rcases plot_or_barren wanted tree with ⟨fill, plot⟩ | barren
  · rw [graft, plot.grafted, plot.bare]
    rfl
  · exact graft_of_unwanted barren.unwanted

/-- Two grafts are one graft of all the kids. -/
theorem graft_graft :
    graft wanted more (graft wanted kids tree) =
      graft wanted (kids ++ more) tree := by
  rcases plot_or_barren wanted tree with ⟨fill, plot⟩ | barren
  · have once : graft wanted kids tree = fill kids := by
      rw [graft, plot.grafted]
      rfl
    rw [once, graft, plot.again, graft, plot.grafted]
    rfl
  · simp [graft_of_unwanted barren.unwanted]

/-- Where a value is wanted, the result tells which kids were grafted. -/
theorem kids_eq_of_graft_eq
    {found : RoseTree α}
    (foundIn : found ∈ nodes tree)
    (isWanted : wanted found.value)
    (same : graft wanted kids tree = graft wanted more tree) :
    kids = more := by
  rcases plot_or_barren wanted tree with ⟨fill, plot⟩ | barren
  · rw [graft, graft, plot.grafted, plot.grafted] at same
    exact plot.injective same
  · exact absurd isWanted (barren.unwanted found foundIn)

/-- A graft keeps what holds of all values, if it holds of the kids too. -/
theorem forall_nodes_graft
    {property : α → Prop}
    (before : ∀ found ∈ nodes tree, property found.value)
    (below : ∀ found ∈ forestNodes kids, property found.value) :
    ∀ found ∈ nodes (graft wanted kids tree), property found.value := by
  rcases plot_or_barren wanted tree with ⟨fill, plot⟩ | barren
  · rw [graft, plot.grafted]
    exact plot.kept property kids before below
  · rw [graft_of_unwanted barren.unwanted]
    exact before

theorem length_graftForest?
    {trees grafted : List (RoseTree α)}
    (done : graftForest? wanted kids trees = some grafted) :
    grafted.length = trees.length := by
  induction trees generalizing grafted with
  | nil => cases done
  | cons tree trees inductionHypothesis =>
      cases first : graft? wanted kids tree with
      | some result =>
          simp only [graftForest?, first, Option.some.injEq] at done
          rw [← done]
          rfl
      | none =>
          simp only [graftForest?, first, Option.map_eq_some_iff] at done
          rcases done with ⟨rest, restDone, rfl⟩
          rw [List.length_cons, inductionHypothesis restDone,
            List.length_cons]

theorem graft_of_wanted
    (here : wanted tree.value) :
    graft wanted kids tree = node tree.value (tree.children ++ kids) := by
  cases tree
  simp_all [graft, graft?]

@[simp]
theorem value_graft : (graft wanted kids tree).value = tree.value := by
  rcases tree with ⟨value, children⟩
  by_cases here : wanted value
  · simp [graft, graft?, here]
  · cases below : graftForest? wanted kids children with
    | none => simp [graft, graft?, here, below]
    | some grafted => simp [graft, graft?, here, below]

/-- Below a value that is not wanted no kid is put. -/
theorem length_children_graft
    (notHere : ¬wanted tree.value) :
    (graft wanted kids tree).children.length = tree.children.length := by
  rcases tree with ⟨value, children⟩
  have notWanted : ¬wanted value := notHere
  cases below : graftForest? wanted kids children with
  | none => simp [graft, graft?, notWanted, below]
  | some grafted =>
      simp [graft, graft?, notWanted, below, length_graftForest? below]

end Plots

/-! ## Changing one node -/

/-- The tree at a path, which gives the place of a child at every level. -/
def subtree? : List Nat → RoseTree α → Option (RoseTree α)
  | [], tree => some tree
  | index :: path, tree => tree.children[index]?.bind (subtree? path)

/-- Change the tree at a path. -/
def modify (change : RoseTree α → RoseTree α) :
    List Nat → RoseTree α → RoseTree α
  | [], tree => change tree
  | index :: path, tree =>
      node tree.value (tree.children.modify index (modify change path))

theorem forestNodes_modify
    {trees : List (RoseTree α)}
    {index : Nat}
    {tree : RoseTree α}
    (change : RoseTree α → RoseTree α)
    (found : trees[index]? = some tree) :
    forestNodes (trees.modify index change) =
      forestNodes (trees.take index) ++ nodes (change tree) ++
        forestNodes (trees.drop (index + 1)) := by
  rcases List.getElem?_eq_some_iff.mp found with ⟨within, rfl⟩
  rw [List.modify_eq_take_cons_drop within]
  simp

theorem forestNodes_split
    {trees : List (RoseTree α)}
    {index : Nat}
    {tree : RoseTree α}
    (found : trees[index]? = some tree) :
    forestNodes trees =
      forestNodes (trees.take index) ++ nodes tree ++
        forestNodes (trees.drop (index + 1)) := by
  have unchanged := forestNodes_modify id found
  rw [List.modify_id] at unchanged
  exact unchanged

section Changes

variable {property : α → Prop}
variable {change : RoseTree α → RoseTree α}

/-- A change of one tree of a forest keeps what it keeps in that tree. -/
theorem forall_forestNodes_modify
    (keeps : ∀ tree, (∀ found ∈ nodes tree, property found.value) →
      ∀ found ∈ nodes (change tree), property found.value)
    {trees : List (RoseTree α)}
    (before : ∀ found ∈ forestNodes trees, property found.value)
    (index : Nat) :
    ∀ found ∈ forestNodes (trees.modify index change),
      property found.value := by
  cases place : trees[index]? with
  | none =>
      rw [List.modify_eq_self (List.getElem?_eq_none_iff.mp place)]
      exact before
  | some tree =>
      rw [forestNodes_split place] at before
      rw [forestNodes_modify change place]
      simp only [List.forall_mem_append] at before ⊢
      exact ⟨⟨before.1.1, keeps tree before.1.2⟩, before.2⟩

theorem forall_nodes_modify
    (keeps : ∀ tree, (∀ found ∈ nodes tree, property found.value) →
      ∀ found ∈ nodes (change tree), property found.value)
    (path : List Nat) :
    ∀ tree, (∀ found ∈ nodes tree, property found.value) →
      ∀ found ∈ nodes (modify change path tree), property found.value := by
  induction path with
  | nil => exact keeps
  | cons index path inductionHypothesis =>
      intro tree before
      rcases tree with ⟨value, children⟩
      simp only [nodes_node, List.forall_mem_cons, modify, value_node,
        children_node] at before ⊢
      exact ⟨before.1,
        forall_forestNodes_modify inductionHypothesis before.2 index⟩

variable (wanted : α → Prop) [DecidablePred wanted]

/-- The trees at the wanted nodes, in order. -/
def wantedIn (trees : List (RoseTree α)) : List (RoseTree α) :=
  trees.filter fun found => wanted found.value

variable {wanted}

theorem wantedIn_eq_nil
    {trees : List (RoseTree α)}
    (unwanted : ∀ found ∈ trees, ¬wanted found.value) :
    wantedIn wanted trees = [] :=
  List.filter_eq_nil_iff.mpr fun found foundIn => by
    simpa using unwanted found foundIn

/-- Of a forest without wanted values only the changed tree can have one. -/
theorem wantedIn_forestNodes_modify
    {trees : List (RoseTree α)}
    {index : Nat}
    {tree : RoseTree α}
    (found : trees[index]? = some tree)
    (unwanted : ∀ found ∈ forestNodes trees, ¬wanted found.value) :
    wantedIn wanted (forestNodes (trees.modify index change)) =
      wantedIn wanted (nodes (change tree)) := by
  rw [forestNodes_split found] at unwanted
  rw [forestNodes_modify change found]
  simp only [List.forall_mem_append] at unwanted
  have before := wantedIn_eq_nil unwanted.1.1
  have after := wantedIn_eq_nil unwanted.2
  simp only [wantedIn, List.filter_append] at before after ⊢
  rw [before, after, List.nil_append, List.append_nil]

theorem wantedIn_nodes_modify
    (path : List Nat) :
    ∀ {tree target : RoseTree α},
      subtree? path tree = some target →
        (∀ found ∈ nodes tree, ¬wanted found.value) →
          wantedIn wanted (nodes (modify change path tree)) =
            wantedIn wanted (nodes (change target)) := by
  induction path with
  | nil =>
      intro tree target found _
      rw [← Option.some.inj found]
      rfl
  | cons index path inductionHypothesis =>
      intro tree target found unwanted
      rcases tree with ⟨value, children⟩
      rcases Option.bind_eq_some_iff.mp found with
        ⟨child, place, deeper⟩
      simp only [nodes_node, List.forall_mem_cons, value_node] at unwanted
      have childUnwanted :
          ∀ inner ∈ nodes child, ¬wanted inner.value := by
        intro inner innerIn
        apply unwanted.2
        rw [@forestNodes_split α children index child place]
        simp [innerIn]
      calc
        wantedIn wanted (nodes (modify change (index :: path)
            (node value children))) =
            wantedIn wanted
              (forestNodes (children.modify index (modify change path))) :=
          List.filter_cons_of_neg (by simp [unwanted.1])
        _ = wantedIn wanted (nodes (modify change path child)) :=
          wantedIn_forestNodes_modify place unwanted.2
        _ = wantedIn wanted (nodes (change target)) :=
          inductionHypothesis deeper childUnwanted

end Changes

/-! ## The first place -/

/--
The path leads to a wanted node, and no node before it is wanted.  One node
comes before another, from above and from the left, if its path does in the
lexicographic order.
-/
structure First
    (wanted : α → Prop)
    (tree : RoseTree α)
    (path : List Nat) : Prop where
  wantedThere : ∃ found, subtree? path tree = some found ∧ wanted found.value
  unwantedBefore :
    ∀ earlier found, List.Lex (· < ·) earlier path →
      subtree? earlier tree = some found → ¬wanted found.value

/-- A tree with some more children at its end. -/
def extend (kids : List (RoseTree α)) (tree : RoseTree α) : RoseTree α :=
  node tree.value (tree.children ++ kids)

/-- What a path leads to is one of the nodes. -/
theorem mem_nodes_of_subtree?
    {path : List Nat}
    {tree found : RoseTree α}
    (there : subtree? path tree = some found) :
    found ∈ nodes tree := by
  induction path generalizing tree with
  | nil =>
      rcases tree with ⟨value, children⟩
      cases there
      rw [nodes_node]
      exact List.mem_cons_self
  | cons index path inductionHypothesis =>
      rcases tree with ⟨value, children⟩
      rcases Option.bind_eq_some_iff.mp there with ⟨child, place, deeper⟩
      have childIn : child ∈ children := List.mem_of_getElem? place
      rw [nodes_node, List.mem_cons, mem_forestNodes_iff]
      exact .inr ⟨child, childIn, inductionHypothesis deeper⟩

section FirstPlaces

variable {wanted : α → Prop}

/-- A node that is wanted itself comes before all below it. -/
theorem First.here
    {value : α}
    (isWanted : wanted value)
    (children : List (RoseTree α)) :
    First wanted (node value children) [] where
  wantedThere := ⟨node value children, rfl, isWanted⟩
  unwantedBefore := fun _ _ before => absurd before List.not_lex_nil

/-- The first place in a child is the first of the tree if none precedes. -/
theorem First.below
    {value : α}
    {children : List (RoseTree α)}
    {child : RoseTree α}
    {index : Nat}
    {path : List Nat}
    (notHere : ¬wanted value)
    (place : children[index]? = some child)
    (notBefore :
      ∀ tree ∈ children.take index, ∀ found ∈ nodes tree,
        ¬wanted found.value)
    (first : First wanted child path) :
    First wanted (node value children) (index :: path) where
  wantedThere := by
    rcases first.wantedThere with ⟨found, there, isWanted⟩
    refine ⟨found, ?_, isWanted⟩
    rw [subtree?, children_node, place]
    exact there
  unwantedBefore := by
    intro earlier found before there
    cases earlier with
    | nil =>
        cases there
        exact notHere
    | cons other deeper =>
        rcases Option.bind_eq_some_iff.mp there with
          ⟨otherChild, otherPlace, inside⟩
        rcases List.cons_lex_cons_iff.mp before with left | ⟨rfl, lower⟩
        · have otherIn : otherChild ∈ children.take index := by
            apply List.mem_of_getElem?
            rw [List.getElem?_take_of_lt left]
            exact otherPlace
          exact notBefore otherChild otherIn found
            (mem_nodes_of_subtree? inside)
        · have sameChild : otherChild = child :=
            Option.some.inj (otherPlace.symm.trans place)
          rw [sameChild] at inside
          exact first.unwantedBefore deeper found lower inside

end FirstPlaces

section Grafts

variable (wanted : α → Prop) [DecidablePred wanted]
variable (kids : List (RoseTree α))

mutual

/-- A graft extends the tree at its first wanted place, if there is one. -/
theorem first_or_unwanted : (tree : RoseTree α) →
    (∃ path, First wanted tree path ∧
      graft? wanted kids tree = some (modify (extend kids) path tree)) ∨
      (∀ found ∈ nodes tree, ¬wanted found.value) ∧
        graft? wanted kids tree = none
  | node value children => by
      by_cases here : wanted value
      · exact .inl ⟨[], .here here children, by simp [graft?, here]; rfl⟩
      · rcases forestFirst_or_unwanted children with
          ⟨index, child, path, place, notBefore, first, grafted⟩ |
            ⟨unwanted, ungrafted⟩
        · refine .inl ⟨index :: path, .below here place notBefore first, ?_⟩
          rw [graft?, if_neg here, grafted]
          rfl
        · refine .inr ⟨?_, by simp [graft?, here, ungrafted]⟩
          rw [nodes_node, List.forall_mem_cons]
          exact ⟨here, unwanted⟩

theorem forestFirst_or_unwanted : (trees : List (RoseTree α)) →
    (∃ index tree path, trees[index]? = some tree ∧
      (∀ earlier ∈ trees.take index, ∀ found ∈ nodes earlier,
        ¬wanted found.value) ∧
      First wanted tree path ∧
      graftForest? wanted kids trees =
        some (trees.modify index (modify (extend kids) path))) ∨
      (∀ found ∈ forestNodes trees, ¬wanted found.value) ∧
        graftForest? wanted kids trees = none
  | [] => .inr ⟨by simp, rfl⟩
  | tree :: trees => by
      rcases first_or_unwanted tree with
        ⟨path, first, grafted⟩ | ⟨unwanted, ungrafted⟩
      · refine .inl ⟨0, tree, path, rfl, by simp, first, ?_⟩
        rw [graftForest?, grafted]
        rfl
      · rcases forestFirst_or_unwanted trees with
          ⟨index, later, path, place, notBefore, first, grafted⟩ |
            ⟨unwantedLater, ungraftedLater⟩
        · refine .inl ⟨index + 1, later, path, place, ?_, first, ?_⟩
          · rw [List.take_succ_cons, List.forall_mem_cons]
            exact ⟨unwanted, notBefore⟩
          · rw [graftForest?, ungrafted, grafted]
            rfl
        · refine .inr ⟨?_, ?_⟩
          · rw [forestNodes_cons, List.forall_mem_append]
            exact ⟨unwanted, unwantedLater⟩
          · rw [graftForest?, ungrafted, ungraftedLater]
            rfl

end

end Grafts

end RoseTree

end DebuggerDap.Library.RoseTree
