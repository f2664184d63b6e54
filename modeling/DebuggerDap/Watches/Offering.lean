import DebuggerDap.Watches.Forest

/-!
# Offering variables to watches

The handler of a variables reply offers every variable that has members to
every watch at the top, and a watch passes it on to the watches below it.  An
offered variable goes to the first watch that holds the number of the reply.

A watch at the top takes this number itself when the reply has a variable of
its name, and from then on it takes the variables it is offered.  Without
such a watch the reply is a graft of its offered variables, and with one it
is no graft at all.
-/

namespace DebuggerDap.Watches.Offering

open DebuggerDap.Text.Strings
open DebuggerDap.Library.RoseTree
open DebuggerDap.Breakpoints.Store
open DebuggerDap.Protocol.Codecs (Variable)
open DebuggerDap.Watches.Forest

/-! ## Variables with members -/

/-- A variable that is offered to the watches. -/
def Structured (var : Variable) : Prop :=
  var.variablesReference ≠ 0

instance : DecidablePred Structured :=
  fun var => inferInstanceAs (Decidable (var.variablesReference ≠ 0))

/-- The children for some variables, in order. -/
def childWatches
    (project : Option Project)
    (vars : List Variable) : List Watch :=
  vars.map (childWatch project)

/-- The variables that are offered. -/
def structured (vars : List Variable) : List Variable :=
  vars.filter fun var => Structured var

/-- A watch is named in the reply, and has something to take from there on. -/
def Collects (symbol : WxString) : List Variable → Prop
  | [] => False
  | var :: vars =>
      (symbol = var.name ∧ ∃ member ∈ var :: vars, Structured member) ∨
        Collects symbol vars

/-- The reply after a watch at the top: offering a variable may name it. -/
def renamed
    (request : RequestNumber)
    (watch : Watch)
    (vars : List Variable) : List Variable :=
  if Holds request watch.value ∨ watch.children ≠ [] then
    vars.map fun var => if Structured var then nameAnonymous var else var
  else vars

/--
No watch at the top collects from the reply as it then reads, but for one
that asked for it.
-/
def NoneCollects (request : RequestNumber) :
    List Watch → List Variable → Prop
  | [], _ => True
  | watch :: watches, vars =>
      (Holds request watch.value ∨ ¬Collects watch.value.symbol vars) ∧
        NoneCollects request watches (renamed request watch vars)

theorem structured_eq_nil_iff (vars : List Variable) :
    structured vars = [] ↔ ∀ var ∈ vars, ¬Structured var := by
  simp [structured, List.filter_eq_nil_iff]

theorem structured_cons_of_pos
    {var : Variable}
    (isStructured : Structured var)
    (vars : List Variable) :
    structured (var :: vars) = var :: structured vars :=
  List.filter_cons_of_pos (by simpa using isStructured)

theorem structured_cons_of_neg
    {var : Variable}
    (isLeaf : ¬Structured var)
    (vars : List Variable) :
    structured (var :: vars) = structured vars :=
  List.filter_cons_of_neg (by simpa using isLeaf)

theorem Collects.exists_structured
    {symbol : WxString}
    {vars : List Variable}
    (collects : Collects symbol vars) :
    ∃ member ∈ vars, Structured member := by
  induction vars with
  | nil => exact collects.elim
  | cons var vars inductionHypothesis =>
      rcases collects with ⟨_, member⟩ | later
      · exact member
      · rcases inductionHypothesis later with
          ⟨member, memberIn, isStructured⟩
        exact ⟨member, List.mem_cons_of_mem _ memberIn, isStructured⟩

/-! ## Names -/

theorem structured_nameAnonymous (var : Variable) :
    Structured (nameAnonymous var) ↔ Structured var := by
  by_cases unnamed : var.name = []
  · simp [Structured, nameAnonymous, unnamed]
  · simp [Structured, nameAnonymous, unnamed]

theorem renamed_of_leaves
    {request : RequestNumber}
    {watch : Watch}
    {vars : List Variable}
    (leaves : ∀ var ∈ vars, ¬Structured var) :
    renamed request watch vars = vars := by
  unfold renamed
  split
  · calc
      vars.map (fun var =>
          if Structured var then nameAnonymous var else var) =
          vars.map id :=
        List.map_congr_left fun var varIn => if_neg (leaves var varIn)
      _ = vars :=
        List.map_id vars
  · rfl

/-- A renamed reply has the same children to offer. -/
theorem childWatches_structured_renamed
    (project : Option Project)
    (request : RequestNumber)
    (watch : Watch)
    (vars : List Variable) :
    childWatches project (structured (renamed request watch vars)) =
      childWatches project (structured vars) := by
  unfold renamed
  split
  · induction vars with
    | nil => rfl
    | cons var vars inductionHypothesis =>
        by_cases isStructured : Structured var
        · have named := (structured_nameAnonymous var).mpr isStructured
          rw [List.map_cons, if_pos isStructured,
            structured_cons_of_pos named, structured_cons_of_pos isStructured]
          simpa [childWatches] using inductionHypothesis
        · rw [List.map_cons, if_neg isStructured,
            structured_cons_of_neg isStructured,
            structured_cons_of_neg isStructured]
          exact inductionHypothesis
  · rfl

/-! ## One watch and one reply -/

section Checking

variable {project : Option Project}
variable {request : RequestNumber}
variable {symbol : WxString}
variable {watch : Watch}
variable {var : Variable}
variable {vars : List Variable}

theorem fst_addWatchChild :
    (addWatchChildByRequestSequence project request watch var).1 =
      watch.graft (Holds request) [childWatch project var] := by
  rw [addWatchChildByRequestSequence_eq, RoseTree.graft]
  cases watch.graft? (Holds request) [childWatch project var] with
  | none => rfl
  | some _ => rfl

theorem snd_addWatchChild :
    (addWatchChildByRequestSequence project request watch var).2.1 =
      if Holds request watch.value ∨ watch.children ≠ [] then
        nameAnonymous var
      else var := by
  rw [addWatchChildByRequestSequence_eq]
  rcases watch with ⟨data, children⟩
  by_cases holds : Holds request data
  · simp [RoseTree.graft?, holds]
  · cases children with
    | nil => simp [RoseTree.graft?, RoseTree.graftForest?, holds, offered]
    | cons child children =>
        cases grafted : RoseTree.graftForest? (Holds request)
            [childWatch project var] (child :: children) with
        | none => simp [RoseTree.graft?, grafted, holds, offered]
        | some _ => simp [RoseTree.graft?, grafted, holds]

theorem holds_setFromVariable :
    Holds request (setFromVariable request var watch).value :=
  rfl

/-- A watch of the variable's name might as well have been set before. -/
theorem checkVariables_cons_of_eq
    (named : symbol = var.name) :
    checkVariables project request symbol watch (var :: vars) =
      checkVariables project request symbol
        (setFromVariable request var watch) (var :: vars) := by
  simp only [checkVariables, if_pos named]
  rfl

/-- The watch after the name of the variable was looked at. -/
def matched
    (request : RequestNumber)
    (symbol : WxString)
    (var : Variable)
    (watch : Watch) : Watch :=
  if symbol = var.name then setFromVariable request var watch else watch

@[simp]
theorem children_matched :
    (matched request symbol var watch).children = watch.children := by
  unfold matched
  split
  · rfl
  · rfl

theorem holds_matched
    (holds : Holds request watch.value) :
    Holds request (matched request symbol var watch).value := by
  unfold matched
  split
  · exact holds_setFromVariable
  · exact holds

theorem checkVariables_cons_of_structured
    (isStructured : Structured var)
    {grafted : Watch}
    (graftedEq : grafted =
      (matched request symbol var watch).graft (Holds request)
        [childWatch project var]) :
    checkVariables project request symbol watch (var :: vars) =
      ((checkVariables project request symbol grafted vars).1,
        (if Holds request (matched request symbol var watch).value ∨
            watch.children ≠ [] then nameAnonymous var
          else var) ::
          (checkVariables project request symbol grafted vars).2) := by
  rw [graftedEq, ← fst_addWatchChild, ← @children_matched request symbol
    watch var, ← @snd_addWatchChild project]
  simp only [checkVariables]
  rw [if_pos (show var.variablesReference ≠ 0 from isStructured)]
  rfl

theorem checkVariables_cons_of_leaf
    (isLeaf : ¬Structured var) :
    checkVariables project request symbol watch (var :: vars) =
      ((checkVariables project request symbol
          (matched request symbol var watch) vars).1,
        var ::
          (checkVariables project request symbol
            (matched request symbol var watch) vars).2) := by
  simp only [checkVariables]
  rw [if_neg (show ¬var.variablesReference ≠ 0 from isLeaf)]
  rfl

theorem renamed_cons_of_structured
    (isStructured : Structured var) :
    renamed request watch (var :: vars) =
      (if Holds request watch.value ∨ watch.children ≠ [] then
          nameAnonymous var
        else var) :: renamed request watch vars := by
  unfold renamed
  split
  · rw [List.map_cons, if_pos isStructured]
  · rfl

theorem renamed_cons_of_leaf
    (isLeaf : ¬Structured var) :
    renamed request watch (var :: vars) =
      var :: renamed request watch vars := by
  unfold renamed
  split
  · rw [List.map_cons, if_neg isLeaf]
  · rfl

/-- Only whether a watch names variables counts. -/
theorem renamed_congr
    {other : Watch}
    (same : (Holds request other.value ∨ other.children ≠ []) ↔
      (Holds request watch.value ∨ watch.children ≠ [])) :
    renamed request other vars = renamed request watch vars := by
  unfold renamed
  rw [if_congr same rfl rfl]

/-- A watch that holds the request takes every variable that is offered. -/
theorem checkVariables_of_holds
    (holds : Holds request watch.value) :
    (checkVariables project request symbol watch vars).1.children =
        watch.children ++ childWatches project (structured vars) ∧
      (checkVariables project request symbol watch vars).2 =
        renamed request watch vars := by
  induction vars generalizing watch with
  | nil => simp [checkVariables, childWatches, structured, renamed]
  | cons var vars inductionHypothesis =>
      have stillHolds :
          Holds request (matched request symbol var watch).value :=
        holds_matched holds
      by_cases isStructured : Structured var
      · have graftedEq :
            (matched request symbol var watch).graft (Holds request)
                [childWatch project var] =
              .node (matched request symbol var watch).value
                (watch.children ++ [childWatch project var]) := by
          rw [RoseTree.graft_of_wanted stillHolds, children_matched]
        have graftedHolds :
            Holds request
              (RoseTree.node (matched request symbol var watch).value
                (watch.children ++ [childWatch project var])).value :=
          stillHolds
        rcases inductionHypothesis graftedHolds with
          ⟨childrenEq, varsEq⟩
        have sameNames :
            renamed request
                (.node (matched request symbol var watch).value
                  (watch.children ++ [childWatch project var])) vars =
              renamed request watch vars :=
          renamed_congr (iff_of_true (Or.inl graftedHolds) (Or.inl holds))
        rw [checkVariables_cons_of_structured isStructured graftedEq.symm,
          childrenEq, varsEq, sameNames,
          renamed_cons_of_structured isStructured,
          structured_cons_of_pos isStructured]
        simp [childWatches, stillHolds, holds]
      · rcases inductionHypothesis stillHolds with ⟨childrenEq, varsEq⟩
        have sameNames :
            renamed request (matched request symbol var watch) vars =
              renamed request watch vars :=
          renamed_congr (iff_of_true (Or.inl stillHolds) (Or.inl holds))
        rw [checkVariables_cons_of_leaf isStructured, childrenEq, varsEq,
          sameNames, renamed_cons_of_leaf isStructured,
          structured_cons_of_neg isStructured, children_matched]
        exact ⟨rfl, rfl⟩

/-- Variables without members are offered to nobody. -/
theorem checkVariables_of_leaves
    (leaves : ∀ member ∈ vars, ¬Structured member) :
    (checkVariables project request symbol watch vars).1.children =
        watch.children ∧
      (checkVariables project request symbol watch vars).2 = vars := by
  induction vars generalizing watch with
  | nil => exact ⟨rfl, rfl⟩
  | cons var vars inductionHypothesis =>
      rcases List.forall_mem_cons.mp leaves with ⟨isLeaf, later⟩
      rcases @inductionHypothesis (matched request symbol var watch) later
        with ⟨childrenEq, varsEq⟩
      rw [checkVariables_cons_of_leaf isLeaf, childrenEq, varsEq]
      exact ⟨children_matched, rfl⟩

/-- A watch that does not collect only lets the kids through to below. -/
theorem checkVariables_of_quiet
    (notHolds : ¬Holds request watch.value)
    (quiet : ¬Collects symbol vars) :
    (checkVariables project request symbol watch vars).1.children =
        (watch.graft (Holds request)
          (childWatches project (structured vars))).children ∧
      (checkVariables project request symbol watch vars).2 =
        renamed request watch vars := by
  induction vars generalizing watch with
  | nil => simp [checkVariables, childWatches, structured, renamed]
  | cons var vars inductionHypothesis =>
      rw [Collects, not_or, not_and] at quiet
      rcases quiet with ⟨quietHere, quietLater⟩
      by_cases named : symbol = var.name
      · -- The watch takes the number, but nothing follows to be taken.
        have leaves : ∀ member ∈ var :: vars, ¬Structured member := by
          intro member memberIn isStructured
          exact quietHere named ⟨member, memberIn, isStructured⟩
        have nothing : structured (var :: vars) = [] :=
          (structured_eq_nil_iff _).mpr leaves
        rcases @checkVariables_of_leaves project request symbol watch _
          leaves with ⟨childrenEq, varsEq⟩
        rw [childrenEq, varsEq, nothing, renamed_of_leaves leaves]
        simp [childWatches]
      · have unmatched : matched request symbol var watch = watch :=
          if_neg named
        by_cases isStructured : Structured var
        · have notHoldsGrafted :
              ¬Holds request
                (watch.graft (Holds request)
                  [childWatch project var]).value := by
            rwa [RoseTree.value_graft]
          have sameLength :
              (watch.graft (Holds request)
                  [childWatch project var]).children.length =
                watch.children.length :=
            RoseTree.length_children_graft notHolds
          have sameNames :
              renamed request
                  (watch.graft (Holds request) [childWatch project var])
                  vars =
                renamed request watch vars := by
            apply renamed_congr
            rw [RoseTree.value_graft, ← List.length_pos_iff,
              ← List.length_pos_iff, sameLength]
          rcases inductionHypothesis notHoldsGrafted quietLater with
            ⟨childrenEq, varsEq⟩
          rw [checkVariables_cons_of_structured isStructured rfl, unmatched,
            childrenEq, varsEq, sameNames,
            renamed_cons_of_structured isStructured,
            structured_cons_of_pos isStructured, RoseTree.graft_graft]
          exact ⟨rfl, rfl⟩
        · rcases inductionHypothesis notHolds quietLater with
            ⟨childrenEq, varsEq⟩
          rw [checkVariables_cons_of_leaf isStructured, unmatched,
            childrenEq, varsEq, renamed_cons_of_leaf isStructured,
            structured_cons_of_neg isStructured]
          exact ⟨rfl, rfl⟩

/-- A watch that collects has more children afterwards. -/
theorem length_children_of_collects
    (notHolds : ¬Holds request watch.value)
    (collects : Collects symbol vars) :
    watch.children.length <
      (checkVariables project request symbol watch vars).1.children.length
    := by
  induction vars generalizing watch with
  | nil => exact collects.elim
  | cons var vars inductionHypothesis =>
      by_cases named : symbol = var.name
      · have later : ∃ member ∈ var :: vars, Structured member :=
          collects.exists_structured
        have something : structured (var :: vars) ≠ [] := by
          intro nothing
          rcases later with ⟨member, memberIn, isStructured⟩
          exact (structured_eq_nil_iff _).mp nothing member memberIn
            isStructured
        have taken :=
          (@checkVariables_of_holds project request symbol
            (setFromVariable request var watch) (var :: vars)
            holds_setFromVariable).1
        have more := List.length_pos_iff.mpr something
        rw [checkVariables_cons_of_eq named, taken, List.length_append,
          childWatches, List.length_map]
        exact Nat.lt_add_of_pos_right more
      · have unmatched : matched request symbol var watch = watch :=
          if_neg named
        rcases collects with ⟨isNamed, _⟩ | later
        · exact absurd isNamed named
        · by_cases isStructured : Structured var
          · have notHoldsGrafted :
                ¬Holds request
                  (watch.graft (Holds request)
                    [childWatch project var]).value := by
              rwa [RoseTree.value_graft]
            have more := inductionHypothesis notHoldsGrafted later
            rw [RoseTree.length_children_graft notHolds] at more
            rw [checkVariables_cons_of_structured isStructured rfl,
              unmatched]
            exact more
          · rw [checkVariables_cons_of_leaf isStructured, unmatched]
            exact inductionHypothesis notHolds later

end Checking

/-! ## The forest and one reply -/

/--
After the reply the watches below those at the top are the ones before, and
the watch that holds the request has got the kids.
-/
def Expanded
    (request : RequestNumber)
    (kids before after : List Watch) : Prop :=
  after.map RoseTree.children =
    before.map fun watch => (watch.graft (Holds request) kids).children

section Forests

variable {project : Option Project}
variable {request : RequestNumber}
variable {kids : List Watch}

/-- Without a watch that collects, exactly the offered variables arrive. -/
theorem expanded_of_noneCollects
    {watches : List Watch}
    {vars : List Variable}
    (noneCollects : NoneCollects request watches vars) :
    Expanded request (childWatches project (structured vars)) watches
      (checkWatches project request watches vars).1 := by
  induction watches generalizing vars with
  | nil => rfl
  | cons watch watches inductionHypothesis =>
      rcases noneCollects with ⟨quiet, rest⟩
      have checked :
          (checkVariables project request watch.value.symbol watch
              vars).1.children =
              (watch.graft (Holds request)
                (childWatches project (structured vars))).children ∧
            (checkVariables project request watch.value.symbol watch
              vars).2 = renamed request watch vars := by
        by_cases holds : Holds request watch.value
        · rw [RoseTree.graft_of_wanted holds]
          exact checkVariables_of_holds holds
        · exact checkVariables_of_quiet holds (quiet.resolve_left holds)
      have later := @inductionHypothesis _ rest
      rw [childWatches_structured_renamed] at later
      rw [checkWatches, checked.2, Expanded, List.map_cons, List.map_cons,
        checked.1]
      exact congrArg _ later

/-- A watch that collects gets children no graft could have given it. -/
theorem noneCollects_of_expanded
    {watches : List Watch}
    {vars : List Variable}
    (expanded :
      Expanded request kids watches
        (checkWatches project request watches vars).1) :
    NoneCollects request watches vars := by
  induction watches generalizing vars with
  | nil => trivial
  | cons watch watches inductionHypothesis =>
      rw [checkWatches, Expanded, List.map_cons, List.map_cons,
        List.cons.injEq] at expanded
      rcases expanded with ⟨here, later⟩
      by_cases holds : Holds request watch.value
      · rw [(checkVariables_of_holds holds).2] at later
        exact ⟨Or.inl holds, inductionHypothesis later⟩
      · have quiet : ¬Collects watch.value.symbol vars := by
          intro collects
          have more :=
            @length_children_of_collects project _ _ _ _ holds collects
          rw [here, RoseTree.length_children_graft holds] at more
          exact Nat.lt_irrefl _ more
        rw [(checkVariables_of_quiet holds quiet).2] at later
        exact ⟨Or.inr quiet, inductionHypothesis later⟩

theorem expanded_nil_iff (before after : List Watch) :
    Expanded request [] before after ↔
      after.map RoseTree.children = before.map RoseTree.children := by
  simp [Expanded]

/-- Where a watch holds the request, the kids can be told afterwards. -/
theorem kids_eq_of_expanded
    {more before after : List Watch}
    {found : Watch}
    (foundIn : found ∈ RoseTree.forestNodes before)
    (holds : Holds request found.value)
    (one : Expanded request kids before after)
    (other : Expanded request more before after) :
    kids = more := by
  have same := one.symm.trans other
  rw [List.map_inj_left] at same
  rcases RoseTree.mem_forestNodes_iff.mp foundIn with
    ⟨watch, watchIn, foundBelow⟩
  have sameGraft :
      watch.graft (Holds request) kids = watch.graft (Holds request) more :=
    RoseTree.eq_of_children_eq (by simp) (same watch watchIn)
  exact RoseTree.kids_eq_of_graft_eq foundBelow holds sameGraft

end Forests

end DebuggerDap.Watches.Offering
