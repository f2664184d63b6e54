import DebuggerDap.Watches.Offering

/-!
# Expanding a watch

The children a watch asked for arrive in a variables reply.  Two things go
wrong on the way: a variable without members of its own is offered to no
watch, and a watch at the top that is named in a reply takes variables it
never asked for.  A reply may also bypass the watches: the variables after a
group of registers are taken for registers.
-/

namespace DebuggerDap.Watches.Expansion

open DebuggerDap.Library.RoseTree
open DebuggerDap.Breakpoints.Store
open DebuggerDap.Protocol.Codecs (Variable)
open DebuggerDap.Watches.Forest
open DebuggerDap.Watches.Offering

/-! ## Local variables and registers -/

/-- The registers were asked for before, or the first variable has it done. -/
def Bypasses (panel : DapWatches) (vars : List Variable) : Prop :=
  panel.requestedGPRegs = true ∨ panel.requestedFloats = true ∨
    ∀ var ∈ vars.head?, var.name = DapWatches.generalPurposeRegisters ∨
      var.name = DapWatches.floatingPointRegisters

section Sorting

variable {panel : DapWatches}
variable {var : Variable}
variable {vars : List Variable}

/-- The two groups are registers by their names. -/
theorem isRegister_of_group
    (group : var.name = DapWatches.generalPurposeRegisters ∨
      var.name = DapWatches.floatingPointRegisters) :
    DapWatches.isRegister var = true := by
  rcases group with general | floating
  · rw [DapWatches.isRegister, general]
    rfl
  · rw [DapWatches.isRegister, floating]
    rfl

/-- The loop asks for registers and sets flags, and nothing else. -/
theorem requestRegisters_eq :
    ∃ requestedGPRegs requestedFloats requestSequence,
      panel.requestRegisters var =
        { panel with
          requestedGPRegs := requestedGPRegs
          requestedFloats := requestedFloats
          requestSequence := requestSequence } := by
  unfold DapWatches.requestRegisters
  split
  · split
    · exact ⟨true, panel.requestedFloats, panel.requestSequence + 1, rfl⟩
    · split
      · exact ⟨panel.requestedGPRegs, true, panel.requestSequence + 1, rfl⟩
      · exact ⟨_, _, _, rfl⟩
  · exact ⟨_, _, _, rfl⟩

/-- Whether a variable is local makes no difference to the panel. -/
theorem panel_sortVariables_cons :
    (DapWatches.sortVariables (var :: vars) panel).1 =
      (DapWatches.sortVariables vars (panel.requestRegisters var)).1 := by
  rw [DapWatches.sortVariables]
  split
  · rfl
  · rfl

theorem sortVariables_eq :
    ∃ requestedGPRegs requestedFloats requestSequence,
      (DapWatches.sortVariables vars panel).1 =
        { panel with
          requestedGPRegs := requestedGPRegs
          requestedFloats := requestedFloats
          requestSequence := requestSequence } := by
  induction vars generalizing panel with
  | nil => exact ⟨_, _, _, rfl⟩
  | cons var vars inductionHypothesis =>
      rcases @requestRegisters_eq panel var with
        ⟨general, floats, sequence, askedEq⟩
      rcases @inductionHypothesis (panel.requestRegisters var) with
        ⟨laterGeneral, laterFloats, laterSequence, restEq⟩
      refine ⟨laterGeneral, laterFloats, laterSequence, ?_⟩
      rw [panel_sortVariables_cons, restEq, askedEq]

/-- Registers were asked for since the scopes arrived. -/
def Flagged (panel : DapWatches) : Prop :=
  panel.requestedGPRegs = true ∨ panel.requestedFloats = true

theorem flagged_requestRegisters_iff :
    Flagged (panel.requestRegisters var) ↔
      Flagged panel ∨ var.name = DapWatches.generalPurposeRegisters ∨
        var.name = DapWatches.floatingPointRegisters := by
  by_cases general : var.name = DapWatches.generalPurposeRegisters
  · have register := isRegister_of_group (Or.inl general)
    simp [DapWatches.requestRegisters, register, general, Flagged]
  · by_cases floating : var.name = DapWatches.floatingPointRegisters
    · have register := isRegister_of_group (Or.inr floating)
      rw [DapWatches.requestRegisters, if_pos register, if_neg general,
        if_pos floating]
      simp [floating, Flagged]
    · have unchanged : panel.requestRegisters var = panel := by
        unfold DapWatches.requestRegisters
        rw [if_neg general, if_neg floating, ite_self]
      simp [unchanged, general, floating]

theorem sortVariables_of_flagged (flagged : Flagged panel) :
    (DapWatches.sortVariables vars panel).2 = [] := by
  induction vars generalizing panel with
  | nil => rfl
  | cons var vars inductionHypothesis =>
      have stillFlagged : Flagged (panel.requestRegisters var) :=
        flagged_requestRegisters_iff.mpr (Or.inl flagged)
      have asRegister :
          ((panel.requestRegisters var).requestedGPRegs ||
            (panel.requestRegisters var).requestedFloats) = true :=
        Bool.or_eq_true_iff.mpr stillFlagged
      rw [DapWatches.sortVariables, if_pos asRegister]
      exact inductionHypothesis stillFlagged

/-- No variable counts as local exactly when the reply bypasses the watches. -/
theorem sortVariables_eq_nil_iff :
    (DapWatches.sortVariables vars panel).2 = [] ↔ Bypasses panel vars := by
  cases vars with
  | nil => simp [DapWatches.sortVariables, Bypasses]
  | cons var vars =>
      have flaggedIff := @flagged_requestRegisters_iff panel var
      have bypassesIff :
          Bypasses panel (var :: vars) ↔
            Flagged (panel.requestRegisters var) := by
        rw [flaggedIff]
        simp [Bypasses, Flagged, or_assoc]
      rw [bypassesIff]
      by_cases flagged : Flagged (panel.requestRegisters var)
      · have asRegister :
            ((panel.requestRegisters var).requestedGPRegs ||
              (panel.requestRegisters var).requestedFloats) = true :=
          Bool.or_eq_true_iff.mpr flagged
        rw [DapWatches.sortVariables, if_pos asRegister]
        exact iff_of_true (sortVariables_of_flagged flagged) flagged
      · have asLocal :
            ¬((panel.requestRegisters var).requestedGPRegs ||
              (panel.requestRegisters var).requestedFloats) = true :=
          fun set => flagged (Bool.or_eq_true_iff.mp set)
        rw [DapWatches.sortVariables, if_neg asLocal]
        exact iff_of_false (List.cons_ne_nil _ _) flagged

end Sorting

/-! ## The handler -/

/-- What an answered request was sent for. -/
inductive Origin where
  | expandWatch (watch : Watch)
  | onScopes

/-- The request of a reply to the panel. -/
def requestOf (panel : DapWatches) (requestSeq : Int) : RequestNumber where
  number := requestSeq
  session := panel.session

/--
The reply answers a request that was sent for this.  A watch that was expanded
holds the request as the only one and waits without children; no watch was
told of a request of `OnScopes`.
-/
def Origin.Answered
    (panel : DapWatches)
    (requestSeq : Int) : Origin → Prop
  | expandWatch watch =>
      RoseTree.wantedIn (Holds (requestOf panel requestSeq))
          (RoseTree.forestNodes panel.watches) = [watch] ∧
        watch.children = []
  | onScopes => True

/--
The children after the reply: grafted onto the expanded watch, which had
none, there is one for every variable, and nothing else has changed.
-/
def Origin.Correct
    (panel : DapWatches)
    (requestSeq : Int)
    (vars : List Variable) : Origin → Prop
  | expandWatch _ =>
      Expanded (requestOf panel requestSeq) (childWatches panel.project vars)
        panel.watches (panel.onVariables requestSeq vars).watches
  | onScopes =>
      (panel.onVariables requestSeq vars).watches.map RoseTree.children =
        panel.watches.map RoseTree.children

/-- What the handler needs of the watches and the reply. -/
def Origin.Safe
    (panel : DapWatches)
    (requestSeq : Int)
    (vars : List Variable) : Origin → Prop
  | expandWatch _ =>
      vars = [] ∨
        ¬Bypasses panel vars ∧ (∀ var ∈ vars, Structured var) ∧
          NoneCollects (requestOf panel requestSeq) panel.watches vars
  | onScopes =>
      Bypasses panel vars ∨ (∀ var ∈ vars, ¬Structured var) ∨
        (∀ watch ∈ RoseTree.forestNodes panel.watches,
            ¬Holds (requestOf panel requestSeq) watch.value) ∧
          NoneCollects (requestOf panel requestSeq) panel.watches vars

theorem watches_onVariables
    (panel : DapWatches)
    (requestSeq : Int)
    (vars : List Variable) :
    (Bypasses panel vars →
      (panel.onVariables requestSeq vars).watches = panel.watches) ∧
    (¬Bypasses panel vars →
      (panel.onVariables requestSeq vars).watches =
        (checkWatches panel.project (requestOf panel requestSeq)
          panel.watches vars).1) := by
  rcases @sortVariables_eq panel vars with
    ⟨general, floats, sequence, sortedEq⟩
  constructor
  · intro bypasses
    have none := sortVariables_eq_nil_iff.mpr bypasses
    rw [DapWatches.onVariables, if_neg (not_not.mpr none), sortedEq]
  · intro reaches
    have some := fun none => reaches (sortVariables_eq_nil_iff.mp none)
    rw [DapWatches.onVariables, if_pos some, sortedEq]
    rfl

theorem session_onVariables
    (panel : DapWatches)
    (requestSeq : Int)
    (vars : List Variable) :
    (panel.onVariables requestSeq vars).session = panel.session := by
  rcases @sortVariables_eq panel vars with
    ⟨general, floats, sequence, sortedEq⟩
  by_cases none : (DapWatches.sortVariables vars panel).2 = []
  · rw [DapWatches.onVariables, if_neg (not_not.mpr none), sortedEq]
  · rw [DapWatches.onVariables, if_pos none, sortedEq]
    rfl

theorem childWatches_eq_iff_structured
    (project : Option Project)
    (vars : List Variable) :
    childWatches project vars = childWatches project (structured vars) ↔
      ∀ var ∈ vars, Structured var := by
  constructor
  · intro same
    have lengths := congrArg List.length same
    simp only [childWatches, List.length_map, structured] at lengths
    simpa using List.length_filter_eq_length_iff.mp lengths.symm
  · intro all
    have everything : structured vars = vars :=
      List.filter_eq_self.mpr fun var varIn => by simpa using all var varIn
    rw [everything]

theorem noneCollects_of_leaves
    (request : RequestNumber)
    (watches : List Watch)
    {vars : List Variable}
    (leaves : ∀ var ∈ vars, ¬Structured var) :
    NoneCollects request watches vars := by
  induction watches with
  | nil => trivial
  | cons watch watches inductionHypothesis =>
      refine ⟨Or.inr ?_, ?_⟩
      · intro collects
        rcases collects.exists_structured with
          ⟨member, memberIn, isStructured⟩
        exact leaves member memberIn isStructured
      · rw [renamed_of_leaves leaves]
        exact inductionHypothesis

theorem expanded_of_unheld
    {request : RequestNumber}
    {kids before after : List Watch}
    (unheld : ∀ watch ∈ RoseTree.forestNodes before,
      ¬Holds request watch.value) :
    Expanded request kids before after ↔
      after.map RoseTree.children = before.map RoseTree.children := by
  have untouched :
      (before.map fun watch =>
          (watch.graft (Holds request) kids).children) =
        before.map RoseTree.children := by
    apply List.map_congr_left
    intro watch watchIn
    rw [RoseTree.graft_of_unwanted]
    intro found foundIn
    exact unheld found
      (RoseTree.mem_forestNodes_iff.mpr ⟨watch, watchIn, foundIn⟩)
  rw [Expanded, untouched]

section Replies

variable {panel : DapWatches}
variable {requestSeq : Int}
variable {vars : List Variable}

/-- Where no watch collects, a reply brings the variables it offers. -/
theorem expanded_onVariables
    (reaches : ¬Bypasses panel vars)
    (noneCollects :
      NoneCollects (requestOf panel requestSeq) panel.watches vars) :
    Expanded (requestOf panel requestSeq)
      (childWatches panel.project (structured vars)) panel.watches
      (panel.onVariables requestSeq vars).watches := by
  rw [(watches_onVariables panel requestSeq vars).2 reaches]
  exact expanded_of_noneCollects noneCollects

theorem noneCollects_of_expanded_onVariables
    {kids : List Watch}
    (reaches : ¬Bypasses panel vars)
    (expanded :
      Expanded (requestOf panel requestSeq) kids panel.watches
        (panel.onVariables requestSeq vars).watches) :
    NoneCollects (requestOf panel requestSeq) panel.watches vars := by
  rw [(watches_onVariables panel requestSeq vars).2 reaches] at expanded
  exact noneCollects_of_expanded expanded

/-- A reply that bypasses the watches brings nothing. -/
theorem expanded_nil_of_bypasses (bypasses : Bypasses panel vars) :
    Expanded (requestOf panel requestSeq) [] panel.watches
      (panel.onVariables requestSeq vars).watches := by
  rw [expanded_nil_iff,
    (watches_onVariables panel requestSeq vars).1 bypasses]

theorem correct_expandWatch_iff
    {watch found : Watch}
    (foundIn : found ∈ RoseTree.forestNodes panel.watches)
    (holds : Holds (requestOf panel requestSeq) found.value) :
    (Origin.expandWatch watch).Correct panel requestSeq vars ↔
      (Origin.expandWatch watch).Safe panel requestSeq vars := by
  by_cases bypasses : Bypasses panel vars
  · have nothing :=
      @expanded_nil_of_bypasses panel requestSeq vars bypasses
    constructor
    · intro correct
      left
      have noKids := kids_eq_of_expanded foundIn holds correct nothing
      exact List.map_eq_nil_iff.mp noKids
    · rintro (rfl | ⟨reaches, _⟩)
      · exact nothing
      · exact absurd bypasses reaches
  · constructor
    · intro correct
      right
      have noneCollects :=
        noneCollects_of_expanded_onVariables bypasses correct
      have sameKids :=
        kids_eq_of_expanded foundIn holds correct
          (expanded_onVariables bypasses noneCollects)
      exact ⟨bypasses, (childWatches_eq_iff_structured _ _).mp sameKids,
        noneCollects⟩
    · rintro (rfl | ⟨_, all, noneCollects⟩)
      · exact absurd (by simp [Bypasses]) bypasses
      · have brought := expanded_onVariables bypasses noneCollects
        rw [← (childWatches_eq_iff_structured _ _).mpr all] at brought
        exact brought

theorem correct_onScopes_iff :
    Origin.onScopes.Correct panel requestSeq vars ↔
      Origin.onScopes.Safe panel requestSeq vars := by
  have correctIff :
      Origin.onScopes.Correct panel requestSeq vars ↔
        Expanded (requestOf panel requestSeq) [] panel.watches
          (panel.onVariables requestSeq vars).watches :=
    (expanded_nil_iff _ _).symm
  rw [correctIff]
  by_cases bypasses : Bypasses panel vars
  · exact iff_of_true (expanded_nil_of_bypasses bypasses) (Or.inl bypasses)
  · constructor
    · intro unchanged
      right
      have noneCollects :=
        noneCollects_of_expanded_onVariables bypasses unchanged
      by_cases held : ∀ watch ∈ RoseTree.forestNodes panel.watches,
          ¬Holds (requestOf panel requestSeq) watch.value
      · exact Or.inr ⟨held, noneCollects⟩
      · left
        simp only [not_forall, not_not] at held
        rcases held with ⟨found, foundIn, holds⟩
        have noKids :=
          kids_eq_of_expanded foundIn holds
            (expanded_onVariables bypasses noneCollects) unchanged
        exact (structured_eq_nil_iff vars).mp (List.map_eq_nil_iff.mp noKids)
    · rintro (isBypassed | leaves | ⟨unheld, noneCollects⟩)
      · exact absurd isBypassed bypasses
      · have brought :=
          @expanded_onVariables panel requestSeq vars bypasses
            (noneCollects_of_leaves _ _ leaves)
        rw [(structured_eq_nil_iff vars).mpr leaves] at brought
        exact brought
      · have brought := expanded_onVariables bypasses noneCollects
        rw [expanded_of_unheld unheld] at brought
        exact (expanded_nil_iff _ _).mpr brought

end Replies

section Asking

variable {panel : DapWatches}
variable {index : Nat}
variable {path : List Nat}
variable {watch : Watch}

/-- The number of a new request is held by the watch it was sent for. -/
theorem answered_expandWatch
    (found : panel.watch? index path = some watch)
    (notExpanded : watch.value.hasBeenExpanded = false)
    (unheld : ∀ other ∈ RoseTree.forestNodes panel.watches,
      ¬Holds panel.sendRequest.lastRequest other.value) :
    (Origin.expandWatch
        (.leaf
          { watch.value with
            dapChildVariableRequestSequence :=
              panel.sendRequest.lastRequest })).Answered
      (panel.expandWatch true true index path)
      panel.sendRequest.requestSequence := by
  rcases Option.bind_eq_some_iff.mp found with ⟨root, rootIn, below⟩
  let asked : Watch → Watch := fun watch =>
    .leaf
      { watch.value with
        dapChildVariableRequestSequence := panel.sendRequest.lastRequest }
  have expandedEq :
      panel.expandWatch true true index path =
        panel.sendRequest.modifyWatch asked index path := by
    simp [DapWatches.expandWatch, found, notExpanded, asked]
  have rootUnheld :
      ∀ other ∈ RoseTree.nodes root,
        ¬Holds panel.sendRequest.lastRequest other.value :=
    fun other otherIn =>
      unheld other
        (RoseTree.mem_forestNodes_iff.mpr
          ⟨root, List.mem_of_getElem? rootIn, otherIn⟩)
  rw [expandedEq]
  refine ⟨?_, rfl⟩
  calc
    RoseTree.wantedIn (Holds panel.sendRequest.lastRequest)
        (RoseTree.forestNodes
          (panel.watches.modify index (RoseTree.modify asked path))) =
        RoseTree.wantedIn (Holds panel.sendRequest.lastRequest)
          (RoseTree.nodes (RoseTree.modify asked path root)) :=
      RoseTree.wantedIn_forestNodes_modify rootIn unheld
    _ = RoseTree.wantedIn (Holds panel.sendRequest.lastRequest)
          (RoseTree.nodes (asked watch)) :=
      RoseTree.wantedIn_nodes_modify path below rootUnheld
    _ = [asked watch] := by
      simp [RoseTree.wantedIn, RoseTree.leaf, asked, Holds]

end Asking

/-- The handler treats a reply right exactly when it is safe. -/
theorem onVariables_correct_iff
    (panel : DapWatches)
    (requestSeq : Int)
    (vars : List Variable)
    (origin : Origin)
    (answered : origin.Answered panel requestSeq) :
    origin.Correct panel requestSeq vars ↔
      origin.Safe panel requestSeq vars := by
  cases origin with
  | onScopes => exact correct_onScopes_iff
  | expandWatch watch =>
      have watchIn :
          watch ∈ RoseTree.wantedIn (Holds (requestOf panel requestSeq))
            (RoseTree.forestNodes panel.watches) := by
        rw [answered.1]
        exact List.mem_singleton_self watch
      rcases List.mem_filter.mp watchIn with ⟨foundIn, holds⟩
      exact correct_expandWatch_iff foundIn (by simpa using holds)

/-- A watch that was expanded with request 3. -/
def expandedWatch : Watch :=
  .leaf
    { newWatch none "point".toList with
      dapVariableReference := 2
      dapChildVariableRequestSequence :=
        { number := 3
          session := 1 } }

/-- The expanded watch and one for a number stand at the top. -/
def twoWatches : DapWatches :=
  { DapWatches.initial with
    watches := [expandedWatch, .leaf (newWatch none "count".toList)]
    session := 1
    requestSequence := 4 }

/-- A variable without members. -/
def leafVariable (name : String) : Variable :=
  { Variable.fresh with
    name := name.toList
    value := "1".toList }

def structuredVariable (name : String) : Variable :=
  { Variable.fresh with
    name := name.toList
    variablesReference := 7 }

theorem expandedWatch_answered :
    (Origin.expandWatch expandedWatch).Answered twoWatches 3 :=
  ⟨rfl, rfl⟩

theorem onVariables_correct_expandedWatch :
    (Origin.expandWatch expandedWatch).Correct twoWatches 3
      [structuredVariable "corner"] := by
  refine (onVariables_correct_iff twoWatches 3 [structuredVariable "corner"]
    (.expandWatch expandedWatch) expandedWatch_answered).mpr (Or.inr ?_)
  refine ⟨?_, ?_, ?_⟩
  · rintro (general | floats | group)
    · cases general
    · cases floats
    · exact absurd (group _ rfl) (by decide)
  · intro var varIn
    rw [List.mem_singleton.mp varIn]
    decide
  · refine ⟨Or.inl rfl, Or.inr ?_, trivial⟩
    rintro (⟨named, _⟩ | later)
    · exact absurd named (by decide)
    · exact later

/--
The members of an expanded watch are lost when they have no members of their
own, and a watch for a local variable takes the structured ones after it.
-/
theorem onVariables_not_correct :
    ((Origin.expandWatch expandedWatch).Answered twoWatches 3 ∧
        ¬(Origin.expandWatch expandedWatch).Correct twoWatches 3
          [leafVariable "x", leafVariable "y"]) ∧
      Origin.onScopes.Answered twoWatches 4 ∧
        ¬Origin.onScopes.Correct twoWatches 4
          [leafVariable "count", structuredVariable "corner"] := by
  refine ⟨⟨expandedWatch_answered, ?_⟩, trivial, ?_⟩
  · intro correct
    have lengths := congrArg (List.map List.length) correct
    exact absurd lengths (by decide)
  · intro correct
    have lengths := congrArg (List.map List.length) correct
    exact absurd lengths (by decide)

end DebuggerDap.Watches.Expansion
