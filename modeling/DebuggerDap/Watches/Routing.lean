import DebuggerDap.Library.Log
import DebuggerDap.Watches.Sessions

/-!
# Where the variables of a reply go

Variables are asked for in three places: for the scopes of a frame, for a
watch that is expanded, and for a group of registers that a reply has named.
All replies arrive at one handler, which looks at no request number.  It
takes variables for local ones until a reply names one of two groups of
registers, and for registers from then on, up to the next scopes.
-/

namespace DebuggerDap.Watches.Routing

open DebuggerDap.Text.Strings
open DebuggerDap.Library.Log
open DebuggerDap.Library.Run
open DebuggerDap.Persistence.StateFile
open DebuggerDap.Protocol.Codecs (Variable Scope)
open DebuggerDap.Watches.Forest
open DebuggerDap.Watches.Expansion
open DebuggerDap.Watches.Sessions (Label)

/-! ## Requests for variables -/

/-- What variables are asked for. -/
inductive Purpose where
  | scope (name : WxString)
  | expandedWatch
  | registerGroup (name : WxString)
  deriving DecidableEq, Repr

structure Asked where
  request : RequestNumber
  purpose : Purpose
  deriving DecidableEq, Repr

/-- The watches, what was asked for, and what was handled, newest first. -/
structure Conversation where
  panel : DapWatches
  asked : List Asked
  handled : List Label

namespace Conversation

def initial : Conversation where
  panel := DapWatches.initial
  asked := []
  handled := []

def getChildrenVariables
    (purpose : Purpose)
    (conversation : Conversation) : Conversation :=
  let sent := conversation.panel.sendRequest
  { conversation with
    panel := sent
    asked :=
      { request := sent.lastRequest
        purpose := purpose } :: conversation.asked }

/-- The loop of `OnScopes` asks for the registers if their window is shown. -/
def requestScope
    (registersShown : Bool)
    (conversation : Conversation)
    (scope : Scope) : Conversation :=
  if DapWatches.requestsScope registersShown scope then
    conversation.getChildrenVariables (.scope scope.name)
  else conversation

def onScopes
    (registersShown : Bool)
    (scopes : List Scope)
    (conversation : Conversation) : Conversation :=
  scopes.foldl (requestScope registersShown)
    { conversation with
      panel :=
        { conversation.panel with
          requestedGPRegs := false
          requestedFloats := false
          stackdapvariables := [] } }

def expandWatch
    (isStopped isRunning : Bool)
    (index : Nat)
    (path : List Nat)
    (conversation : Conversation) : Conversation :=
  if isStopped = false ∨ isRunning = false then conversation
  else
    match conversation.panel.watch? index path with
    | none => conversation
    | some watch =>
        if watch.value.hasBeenExpanded then conversation
        else
          let asked := conversation.getChildrenVariables .expandedWatch
          { asked with
            panel :=
              asked.panel.modifyWatch
                (fun watch =>
                  .leaf
                    { watch.value with
                      dapChildVariableRequestSequence :=
                        asked.panel.lastRequest })
                index path }

/-- A watch of the state file is expanded when it has been added. -/
def addLoadedWatch
    (loaded : DapWatch)
    (removes isStopped isRunning : Bool)
    (conversation : Conversation) : Conversation :=
  let added := Sessions.addLoadedWatch loaded removes false false
    conversation.panel
  expandWatch isStopped isRunning (added.watches.length - 1) []
    { conversation with panel := added }

end Conversation

/-! ## The handler of the replies -/

/-- What becomes of the variables of a reply. -/
inductive Effect where
  | onVariablesCheck (requestSeq : Int) (vars : List Variable)
  | setRegisterValue (name value : WxString)
  deriving DecidableEq, Repr

/-- A `std::map` from names to values, in the order of the names. -/
abbrev ValueMap := List (WxString × WxString)

def assign (name value : WxString) : ValueMap → ValueMap
  | [] => [(name, value)]
  | item :: items =>
      if item.1 = name then (name, value) :: items
      else if name < item.1 then (name, value) :: item :: items
      else item :: assign name value items

/-- The digit of four bits; a bitset takes no other characters. -/
def nibble (bits : WxString) : Option Char :=
  if bits.all fun bit => bit = '0' ∨ bit = '1' then
    some
      (Nat.digitChar
        (bits.foldl (fun value bit => 2 * value + (bit.toNat - 48)) 0)).toUpper
  else none

/-- The loop over the padded digits, four at a time. -/
def nibbles : WxString → Option WxString
  | first :: second :: third :: fourth :: binary => do
      let digit ← nibble [first, second, third, fourth]
      let rest ← nibbles binary
      return digit :: rest
  | _ => some []

/-- The constructor of the bitset throws at a character that is no bit. -/
def binStrToHexStr (binaryStr : WxString) : Option WxString :=
  if "0b".toList.isPrefixOf binaryStr then
    let binary := binaryStr.drop 2
    let padding := (4 - binary.length % 4) % 4
    (nibbles (List.replicate padding '0' ++ binary)).map ("0x".toList ++ ·)
  else some []

/--
`OnVarCPURegisters` of some registers.  An exception ends the loop, and
nothing comes after it in the handler.
-/
def onVarCPURegisters : ValueMap → List Effect
  | [] => []
  | (name, value) :: registers =>
      .setRegisterValue name value ::
        if name = "eflags".toList then
          match binStrToHexStr value with
          | none => []
          | some hexStr =>
              if hexStr = [] then onVarCPURegisters registers
              else
                .setRegisterValue name hexStr :: onVarCPURegisters registers
        else onVarCPURegisters registers

/-- The conversation and the two maps in the loop of `OnVariables`. -/
structure Sorting where
  conversation : Conversation
  localVariables : ValueMap
  cpuRegisterVariables : ValueMap

def requestRegisters
    (var : Variable)
    (conversation : Conversation) : Conversation :=
  if DapWatches.isRegister var then
    if var.name = DapWatches.generalPurposeRegisters then
      let asked := conversation.getChildrenVariables (.registerGroup var.name)
      { asked with panel := { asked.panel with requestedGPRegs := true } }
    else if var.name = DapWatches.floatingPointRegisters then
      let asked := conversation.getChildrenVariables (.registerGroup var.name)
      { asked with panel := { asked.panel with requestedFloats := true } }
    else conversation
  else conversation

/-- Registers without a value are left out. -/
def sortVariable (sorting : Sorting) (var : Variable) : Sorting :=
  let value := if var.value = [] then "\"\"".toList else var.value
  let asked := requestRegisters var sorting.conversation
  if asked.panel.requestedGPRegs || asked.panel.requestedFloats then
    { conversation := asked
      localVariables := sorting.localVariables
      cpuRegisterVariables :=
        if var.value = [] then sorting.cpuRegisterVariables
        else assign var.name value sorting.cpuRegisterVariables }
  else
    { conversation := asked
      localVariables := assign var.name value sorting.localVariables
      cpuRegisterVariables := sorting.cpuRegisterVariables }

def sortVariables
    (vars : List Variable)
    (conversation : Conversation) : Sorting :=
  vars.foldl sortVariable
    { conversation := conversation
      localVariables := []
      cpuRegisterVariables := [] }

def onVariables
    (requestSeq : Int)
    (vars : List Variable)
    (conversation : Conversation) : Conversation × List Effect :=
  let sorted := sortVariables vars conversation
  let registers :=
    if sorted.cpuRegisterVariables = [] then []
    else onVarCPURegisters sorted.cpuRegisterVariables
  if sorted.localVariables = [] then (sorted.conversation, registers)
  else
    ({ sorted.conversation with
        panel := sorted.conversation.panel.onVariablesCheck requestSeq vars },
      .onVariablesCheck requestSeq vars :: registers)

/-! ## Runs -/

/-- The handler of a label, with the effects of a reply. -/
def handle : Label → Conversation → Conversation × List Effect
  | .onScopes registersShown scopes, conversation =>
      (conversation.onScopes registersShown scopes, [])
  | .expandWatch isStopped isRunning index path, conversation =>
      (conversation.expandWatch isStopped isRunning index path, [])
  | .addLoadedWatch loaded removes isStopped isRunning, conversation =>
      (conversation.addLoadedWatch loaded removes isStopped isRunning, [])
  | .onVariables requestSeq vars, conversation =>
      onVariables requestSeq vars conversation
  | label, conversation =>
      ({ conversation with
          panel := Sessions.handle label conversation.panel }, [])

def step
    (conversation : Conversation)
    (label : Label) : Option Conversation :=
  if Sessions.Enabled conversation.panel label then
    some
      { (handle label conversation).1 with
        handled := label :: conversation.handled }
  else none

/-! ## What is asked of a reply -/

/-- The request was for a watch or for a scope other than the registers. -/
def Purpose.IsForVariables : Purpose → Prop
  | scope name => isSameAs name "Registers".toList = false
  | expandedWatch => True
  | registerGroup _ => False

instance : DecidablePred Purpose.IsForVariables :=
  fun purpose =>
    match purpose with
    | .scope name =>
        inferInstanceAs
          (Decidable (isSameAs name "Registers".toList = false))
    | .expandedWatch => isTrue trivial
    | .registerGroup _ => isFalse id

/-- The reply answers such a request, and no variable in it is a register. -/
def IsVariableReply
    (conversation : Conversation)
    (requestSeq : Int)
    (vars : List Variable) : Prop :=
  (∃ asked ∈ conversation.asked,
    asked.request = requestOf conversation.panel requestSeq ∧
      asked.purpose.IsForVariables) ∧
  ∀ var ∈ vars, DapWatches.isRegister var = false

instance
    (conversation : Conversation)
    (requestSeq : Int)
    (vars : List Variable) :
    Decidable (IsVariableReply conversation requestSeq vars) :=
  inferInstanceAs
    (Decidable
      ((∃ asked ∈ conversation.asked,
        asked.request = requestOf conversation.panel requestSeq ∧
          asked.purpose.IsForVariables) ∧
      ∀ var ∈ vars, DapWatches.isRegister var = false))

/-- The watches are told of a reply, and the registers are not. -/
structure Routed
    (requestSeq : Int)
    (vars : List Variable)
    (effects : List Effect) : Prop where
  checked : .onVariablesCheck requestSeq vars ∈ effects
  noRegister : ∀ name value, .setRegisterValue name value ∉ effects

/-- Every reply for variables is to be routed to the watches. -/
def NotMixedUp (conversation : Conversation) : Label → Prop
  | .onVariables requestSeq vars =>
      IsVariableReply conversation requestSeq vars →
        Routed requestSeq vars (onVariables requestSeq vars conversation).2
  | _ => True

/-- One of the two groups whose registers are asked for. -/
def IsGroup (var : Variable) : Prop :=
  var.name = DapWatches.generalPurposeRegisters ∨
    var.name = DapWatches.floatingPointRegisters

instance : DecidablePred IsGroup :=
  fun var =>
    inferInstanceAs
      (Decidable
        (var.name = DapWatches.generalPurposeRegisters ∨
          var.name = DapWatches.floatingPointRegisters))

def ReportsGroup : Label → Prop
  | .onVariables _ vars => ∃ var ∈ vars, IsGroup var
  | _ => False

instance : DecidablePred ReportsGroup :=
  fun label =>
    match label with
    | .onVariables _ vars =>
        inferInstanceAs (Decidable (∃ var ∈ vars, IsGroup var))
    | .clientReset | .sendRequest | .initializedEvent | .setProject _
    | .addWatch _ | .addLoadedWatch _ _ _ _ | .deleteWatch _
    | .editWatch _ _ _ _ _ _ | .expandWatch _ _ _ _ | .updateWatch _ _ _
    | .evaluateWatchCallback _ _ _ _ | .onScopes _ _ => isFalse id

def IsScopes : Label → Prop
  | .onScopes _ _ => True
  | _ => False

instance : DecidablePred IsScopes :=
  fun label =>
    match label with
    | .onScopes _ _ => isTrue trivial
    | .clientReset | .sendRequest | .initializedEvent | .setProject _
    | .addWatch _ | .addLoadedWatch _ _ _ _ | .deleteWatch _
    | .editWatch _ _ _ _ _ _ | .expandWatch _ _ _ _ | .updateWatch _ _ _
    | .evaluateWatchCallback _ _ _ _ | .onVariables _ _ => isFalse id

/--
A reply for variables has some, and no reply since the scopes has named one
of the two groups.
-/
def Undisturbed (conversation : Conversation) : Label → Prop
  | .onVariables requestSeq vars =>
      IsVariableReply conversation requestSeq vars →
        vars ≠ [] ∧
          ¬LastSince ReportsGroup IsScopes conversation.handled
  | _ => True

instance (conversation : Conversation) :
    DecidablePred (Undisturbed conversation) :=
  fun label =>
    match label with
    | .onVariables requestSeq vars =>
        inferInstanceAs
          (Decidable
            (IsVariableReply conversation requestSeq vars →
              vars ≠ [] ∧
                ¬LastSince ReportsGroup IsScopes conversation.handled))
    | .clientReset | .sendRequest | .initializedEvent | .setProject _
    | .addWatch _ | .addLoadedWatch _ _ _ _ | .deleteWatch _
    | .editWatch _ _ _ _ _ _ | .expandWatch _ _ _ _ | .updateWatch _ _ _
    | .evaluateWatchCallback _ _ _ _ | .onScopes _ _ => isTrue trivial

/-! ## The panel of a conversation -/

section Panel

variable {conversation : Conversation}

theorem panel_foldl_requestScope
    (registersShown : Bool)
    (scopes : List Scope) :
    (scopes.foldl (Conversation.requestScope registersShown)
        conversation).panel =
      scopes.foldl (fun panel scope =>
        if DapWatches.requestsScope registersShown scope then
          panel.sendRequest
        else panel) conversation.panel := by
  induction scopes generalizing conversation with
  | nil => rfl
  | cons scope scopes inductionHypothesis =>
      have first :
          (conversation.requestScope registersShown scope).panel =
            if DapWatches.requestsScope registersShown scope then
              conversation.panel.sendRequest
            else conversation.panel := by
        unfold Conversation.requestScope
        split
        · rfl
        · rfl
      rw [List.foldl_cons, List.foldl_cons, inductionHypothesis, first]

theorem panel_onScopes (registersShown : Bool) (scopes : List Scope) :
    (conversation.onScopes registersShown scopes).panel =
      conversation.panel.onScopes registersShown scopes :=
  panel_foldl_requestScope registersShown scopes

theorem panel_expandWatch
    (isStopped isRunning : Bool)
    (index : Nat)
    (path : List Nat) :
    (conversation.expandWatch isStopped isRunning index path).panel =
      conversation.panel.expandWatch isStopped isRunning index path := by
  unfold Conversation.expandWatch DapWatches.expandWatch
  by_cases idle : isStopped = false ∨ isRunning = false
  · rw [if_pos idle, if_pos idle]
  · rw [if_neg idle, if_neg idle]
    cases conversation.panel.watch? index path with
    | none => rfl
    | some watch =>
        by_cases expanded : watch.value.hasBeenExpanded = true
        · simp only [expanded, if_true]
        · simp only [expanded]
          rfl

theorem panel_addLoadedWatch
    (loaded : DapWatch)
    (removes isStopped isRunning : Bool) :
    (conversation.addLoadedWatch loaded removes isStopped isRunning).panel =
      Sessions.addLoadedWatch loaded removes isStopped isRunning
        conversation.panel := by
  unfold Conversation.addLoadedWatch
  rw [panel_expandWatch]
  simp [Sessions.addLoadedWatch, DapWatches.expandWatch]

theorem panel_requestRegisters (var : Variable) :
    (requestRegisters var conversation).panel =
      conversation.panel.requestRegisters var := by
  unfold requestRegisters DapWatches.requestRegisters
  split
  · split
    · rfl
    · split
      · rfl
      · rfl
  · rfl

end Panel

theorem assign_ne_nil (name value : WxString) (items : ValueMap) :
    assign name value items ≠ [] := by
  cases items with
  | nil => exact List.cons_ne_nil _ _
  | cons item items =>
      unfold assign
      split
      · exact List.cons_ne_nil _ _
      · split
        · exact List.cons_ne_nil _ _
        · exact List.cons_ne_nil _ _

section Sorting

variable {sorting : Sorting}
variable {var : Variable}

theorem conversation_sortVariable :
    (sortVariable sorting var).conversation =
      requestRegisters var sorting.conversation := by
  simp only [sortVariable]
  split
  · rfl
  · rfl

theorem sortVariable_of_flagged
    (flagged : Flagged (sorting.conversation.panel.requestRegisters var)) :
    (sortVariable sorting var).localVariables = sorting.localVariables := by
  rw [← panel_requestRegisters] at flagged
  simp only [sortVariable]
  rw [if_pos (Bool.or_eq_true_iff.mpr flagged)]

theorem sortVariable_of_not_flagged
    (notFlagged :
      ¬Flagged (sorting.conversation.panel.requestRegisters var)) :
    (sortVariable sorting var).localVariables ≠ [] ∧
      (sortVariable sorting var).cpuRegisterVariables =
        sorting.cpuRegisterVariables := by
  rw [← panel_requestRegisters] at notFlagged
  simp only [sortVariable]
  rw [if_neg fun set => notFlagged (Bool.or_eq_true_iff.mp set)]
  exact ⟨assign_ne_nil _ _ _, rfl⟩

/-- The loop agrees with the one that only collects the names. -/
theorem foldl_sortVariable (vars : List Variable) :
    (vars.foldl sortVariable sorting).conversation.panel =
        (DapWatches.sortVariables vars sorting.conversation.panel).1 ∧
      ((vars.foldl sortVariable sorting).localVariables = [] ↔
        sorting.localVariables = [] ∧
          (DapWatches.sortVariables vars
            sorting.conversation.panel).2 = []) := by
  induction vars generalizing sorting with
  | nil => exact ⟨rfl, (and_iff_left rfl).symm⟩
  | cons var vars inductionHypothesis =>
      have rest := @inductionHypothesis (sortVariable sorting var)
      rw [conversation_sortVariable, panel_requestRegisters] at rest
      rw [List.foldl_cons, rest.1, rest.2, DapWatches.sortVariables]
      by_cases flagged :
          Flagged (sorting.conversation.panel.requestRegisters var)
      · rw [if_pos (Bool.or_eq_true_iff.mpr flagged),
          sortVariable_of_flagged flagged]
        exact ⟨rfl, Iff.rfl⟩
      · rw [if_neg fun set => flagged (Bool.or_eq_true_iff.mp set)]
        have local_ := (sortVariable_of_not_flagged flagged).1
        exact ⟨rfl, iff_of_false (fun none => local_ none.1)
          fun none => List.cons_ne_nil _ _ none.2⟩

/-- A reply that leaves the flags unset brings nothing for the registers. -/
theorem cpuRegisterVariables_foldl
    {vars : List Variable}
    (notFlagged : ¬Flagged sorting.conversation.panel)
    (noGroup : ∀ var ∈ vars, ¬IsGroup var) :
    (vars.foldl sortVariable sorting).cpuRegisterVariables =
      sorting.cpuRegisterVariables := by
  induction vars generalizing sorting with
  | nil => rfl
  | cons var vars inductionHypothesis =>
      have stillNot :
          ¬Flagged (sorting.conversation.panel.requestRegisters var) := by
        rw [flagged_requestRegisters_iff]
        rintro (before | group)
        · exact notFlagged before
        · exact noGroup var List.mem_cons_self group
      rw [List.foldl_cons, inductionHypothesis,
        (sortVariable_of_not_flagged stillNot).2]
      · rw [conversation_sortVariable, panel_requestRegisters]
        exact stillNot
      · exact fun other member =>
          noGroup other (List.mem_cons_of_mem _ member)

end Sorting

section Replies

variable {requestSeq : Int}
variable {vars : List Variable}
variable {conversation : Conversation}

theorem panel_sortVariables :
    (sortVariables vars conversation).conversation.panel =
      (DapWatches.sortVariables vars conversation.panel).1 :=
  (foldl_sortVariable vars).1

theorem localVariables_eq_nil_iff :
    (sortVariables vars conversation).localVariables = [] ↔
      Bypasses conversation.panel vars := by
  rw [← sortVariables_eq_nil_iff]
  exact (foldl_sortVariable vars).2.trans (and_iff_right rfl)

theorem panel_onVariables :
    (onVariables requestSeq vars conversation).1.panel =
      conversation.panel.onVariables requestSeq vars := by
  simp only [onVariables, DapWatches.onVariables]
  by_cases bypasses : Bypasses conversation.panel vars
  · rw [if_pos (localVariables_eq_nil_iff.mpr bypasses),
      if_neg (not_not.mpr (sortVariables_eq_nil_iff.mpr bypasses))]
    exact panel_sortVariables
  · rw [if_neg fun none => bypasses (localVariables_eq_nil_iff.mp none),
      if_pos fun none => bypasses (sortVariables_eq_nil_iff.mp none)]
    exact congrArg (DapWatches.onVariablesCheck requestSeq vars)
      panel_sortVariables

theorem onVariablesCheck_not_mem (registers : ValueMap) :
    .onVariablesCheck requestSeq vars ∉ onVarCPURegisters registers := by
  induction registers with
  | nil => exact List.not_mem_nil
  | cons register registers inductionHypothesis =>
      unfold onVarCPURegisters
      split
      · split
        · simp
        · split
          · simp [inductionHypothesis]
          · simp [inductionHypothesis]
      · simp [inductionHypothesis]

/-- The watches are told unless the reply bypasses them. -/
theorem onVariablesCheck_mem_iff :
    .onVariablesCheck requestSeq vars ∈
        (onVariables requestSeq vars conversation).2 ↔
      ¬Bypasses conversation.panel vars := by
  have notIn :
      .onVariablesCheck requestSeq vars ∉
        if (sortVariables vars conversation).cpuRegisterVariables = [] then []
        else
          onVarCPURegisters
            (sortVariables vars conversation).cpuRegisterVariables := by
    split
    · exact List.not_mem_nil
    · exact onVariablesCheck_not_mem _
  simp only [onVariables]
  by_cases bypasses : Bypasses conversation.panel vars
  · rw [if_pos (localVariables_eq_nil_iff.mpr bypasses)]
    exact iff_of_false notIn (not_not.mpr bypasses)
  · rw [if_neg fun none => bypasses (localVariables_eq_nil_iff.mp none)]
    exact iff_of_true List.mem_cons_self bypasses

theorem setRegisterValue_not_mem
    (notFlagged : ¬Flagged conversation.panel)
    (noGroup : ∀ var ∈ vars, ¬IsGroup var)
    (name value : WxString) :
    .setRegisterValue name value ∉
      (onVariables requestSeq vars conversation).2 := by
  have none : (sortVariables vars conversation).cpuRegisterVariables = [] :=
    cpuRegisterVariables_foldl notFlagged noGroup
  simp only [onVariables]
  rw [if_pos none]
  split
  · exact List.not_mem_nil
  · simp

/-- No reply without registers goes anywhere but by the two flags. -/
theorem routed_iff
    (registerFree : ∀ var ∈ vars, DapWatches.isRegister var = false) :
    Routed requestSeq vars (onVariables requestSeq vars conversation).2 ↔
      vars ≠ [] ∧ ¬Flagged conversation.panel := by
  have noGroup : ∀ var ∈ vars, ¬IsGroup var := by
    intro var varIn group
    have register := isRegister_of_group group
    rw [registerFree var varIn] at register
    cases register
  constructor
  · intro routed
    have reaches := onVariablesCheck_mem_iff.mp routed.checked
    refine ⟨?_, fun flagged => ?_⟩
    · rintro rfl
      exact reaches (by simp [Bypasses])
    · exact reaches (flagged.elim Or.inl (Or.inr ∘ Or.inl))
  · rintro ⟨some, notFlagged⟩
    refine ⟨onVariablesCheck_mem_iff.mpr ?_,
      setRegisterValue_not_mem notFlagged noGroup⟩
    rintro (general | floats | group)
    · exact notFlagged (Or.inl general)
    · exact notFlagged (Or.inr floats)
    · rcases List.exists_cons_of_ne_nil some with ⟨var, rest, rfl⟩
      exact noGroup var List.mem_cons_self (group var rfl)

end Replies

/-- The watches of a conversation are those of the panel alone. -/
theorem panel_handle (label : Label) (conversation : Conversation) :
    (handle label conversation).1.panel =
      Sessions.handle label conversation.panel := by
  cases label with
  | onScopes registersShown scopes => exact panel_onScopes _ _
  | expandWatch isStopped isRunning index path =>
      exact panel_expandWatch _ _ _ _
  | addLoadedWatch loaded removes isStopped isRunning =>
      exact panel_addLoadedWatch _ _ _ _
  | onVariables requestSeq vars => exact panel_onVariables
  | _ => rfl

/-! ## The flags tell the history -/

section Flags

variable {panel : DapWatches}

theorem flagged_sortVariables_iff {vars : List Variable} :
    Flagged (DapWatches.sortVariables vars panel).1 ↔
      Flagged panel ∨ ∃ var ∈ vars, IsGroup var := by
  induction vars generalizing panel with
  | nil => simp [DapWatches.sortVariables]
  | cons var vars inductionHypothesis =>
      rw [panel_sortVariables_cons, inductionHypothesis,
        flagged_requestRegisters_iff, List.exists_mem_cons_iff]
      exact or_assoc

theorem flagged_onVariables_iff
    {requestSeq : Int}
    {vars : List Variable} :
    Flagged (panel.onVariables requestSeq vars) ↔
      Flagged panel ∨ ∃ var ∈ vars, IsGroup var := by
  rw [← flagged_sortVariables_iff]
  simp only [DapWatches.onVariables]
  split
  · exact Iff.rfl
  · exact Iff.rfl

/-- The scopes leave no flag set. -/
theorem not_flagged_onScopes (registersShown : Bool) (scopes : List Scope) :
    ¬Flagged (panel.onScopes registersShown scopes) := by
  simp only [DapWatches.onScopes]
  apply List.foldlRecOn scopes _ (motive := fun panel => ¬Flagged panel)
  · simp [Flagged]
  · intro asked notFlagged scope _
    split
    · exact notFlagged
    · exact notFlagged

theorem flagged_expandWatch_iff
    (isStopped isRunning : Bool)
    (index : Nat)
    (path : List Nat) :
    Flagged (panel.expandWatch isStopped isRunning index path) ↔
      Flagged panel := by
  unfold DapWatches.expandWatch
  split
  · exact Iff.rfl
  · split
    · exact Iff.rfl
    · split
      · exact Iff.rfl
      · exact Iff.rfl

/-- Nothing but the scopes and the replies touches the flags. -/
theorem flagged_handle_iff
    {label : Label}
    (noScopes : ¬IsScopes label)
    (noReply : ∀ requestSeq vars, label ≠ .onVariables requestSeq vars) :
    Flagged (Sessions.handle label panel) ↔ Flagged panel := by
  cases label with
  | onScopes registersShown scopes => exact absurd trivial noScopes
  | onVariables requestSeq vars => exact absurd rfl (noReply _ _)
  | expandWatch isStopped isRunning index path =>
      exact flagged_expandWatch_iff _ _ _ _
  | addLoadedWatch loaded removes isStopped isRunning =>
      exact flagged_expandWatch_iff _ _ _ _
  | updateWatch isRunning hasFrame index =>
      simp only [Sessions.handle, Sessions.updateWatch]
      split
      · split
        · exact Iff.rfl
        · exact Iff.rfl
      · exact Iff.rfl
  | evaluateWatchCallback success result type index =>
      simp only [Sessions.handle, Sessions.evaluateWatchCallback]
      split
      · exact Iff.rfl
      · exact Iff.rfl
  | _ => exact Iff.rfl

end Flags

/-- A flag is set exactly when a group was reported since the scopes. -/
def Remembers (conversation : Conversation) : Prop :=
  Flagged conversation.panel ↔
    LastSince ReportsGroup IsScopes conversation.handled

section Laws

variable {conversation next : Conversation}
variable {label : Label}

theorem Remembers.step
    (remembers : Remembers conversation)
    (taken : step conversation label = some next) :
    Remembers next := by
  unfold Routing.step at taken
  split at taken
  case isFalse => cases taken
  case isTrue =>
    cases taken
    rw [Remembers, panel_handle, lastSince_cons]
    by_cases scopes : IsScopes label
    · cases label with
      | onScopes registersShown scopes =>
          apply iff_of_false (not_flagged_onScopes _ _)
          rintro (reports | ⟨noScopes, _⟩)
          · exact reports
          · exact noScopes trivial
      | _ => cases scopes
    · by_cases reply :
          ∃ requestSeq vars, label = .onVariables requestSeq vars
      · rcases reply with ⟨requestSeq, vars, rfl⟩
        rw [and_iff_right scopes]
        calc
          Flagged (conversation.panel.onVariables requestSeq vars)
          _ ↔ Flagged conversation.panel ∨ ∃ var ∈ vars, IsGroup var :=
            flagged_onVariables_iff
          _ ↔ (∃ var ∈ vars, IsGroup var) ∨ Flagged conversation.panel :=
            or_comm
          _ ↔ _ := or_congr_right remembers
      · have noReply :
            ∀ requestSeq vars, label ≠ .onVariables requestSeq vars :=
          fun requestSeq vars same => reply ⟨requestSeq, vars, same⟩
        have reportsNone : ¬ReportsGroup label := by
          cases label with
          | onVariables requestSeq vars => exact absurd rfl (noReply _ _)
          | _ => exact id
        rw [flagged_handle_iff scopes noReply, and_iff_right scopes,
          or_iff_right reportsNone]
        exact remembers

theorem notMixedUp_iff_undisturbed (remembers : Remembers conversation) :
    NotMixedUp conversation label ↔ Undisturbed conversation label := by
  cases label with
  | onVariables requestSeq vars =>
      have routed :
          IsVariableReply conversation requestSeq vars →
            (Routed requestSeq vars
                (onVariables requestSeq vars conversation).2 ↔
              vars ≠ [] ∧
                ¬LastSince ReportsGroup IsScopes conversation.handled) := by
        intro reply
        rw [routed_iff reply.2]
        exact and_congr_right fun _ => not_congr remembers
      exact forall_congr' routed
  | _ => exact Iff.rfl

end Laws

/--
In every run the replies are not mixed up exactly when every reply for
variables has some and no group of registers was reported since the scopes.
-/
theorem not_mixed_up_iff (labels : List Label) :
    Along step NotMixedUp Conversation.initial labels ↔
      Along step Undisturbed Conversation.initial labels := by
  have start : Remembers Conversation.initial :=
    iff_of_false (by rintro (general | floats) <;> contradiction)
      not_lastSince_nil
  have unguarded :
      Along step (fun _ _ => True) Conversation.initial labels :=
    along_of_forall Conversation.initial labels fun _ _ => trivial
  apply along_congr _ _ start unguarded
  · intro conversation label remembers _
    exact notMixedUp_iff_undisturbed remembers
  · intro conversation label next remembers _ _ taken
    exact remembers.step taken

/-! ## Registers and an expanded watch -/

/-- The scope of the registers, which has the two groups. -/
def registers : Scope :=
  { Scope.fresh with
    name := "Registers".toList
    variablesReference := 2 }

def valuedVariable (name value : String) : Variable :=
  { Variable.fresh with
    name := name.toList
    value := value.toList }

/-- At a stop the registers are shown and the user expands a watch. -/
def stopped : List Label :=
  [.addWatch "point".toList,
    .onScopes true [Sessions.locals, registers],
    .onVariables 1 [structuredVariable "point"],
    .expandWatch true true 0 []]

def registersReply : Label :=
  .onVariables 2 [structuredVariable "General Purpose Registers"]

/-- The reply to the expansion. -/
def membersReply : Label :=
  .onVariables 3 [valuedVariable "x" "1"]

/-- Registers that are reported last are in nobody's way. -/
example :
    Along step Undisturbed Conversation.initial
      (stopped ++ [membersReply, registersReply]) := by
  decide

/-- After the registers the members of the watch are taken for registers. -/
theorem not_mixed_up_false :
    (∃ reached, run step Conversation.initial
        (stopped ++ [registersReply, membersReply]) = some reached) ∧
      ¬Along step NotMixedUp Conversation.initial
        (stopped ++ [registersReply, membersReply]) := by
  refine ⟨⟨_, rfl⟩, ?_⟩
  intro along
  have replies := along.right rfl
  have law := (replies.2 _ rfl).1
  have routed := law (by decide)
  exact absurd routed.checked (by decide)

end DebuggerDap.Watches.Routing
