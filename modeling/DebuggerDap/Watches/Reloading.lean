import DebuggerDap.Library.Refiling
import DebuggerDap.Persistence.RoundTrip
import DebuggerDap.Watches.Sessions

/-!
# Loading the saved watches again

The watches of a project are loaded when it is opened and at every start of
the debugger, where those of the last time are still there.  A watch that is
there already is known by its symbol, its project and its type.  The type is
set by the replies of the debugger, so that a watch whose type has changed
since it was saved is not known again and is loaded a second time.
-/

namespace DebuggerDap.Watches.Reloading

open DebuggerDap.Text.Strings
open DebuggerDap.Library.Refiling
open DebuggerDap.Library.Run
open DebuggerDap.Library.XmlTree
open DebuggerDap.Breakpoints.Store
open DebuggerDap.Persistence.StateFile
open DebuggerDap.Persistence.RoundTrip
open DebuggerDap.Protocol.Codecs (Variable Scope)
open DebuggerDap.Watches.Forest
open DebuggerDap.Watches.Expansion (sortVariables_eq)
open DebuggerDap.Watches.Sessions

/-! ## Loading -/

/--
The loop of `LoadStateFromFile` over the watches; the dialog has the plugin
delete a watch that it is to remove.
-/
def loadWatches
    (ide : Ide)
    (pProject : Project)
    (isStopped isRunning : Bool) : List XmlElement → DapWatches → DapWatches
  | [], panel => panel
  | pWatchElement :: rest, panel =>
      let className :=
        readChildNodewxString pWatchElement "DAPWatchClassName".toList
      let watch := loadWatchFromXML ide pProject pWatchElement
      if className = dapWatchClassName ∧ watch.symbol ≠ [] then
        loadWatches ide pProject isStopped isRunning rest
          (addLoadedWatch watch true isStopped isRunning panel)
      else loadWatches ide pProject isStopped isRunning rest panel

/-- `LoadStateFromFile`, given the document the file is read as, if any. -/
def loadStateFromFile
    (ide : Ide)
    (pProject : Project)
    (doc : Option Document)
    (isStopped isRunning : Bool)
    (panel : DapWatches) : DapWatches :=
  match
    (doc.bind (Element.first rootTag)).bind fun root =>
      Element.first "WatchesList".toList root.children
  with
  | none => panel
  | some pElementWatchesList =>
      loadWatches ide pProject isStopped isRunning
        (Element.onward "Watch".toList pElementWatchesList.children) panel

/-- A file `SaveStateToFile` of the watches has written. -/
def savedDocument
    (project : ProjectInfo)
    (count : Nat)
    (saved : List DapWatch) : Document :=
  document
    [compilerNode project,
      listNode "WatchesList".toList count
        (saved.map (saveWatchToXML project.title))]

/-! ## Runs -/

/-- What happens to the watches without one being added, deleted or edited. -/
def keepsWatches : Label → Bool
  | .addWatch _ => false
  | .addLoadedWatch _ _ _ _ => false
  | .deleteWatch _ => false
  | .editWatch _ _ _ _ _ _ => false
  | _ => true

inductive Step where
  | loadStateFromFile (isStopped isRunning : Bool)
  /-- Any reply, and whatever else keeps the watches. -/
  | between (label : { label : Label // keepsWatches label = true })

/-- The watches, and whether they have been loaded. -/
structure LoadedPanel where
  panel : DapWatches
  loaded : Bool

def step
    (ide : Ide)
    (project : Project)
    (doc : Option Document)
    (host : LoadedPanel) : Step → Option LoadedPanel
  | .loadStateFromFile isStopped isRunning =>
      some
        { panel :=
            loadStateFromFile ide project doc isStopped isRunning
              host.panel
          loaded := true }
  | .between label =>
      some { host with panel := handle label.1 host.panel }

/-- How many watches of the project are for a symbol. -/
def occurrences
    (project : Project)
    (symbol : WxString)
    (panel : DapWatches) : Nat :=
  panel.watches.countP fun watch =>
    watch.value.symbol = symbol ∧ watch.value.project = some project

/-- Each saved symbol is there once. -/
def OnceEach
    (project : Project)
    (saved : List DapWatch)
    (panel : DapWatches) : Prop :=
  ∀ watch ∈ saved, occurrences project watch.symbol panel = 1

/-- No saved symbol is there twice. -/
def AtMostOnce
    (project : Project)
    (saved : List DapWatch)
    (panel : DapWatches) : Prop :=
  ∀ watch ∈ saved, occurrences project watch.symbol panel ≤ 1

/--
What a load needs to find: a watch of the project for a saved symbol still has
the type it was saved with, and a symbol that is empty, which is passed over,
is there already.
-/
def Recognised
    (project : Project)
    (saved : List DapWatch)
    (panel : DapWatches) : Prop :=
  ∀ watch ∈ saved,
    if watch.symbol = [] then occurrences project [] panel = 1
    else
      ∀ found ∈ panel.watches,
        found.value.symbol = watch.symbol →
          found.value.project = some project →
            found.value.type = watch.type

instance (project : Project) (saved : List DapWatch) (panel : DapWatches) :
    Decidable (AtMostOnce project saved panel) := by
  unfold AtMostOnce
  infer_instance

instance (project : Project) (saved : List DapWatch) (panel : DapWatches) :
    Decidable (Recognised project saved panel) := by
  unfold Recognised
  infer_instance

/-- Every load of a run finds what it needs. -/
def FindsRecognised
    (project : Project)
    (saved : List DapWatch)
    (host : LoadedPanel) : Step → Prop
  | .loadStateFromFile _ _ => Recognised project saved host.panel
  | .between _ => True

instance (project : Project) (saved : List DapWatch) (host : LoadedPanel) :
    DecidablePred (FindsRecognised project saved host)
  | .loadStateFromFile _ _ =>
      inferInstanceAs (Decidable (Recognised project saved host.panel))
  | .between _ => isTrue trivial

/-! ## Watches as entries -/

/-- What the search for a duplicate compares. -/
structure Entry where
  symbol : WxString
  project : Option Project
  type : WxString
  deriving DecidableEq

/-- What stays of an entry when the type changes. -/
def Entry.place (entry : Entry) : WxString × Option Project :=
  (entry.symbol, entry.project)

def entryOf (watch : DapWatch) : Entry :=
  ⟨watch.symbol, watch.project, watch.type⟩

def entries (panel : DapWatches) : List Entry :=
  panel.watches.map fun watch => entryOf watch.value.toDapWatch

theorem occurrences_eq
    (project : Project)
    (symbol : WxString)
    (panel : DapWatches) :
    occurrences project symbol panel =
      filed Entry.place (entries panel) (symbol, some project) := by
  rw [occurrences, filed, entries, List.countP_map]
  refine List.countP_congr fun watch _ => ?_
  simp [Entry.place, entryOf]

section Panels

variable (panel : DapWatches)

/-- A change below the top, or of other members, changes no entry. -/
theorem map_modifyWatch
    {γ : Type}
    (shown : WatchData → γ)
    {change : Watch → Watch}
    (keeps : ∀ tree : Watch, shown (change tree).value = shown tree.value)
    (index : Nat)
    (path : List Nat) :
    (panel.modifyWatch change index path).watches.map
        (fun watch => shown watch.value) =
      panel.watches.map fun watch => shown watch.value := by
  have below : ∀ tree : Watch,
      shown (tree.modify change path).value = shown tree.value := by
    intro tree
    cases path with
    | nil => exact keeps tree
    | cons index path => rfl
  rw [DapWatches.modifyWatch]
  refine List.ext_getElem? fun position => ?_
  rw [List.getElem?_map, List.getElem?_map, List.getElem?_modify]
  cases panel.watches[position]? with
  | none => rfl
  | some watch =>
      by_cases here : index = position
      · simp [here, below]
      · simp [here]

theorem map_expandWatch
    {γ : Type}
    (shown : WatchData → γ)
    (keeps : ∀ watch request,
      shown { watch with dapChildVariableRequestSequence := request } =
        shown watch)
    (isStopped isRunning : Bool)
    (index : Nat)
    (path : List Nat) :
    (panel.expandWatch isStopped isRunning index path).watches.map
        (fun watch => shown watch.value) =
      panel.watches.map fun watch => shown watch.value := by
  unfold DapWatches.expandWatch
  split
  · rfl
  · split
    · rfl
    · split
      · rfl
      · dsimp only
        rw [map_modifyWatch panel.sendRequest shown]
        · rfl
        · exact fun tree => keeps tree.value panel.sendRequest.lastRequest

/-- Loading a watch files its entry. -/
theorem entries_addLoadedWatch
    (loaded : DapWatch)
    (isStopped isRunning : Bool) :
    entries (addLoadedWatch loaded true isStopped isRunning panel) =
      refile (entries panel) (entryOf loaded) := by
  have known : ∀ watch : Watch,
      same loaded watch =
        (entryOf loaded == entryOf watch.value.toDapWatch) := by
    intro watch
    simp [same, entryOf, Bool.beq_eq_decide_eq, Bool.and_assoc]
  have expanded :=
    map_expandWatch
      { panel with
        watches := panel.watches.eraseP (same loaded) ++
          [.leaf
            { loaded with
              dapVariableReference := 0
              dapChildVariableRequestSequence := noRequest
              valueErrorMessage := false }] }
      (fun watch => entryOf watch.toDapWatch) (fun _ _ => rfl) isStopped
      isRunning (panel.watches.eraseP (same loaded)).length []
  have erased :
      (panel.watches.eraseP (same loaded)).map
          (fun watch => entryOf watch.value.toDapWatch) =
        (entries panel).erase (entryOf loaded) := by
    rw [entries, List.erase_eq_eraseP, List.eraseP_map]
    congr 2
    funext watch
    exact known watch
  rw [refile, ← erased]
  exact expanded.trans (List.map_append ..)

/-! ## What a load files -/

/-- The entries of the records that are not passed over. -/
def savedEntries (project : Project) (saved : List DapWatch) : List Entry :=
  (saved.filter fun watch => watch.symbol ≠ []).map fun watch =>
    ⟨watch.symbol, some project, watch.type⟩

/-- The loop files the entries one after the other. -/
theorem entries_loadWatches
    (ide : Ide)
    (project : Project)
    (title : WxString)
    (isStopped isRunning : Bool)
    (saved : List DapWatch)
    (panel : DapWatches) :
    entries
        (loadWatches ide project isStopped isRunning
          (saved.map (saveWatchToXML title)) panel) =
      (savedEntries project saved).foldl refile (entries panel) := by
  induction saved generalizing panel with
  | nil => rfl
  | cons watch saved inductionHypothesis =>
      have className := saveWatchToXML_className title watch
      have symbol := reread_symbol ide project title watch
      rw [List.map_cons, loadWatches]
      by_cases empty : watch.symbol = []
      · have passed := inductionHypothesis panel
        rw [savedEntries] at passed ⊢
        rw [List.filter_cons_of_neg (by simpa using empty), ← passed]
        exact congrArg entries
          (if_neg fun loads => loads.2 (symbol.trans empty))
      · have entry :
            entryOf (reread ide project title watch) =
              ⟨watch.symbol, some project, watch.type⟩ := by
          rw [entryOf, symbol, reread_type]
          rfl
        have filed := inductionHypothesis
          (addLoadedWatch (reread ide project title watch) true isStopped
            isRunning panel)
        rw [entries_addLoadedWatch, entry] at filed
        rw [savedEntries] at filed ⊢
        rw [List.filter_cons_of_pos (by simpa using empty), List.map_cons,
          List.foldl_cons, ← filed]
        exact congrArg entries
          (if_pos ⟨className, fun nothing =>
            empty (symbol.symm.trans nothing)⟩)

/-- The list of the file is the one that was saved. -/
theorem loadStateFromFile_savedDocument
    (ide : Ide)
    (project : Project)
    (info : ProjectInfo)
    (count : Nat)
    (saved : List DapWatch)
    (isStopped isRunning : Bool) :
    loadStateFromFile ide project (some (savedDocument info count saved))
        isStopped isRunning panel =
      loadWatches ide project isStopped isRunning
        (saved.map (saveWatchToXML info.title)) panel := by
  have named : ∀ record ∈ saved.map (saveWatchToXML info.title),
      record.name = "Watch".toList := by
    intro record member
    rcases List.mem_map.mp member with ⟨watch, -, rfl⟩
    rfl
  show loadWatches ide project isStopped isRunning
    (Element.onward "Watch".toList
      (saved.map (saveWatchToXML info.title))) panel = _
  rw [Element.onward_of_forall named]

/-! ## What is left alone in between -/

/-- A variable of a reply gives a watch no other symbol or project. -/
theorem place_checkVariables
    (project : Option Project)
    (requestSeq : RequestNumber)
    (symbol : WxString)
    (watch : Watch)
    (vars : List Variable) :
    (entryOf (checkVariables project requestSeq symbol watch
        vars).1.value.toDapWatch).place =
      (entryOf watch.value.toDapWatch).place := by
  induction vars generalizing watch with
  | nil => rfl
  | cons var vars inductionHypothesis =>
      have added : ∀ watch : Watch,
          (addWatchChildByRequestSequence project requestSeq watch
            var).1.value = watch.value := by
        rintro ⟨value, children⟩
        rw [addWatchChildByRequestSequence]
        split <;> rfl
      have matched :
          (entryOf (if symbol = var.name then
              setFromVariable requestSeq var watch
            else watch).value.toDapWatch).place =
            (entryOf watch.value.toDapWatch).place := by
        split
        · rfl
        · rfl
      rw [checkVariables]
      dsimp only
      rw [inductionHypothesis, ← matched]
      split
      · rw [added]
      · rfl

theorem places_checkWatches
    (project : Option Project)
    (requestSeq : RequestNumber)
    (watches : List Watch)
    (vars : List Variable) :
    (checkWatches project requestSeq watches vars).1.map
        (fun watch => (entryOf watch.value.toDapWatch).place) =
      watches.map fun watch => (entryOf watch.value.toDapWatch).place := by
  induction watches generalizing vars with
  | nil => rfl
  | cons watch watches inductionHypothesis =>
      rw [checkWatches]
      dsimp only
      rw [List.map_cons, List.map_cons, inductionHypothesis,
        place_checkVariables]

/-- The places of the watches, in their order. -/
def places (panel : DapWatches) : List (WxString × Option Project) :=
  panel.watches.map fun watch => (entryOf watch.value.toDapWatch).place

theorem places_onVariables (requestSeq : Int) (vars : List Variable) :
    places (panel.onVariables requestSeq vars) = places panel := by
  rcases @sortVariables_eq panel vars with
    ⟨general, floating, sequence, sorted⟩
  unfold DapWatches.onVariables
  dsimp only
  rw [sorted]
  split
  · exact places_checkWatches panel.project _ panel.watches vars
  · rfl

theorem places_onScopes
    (registersShown : Bool)
    (scopes : List Scope) :
    places (panel.onScopes registersShown scopes) = places panel := by
  unfold DapWatches.onScopes
  have cleared :
      places
          { panel with
            requestedGPRegs := false
            requestedFloats := false
            stackdapvariables := [] } =
        places panel :=
    rfl
  refine List.foldlRecOn
    (motive := fun asked => places asked = places panel) scopes _ cleared ?_
  intro asked same scope _
  split
  · exact same
  · exact same

/-- Whatever is neither added, deleted nor edited stays at its place. -/
theorem places_handle
    {label : Label}
    (keeps : keepsWatches label = true) :
    places (handle label panel) = places panel := by
  cases label with
  | clientReset => rfl
  | sendRequest => rfl
  | initializedEvent => rfl
  | setProject project => rfl
  | addWatch symbol => cases keeps
  | addLoadedWatch loaded removes isStopped isRunning => cases keeps
  | deleteWatch index => cases keeps
  | editWatch symbol format isArray arrayStart arrayEnd index => cases keeps
  | expandWatch isStopped isRunning index path =>
      exact map_expandWatch panel
        (fun watch => (entryOf watch.toDapWatch).place) (fun _ _ => rfl)
        isStopped isRunning index path
  | updateWatch isRunning hasFrame index =>
      show places (updateWatch isRunning hasFrame index panel) = _
      unfold updateWatch
      split
      · dsimp only
        split
        · rfl
        · rfl
      · rfl
  | evaluateWatchCallback success result type index =>
      show places (evaluateWatchCallback success result type index panel) = _
      unfold evaluateWatchCallback
      split
      · rw [places, changeData]
        exact map_modifyWatch panel
          (fun watch => (entryOf watch.toDapWatch).place)
          (fun tree => by rfl) index []
      · rfl
  | onScopes registersShown scopes => exact places_onScopes panel _ _
  | onVariables requestSeq vars => exact places_onVariables panel _ _

/-- How often a symbol occurs depends on the places only. -/
theorem occurrences_congr
    {next : DapWatches}
    (samePlaces : places next = places panel)
    (project : Project)
    (symbol : WxString) :
    occurrences project symbol next = occurrences project symbol panel := by
  have counted : ∀ panel : DapWatches,
      occurrences project symbol panel =
        (places panel).countP fun place => place = (symbol, some project) := by
    intro panel
    rw [occurrences, places, List.countP_map]
    refine List.countP_congr fun watch _ => ?_
    simp [Entry.place, entryOf]
  rw [counted, counted, samePlaces]

end Panels

/-! ## Each symbol once -/

section Once

variable
  {ide : Ide}
  {project : Project}
  {info : ProjectInfo}
  {count : Nat}
  {saved : List DapWatch}
  {panel : DapWatches}

theorem distinct_savedEntries
    (distinct : (saved.map fun watch => watch.symbol).Nodup) :
    ((savedEntries project saved).map Entry.place).Nodup := by
  have kept :
      ((saved.filter fun watch => watch.symbol ≠ []).map fun watch =>
        watch.symbol).Nodup :=
    distinct.sublist (List.filter_sublist.map _)
  have paired := kept.map fun first second same =>
    congrArg Prod.fst (show (first, some project) = (second, some project)
      from same)
  rw [List.map_map] at paired
  rw [savedEntries, List.map_map]
  exact paired

/-- An entry of the batch has a symbol, and it is a saved one. -/
theorem mem_savedEntries {watch : DapWatch} (member : watch ∈ saved) :
    watch.symbol ≠ [] →
      ⟨watch.symbol, some project, watch.type⟩ ∈
        savedEntries project saved := fun named =>
  List.mem_map.mpr
    ⟨watch, List.mem_filter.mpr ⟨member, by simpa using named⟩, rfl⟩

theorem empty_not_mem_places :
    ([], some project) ∉ (savedEntries project saved).map Entry.place := by
  intro member
  rcases List.mem_map.mp member with ⟨entry, entryIn, isEmpty⟩
  rcases List.mem_map.mp entryIn with ⟨watch, watchIn, rfl⟩
  have named := (List.mem_filter.mp watchIn).2
  exact of_decide_eq_true named (Prod.mk.inj isEmpty).1

/--
After a load each saved symbol is there once if and only if the load has
recognised what was there.
-/
theorem onceEach_load_iff
    (distinct : (saved.map fun watch => watch.symbol).Nodup)
    (atMost : AtMostOnce project saved panel)
    (isStopped isRunning : Bool) :
    OnceEach project saved
        (loadStateFromFile ide project (some (savedDocument info count saved))
          isStopped isRunning panel) ↔
      Recognised project saved panel := by
  refine forall₂_congr fun watch member => ?_
  rw [loadStateFromFile_savedDocument, occurrences_eq, entries_loadWatches]
  by_cases empty : watch.symbol = []
  · rw [if_pos empty, empty,
      filed_foldl_of_not_mem Entry.place empty_not_mem_places,
      ← occurrences_eq]
  · have atMostHere := atMost watch member
    rw [occurrences_eq] at atMostHere
    rw [if_neg empty]
    have once := filed_foldl_eq_one_iff Entry.place
      (distinct_savedEntries distinct) (mem_savedEntries member empty)
      atMostHere
    refine once.trans ⟨?_, ?_⟩
    · intro recognised found foundIn sameSymbol sameProject
      have entry := recognised (entryOf found.value.toDapWatch)
        (List.mem_map_of_mem foundIn) (Prod.ext sameSymbol sameProject)
      exact congrArg Entry.type entry
    · intro sameType entry entryIn samePlace
      rcases List.mem_map.mp entryIn with ⟨found, foundIn, rfl⟩
      have symbol := congrArg Prod.fst samePlace
      have owner := congrArg Prod.snd samePlace
      have type := sameType found foundIn symbol owner
      show (⟨_, _, _⟩ : Entry) = _
      rw [Entry.mk.injEq]
      exact ⟨symbol, owner, type⟩

/-! ## Histories -/

/-- Once the watches have been loaded, each saved symbol is there once. -/
def LoadedOnce
    (project : Project)
    (saved : List DapWatch)
    (host : LoadedPanel) : Prop :=
  host.loaded = true → OnceEach project saved host.panel

theorem OnceEach.atMostOnce (once : OnceEach project saved panel) :
    AtMostOnce project saved panel :=
  fun watch member => Nat.le_of_eq (once watch member)

/-- What holds at the start and is kept by the steps of a good run. -/
def Tidy
    (project : Project)
    (saved : List DapWatch)
    (host : LoadedPanel) : Prop :=
  AtMostOnce project saved host.panel ∧ LoadedOnce project saved host

/-- A step that finds what it needs leaves each symbol once. -/
theorem tidy_step
    (distinct : (saved.map fun watch => watch.symbol).Nodup)
    {host next : LoadedPanel}
    {taken : Step}
    (tidy : Tidy project saved host)
    (finds : FindsRecognised project saved host taken)
    (steps :
      step ide project (some (savedDocument info count saved)) host taken =
        some next) :
    Tidy project saved next := by
  cases taken with
  | loadStateFromFile isStopped isRunning =>
      cases steps
      have once :=
        (@onceEach_load_iff ide project info count saved _ distinct tidy.1
          isStopped isRunning).mpr finds
      exact ⟨once.atMostOnce, fun _ => once⟩
  | between label =>
      cases steps
      have same := fun symbol =>
        occurrences_congr host.panel (places_handle host.panel label.2)
          project symbol
      refine ⟨fun watch member => ?_, fun loaded watch member => ?_⟩
      · rw [same]
        exact tidy.1 watch member
      · rw [same]
        exact tidy.2 loaded watch member

/-- A load that does not find what it needs leaves some symbol otherwise. -/
theorem not_loadedOnce_step
    (distinct : (saved.map fun watch => watch.symbol).Nodup)
    {host next : LoadedPanel}
    {taken : Step}
    (tidy : Tidy project saved host)
    (misses : ¬ FindsRecognised project saved host taken)
    (steps :
      step ide project (some (savedDocument info count saved)) host taken =
        some next) :
    ¬ LoadedOnce project saved next := by
  cases taken with
  | loadStateFromFile isStopped isRunning =>
      cases steps
      intro once
      exact misses
        ((onceEach_load_iff distinct tidy.1 isStopped isRunning).mp (once rfl))
  | between label => exact absurd trivial misses

/--
However often the watches are loaded and whatever the replies change in
between, each saved symbol is there once after every step, if and only if
every load recognises the watches that are there.
-/
theorem loadedOnce_iff
    (distinct : (saved.map fun watch => watch.symbol).Nodup)
    (atMost : AtMostOnce project saved panel)
    (history : List Step) :
    Always (step ide project (some (savedDocument info count saved)))
        (LoadedOnce project saved) ⟨panel, false⟩ history ↔
      Along (step ide project (some (savedDocument info count saved)))
        (FindsRecognised project saved) ⟨panel, false⟩ history := by
  have start : Tidy project saved ⟨panel, false⟩ :=
    ⟨atMost, fun loaded => absurd loaded Bool.false_ne_true⟩
  have enabled : ∀ host taken, ∃ next,
      step ide project (some (savedDocument info count saved)) host taken =
        some next := by
    rintro host (_ | _)
    · exact ⟨_, rfl⟩
    · exact ⟨_, rfl⟩
  exact always_iff_along enabled
    (fun _ _ _ tidy finds taken => tidy_step distinct tidy finds taken)
    (fun _ tidy => tidy.2)
    (fun _ _ _ tidy misses taken =>
      not_loadedOnce_step distinct tidy misses taken)
    start history

end Once

/-! ## A type that was not saved -/

/-- Opening the project, a reply to an evaluation, and a start. -/
def evaluatedBetween (type : WxString) : List Step :=
  [.loadStateFromFile true false,
    .between ⟨.evaluateWatchCallback true "3".toList type 0, rfl⟩,
    .loadStateFromFile true false]

theorem loadedOnce_sameType :
    Always
      (step projectIde 0
        (some (savedDocument (projectIde.projectInfo 0) 1 [countWatch])))
      (LoadedOnce 0 [countWatch]) ⟨DapWatches.initial, false⟩
      (evaluatedBetween "int".toList) :=
  (loadedOnce_iff (by decide) (by decide) _).mpr (by decide)

/-- A watch that was saved before it was ever evaluated. -/
def untypedWatch : DapWatch :=
  { countWatch with type := [] }

theorem untypedWatch_loadedTwice :
    ¬ Always
        (step projectIde 0
          (some (savedDocument (projectIde.projectInfo 0) 1 [untypedWatch])))
        (LoadedOnce 0 [untypedWatch]) ⟨DapWatches.initial, false⟩
        (evaluatedBetween "int".toList) := by
  intro always
  have once := always _ [] _ (List.append_nil _) rfl rfl untypedWatch
    List.mem_cons_self
  exact absurd once (by decide)

end DebuggerDap.Watches.Reloading
