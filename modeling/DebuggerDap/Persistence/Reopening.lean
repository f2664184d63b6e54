import DebuggerDap.Persistence.BreakpointXml
import DebuggerDap.Persistence.XmlState

/-!
# A project opened again from the bytes of its file

The records of breakpoints and watches are written by tinyxml2 and read from
the bytes it left.  Numbers, Booleans and the names of formats come back as
they were, but a text that was typed in need not: one of blanks is lost, and
one with a carriage return is changed.
-/

namespace DebuggerDap.Persistence.Reopening

open DebuggerDap.Text.Strings
open DebuggerDap.Text.Numbers
open DebuggerDap.Library.XmlGrammar (Bytes)
open DebuggerDap.Library.XmlTree
open DebuggerDap.Breakpoints.Store
open DebuggerDap.Persistence.StateFile
open DebuggerDap.Library.MachineInt
open DebuggerDap.Persistence.RoundTrip
open DebuggerDap.Persistence.WatchXml
open DebuggerDap.Persistence.BreakpointXml
open DebuggerDap.Persistence.XmlReading (maxLevels)
open DebuggerDap.Persistence.XmlConversion
open DebuggerDap.Persistence.XmlState

/-! ## Texts that are kept -/

/-- The blanks, and the character that ends a C string. -/
def invisible : WxString :=
  " \t\n\r\x0b\x0c\x00".toList

section Texts

variable {ch : Char} {value : WxString}

theorem mem_invisible_of_isSpace (blank : isSpace ch = true) :
    ch ∈ invisible := by
  simp only [isSpace, Bool.or_eq_true, beq_iff_eq] at blank
  rcases blank with ((((rfl | rfl) | rfl) | rfl) | rfl) | rfl
  all_goals decide

/-- Texts of visible characters are kept. -/
theorem kept_of_visible
    (visible : ∀ ch ∈ value, ch ∉ invisible) : Kept value := by
  cases value with
  | nil => exact .inl rfl
  | cons first value =>
      have noBlank : isSpace first = false :=
        Bool.eq_false_iff.mpr fun blank =>
          visible first List.mem_cons_self (mem_invisible_of_isSpace blank)
      refine .inr ⟨fun member => visible _ member (by decide),
        fun member => visible _ member (by decide), ?_⟩
      rw [List.all_cons, noBlank, Bool.false_and]

/-- What none of the invisible characters has makes one visible. -/
theorem not_mem_invisible
    {property : Char → Bool}
    (apart : invisible.any property = false)
    (has : property ch = true) : ch ∉ invisible := by
  intro member
  exact absurd has (List.any_eq_false.mp apart ch member)

theorem kept_boolTowxString (value : Bool) : Kept (boolTowxString value) := by
  cases value with
  | false => exact .inr ⟨by decide, by decide, by decide⟩
  | true => exact .inr ⟨by decide, by decide, by decide⟩

theorem kept_getWatchFormatTowxString (format : WatchFormat) :
    Kept (getWatchFormatTowxString format) := by
  cases format
  all_goals exact .inr ⟨by decide, by decide, by decide⟩

theorem kept_getTypewxString (type : BreakpointType) :
    Kept (getTypewxString type) := by
  cases type
  all_goals exact .inr ⟨by decide, by decide, by decide⟩

theorem kept_intTowxString (value : Int) : Kept (intTowxString value) := by
  refine kept_of_visible fun ch member => ?_
  rcases digit_of_mem_toString value member with digit | minus
  · exact not_mem_invisible (by decide) digit
  · rw [minus]
    decide

/-- An address may have blanks in front of it, but it has digits too. -/
theorem kept_hexTowxString (bitness64 : Bool) (address : Nat) :
    Kept (hexTowxString bitness64 address) := by
  have digits : ∀ ch ∈ Nat.toDigits 16 address, ch ∉ invisible :=
    fun ch member =>
      not_mem_invisible (by decide) ((hexNumber_toDigits address).2 ch member)
  have marks : ∀ ch ∈ if address = 0 then [] else "0x".toList,
      ch ∉ invisible := by
    intro ch member
    split_ifs at member
    · exact absurd member List.not_mem_nil
    · rcases List.mem_pair.mp member with rfl | rfl
      all_goals decide
  cases bitness64 with
  | true =>
      refine kept_of_visible fun ch member => ?_
      rcases List.mem_append.mp member with inFront | digit
      · rcases List.mem_append.mp inFront with mark | zero
        · exact marks ch mark
        · rw [List.eq_of_mem_replicate zero]
          decide
      · exact digits ch digit
  | false =>
      have origin :
          ∀ ch ∈ hexTowxString false address, ch = ' ' ∨ ch ∉ invisible := by
        intro ch member
        rcases List.mem_append.mp member with inFront | digit
        · rcases List.mem_append.mp inFront with blank | mark
          · exact .inl (List.eq_of_mem_replicate blank)
          · exact .inr (marks ch mark)
        · exact .inr (digits ch digit)
      have absent {ch : Char} (other : ch ≠ ' ') (hidden : ch ∈ invisible) :
          ch ∉ hexTowxString false address :=
        fun member => (origin ch member).elim other fun apart => apart hidden
      refine .inr ⟨absent (by decide) (by decide),
        absent (by decide) (by decide), ?_⟩
      · rcases List.exists_mem_of_ne_nil _
          (Nat.toDigits_ne_nil (b := 16) (n := address)) with ⟨digit, member⟩
        refine List.all_eq_false.mpr
          ⟨digit, List.mem_append_right _ member, fun blank => ?_⟩
        exact digits digit member (mem_invisible_of_isSpace blank)

end Texts

/-! ## Records -/

section Records

variable
  {conversion : Conversion}
  {crlf : Bool}
  {levels : Nat}
  {name : WxString}
  {fields : List (WxString × WxString)}

theorem storableAll_iff {elements : List XmlElement} :
    StorableAll levels elements ↔
      ∀ element ∈ elements, Storable levels element := by
  induction elements with
  | nil => simp [StorableAll]
  | cons element elements inductionHypothesis =>
      rw [StorableAll, inductionHypothesis, List.forall_mem_cons]

theorem landedElements_eq_map (elements : List XmlElement) :
    landedElements conversion crlf elements =
      elements.map (landedElement conversion crlf) := by
  induction elements with
  | nil => rfl
  | cons element elements inductionHypothesis =>
      rw [landedElements, inductionHypothesis, List.map_cons]

theorem name_landedElement (element : XmlElement) :
    (landedElement conversion crlf element).name = element.name := by
  cases element
  rfl

theorem first_landedElements
    (wanted : WxString)
    (elements : List XmlElement) :
    Element.first wanted (landedElements conversion crlf elements) =
      (Element.first wanted elements).map
        (landedElement conversion crlf) := by
  induction elements with
  | nil => rfl
  | cons element elements inductionHypothesis =>
      rw [landedElements, Element.first_cons, Element.first_cons,
        name_landedElement, inductionHypothesis]
      split_ifs <;> rfl

theorem storable_ofFields
    (deep : 1 < levels)
    (tag : isTag name = true)
    (tags : (fields.map Prod.fst).all isTag = true) :
    Storable levels (.ofFields name fields) := by
  rw [Element.ofFields, Storable]
  refine ⟨tag, fun _ member => absurd member List.not_mem_nil, List.nodup_nil,
    fun _ => ⟨Nat.lt_of_succ_lt deep, storableAll_iff.mpr ?_⟩⟩
  intro leaf member
  rcases List.mem_map.mp member with ⟨field, among, rfl⟩
  rw [Element.leaf, Storable]
  exact ⟨List.all_eq_true.mp tags _ (List.mem_map_of_mem among),
    fun _ member => absurd member List.not_mem_nil, List.nodup_nil,
    fun _ => ⟨Nat.sub_pos_of_lt deep, trivial⟩⟩

theorem storable_listNode
    {count : Nat}
    {records : List XmlElement}
    (deep : 0 < levels)
    (tag : isTag name = true)
    (storable : ∀ record ∈ records, Storable (levels - 1) record) :
    Storable levels (listNode name count records) := by
  rw [listNode, Storable]
  refine ⟨tag, fun attrib member => ?_, List.nodup_singleton _,
    fun _ => ⟨deep, storableAll_iff.mpr storable⟩⟩
  rw [List.mem_singleton.mp member]
  rfl

theorem storable_compilerNode
    (deep : 1 < levels)
    (project : ProjectInfo) : Storable levels (compilerNode project) :=
  storable_ofFields deep rfl rfl

/-- The document of a project: its compiler, and a list of records. -/
theorem storableAll_listed
    {α : Type}
    {save : α → XmlElement}
    (deep : 1 < levels)
    (tag : isTag name = true)
    (storable : ∀ entry, Storable (levels - 1) (save entry))
    (project : ProjectInfo)
    (count : Nat)
    (entries : List α) :
    StorableAll levels
      [compilerNode project, listNode name count (entries.map save)] := by
  refine ⟨storable_compilerNode deep project,
    storable_listNode (Nat.lt_of_succ_lt deep) tag fun record member => ?_,
    trivial⟩
  rcases List.mem_map.mp member with ⟨entry, -, rfl⟩
  exact storable entry

theorem storable_saveWatchToXML
    (deep : 1 < levels)
    (title : WxString)
    (watch : DapWatch) : Storable levels (saveWatchToXML title watch) :=
  storable_ofFields deep rfl rfl

theorem storable_saveBreakpointToXML
    (deep : 1 < levels)
    (ide : Ide)
    (title : WxString)
    (breakpoint : DapBreakpoint)
    (details : Details) :
    Storable levels (saveBreakpointToXML ide title breakpoint details) :=
  storable_ofFields deep rfl rfl

theorem lookup_map
    (change : WxString → WxString)
    (fields : List (WxString × WxString))
    (wanted : WxString) :
    (fields.map fun field => (field.1, change field.2)).lookup wanted =
      (fields.lookup wanted).map change := by
  induction fields with
  | nil => rfl
  | cons field fields inductionHypothesis =>
      rw [List.map_cons, List.lookup_cons, List.lookup_cons,
        inductionHypothesis]
      cases wanted == field.1 <;> rfl

/-- What is read of a record that comes through the file. -/
theorem readChildNodewxString_landed
    (fields : List (WxString × WxString))
    (wanted : WxString) :
    readChildNodewxString
        (landedElement conversion crlf (.ofFields name fields)) wanted =
      ((fields.lookup wanted).map (readBack conversion crlf)).getD [] := by
  have children :
      (landedElement conversion crlf (.ofFields name fields)).children =
        landedElements conversion crlf
          (fields.map fun field => .leaf field.1 field.2) :=
    rfl
  rw [readChildNodewxString, Element.childText, children]
  induction fields with
  | nil => rfl
  | cons field fields inductionHypothesis =>
      rw [List.map_cons, landedElements, Element.first_cons, List.lookup_cons]
      by_cases same : field.1 = wanted
      · have sameName : (wanted == field.1) = true := beq_iff_eq.mpr same.symm
        rw [if_pos (show (landedElement conversion crlf
          (.leaf field.1 field.2)).name = wanted from same), sameName]
        rfl
      · have differs : (wanted == field.1) = false :=
          beq_false_of_ne (Ne.symm same)
        rw [if_neg (show ¬ (landedElement conversion crlf
          (.leaf field.1 field.2)).name = wanted from same), differs]
        exact inductionHypothesis rfl

/-- What comes back of a field of a record whose names are distinct. -/
theorem readBack_of_child
    {record : XmlElement}
    {childName value : WxString}
    (distinct : (record.children.map Element.name).Nodup)
    (index : Nat)
    (child : record.children[index]? = some (.leaf childName value)) :
    readChildNodewxString (landedElement conversion crlf record) childName =
      readBack conversion crlf value := by
  have children :
      (landedElement conversion crlf record).children =
        landedElements conversion crlf record.children := by
    cases record
    rfl
  have found : Element.first childName record.children = _ :=
    Element.first_of_mem distinct (List.mem_of_getElem? child)
  rw [readChildNodewxString, Element.childText, children,
    first_landedElements, found]
  rfl

end Records

/-! ## Watches -/

/-- Two elements of which the same is read. -/
def ReadsAs (left right : XmlElement) : Prop :=
  ∀ childName,
    readChildNodewxString left childName =
      readChildNodewxString right childName

section Watches

variable
  {conversion : Conversion}
  {crlf : Bool}
  {ide : Ide}
  {project : Project}
  {title : WxString}

theorem loadWatchFromXML_of_readsAs
    {left right : XmlElement}
    (same : ReadsAs left right) :
    loadWatchFromXML ide project left = loadWatchFromXML ide project right := by
  have read : readChildNodewxString left = readChildNodewxString right :=
    funext same
  unfold loadWatchFromXML readChildNodeInt readChildNodeLong readChildNodeBool
  rw [read]

/-- The loop over the records depends on nothing but what is read of them. -/
theorem loadWatches_of_readsAs
    {left right : List XmlElement}
    (same : List.Forall₂ ReadsAs left right)
    (container : Watches) :
    container.loadWatches ide project left =
      container.loadWatches ide project right := by
  induction same generalizing container with
  | nil => rfl
  | cons first _ inductionHypothesis =>
      rw [Watches.loadWatches, Watches.loadWatches, first,
        loadWatchFromXML_of_readsAs first, inductionHypothesis,
        inductionHypothesis]

/-- A watch whose texts have come through the file. -/
def landedWatch
    (conversion : Conversion)
    (crlf : Bool)
    (watch : DapWatch) : DapWatch :=
  { watch with
    symbol := readBack conversion crlf watch.symbol
    type := readBack conversion crlf watch.type
    debugString := readBack conversion crlf watch.debugString }

/-- The record of a watch reads as the one of the watch it lands as. -/
theorem readsAs_saveWatchToXML (watch : DapWatch) :
    ReadsAs
      (landedElement conversion crlf (saveWatchToXML title watch))
      (saveWatchToXML (readBack conversion crlf title)
        (landedWatch conversion crlf watch)) := by
  intro childName
  have back {value : WxString} (kept : Kept value) :
      readBack conversion crlf value = value :=
    (readBack_eq_iff value).mpr kept
  have className : Kept dapWatchClassName :=
    .inr ⟨by decide, by decide, by decide⟩
  rw [saveWatchToXML, readChildNodewxString_landed, saveWatchToXML,
    readChildNodewxString_ofFields, ← lookup_map]
  simp only [List.map_cons, List.map_nil, landedWatch, back className,
    back (kept_boolTowxString _), back (kept_intTowxString _),
    back (kept_getWatchFormatTowxString _)]

end Watches

/-! ## Breakpoints -/

/-- The texts of a breakpoint that were typed in are kept. -/
structure KeepsTexts (saved : WholeBreakpoint) : Prop where
  filename : Kept saved.breakpoint.filename
  condition : Kept saved.details.condition
  function : Kept saved.details.function
  lineText : Kept saved.details.lineText
  breakAddress : Kept saved.breakpoint.breakAddress

section Breakpoints

section Members

variable (ide : Ide) (element : XmlElement) (before : WholeBreakpoint)

theorem line_readMembers :
    (readMembers ide element before).breakpoint.line =
      readChildNodeInt ide element "line".toList := by
  rw [readMembers]

theorem ignoreCount_readMembers :
    (readMembers ide element before).details.ignoreCount =
      readChildNodeInt ide element "ignoreCount".toList := by
  rw [readMembers]

end Members

/-- The names do not depend on the breakpoint. -/
theorem distinct_saveBreakpointToXML
    (ide : Ide)
    (title : WxString)
    (breakpoint : DapBreakpoint)
    (details : Details) :
    ((saveBreakpointToXML ide title breakpoint details).children.map
      Element.name).Nodup := by
  have names :
      ((saveBreakpointToXML projectIde [] (.new none [] 0 0)
        .initial).children.map Element.name).Nodup := by
    decide +kernel
  exact names

variable
  (conversion : Conversion)
  (crlf : Bool)
  (long : SignedRange)
  (ide : Ide)
  (isBuiltinOpen : WxString → Bool)
  (title : WxString)
  (saved before : WholeBreakpoint)

/--
A breakpoint comes back from its record in the file exactly if the file keeps
its texts; all its other members do so in any case.
-/
theorem breakpoint_restored_iff
    (wide : int.half ≤ long.half)
    (wellTyped : WellTyped saved) :
    Restored saved
        (loadBreakpointFromXML (withLong long ide) isBuiltinOpen
          (landedElement conversion crlf
            (saveBreakpointToXML ide title saved.breakpoint saved.details))
          before).1 ↔
      KeepsTexts saved := by
  let record :=
    saveBreakpointToXML ide title saved.breakpoint saved.details
  let landed := landedElement conversion crlf record
  have read
      (childName : WxString)
      {value : WxString}
      (index : Nat)
      (child : record.children[index]? = some (.leaf childName value)) :
      readChildNodewxString landed childName =
        readBack conversion crlf value :=
    readBack_of_child (distinct_saveBreakpointToXML ide title _ _) index child
  have written
      (childName : WxString)
      {value : WxString}
      (index : Nat)
      (child : record.children[index]? = some (.leaf childName value))
      (kept : Kept value) :
      readChildNodewxString landed childName = value :=
    (read childName index child).trans ((readBack_eq_iff value).mpr kept)
  have flag
      (childName : WxString)
      {value : Bool}
      (index : Nat)
      (child :
        record.children[index]? =
          some (.leaf childName (boolTowxString value))) :
      readChildNodeBool landed childName = value :=
    readChildNodeBool_of_written landed
      (written childName index child (kept_boolTowxString value))
  have number
      (childName : WxString)
      {value : Int}
      (index : Nat)
      (child :
        record.children[index]? =
          some (.leaf childName (intTowxString value)))
      (contains : int.Contains value) :
      readChildNodeInt (withLong long ide) landed childName = value :=
    readChildNodeInt_of_written landed ide wide contains
      (written childName index child (kept_intTowxString value))
  show Restored saved (readMembers (withLong long ide) landed before) ↔ _
  constructor
  · intro restored
    have keeps
        (childName : WxString)
        {value : WxString}
        (index : Nat)
        (child : record.children[index]? = some (.leaf childName value))
        (same : readChildNodewxString landed childName = value) :
        Kept value :=
      (readBack_eq_iff value).mp ((read childName index child).symm.trans same)
    exact
      { filename := keeps "filename".toList 2 rfl restored.filename
        condition := keeps "condition".toList 11 rfl restored.condition
        function := keeps "function".toList 12 rfl restored.function
        lineText := keeps "lineText".toList 15 rfl restored.lineText
        breakAddress :=
          keeps "breakAddress".toList 16 rfl restored.breakAddress }
  · intro keeps
    have address :
        readChildNodeHex (withLong long ide) landed "address".toList =
          saved.details.address := by
      have hex :
          readChildNodewxString landed "address".toList =
            hexTowxString ide.bitness64 saved.details.address :=
        written "address".toList 13 rfl (kept_hexTowxString _ _)
      rw [readChildNodeHex, hex,
        toULongHex_hexTowxString ide.bitness64 wellTyped.address]
    exact
      { type :=
          (congrArg (setType · before.breakpoint.type)
            (written "type".toList 0 rfl (kept_getTypewxString _))).trans
            (setType_getTypewxString _ _)
        filename := written "filename".toList 2 rfl keeps.filename
        line :=
          (line_readMembers _ _ _).trans
            (number "line".toList 3 rfl wellTyped.line)
        temporary := flag "temporary".toList 4 rfl
        enabled := flag "enabled".toList 5 rfl
        active := flag "active".toList 6 rfl
        useIgnoreCount := flag "useIgnoreCount".toList 7 rfl
        ignoreCount :=
          (ignoreCount_readMembers _ _ _).trans
            (number "ignoreCount".toList 8 rfl wellTyped.ignoreCount)
        useCondition := flag "useCondition".toList 9 rfl
        wantsCondition := flag "wantsCondition".toList 10 rfl
        condition := written "condition".toList 11 rfl keeps.condition
        function := written "function".toList 12 rfl keeps.function
        address := address
        alreadySet := flag "alreadySet".toList 14 rfl
        lineText := written "lineText".toList 15 rfl keeps.lineText
        breakAddress := written "breakAddress".toList 16 rfl keeps.breakAddress
        breakOnRead := flag "breakOnRead".toList 17 rfl
        breakOnWrite := flag "breakOnWrite".toList 18 rfl }

end Breakpoints

/-! ## What is loaded -/

section Loading

variable {ide : Ide} {project : Project} {title : WxString}

theorem mem_watchesOf_removeWatch
    {container : Watches}
    {watch : DapWatch}
    {ref : Ref}
    (member : watch ∈ watchesOf project (container.removeWatch ide ref)) :
    watch ∈ watchesOf project container := by
  rw [Watches.removeWatch] at member
  split_ifs at member
  · rcases List.mem_filter.mp member with ⟨among, own⟩
    rcases List.mem_map.mp among with ⟨other, left, rfl⟩
    exact List.mem_filter.mpr
      ⟨List.mem_map_of_mem (List.mem_of_mem_erase left), own⟩
  · exact member

theorem mem_watchesOf_addWatch
    {container : Watches}
    {watch new : DapWatch}
    (own : new.project = some project)
    (member : watch ∈ watchesOf project (container.addWatch ide new)) :
    watch ∈ watchesOf project container ∨ watch = new := by
  rw [Watches.addWatch, watchesOf_pushBack project own, List.mem_append,
    List.mem_singleton] at member
  refine member.imp_left fun left => ?_
  cases found : container.watches.find? (container.same new) with
  | none => rwa [found] at left
  | some ref =>
      rw [found] at left
      exact mem_watchesOf_removeWatch left

/-- Every watch that is loaded comes from a record with a symbol. -/
theorem mem_watchesOf_loadWatches
    {container : Watches}
    {watches : List DapWatch}
    {watch : DapWatch}
    (member :
      watch ∈ watchesOf project
        (container.loadWatches ide project
          (watches.map (saveWatchToXML title)))) :
    watch ∈ watchesOf project container ∨
      ∃ source ∈ watches,
        source.symbol ≠ [] ∧ watch = reread ide project title source := by
  induction watches generalizing container with
  | nil => exact .inl member
  | cons source watches inductionHypothesis =>
      rw [List.map_cons, loadWatches_saved] at member
      rcases inductionHypothesis member with before | ⟨other, among, loaded⟩
      · split_ifs at before with empty
        · exact .inl before
        · rcases mem_watchesOf_addWatch rfl before with old | new
          · exact .inl old
          · exact .inr ⟨source, List.mem_cons_self, empty, new⟩
      · exact .inr ⟨other, List.mem_cons_of_mem source among, loaded⟩

variable {workspace : Workspace}

/-- Of a document without a list of breakpoints the watches are loaded. -/
theorem onProjectOpened_of_root
    (persists : ide.persistDebugElements = true)
    {root pElementWatchesList : XmlElement}
    (found : workspace.loadRoot ide project = some root)
    (noBreakpoints :
      Element.first "BreakpointsList".toList root.children = none)
    (list :
      Element.first "WatchesList".toList root.children =
        some pElementWatchesList)
    (named :
      ∀ record ∈ pElementWatchesList.children,
        record.name = "Watch".toList) :
    (workspace.onProjectOpened ide project).watches =
      workspace.watches.loadWatches ide project
        pElementWatchesList.children := by
  have breakpoints : workspace.loadBreakpoints ide project = workspace := by
    unfold Workspace.loadBreakpoints
    rw [found, Option.bind_some, noBreakpoints]
  unfold Workspace.onProjectOpened Workspace.loadState
  rw [if_pos persists, found]
  show ((workspace.loadBreakpoints ide project).loadWatches ide
    project).watches = _
  rw [breakpoints]
  unfold Workspace.loadWatches
  rw [found, Option.bind_some, list]
  show workspace.watches.loadWatches ide project
    (Element.onward "Watch".toList pElementWatchesList.children) = _
  rw [Element.onward_of_forall named]

end Loading

/-! ## Through the file -/

section Files

variable (conversion : Conversion) (crlf : Bool) (ulong : Nat)

/-- The state files, as bytes. -/
def disk (workspace : Workspace) (path : WxString) : Option Bytes :=
  (workspace.files path).map (stateFile conversion crlf)

/-- The documents are those that are opened of the bytes. -/
def fromDisk (workspace : Workspace) : Workspace :=
  { workspace with
    files := fun path =>
      (disk conversion crlf workspace path).bind (opened conversion ulong) }

/-- A project is closed, and opened again from the file it left. -/
def reopenedFromDisk
    (ide : Ide)
    (project : Project)
    (workspace : Workspace) : Workspace :=
  (fromDisk conversion crlf ulong
    (workspace.cleanupWhenProjectClosed ide project)).onProjectOpened ide
    project

variable
  {conversion crlf ulong}
  {ide : Ide}
  {project : Project}
  {workspace : Workspace}

/-- The document that is left when the project is closed. -/
theorem written_files
    (named : Workspace.filename ide project ≠ [])
    (noTooltip :
      ∀ watch ∈ watchesOf project workspace.watches,
        watch.forTooltip = false) :
    ∃ count,
      (written ide project workspace).files
          (ide.bpsFile (Workspace.filename ide project)) =
        some (document
          [compilerNode (ide.projectInfo project),
            listNode "WatchesList".toList count
              ((watchesOf project workspace.watches).map
                (saveWatchToXML (ide.projectInfo project).title))]) := by
  have watches :
      ((workspace.saveState ide project).cleanupBreakpoints ide
        project).watches =
        workspace.watches :=
    (cleanupBreakpoints_leaves ide project _).2.2.trans
      (onlyFiles_saveState ide project workspace).watches
  refine ⟨workspace.watches.watches.length, ?_⟩
  unfold written Workspace.saveWatches Workspace.saveFile
  rw [if_neg named]
  dsimp only
  rw [Function.update_self, ← savedWatches_watch project workspace noTooltip,
    List.map_map, Workspace.savedWatches, Workspace.savedWatches, watches]
  rfl

/-- What was written is found in the file, with its texts as they landed. -/
theorem fromDisk_loadRoot
    {children : List XmlElement}
    (named : Workspace.filename ide project ≠ [])
    (left :
      workspace.files (ide.bpsFile (Workspace.filename ide project)) =
        some (document children))
    (storable : StorableAll (maxLevels - 1) children) :
    (fromDisk conversion crlf ulong workspace).loadRoot ide project =
      some (.mk rootTag [] none
        (landedElements conversion crlf children)) := by
  have written :
      opened conversion ulong
          (stateFile conversion crlf (document children)) =
        some (landedElements conversion crlf (document children)) := by
    refine opened_stateFile ?_ (List.cons_ne_nil _ _)
    rw [document, StorableAll, Storable]
    exact ⟨⟨rfl, fun _ member => absurd member List.not_mem_nil,
      List.nodup_nil, fun _ => ⟨by decide, storable⟩⟩, trivial⟩
  have file :
      (fromDisk conversion crlf ulong workspace).files
          (ide.bpsFile (Workspace.filename ide project)) =
        some (landedElements conversion crlf (document children)) := by
    show ((workspace.files _).map (stateFile conversion crlf)).bind
      (opened conversion ulong) = _
    rw [left]
    exact written
  unfold Workspace.loadRoot
  rw [if_neg named, file, Option.bind_some, first_landedElements]
  rfl

/-- The breakpoints of a project, as they are saved. -/
def breakpointsOf
    (project : Project)
    (workspace : Workspace) : List WholeBreakpoint :=
  (workspace.store.breakpoints.filter fun ref =>
      (workspace.store.breakpoint ref).project = some project).map fun ref =>
    ⟨workspace.store.breakpoint ref, workspace.details ref⟩

/-- The records over which `LoadStateFromFile` of the breakpoints goes. -/
def breakpointRecords
    (ide : Ide)
    (project : Project)
    (workspace : Workspace) : Option (List XmlElement) :=
  ((workspace.loadRoot ide project).bind fun root =>
      Element.first "BreakpointsList".toList root.children).map fun list =>
    Element.onward "Breakpoint".toList list.children

/-- The records of the breakpoints, as they are found in the file. -/
theorem breakpointRecords_fromDisk
    (named : Workspace.filename ide project ≠ []) :
    breakpointRecords ide project
        (fromDisk conversion crlf ulong
          (workspace.saveBreakpoints ide project)) =
      some ((breakpointsOf project workspace).map fun saved =>
        landedElement conversion crlf
          (saveBreakpointToXML ide (ide.projectInfo project).title
            saved.breakpoint saved.details)) := by
  let title := (ide.projectInfo project).title
  let records :=
    (breakpointsOf project workspace).map fun saved =>
      saveBreakpointToXML ide title saved.breakpoint saved.details
  have left :
      (workspace.saveBreakpoints ide project).files
          (ide.bpsFile (Workspace.filename ide project)) =
        some (document
          [compilerNode (ide.projectInfo project),
            listNode "BreakpointsList".toList
              workspace.store.breakpoints.length records]) := by
    unfold Workspace.saveBreakpoints Workspace.saveFile
    rw [if_neg named]
    dsimp only
    rw [Function.update_self, show records = _ from List.map_map]
    rfl
  have storable :
      StorableAll (maxLevels - 1)
        [compilerNode (ide.projectInfo project),
          listNode "BreakpointsList".toList
            workspace.store.breakpoints.length records] := by
    refine storableAll_listed (by decide) rfl (fun saved => ?_) _ _ _
    exact storable_saveBreakpointToXML (by decide) ide title _ _
  have root := @fromDisk_loadRoot conversion crlf ulong ide project _ _ named
    left storable
  unfold breakpointRecords
  rw [root]
  show some (Element.onward "Breakpoint".toList
    (landedElements conversion crlf records)) = _
  rw [landedElements_eq_map, List.map_map, Element.onward_of_forall]
  · rfl
  · intro record member
    rcases List.mem_map.mp member with ⟨saved, -, rfl⟩
    rfl

/--
Of the records in the bytes of a saved file, each gives back the breakpoint it
was saved of exactly if the file keeps the texts of that one.
-/
theorem breakpoints_restored_iff
    {long : SignedRange}
    (wide : int.half ≤ long.half)
    (named : Workspace.filename ide project ≠ [])
    (wellTyped : ∀ saved ∈ breakpointsOf project workspace, WellTyped saved)
    (isBuiltinOpen : WxString → Bool)
    (before : WholeBreakpoint) :
    ∃ records,
      breakpointRecords ide project
          (fromDisk conversion crlf ulong
            (workspace.saveBreakpoints ide project)) =
        some records ∧
      List.Forall₂
        (fun saved record =>
          Restored saved
              (loadBreakpointFromXML (withLong long ide) isBuiltinOpen record
                before).1 ↔
            KeepsTexts saved)
        (breakpointsOf project workspace) records := by
  refine ⟨_, breakpointRecords_fromDisk named, ?_⟩
  rw [List.forall₂_map_right_iff, List.forall₂_same]
  exact fun saved member =>
    breakpoint_restored_iff conversion crlf long ide isBuiltinOpen _ saved
      before wide (wellTyped saved member)

/-- The watches of a project that was opened from its file. -/
theorem reopenedFromDisk_watches
    (persistable : Persistable ide project workspace) :
    (reopenedFromDisk conversion crlf ulong ide project workspace).watches =
      if Workspace.filename ide project = [] then
        workspace.watches.removeOf ide project
          workspace.watches.watches.reverse
      else
        (workspace.watches.removeOf ide project
          workspace.watches.watches.reverse).loadWatches ide project
          (((watchesOf project workspace.watches).map
              (landedWatch conversion crlf)).map
            (saveWatchToXML
              (readBack conversion crlf (ide.projectInfo project).title))) := by
  have closed :=
    @cleanupWhenProjectClosed_eq ide project workspace persistable.persists
  unfold reopenedFromDisk
  rw [closed]
  by_cases unnamed : Workspace.filename ide project = []
  · rw [if_pos unnamed, onProjectOpened_unnamed unnamed]
    rfl
  · rw [if_neg unnamed]
    let title := (ide.projectInfo project).title
    let records :=
      (watchesOf project workspace.watches).map (saveWatchToXML title)
    rcases @written_files ide project workspace unnamed persistable.noTooltip
      with ⟨count, left⟩
    have storable :
        StorableAll (maxLevels - 1)
          [compilerNode (ide.projectInfo project),
            listNode "WatchesList".toList count records] :=
      storableAll_listed (by decide) rfl
        (storable_saveWatchToXML (by decide) title) _ _ _
    have opened :=
      @onProjectOpened_of_root ide project _ persistable.persists _ _
        (@fromDisk_loadRoot conversion crlf ulong ide project
          { written ide project workspace with
            watches :=
              workspace.watches.removeOf ide project
                workspace.watches.watches.reverse }
          _ unnamed left storable)
        rfl rfl ?_
    · rw [opened]
      refine loadWatches_of_readsAs ?_ _
      show List.Forall₂ ReadsAs (landedElements conversion crlf records) _
      rw [landedElements_eq_map, List.map_map, List.map_map,
        List.forall₂_map_left_iff, List.forall₂_map_right_iff,
        List.forall₂_same]
      exact fun watch _ => readsAs_saveWatchToXML watch
    · intro record member
      have among : record ∈ landedElements conversion crlf records := member
      rw [landedElements_eq_map, List.map_map] at among
      rcases List.mem_map.mp among with ⟨watch, -, rfl⟩
      rfl

/--
A project that is closed and opened again has its watches back exactly if
there is a file, every watch has a symbol, and the file keeps their symbols and
types.
-/
theorem reopenedFromDisk_watches_iff
    (persistable : Persistable ide project workspace) :
    ((watchesOf project
        (reopenedFromDisk conversion crlf ulong ide project
          workspace).watches).map keptWatch).Perm
        ((watchesOf project workspace.watches).map keptWatch) ↔
      ∀ watch ∈ watchesOf project workspace.watches,
        Workspace.filename ide project ≠ [] ∧ watch.symbol ≠ [] ∧
          Kept watch.symbol ∧ Kept watch.type := by
  have cleared := watchesOf_removeOf ide project persistable.removes
  rw [reopenedFromDisk_watches persistable]
  by_cases unnamed : Workspace.filename ide project = []
  · rw [if_pos unnamed, cleared, List.map_nil, List.nil_perm,
      List.map_eq_nil_iff, List.eq_nil_iff_forall_not_mem]
    exact ⟨fun none watch member => absurd member (none watch),
      fun loadable watch member => (loadable watch member).1 unnamed⟩
  · rw [if_neg unnamed]
    constructor
    · intro same watch member
      -- whatever was loaded came through the file
      have back : keptWatch watch ∈ _ :=
        same.mem_iff.mpr (List.mem_map_of_mem member)
      rcases List.mem_map.mp back with ⟨loaded, among, shape⟩
      rcases mem_watchesOf_loadWatches among with old | ⟨source, origin, shown,
        rfl⟩
      · rw [cleared] at old
        exact absurd old List.not_mem_nil
      · rcases List.mem_map.mp origin with ⟨original, -, rfl⟩
        rw [keptWatch_reread] at shape
        have symbol : _ = watch.symbol := congrArg KeptWatch.symbol shape
        have type : _ = watch.type := congrArg KeptWatch.type shape
        rw [← symbol, ← type]
        exact ⟨unnamed, shown, kept_readBack original.symbol,
          kept_readBack original.type⟩
    · intro loadable
      have kept : ∀ watch ∈ watchesOf project workspace.watches,
          keptWatch (landedWatch conversion crlf watch) = keptWatch watch := by
        intro watch member
        rcases loadable watch member with ⟨-, -, symbol, type⟩
        have sameSymbol :
            readBack conversion crlf watch.symbol = watch.symbol :=
          (readBack_eq_iff _).mpr symbol
        have sameType : readBack conversion crlf watch.type = watch.type :=
          (readBack_eq_iff _).mpr type
        rw [keptWatch, landedWatch]
        dsimp only
        rw [sameSymbol, sameType]
        rfl
      have sameKeys :
          ((watchesOf project workspace.watches).map
              (landedWatch conversion crlf)).map
              (fun watch => (watch.symbol, watch.type)) =
            (watchesOf project workspace.watches).map
              (fun watch => (watch.symbol, watch.type)) := by
        rw [List.map_map]
        exact List.map_congr_left fun watch member =>
          congrArg (fun key : KeptWatch => (key.symbol, key.type))
            (kept watch member)
      have shown :
          ((watchesOf project workspace.watches).map
              (landedWatch conversion crlf)).filter
              (fun watch => watch.symbol ≠ []) =
            (watchesOf project workspace.watches).map
              (landedWatch conversion crlf) := by
        refine List.filter_eq_self.mpr fun watch member => ?_
        rcases List.mem_map.mp member with ⟨source, among, rfl⟩
        have symbol := congrArg KeptWatch.symbol (kept source among)
        exact decide_eq_true fun empty =>
          (loadable source among).2.1 (symbol.symm.trans empty)
      rw [watchesOf_loadWatches (sameKeys ▸ persistable.distinctWatches),
        cleared, List.nil_append, shown, List.map_map, List.map_map]
      · refine List.Perm.of_eq (List.map_congr_left fun watch member => ?_)
        exact (keptWatch_reread ide project _ _).trans (kept watch member)
      · intro watch _ other inCleared
        rw [cleared] at inCleared
        exact absurd inCleared List.not_mem_nil

end Files

/-- A breakpoint of code, and one of data at a high address. -/
def twoBreakpoints : Workspace where
  store :=
    { Store.empty with
      heap :=
        { size := 2
          read := fun ref =>
            if ref = 0 then .new (some 0) "main.cpp".toList 5 (-1)
            else highBreakpoint.breakpoint }
      breakpoints := [0, 1]
      inUse := by decide }
  details ref := if ref = 0 then .initial else highBreakpoint.details
  watches := twoWatches.watches
  files _ := none

/-- Both are saved as UTF-8, in a file whose lines end as on Windows. -/
theorem twoBreakpoints_restored_iff :
    ∃ records,
      breakpointRecords projectIde 0
          (fromDisk .utf8 true UInt64.size
            (twoBreakpoints.saveBreakpoints projectIde 0)) =
        some records ∧
      List.Forall₂
        (fun saved record =>
          Restored saved
              (loadBreakpointFromXML (withLong int projectIde)
                (fun _ => false) record
                ⟨.new none [] (-1) (-1), .initial⟩).1 ↔
            KeepsTexts saved)
        (breakpointsOf 0 twoBreakpoints) records := by
  refine breakpoints_restored_iff (by decide) (by decide) ?_
    (fun _ => false) _
  intro saved member
  have either :
      saved = ⟨.new (some 0) "main.cpp".toList 5 (-1), .initial⟩ ∨
        saved = highBreakpoint :=
    List.mem_pair.mp member
  rcases either with rfl | rfl
  all_goals
    exact
      { line := by decide
        ignoreCount := by decide
        address := by decide }

/-- The texts of the file are UTF-8, and its lines end as on Windows. -/
theorem twoWatches_reopenedFromDisk :
    ((watchesOf 0
        (reopenedFromDisk .utf8 true UInt64.size projectIde 0
          twoWatches).watches).map keptWatch).Perm
        ((watchesOf 0 twoWatches.watches).map keptWatch) ↔
      ∀ watch ∈ watchesOf 0 twoWatches.watches,
        Workspace.filename projectIde 0 ≠ [] ∧ watch.symbol ≠ [] ∧
          Kept watch.symbol ∧ Kept watch.type :=
  reopenedFromDisk_watches_iff
    { persists := rfl
      code := fun _ member => absurd member List.not_mem_nil
      distinctBreakpoints := List.nodup_nil
      noTooltip := by decide
      distinctWatches := by decide
      removes := fun _ _ _ => rfl }

end DebuggerDap.Persistence.Reopening
