import DebuggerDap.Breakpoints.Editing
import DebuggerDap.Breakpoints.Mirror
import Mathlib.Tactic.Tauto

/-!
# Adapter paths and the files they stand for

A file is announced under a path the adapter understands.
`m_map_fileSystemDap` keeps one path for a file, and a path that comes back is
looked up as the first file it was given for.  Three of the options forget the
drive, or put it where a directory may be, so that two files can share a path.

The path is the name of the file itself where the option has nothing to
change.
-/

namespace DebuggerDap.Breakpoints.Paths

open DebuggerDap.Text.Strings
open DebuggerDap.Breakpoints.Store
open DebuggerDap.Breakpoints.Grouping
open DebuggerDap.Breakpoints.Editing
open DebuggerDap.Breakpoints.Mirror

/-! ## Two files with one path -/

/-- The path behind a drive letter and its colon, if it starts with them. -/
def withoutDrive : WxString → WxString
  | drive :: ':' :: rest => if drive = ':' then drive :: ':' :: rest else rest
  | fn => fn

/-- The second path spells the drive of the first one as a directory. -/
def DriveAsDirectory (fn other : WxString) : Prop :=
  ∃ drive rest, drive ≠ ':' ∧ fn = drive :: ':' :: rest ∧
    other = '/' :: drive :: rest

/-- The path of a file, seen from the directory of the debuggee. -/
def relativePath (surroundings : Surroundings) (fn : WxString) : WxString :=
  if surroundings.fileExists fn then
    surroundings.makeRelativeTo fn (surroundings.getPath surroundings.debuggee)
  else fn

/--
What the option forgets is all that tells the files apart: the drive, whether
it is a drive or a directory, or the directory.
-/
def Collide
    (surroundings : Surroundings)
    (filename other : WxString) : Prop :=
  match surroundings.debugTestingChoice with
  | .useNativePaths => False
  | .useLinuxPathsOnWindowsWithDriveLetter => False
  | .useLinuxPathsOnWindowsWithNoCollen =>
      let fn := surroundings.unixFilename filename .unix
      let fnOther := surroundings.unixFilename other .unix
      DriveAsDirectory fn fnOther ∨ DriveAsDirectory fnOther fn
  | .useLinuxPathsOnWindowsWithNoDriveLetter =>
      withoutDrive (surroundings.unixFilename filename .unix) =
        withoutDrive (surroundings.unixFilename other .unix)
  | .useWindowsPathsWithDriveLetterRemoved =>
      withoutDrive (surroundings.unixFilename filename .native) =
        withoutDrive (surroundings.unixFilename other .native)
  | .useRelativePathComparedToTheExecutable =>
      relativePath surroundings (surroundings.unixFilename filename .native) =
        relativePath surroundings (surroundings.unixFilename other .native)

section Drives

variable {fn other : WxString}

/-- A colon is found at 1 exactly behind a drive letter. -/
theorem idxOf?_colon_iff :
    fn.idxOf? ':' = some 1 ↔
      ∃ drive rest, drive ≠ ':' ∧ fn = drive :: ':' :: rest := by
  match fn with
  | [] => simp
  | [drive] =>
      by_cases colon : drive = ':' <;> simp [List.idxOf?_cons, colon]
  | drive :: second :: rest =>
      by_cases colon : drive = ':'
      · simp [List.idxOf?_cons, colon]
      · by_cases next : second = ':' <;>
          simp [List.idxOf?_cons, colon, next]

theorem drop_eq_withoutDrive :
    (if fn.idxOf? ':' = some 1 then fn.drop 2 else fn) = withoutDrive fn := by
  by_cases onDrive : fn.idxOf? ':' = some 1
  · rw [if_pos onDrive]
    rcases idxOf?_colon_iff.mp onDrive with ⟨drive, rest, letter, rfl⟩
    rw [withoutDrive, if_neg letter]
    rfl
  · rw [if_neg onDrive]
    unfold withoutDrive
    split
    · next drive rest =>
        split
        · rfl
        · next letter =>
            exact absurd (idxOf?_colon_iff.mpr ⟨drive, rest, letter, rfl⟩)
              onDrive
    · rfl

/-- A drive is spelled as a directory: the path without the colon. -/
def withoutColon (fn : WxString) : WxString :=
  if fn.idxOf? ':' = some 1 then '/' :: fn.eraseIdx 1 else fn

/-- Without the colon a path can only be taken for one with a directory. -/
theorem withoutColon_eq_iff :
    withoutColon fn = withoutColon other ↔
      fn = other ∨ DriveAsDirectory fn other ∨ DriveAsDirectory other fn := by
  by_cases onDrive : fn.idxOf? ':' = some 1
  · rcases idxOf?_colon_iff.mp onDrive with ⟨drive, rest, letter, rfl⟩
    by_cases otherOnDrive : other.idxOf? ':' = some 1
    · rcases idxOf?_colon_iff.mp otherOnDrive with
        ⟨otherDrive, otherRest, otherLetter, rfl⟩
      rw [withoutColon, if_pos onDrive, withoutColon, if_pos otherOnDrive]
      constructor
      · intro same
        cases same
        exact Or.inl rfl
      · rintro (same | ⟨_, _, -, same, directory⟩ |
          ⟨_, _, -, same, directory⟩)
        · cases same
          rfl
        · cases same
          cases directory
          exact absurd rfl letter
        · cases same
          cases directory
          exact absurd rfl otherLetter
    · rw [withoutColon, if_pos onDrive, withoutColon, if_neg otherOnDrive]
      constructor
      · intro same
        exact Or.inr (Or.inl ⟨drive, rest, letter, rfl, same.symm⟩)
      · rintro (rfl | ⟨_, _, -, same, rfl⟩ |
          ⟨otherDrive, otherRest, otherLetter, rfl, -⟩)
        · exact absurd onDrive otherOnDrive
        · cases same
          rfl
        · exact absurd
            (idxOf?_colon_iff.mpr ⟨otherDrive, otherRest, otherLetter, rfl⟩)
            otherOnDrive
  · by_cases otherOnDrive : other.idxOf? ':' = some 1
    · rcases idxOf?_colon_iff.mp otherOnDrive with
        ⟨drive, rest, letter, rfl⟩
      rw [withoutColon, if_neg onDrive, withoutColon, if_pos otherOnDrive]
      constructor
      · intro same
        exact Or.inr (Or.inr ⟨drive, rest, letter, rfl, same⟩)
      · rintro (rfl | ⟨fnDrive, fnRest, fnLetter, rfl, -⟩ |
          ⟨_, _, -, same, rfl⟩)
        · exact absurd otherOnDrive onDrive
        · exact absurd
            (idxOf?_colon_iff.mpr ⟨fnDrive, fnRest, fnLetter, rfl⟩) onDrive
        · cases same
          rfl
    · rw [withoutColon, if_neg onDrive, withoutColon, if_neg otherOnDrive]
      constructor
      · exact Or.inl
      · rintro (same | ⟨fnDrive, fnRest, fnLetter, rfl, -⟩ |
          ⟨otherDrive, otherRest, otherLetter, rfl, -⟩)
        · exact same
        · exact absurd
            (idxOf?_colon_iff.mpr ⟨fnDrive, fnRest, fnLetter, rfl⟩) onDrive
        · exact absurd
            (idxOf?_colon_iff.mpr ⟨otherDrive, otherRest, otherLetter, rfl⟩)
            otherOnDrive

end Drives

/-! ## Names that are kept -/

/-- The path is a drive with its colon in front of the rest. -/
def BehindDrive (fn rest : WxString) : Prop :=
  ∃ drive, drive ≠ ':' ∧ fn = drive :: ':' :: rest

/-- The path starts with a drive. -/
def HasDrive (fn : WxString) : Prop :=
  ∃ rest, BehindDrive fn rest

/--
The adapter is given the very name the IDE has for the file.  What the option
changes has to be missing, or to lead to that name.
-/
def NameKept (surroundings : Surroundings) (filename : WxString) : Prop :=
  match surroundings.debugTestingChoice with
  | .useNativePaths => surroundings.unixFilename filename .native = filename
  | .useLinuxPathsOnWindowsWithDriveLetter =>
      surroundings.unixFilename filename .unix = filename
  | .useLinuxPathsOnWindowsWithNoCollen =>
      let fn := surroundings.unixFilename filename .unix
      (fn = filename ∧ ¬HasDrive fn) ∨ DriveAsDirectory fn filename
  | .useLinuxPathsOnWindowsWithNoDriveLetter =>
      let fn := surroundings.unixFilename filename .unix
      (fn = filename ∧ ¬HasDrive fn) ∨ BehindDrive fn filename
  | .useWindowsPathsWithDriveLetterRemoved =>
      let fn := surroundings.unixFilename filename .native
      (fn = filename ∧ ¬HasDrive fn) ∨ BehindDrive fn filename
  | .useRelativePathComparedToTheExecutable =>
      let fn := surroundings.unixFilename filename .native
      (surroundings.fileExists fn = true ∧
          surroundings.makeRelativeTo fn
              (surroundings.getPath surroundings.debuggee) = filename) ∨
        (surroundings.fileExists fn = false ∧ fn = filename)

section Names

variable {surroundings : Surroundings} {fn filename : WxString}

theorem hasDrive_iff : HasDrive fn ↔ fn.idxOf? ':' = some 1 := by
  rw [idxOf?_colon_iff]
  constructor
  · rintro ⟨rest, drive, letter, rfl⟩
    exact ⟨drive, rest, letter, rfl⟩
  · rintro ⟨drive, rest, letter, rfl⟩
    exact ⟨rest, drive, letter, rfl⟩

theorem withoutDrive_eq_iff :
    withoutDrive fn = filename ↔
      (fn = filename ∧ ¬HasDrive fn) ∨ BehindDrive fn filename := by
  by_cases onDrive : HasDrive fn
  · rcases onDrive with ⟨rest, drive, letter, rfl⟩
    rw [withoutDrive, if_neg letter]
    constructor
    · rintro rfl
      exact Or.inr ⟨drive, letter, rfl⟩
    · rintro (⟨-, offDrive⟩ | ⟨_, -, same⟩)
      · exact absurd ⟨rest, drive, letter, rfl⟩ offDrive
      · cases same
        rfl
  · rw [← drop_eq_withoutDrive, if_neg fun found =>
      onDrive (hasDrive_iff.mpr found)]
    exact (or_iff_left fun behind => onDrive ⟨filename, behind⟩).trans
      (and_iff_left onDrive) |>.symm

theorem withoutColon_eq_name_iff :
    withoutColon fn = filename ↔
      (fn = filename ∧ ¬HasDrive fn) ∨ DriveAsDirectory fn filename := by
  by_cases onDrive : HasDrive fn
  · rw [withoutColon, if_pos (hasDrive_iff.mp onDrive)]
    rcases onDrive with ⟨rest, drive, letter, rfl⟩
    constructor
    · rintro rfl
      exact Or.inr ⟨drive, rest, letter, rfl, rfl⟩
    · rintro (⟨-, offDrive⟩ | ⟨_, _, -, same, rfl⟩)
      · exact absurd ⟨rest, drive, letter, rfl⟩ offDrive
      · cases same
        rfl
  · rw [withoutColon, if_neg fun found => onDrive (hasDrive_iff.mpr found)]
    have noDirectory : ¬DriveAsDirectory fn filename := by
      rintro ⟨drive, rest, letter, rfl, -⟩
      exact onDrive ⟨rest, drive, letter, rfl⟩
    exact (or_iff_left noDirectory).trans (and_iff_left onDrive) |>.symm

/-- The path of a file is its name exactly where the option keeps it. -/
theorem dapPath_eq_self_iff :
    surroundings.dapPath filename = filename ↔
      NameKept surroundings filename := by
  unfold Surroundings.dapPath NameKept
  cases surroundings.debugTestingChoice with
  | useNativePaths => exact Iff.rfl
  | useLinuxPathsOnWindowsWithDriveLetter => exact Iff.rfl
  | useLinuxPathsOnWindowsWithNoCollen => exact withoutColon_eq_name_iff
  | useLinuxPathsOnWindowsWithNoDriveLetter =>
      dsimp only
      rw [drop_eq_withoutDrive]
      exact withoutDrive_eq_iff
  | useWindowsPathsWithDriveLetterRemoved =>
      dsimp only
      rw [drop_eq_withoutDrive]
      exact withoutDrive_eq_iff
  | useRelativePathComparedToTheExecutable =>
      dsimp only
      split
      · next there => simp [there]
      · next missing => simp [missing]

end Names

/-! ## The paths that are remembered -/

section Remembering

variable {surroundings : Surroundings} {store : Store}
variable {files : List WxString} {outcome : Outcome}

/-- Where the system keeps files apart, only a collision gives them one path. -/
theorem dapPath_eq_iff
    (injective :
      ∀ format, Function.Injective fun filename =>
        surroundings.unixFilename filename format)
    {filename other : WxString} :
    surroundings.dapPath filename = surroundings.dapPath other ↔
      filename = other ∨ Collide surroundings filename other := by
  have same_of_eq (format : PathFormat) :
      surroundings.unixFilename filename format =
          surroundings.unixFilename other format ↔
        filename = other :=
    ⟨fun same => injective format same, fun same => by rw [same]⟩
  unfold Surroundings.dapPath Collide
  cases surroundings.debugTestingChoice with
  | useNativePaths => exact (same_of_eq .native).trans (or_false _).symm.to_iff
  | useLinuxPathsOnWindowsWithDriveLetter =>
      exact (same_of_eq .unix).trans (or_false _).symm.to_iff
  | useLinuxPathsOnWindowsWithNoCollen =>
      exact withoutColon_eq_iff.trans (or_congr_left (same_of_eq .unix))
  | useLinuxPathsOnWindowsWithNoDriveLetter =>
      dsimp only
      rw [drop_eq_withoutDrive, drop_eq_withoutDrive]
      exact (or_iff_right_of_imp fun same => by rw [same]).symm
  | useWindowsPathsWithDriveLetterRemoved =>
      dsimp only
      rw [drop_eq_withoutDrive, drop_eq_withoutDrive]
      exact (or_iff_right_of_imp fun same => by rw [same]).symm
  | useRelativePathComparedToTheExecutable =>
      exact (or_iff_right_of_imp fun same => by rw [same]).symm

/-- The loop that announces files. -/
def announceFiles
    (surroundings : Surroundings)
    (files : List WxString)
    (store : Store) : Except Fault Outcome :=
  forEach
    (fun filename store =>
      store.updateDAPSetBreakpointsByFileName surroundings filename)
    files store

/-- The paths on record are those the system gives the files now. -/
def Current (surroundings : Surroundings) (store : Store) : Prop :=
  ∀ filename path, store.mapFileSystemDap[filename]? = some path →
    path = surroundings.dapPath filename

/-- Announced files are on record, under the path they are announced with. -/
theorem announceFiles_remembers
    (atStop : surroundings.AtStop)
    (current : Current surroundings store)
    (announced : announceFiles surroundings files store = .ok outcome) :
    outcome.sent.map (fun sentOne => (sentOne.filename, sentOne.file)) =
        files.map (fun filename =>
          (filename, surroundings.dapPath filename)) ∧
      ∀ filename path,
        outcome.store.mapFileSystemDap[filename]? = some path ↔
          path = surroundings.dapPath filename ∧
            (filename ∈ files ∨ filename ∈ store.mapFileSystemDap) := by
  induction files generalizing store outcome with
  | nil =>
      cases announced
      refine ⟨rfl, fun filename path => ⟨fun found => ?_, ?_⟩⟩
      · refine ⟨current filename path found, Or.inr ?_⟩
        rw [Std.TreeMap.mem_iff_isSome_getElem?, found]
        rfl
      · rintro ⟨rfl, absurdly | onRecord⟩
        · cases absurdly
        · rw [Std.TreeMap.mem_iff_isSome_getElem?,
            Option.isSome_iff_exists] at onRecord
          rcases onRecord with ⟨path, found⟩
          rw [found, current filename path found]
  | cons first files ih =>
      rcases forEach_cons_ok announced with
        ⟨here, later, announcedFirst, announcedRest, rfl⟩
      have known := announce_ok atStop announcedFirst
      subst known
      have recorded :
          ∀ filename,
            (store.remember surroundings first).mapFileSystemDap[filename]? =
              if filename = first ∧ first ∉ store.mapFileSystemDap then
                some (surroundings.dapPath first)
              else store.mapFileSystemDap[filename]? := by
        intro filename
        rw [Store.remember, Std.TreeMap.getElem?_insertIfNew]
        refine if_congr (and_congr_left' ?_) rfl rfl
        rw [Std.LawfulEqCmp.compare_eq_iff_eq]
        exact eq_comm
      have currentNext :
          Current surroundings (store.remember surroundings first) := by
        intro filename path found
        rw [recorded] at found
        split at found
        · next new =>
            cases found
            rw [new.1]
        · exact current filename path found
      rcases ih currentNext announcedRest with ⟨sent, onRecord⟩
      refine ⟨?_, fun filename path => ?_⟩
      · dsimp only
        rw [List.map_append, sent]
        rfl
      · dsimp only
        rw [onRecord]
        refine and_congr_right fun _ => ?_
        rw [List.mem_cons, Store.remember, Std.TreeMap.mem_insertIfNew,
          Std.LawfulEqCmp.compare_eq_iff_eq, eq_comm (a := first)]
        tauto

/-- A path on record is looked up as a file that has it. -/
theorem filenameBRK_of_recorded
    {filename path : WxString}
    (recorded : store.mapFileSystemDap[filename]? = some path) :
    store.mapFileSystemDap[store.filenameBRK path]? = some path := by
  have entry : (filename, path) ∈ store.mapFileSystemDap.toList :=
    Std.TreeMap.mem_toList_iff_getElem?_eq_some.mpr recorded
  rw [Store.filenameBRK]
  split
  · next first found =>
      have same := List.find?_some found
      have member := List.mem_of_find?_eq_some found
      rw [decide_eq_true_eq] at same
      rw [← same]
      exact Std.TreeMap.mem_toList_iff_getElem?_eq_some.mp member
  · next missing =>
      rw [List.find?_eq_none] at missing
      exact absurd (decide_eq_true rfl) (missing _ entry)

/-- Every path that was sent is looked up as the file it was sent for. -/
def Undone (outcome : Outcome) : Prop :=
  ∀ sentOne ∈ outcome.sent,
    outcome.store.filenameBRK sentOne.file = sentOne.filename

instance (outcome : Outcome) : Decidable (Undone outcome) :=
  inferInstanceAs (Decidable (∀ sentOne ∈ outcome.sent, _))

/--
The paths sent for files can be undone exactly when no two of the files
collide.
-/
theorem paths_undone_iff
    (atStop : surroundings.AtStop)
    (injective :
      ∀ format, Function.Injective fun filename =>
        surroundings.unixFilename filename format)
    (fresh : store.mapFileSystemDap = ∅)
    (announced : announceFiles surroundings files store = .ok outcome) :
    Undone outcome ↔
      ∀ filename ∈ files, ∀ other ∈ files, filename ≠ other →
        ¬ Collide surroundings filename other := by
  have current : Current surroundings store := by
    intro filename path found
    rw [fresh, Std.TreeMap.getElem?_emptyc] at found
    cases found
  obtain ⟨sent, onRecord⟩ :=
    announceFiles_remembers atStop current announced
  have nothingBefore : ∀ filename, filename ∉ store.mapFileSystemDap := by
    rw [fresh]
    exact fun filename => Std.TreeMap.not_mem_emptyc
  have recorded :
      ∀ filename path,
        outcome.store.mapFileSystemDap[filename]? = some path ↔
          path = surroundings.dapPath filename ∧ filename ∈ files := by
    intro filename path
    rw [onRecord, or_iff_left (nothingBefore filename)]
  have undone :
      Undone outcome ↔
        ∀ filename ∈ files,
          outcome.store.filenameBRK (surroundings.dapPath filename) =
            filename := by
    let returns (pair : WxString × WxString) : Prop :=
      outcome.store.filenameBRK pair.2 = pair.1
    have overSent :
        Undone outcome ↔
          ∀ pair ∈ outcome.sent.map fun sentOne =>
            (sentOne.filename, sentOne.file), returns pair := by
      rw [List.forall_mem_map]
      rfl
    rw [overSent, sent, List.forall_mem_map]
  rw [undone]
  constructor
  · intro returned filename member other otherMember different collide
    have same :=
      (dapPath_eq_iff injective).mpr (Or.inr collide)
    apply different
    rw [← returned filename member, same, returned other otherMember]
  · intro apart filename member
    have known :
        outcome.store.mapFileSystemDap[filename]? =
          some (surroundings.dapPath filename) :=
      (recorded _ _).mpr ⟨rfl, member⟩
    rcases (recorded _ _).mp (filenameBRK_of_recorded known) with
      ⟨same, foundMember⟩
    by_contra different
    rcases (dapPath_eq_iff injective).mp same.symm with equal | collide
    · exact different equal
    · exact apart _ foundMember filename member different collide

/-- Windows, with paths sent without the drive. -/
def withoutDrives : Surroundings :=
  { plainStop with
    debugTestingChoice := .useLinuxPathsOnWindowsWithNoDriveLetter }

theorem paths_undone_oneDrive :
    ∃ outcome,
      announceFiles withoutDrives ["C:/a.cpp".toList, "C:/b.cpp".toList]
          Store.empty = .ok outcome ∧
        Undone outcome := by
  have announced :
      announceFiles withoutDrives ["C:/a.cpp".toList, "C:/b.cpp".toList]
        Store.empty = .ok _ := rfl
  have apart :
      ∀ filename ∈ ["C:/a.cpp".toList, "C:/b.cpp".toList],
        ∀ other ∈ ["C:/a.cpp".toList, "C:/b.cpp".toList],
          filename ≠ other → ¬ Collide withoutDrives filename other := by
    simp [Collide, withoutDrives, plainStop, withoutDrive]
  exact ⟨_, announced,
    (paths_undone_iff (by decide) (fun _ _ _ same => same) rfl
      announced).mpr apart⟩

/-- Two files of one name on two drives. -/
theorem twoDrives_not_undone :
    withoutDrives.AtStop ∧
      (∀ format, Function.Injective fun filename =>
        withoutDrives.unixFilename filename format) ∧
      ∃ outcome,
        announceFiles withoutDrives
            ["C:/a.cpp".toList, "D:/a.cpp".toList] Store.empty =
          .ok outcome ∧
        ¬ Undone outcome :=
  ⟨by decide, fun _ _ _ same => same, _, rfl, by decide⟩

end Remembering

end DebuggerDap.Breakpoints.Paths
