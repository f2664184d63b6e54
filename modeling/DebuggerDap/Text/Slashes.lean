import DebuggerDap.Text.Strings
import Mathlib.Data.List.Destutter

/-!
# Separators of paths

Converting the separators of a path is to leave one of each run of them.  The
loop keeps the character before in a `char`, which has only the low byte of
it, so that some characters are taken for the separator they stand in front
of, which is then lost.
-/

namespace DebuggerDap.Text.Slashes

open DebuggerDap.Text.Strings

/-! ## Converting -/

/-- The conversion to a `char`. -/
def narrow (ch : Char) : Nat :=
  ch.toNat % 256

def replace (source target ch : Char) : Char :=
  if ch = source then target else ch

/-- The loop of `ConvertSlashes`, with the character before. -/
def convertFrom (source target : Char) : Nat → WxString → WxString
  | _, [] => []
  | lastChar, ch :: path =>
      let ch := replace source target ch
      if ch = target ∧ lastChar = narrow target then
        convertFrom source target (narrow ch) path
      else ch :: convertFrom source target (narrow ch) path

def convertSlashes (source target : Char) (path : WxString) : WxString :=
  convertFrom source target 0 path

def toUnixPath (path : WxString) : WxString :=
  convertSlashes '\\' '/' path

/-- `PATH_SEP`. -/
def pathSep (windows : Bool) : Char :=
  if windows then '\\' else '/'

/-- `SOURCE_SEP`. -/
def sourceSep (windows : Bool) : Char :=
  if windows then '/' else '\\'

def toNativePath (windows : Bool) (path : WxString) : WxString :=
  convertSlashes (sourceSep windows) (pathSep windows) path

/-! ## Paths with single separators -/

/-- Two characters that are not both the separator. -/
def Apart (target before ch : Char) : Prop :=
  ¬(before = target ∧ ch = target)

instance (target : Char) : DecidableRel (Apart target) := fun before ch =>
  inferInstanceAs (Decidable ¬(before = target ∧ ch = target))

/-- The separators are replaced, and one of each run is kept. -/
def normalise (source target : Char) (path : WxString) : WxString :=
  (path.map (replace source target)).destutter (Apart target)

/-- The path is normalised, once and for all. -/
structure Normalises
    (source target : Char)
    (convert : WxString → WxString)
    (path : WxString) : Prop where
  result : convert path = normalise source target path
  idempotent : convert (convert path) = convert path
  single : (convert path).IsChain (Apart target)

def IsSeparator (source target ch : Char) : Prop :=
  ch = source ∨ ch = target

/-- What has the low byte of the separator is one, if it is before one. -/
def Unambiguous (source target : Char) (path : WxString) : Prop :=
  path.IsChain fun before ch =>
    IsSeparator source target ch → narrow before = narrow target →
      IsSeparator source target before

/-! ## Runs -/

section Runs

variable {source target : Char}

/-- The loop on a path whose separators are replaced. -/
def skipFrom (target : Char) : Nat → WxString → WxString
  | _, [] => []
  | lastChar, ch :: path =>
      if ch = target ∧ lastChar = narrow target then
        skipFrom target (narrow ch) path
      else ch :: skipFrom target (narrow ch) path

theorem convertFrom_eq (lastChar : Nat) (path : WxString) :
    convertFrom source target lastChar path =
      skipFrom target lastChar (path.map (replace source target)) := by
  induction path generalizing lastChar with
  | nil => rfl
  | cons ch path inductionHypothesis =>
      rw [convertFrom, List.map_cons, skipFrom, inductionHypothesis]

/-- A separator is not taken to follow another by its low byte alone. -/
def Clear (target before ch : Char) : Prop :=
  ch = target → narrow before = narrow target → before = target

/-- What the loop skips, if nothing else, are repeated separators. -/
theorem length_skipFrom_lt (before : Char) (path : WxString) :
    (skipFrom target (narrow before) path).length <
      (path.destutter' (Apart target) before).length := by
  induction path generalizing before with
  | nil => exact Nat.zero_lt_one
  | cons ch path inductionHypothesis =>
      have further := inductionHypothesis ch
      by_cases apart : Apart target before ch
      · rw [List.destutter'_cons_pos _ apart, skipFrom, List.length_cons]
        split
        · exact Nat.lt_succ_of_lt further
        · exact Nat.succ_lt_succ further
      · rcases not_not.mp apart with ⟨rfl, rfl⟩
        rw [List.destutter'_cons_neg _ apart, skipFrom, if_pos ⟨rfl, rfl⟩]
        exact further

/-- The loop leaves one of each run if no separator is taken for another. -/
theorem skipFrom_eq_iff (before : Char) (path : WxString) :
    before :: skipFrom target (narrow before) path =
        path.destutter' (Apart target) before ↔
      (before :: path).IsChain (Clear target) := by
  induction path generalizing before with
  | nil => exact iff_of_true rfl (List.isChain_singleton _)
  | cons ch path inductionHypothesis =>
      rw [List.isChain_cons_cons]
      by_cases apart : Apart target before ch
      · rw [List.destutter'_cons_pos _ apart, List.cons.injEq,
          and_iff_right rfl, skipFrom]
        by_cases skipped : ch = target ∧ narrow before = narrow target
        · rw [if_pos skipped]
          refine iff_of_false (fun same => ?_) fun both => ?_
          · have shorter := @length_skipFrom_lt target ch path
            rw [same] at shorter
            exact absurd shorter (Nat.lt_irrefl _)
          · exact apart ⟨both.1 skipped.1 skipped.2, skipped.1⟩
        · rw [if_neg skipped, inductionHypothesis]
          have clear : Clear target before ch := fun isTarget lowByte =>
            absurd ⟨isTarget, lowByte⟩ skipped
          rw [and_iff_right clear]
      · have clear : Clear target before ch := fun _ _ =>
          (not_not.mp apart).1
        rw [and_iff_right clear]
        rcases not_not.mp apart with ⟨rfl, rfl⟩
        rw [List.destutter'_cons_neg _ apart, skipFrom, if_pos ⟨rfl, rfl⟩]
        exact inductionHypothesis _

/-- Leaving one of each run makes no new neighbours of different kinds. -/
theorem isChain_cons_destutter'
    {before first : Char}
    {path : WxString}
    (chain : (before :: first :: path).IsChain (Clear target)) :
    (before :: path.destutter' (Apart target) first).IsChain
      (Clear target) := by
  induction path generalizing before first with
  | nil => exact chain
  | cons ch path inductionHypothesis =>
      rcases List.isChain_cons_cons.mp chain with ⟨clear, rest⟩
      by_cases apart : Apart target first ch
      · rw [List.destutter'_cons_pos _ apart, List.isChain_cons_cons]
        exact ⟨clear, inductionHypothesis rest⟩
      · rcases not_not.mp apart with ⟨rfl, rfl⟩
        rw [List.destutter'_cons_neg _ apart]
        exact inductionHypothesis
          (List.isChain_cons_cons.mpr
            ⟨clear, (List.isChain_cons_cons.mp rest).2⟩)

/-- From the start of a path, where no character was before. -/
theorem skipFrom_zero_iff
    (notNul : narrow target ≠ 0)
    (path : WxString) :
    skipFrom target 0 path = path.destutter (Apart target) ↔
      path.IsChain (Clear target) := by
  cases path with
  | nil => exact iff_of_true rfl List.isChain_nil
  | cons ch path =>
      rw [skipFrom, if_neg fun both => notNul both.2.symm,
        List.destutter_cons']
      exact skipFrom_eq_iff ch path

theorem isChain_destutter
    {path : WxString}
    (chain : path.IsChain (Clear target)) :
    (path.destutter (Apart target)).IsChain (Clear target) := by
  cases path with
  | nil => exact List.isChain_nil
  | cons ch path =>
      have twice : (ch :: ch :: path).IsChain (Clear target) :=
        List.isChain_cons_cons.mpr ⟨fun isTarget _ => isTarget, chain⟩
      rw [List.destutter_cons']
      exact (isChain_cons_destutter' twice).tail

theorem unambiguous_iff (path : WxString) :
    Unambiguous source target path ↔
      (path.map (replace source target)).IsChain (Clear target) := by
  rw [List.isChain_map, Unambiguous]
  have same (before ch : Char) :
      (IsSeparator source target ch → narrow before = narrow target →
          IsSeparator source target before) ↔
        Clear target (replace source target before)
          (replace source target ch) := by
    have isTarget (other : Char) :
        replace source target other = target ↔
          IsSeparator source target other := by
      rw [replace, IsSeparator]
      split
      · next isSource => exact iff_of_true rfl (.inl isSource)
      · next notSource => rw [or_iff_right notSource]
    rw [Clear, isTarget, isTarget]
    by_cases isSource : before = source
    · exact iff_of_true (fun _ _ => .inl isSource)
        fun _ _ => .inl isSource
    · rw [replace, if_neg isSource]
  simp only [same]

/-- A path without the source is not changed by replacing it. -/
theorem map_replace_destutter (path : WxString) :
    (normalise source target path).map (replace source target) =
      normalise source target path := by
  refine (List.map_congr_left fun ch member => ?_).trans (List.map_id _)
  have inReplaced : ch ∈ path.map (replace source target) :=
    (List.destutter_sublist _ _).subset member
  rcases List.mem_map.mp inReplaced with ⟨original, -, rfl⟩
  simp only [replace, id]
  split_ifs <;> rfl

/-- Slashes are converted as they are to be if the path is unambiguous. -/
theorem normalises_iff
    (notNul : narrow target ≠ 0)
    (path : WxString) :
    Normalises source target (convertSlashes source target) path ↔
      Unambiguous source target path := by
  have converted (other : WxString) :
      convertSlashes source target other =
        skipFrom target 0 (other.map (replace source target)) :=
    convertFrom_eq 0 other
  rw [unambiguous_iff]
  constructor
  · intro normalises
    rw [← skipFrom_zero_iff notNul, ← converted]
    exact normalises.result
  · intro chain
    have result :
        convertSlashes source target path = normalise source target path := by
      rw [converted]
      exact (skipFrom_zero_iff notNul _).mpr chain
    have again :
        convertSlashes source target (normalise source target path) =
          normalise source target path := by
      rw [converted, map_replace_destutter]
      refine ((skipFrom_zero_iff notNul _).mpr
        (isChain_destutter chain)).trans ?_
      exact List.destutter_idem _ _
    exact
      { result := result
        idempotent := by rw [result, again]
        single := by
          rw [result]
          exact List.isChain_destutter _ _ }

end Runs

/--
Both functions do what they are for unless a character with the low byte of
the separator stands before one.
-/
theorem paths_normalised_iff (windows : Bool) (path : WxString) :
    (Normalises '\\' '/' toUnixPath path ↔ Unambiguous '\\' '/' path) ∧
      (Normalises (sourceSep windows) (pathSep windows)
          (toNativePath windows) path ↔
        Unambiguous (sourceSep windows) (pathSep windows) path) := by
  refine ⟨normalises_iff (by decide) path, normalises_iff ?_ path⟩
  cases windows <;> decide

/-- The low byte of `U+012F` is that of the slash behind it. -/
theorem toUnixPath_ogonek :
    ¬Normalises '\\' '/' toUnixPath ['\u012f', '/', 'a'] := by
  intro normalises
  exact absurd normalises.result (by decide)

end DebuggerDap.Text.Slashes
