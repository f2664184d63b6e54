import DebuggerDap.Protocol.Codecs
import Mathlib.Data.Set.Defs

/-!
# Equality of breakpoints

Two breakpoints count as the same if they agree in one of three keys: the
place, the name of the source, or the number of the source.  The number is
compared even where it is the one of no source.  The hash is that of a text
made of the path, the name and the line, whichever key is used.

The laws of an equality and its hash so hold only among breakpoints whose keys
do not contradict each other.
-/

namespace DebuggerDap.Protocol.BreakpointKeys

open DebuggerDap.Text.Strings
open DebuggerDap.Protocol.Codecs (Breakpoint freshSource)

/-- `Breakpoint::operator==`. -/
def same (breakpoint other : Breakpoint) : Bool :=
  (breakpoint.source.path ≠ [] &&
      breakpoint.source.path = other.source.path &&
      breakpoint.line = other.line) ||
    (breakpoint.source.name ≠ [] &&
      breakpoint.source.name = other.source.name) ||
    breakpoint.source.sourceReference = other.source.sourceReference

/-- What is hashed. -/
def hashText (b : Breakpoint) : WxString :=
  b.source.path ++ b.source.name ++ (toString b.line).toList

/-- `std::hash`, by the one of strings. -/
def hash (hashString : WxString → Nat) (b : Breakpoint) : Nat :=
  hashString (hashText b)

/-- Both have a path, and not the same. -/
def PathsDiffer (a b : Breakpoint) : Prop :=
  a.source.path ≠ [] ∧ b.source.path ≠ [] ∧ a.source.path ≠ b.source.path

/-- What equality and hash are to satisfy, for three breakpoints. -/
structure Lawful (a b c : Breakpoint) : Prop where
  refl : same a a = true
  symm : same a b = true → same b a = true
  trans : same a b = true → same b c = true → same a c = true
  hash_eq :
    ∀ hashString, same a b = true → hash hashString a = hash hashString b
  paths : PathsDiffer a b → same a b = false

/-! ## Keys -/

inductive Key where
  | place
  | name
  | reference
  deriving DecidableEq, Repr

/-- Two breakpoints agree in a key; an empty text is none. -/
def Agree : Key → Breakpoint → Breakpoint → Prop
  | .place, a, b =>
      a.source.path ≠ [] ∧ a.source.path = b.source.path ∧ a.line = b.line
  | .name, a, b => a.source.name ≠ [] ∧ a.source.name = b.source.name
  | .reference, a, b =>
      a.source.sourceReference = b.source.sourceReference

/-- One place, or one name of a source. -/
def Near (a b : Breakpoint) : Prop :=
  Agree .place a b ∨ Agree .name a b

/--
The path with the name of `right` is longer by a text with which the line of
`left` starts, and which its own line leaves out.
-/
def Shifts (left right : Breakpoint) : Prop :=
  ∃ moved,
    right.source.path ++ right.source.name =
        left.source.path ++ left.source.name ++ moved ∧
      (toString left.line).toList = moved ++ (toString right.line).toList

/--
What the members of the breakpoints in use have to be.  One place has one name
of a source.  Breakpoints with one name or one number have no two paths, and
characters only move from the path and name of one to the line of the other.
Of each breakpoint, all in its place or with its name have its number, or all
with its number are in its place or have its name.
-/
structure WellKeyed (used : Set Breakpoint) : Prop where
  place :
    ∀ a ∈ used, ∀ b ∈ used, Agree .place a b → a.source.name = b.source.name
  onePath :
    ∀ a ∈ used, ∀ b ∈ used, Agree .name a b ∨ Agree .reference a b →
      a.source.path = [] ∨ b.source.path = [] ∨
        a.source.path = b.source.path
  shifted :
    ∀ a ∈ used, ∀ b ∈ used, Agree .name a b ∨ Agree .reference a b →
      Shifts a b ∨ Shifts b a
  nested :
    ∀ b ∈ used,
      (∀ a ∈ used, Near a b →
        a.source.sourceReference = b.source.sourceReference) ∨
      ∀ c ∈ used,
        b.source.sourceReference = c.source.sourceReference → Near b c

section Keys

variable {a b c : Breakpoint}

theorem same_iff (a b : Breakpoint) :
    same a b = true ↔ ∃ key, Agree key a b := by
  constructor
  · intro isSame
    simp only [same, ne_eq, decide_not, Bool.or_eq_true, Bool.and_eq_true,
      Bool.not_eq_true', decide_eq_false_iff_not, decide_eq_true_eq]
      at isSame
    rcases isSame with (⟨⟨given, path⟩, line⟩ | named) | reference
    · exact ⟨.place, given, path, line⟩
    · exact ⟨.name, named⟩
    · exact ⟨.reference, reference⟩
  · rintro ⟨key, agree⟩
    cases key with
    | place =>
        rcases agree with ⟨given, path, line⟩
        simp [same, given, ← path, line]
    | name =>
        rcases agree with ⟨given, name⟩
        simp [same, given, ← name]
    | reference =>
        have reference : a.source.sourceReference = _ := agree
        simp [same, reference]

theorem Agree.symm {key : Key} (agree : Agree key a b) : Agree key b a := by
  cases key with
  | place =>
      rcases agree with ⟨given, path, line⟩
      exact ⟨path ▸ given, path.symm, line.symm⟩
  | name =>
      rcases agree with ⟨given, name⟩
      exact ⟨name ▸ given, name.symm⟩
  | reference => exact Eq.symm agree

theorem Agree.trans
    {key : Key}
    (first : Agree key a b)
    (second : Agree key b c) : Agree key a c := by
  cases key with
  | place =>
      exact ⟨first.1, first.2.1.trans second.2.1,
        first.2.2.trans second.2.2⟩
  | name => exact ⟨first.1, first.2.trans second.2⟩
  | reference => exact Eq.trans first second

theorem same_symm (isSame : same a b = true) : same b a = true := by
  rcases (same_iff a b).mp isSame with ⟨key, agree⟩
  exact (same_iff b a).mpr ⟨key, agree.symm⟩

/-- In one place the texts differ if the names do. -/
theorem hashText_eq_iff (agree : Agree .place a b) :
    hashText a = hashText b ↔ a.source.name = b.source.name := by
  rcases agree with ⟨-, path, line⟩
  rw [hashText, hashText, path, line, List.append_left_inj,
    List.append_right_inj]

/-- Some hash of strings tells two texts apart. -/
theorem hashText_eq_of_hash_eq
    (equal : ∀ hashString, hash hashString a = hash hashString b) :
    hashText a = hashText b := by
  by_contra differ
  have told := equal fun text => if text = hashText a then 1 else 0
  rw [hash, hash, if_pos rfl, if_neg (Ne.symm differ)] at told
  cases told

theorem hashText_eq_iff_shifts (a b : Breakpoint) :
    hashText a = hashText b ↔ Shifts a b ∨ Shifts b a :=
  List.append_eq_append_iff

theorem pathsDiffer_iff (a b : Breakpoint) :
    ¬PathsDiffer a b ↔
      a.source.path = [] ∨ b.source.path = [] ∨
        a.source.path = b.source.path := by
  unfold PathsDiffer
  tauto

theorem Near.symm (near : Near a b) : Near b a := by
  rcases near with place | name
  · exact Or.inl place.symm
  · exact Or.inr name.symm

theorem same_of_near (near : Near a b) : same a b = true := by
  rcases near with place | name
  · exact (same_iff a b).mpr ⟨.place, place⟩
  · exact (same_iff a b).mpr ⟨.name, name⟩

/-- Equality is nearness, or one number. -/
theorem same_iff_near (a b : Breakpoint) :
    same a b = true ↔ Near a b ∨ Agree .reference a b := by
  constructor
  · intro isSame
    rcases (same_iff a b).mp isSame with ⟨key, agree⟩
    cases key with
    | place => exact Or.inl (Or.inl agree)
    | name => exact Or.inl (Or.inr agree)
    | reference => exact Or.inr agree
  · rintro (near | reference)
    · exact same_of_near near
    · exact (same_iff a b).mpr ⟨.reference, reference⟩

/-- Where one place has one name, a step to one place keeps the name. -/
theorem Near.trans
    (placeFirst : Agree .place a b → a.source.name = b.source.name)
    (placeSecond : Agree .place b c → b.source.name = c.source.name)
    (first : Near a b)
    (second : Near b c) : Near a c := by
  rcases first with place | name
  · rcases second with placeNext | nameNext
    · exact Or.inl (place.trans placeNext)
    · have one := placeFirst place
      exact Or.inr ⟨one ▸ nameNext.1, one.trans nameNext.2⟩
  · rcases second with placeNext | nameNext
    · exact Or.inr ⟨name.1, name.2.trans (placeSecond placeNext)⟩
    · exact Or.inr (name.trans nameNext)

end Keys

section Laws

variable {used : Set Breakpoint}

/-- Nearness composes among breakpoints whose places have one name. -/
theorem WellKeyed.near_trans
    (keyed : WellKeyed used)
    {a b c : Breakpoint}
    (inA : a ∈ used)
    (inB : b ∈ used)
    (inC : c ∈ used)
    (first : Near a b)
    (second : Near b c) : Near a c :=
  first.trans (keyed.place a inA b inB) (keyed.place b inB c inC) second

/-- Equal breakpoints have one text and no two paths. -/
theorem WellKeyed.hashText_eq
    (keyed : WellKeyed used)
    {a b : Breakpoint}
    (inA : a ∈ used)
    (inB : b ∈ used)
    (isSame : same a b = true) :
    hashText a = hashText b ∧ ¬PathsDiffer a b := by
  rw [hashText_eq_iff_shifts, pathsDiffer_iff]
  rcases (same_iff a b).mp isSame with ⟨key, agree⟩
  cases key with
  | place =>
      rw [← hashText_eq_iff_shifts, hashText_eq_iff agree]
      exact ⟨keyed.place a inA b inB agree, Or.inr (Or.inr agree.2.1)⟩
  | name =>
      exact ⟨keyed.shifted a inA b inB (Or.inl agree),
        keyed.onePath a inA b inB (Or.inl agree)⟩
  | reference =>
      exact ⟨keyed.shifted a inA b inB (Or.inr agree),
        keyed.onePath a inA b inB (Or.inr agree)⟩

/-- What is near one of two with one number has that number, or is near both. -/
theorem WellKeyed.same_of_near_of_reference
    (keyed : WellKeyed used)
    {a b c : Breakpoint}
    (inA : a ∈ used)
    (inB : b ∈ used)
    (inC : c ∈ used)
    (near : Near a b)
    (reference : b.source.sourceReference = c.source.sourceReference) :
    same a c = true := by
  rw [same_iff_near]
  rcases keyed.nested b inB with sameNumber | allNear
  · exact Or.inr ((sameNumber a inA near).trans reference)
  · exact Or.inl (keyed.near_trans inA inB inC near (allNear c inC reference))

theorem WellKeyed.same_trans
    (keyed : WellKeyed used)
    {a b c : Breakpoint}
    (inA : a ∈ used)
    (inB : b ∈ used)
    (inC : c ∈ used)
    (first : same a b = true)
    (second : same b c = true) : same a c = true := by
  rcases (same_iff_near a b).mp first with near | reference
  · rcases (same_iff_near b c).mp second with nearNext | referenceNext
    · exact same_of_near (keyed.near_trans inA inB inC near nearNext)
    · exact keyed.same_of_near_of_reference inA inB inC near referenceNext
  · rcases (same_iff_near b c).mp second with nearNext | referenceNext
    · exact same_symm (keyed.same_of_near_of_reference inC inB inA
        nearNext.symm (Eq.symm reference))
    · exact (same_iff a c).mpr ⟨.reference, reference.trans referenceNext⟩

/--
The laws hold for all breakpoints in use exactly if their members are such
that no key contradicts another.
-/
theorem lawful_iff (used : Set Breakpoint) :
    (∀ a ∈ used, ∀ b ∈ used, ∀ c ∈ used, Lawful a b c) ↔
      WellKeyed used := by
  constructor
  · intro lawful
    have text {a b : Breakpoint} (inA : a ∈ used) (inB : b ∈ used)
        (isSame : same a b = true) : hashText a = hashText b :=
      hashText_eq_of_hash_eq fun hashString =>
        (lawful a inA b inB b inB).hash_eq hashString isSame
    have onePath {a b : Breakpoint} (inA : a ∈ used) (inB : b ∈ used)
        (isSame : same a b = true) : ¬PathsDiffer a b := by
      intro differ
      rw [(lawful a inA b inB b inB).paths differ] at isSame
      cases isSame
    have place {a b : Breakpoint} (inA : a ∈ used) (inB : b ∈ used)
        (agree : Agree .place a b) : a.source.name = b.source.name :=
      (hashText_eq_iff agree).mp
        (text inA inB (same_of_near (Or.inl agree)))
    have isSame {a b : Breakpoint}
        (agree : Agree .name a b ∨ Agree .reference a b) :
        same a b = true := by
      rw [same_iff_near]
      exact agree.imp_left Or.inr
    exact
      { place := fun a inA b inB => place inA inB
        onePath := fun a inA b inB agree =>
          (pathsDiffer_iff a b).mp (onePath inA inB (isSame agree))
        shifted := fun a inA b inB agree =>
          (hashText_eq_iff_shifts a b).mp (text inA inB (isSame agree))
        nested := fun b inB => by
          by_cases sameNumber : ∀ a ∈ used, Near a b →
            a.source.sourceReference = b.source.sourceReference
          · exact Or.inl sameNumber
          · push Not at sameNumber
            rcases sameNumber with ⟨a, inA, near, differ⟩
            refine Or.inr fun c inC reference => ?_
            have through :=
              (lawful a inA b inB c inC).trans (same_of_near near)
                (isSame (Or.inr reference))
            rcases (same_iff_near a c).mp through with nearNext | one
            · exact near.symm.trans (place inB inA) (place inA inC) nearNext
            · have equal : a.source.sourceReference = _ := one
              exact absurd (equal.trans reference.symm) differ }
  · intro keyed a inA b inB c inC
    exact
      { refl := (same_iff a a).mpr ⟨.reference, rfl⟩
        symm := same_symm
        trans := keyed.same_trans inA inB inC
        hash_eq := fun hashString isSame =>
          congrArg hashString (keyed.hashText_eq inA inB isSame).1
        paths := fun differ => by
          rw [← Bool.not_eq_true]
          exact fun isSame => (keyed.hashText_eq inA inB isSame).2 differ }

end Laws

/-- A breakpoint in a file whose source has no number. -/
def inFile (path : WxString) : Breakpoint :=
  { Breakpoint.fresh with
    source := { freshSource with path := path }
    line := 1 }

/-- Two files without a number are the same. -/
theorem files_not_lawful :
    ¬Lawful (inFile "/a.cpp".toList) (inFile "/b.cpp".toList)
      (inFile "/b.cpp".toList) := by
  intro lawful
  have differ :
      PathsDiffer (inFile "/a.cpp".toList) (inFile "/b.cpp".toList) :=
    ⟨by decide, by decide, by decide⟩
  exact absurd (lawful.paths differ) (by decide)

end DebuggerDap.Protocol.BreakpointKeys
