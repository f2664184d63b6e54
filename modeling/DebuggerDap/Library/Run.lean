import Mathlib.Data.List.Basic

/-!
# Runs of a labelled transition function

A system is a partial step function; a label that is not enabled in a state
has no successor.  A run takes a list of labels in order.

`Along` says that every step of a run meets a guard in the state it is taken
in, `Always` that every state reached meets a property.  An invariant kept by
guarded steps holds always; when every unguarded step breaks the property,
the guard along the run is also necessary.
-/

namespace DebuggerDap.Library.Run

variable {σ ι : Type*}

/-- Take the labels in order, as long as they are enabled. -/
def run (step : σ → ι → Option σ) : σ → List ι → Option σ
  | state, [] => some state
  | state, label :: labels =>
      (step state label).bind fun next => run step next labels

/-- Every step of the run meets the guard in the state before it. -/
def Along
    (step : σ → ι → Option σ)
    (guard : σ → ι → Prop) : σ → List ι → Prop
  | _, [] => True
  | state, label :: labels =>
      guard state label ∧
        ∀ next, step state label = some next →
          Along step guard next labels

/-- Whether a guard holds along a run can be decided step by step. -/
instance Along.decidable
    (step : σ → ι → Option σ)
    (guard : σ → ι → Prop)
    [∀ state label, Decidable (guard state label)] :
    ∀ (state : σ) (labels : List ι),
      Decidable (Along step guard state labels)
  | _, [] => isTrue trivial
  | state, label :: labels =>
      match taken : step state label with
      | none =>
          decidable_of_iff (guard state label) (by simp [Along, taken])
      | some next =>
          haveI := Along.decidable step guard next labels
          decidable_of_iff
            (guard state label ∧ Along step guard next labels)
            (by simp [Along, taken])

/-- Every state reached on the way meets the property. -/
def Always
    (step : σ → ι → Option σ)
    (property : σ → Prop)
    (state : σ)
    (labels : List ι) : Prop :=
  ∀ taken rest reached,
    taken ++ rest = labels →
      run step state taken = some reached → property reached

section Rules

variable {step : σ → ι → Option σ}
variable {guard : σ → ι → Prop}
variable {invariant property : σ → Prop}

theorem run_cons
    {state next : σ}
    {label : ι}
    (taken : step state label = some next)
    (labels : List ι) :
    run step state (label :: labels) = run step next labels := by
  rw [run, taken]
  rfl

/-- A run that begins with a label begins with a step. -/
theorem run_cons_eq_some
    {state reached : σ}
    {label : ι}
    {labels : List ι}
    (ran : run step state (label :: labels) = some reached) :
    ∃ next, step state label = some next ∧
      run step next labels = some reached :=
  Option.bind_eq_some_iff.mp ran

/-- A guard on labels alone holds along every run that uses such labels. -/
theorem along_of_forall
    {allowed : ι → Prop}
    (state : σ)
    (labels : List ι)
    (all : ∀ label ∈ labels, allowed label) :
    Along step (fun _ label => allowed label) state labels := by
  induction labels generalizing state with
  | nil => trivial
  | cons label labels ih =>
      exact ⟨all label List.mem_cons_self, fun next _ =>
        ih next fun later member =>
          all later (List.mem_cons_of_mem _ member)⟩

theorem Along.left
    {state : σ}
    {earlier later : List ι}
    (along : Along step guard state (earlier ++ later)) :
    Along step guard state earlier := by
  induction earlier generalizing state with
  | nil => trivial
  | cons label earlier ih =>
      exact ⟨along.1, fun next taken => ih (along.2 next taken)⟩

theorem Along.right
    {state reached : σ}
    {earlier later : List ι}
    (along : Along step guard state (earlier ++ later))
    (ran : run step state earlier = some reached) :
    Along step guard reached later := by
  induction earlier generalizing state with
  | nil =>
      cases ran
      exact along
  | cons label earlier ih =>
      rcases run_cons_eq_some ran with ⟨next, taken, ranRest⟩
      exact ih (along.2 next taken) ranRest

theorem Along.imp
    {weaker : σ → ι → Prop}
    (implies : ∀ state label, guard state label → weaker state label)
    {state : σ}
    {labels : List ι}
    (along : Along step guard state labels) :
    Along step weaker state labels := by
  induction labels generalizing state with
  | nil => trivial
  | cons label labels ih =>
      exact ⟨implies state label along.1, fun next taken =>
        ih (along.2 next taken)⟩

theorem Along.and
    {other : σ → ι → Prop}
    {state : σ}
    {labels : List ι}
    (along : Along step guard state labels)
    (also : Along step other state labels) :
    Along step (fun state label => guard state label ∧ other state label)
      state labels := by
  induction labels generalizing state with
  | nil => trivial
  | cons label labels ih =>
      exact ⟨⟨along.1, also.1⟩, fun next taken =>
        ih (along.2 next taken) (also.2 next taken)⟩

/-- Every label of a run that was taken is enabled. -/
theorem along_of_run
    {state reached : σ}
    {labels : List ι}
    (ran : run step state labels = some reached) :
    Along step (fun state label => ∃ next, step state label = some next)
      state labels := by
  induction labels generalizing state with
  | nil => trivial
  | cons label labels ih =>
      rcases run_cons_eq_some ran with ⟨next, taken, ranRest⟩
      refine ⟨⟨next, taken⟩, fun other takenOther => ?_⟩
      rw [taken] at takenOther
      cases takenOther
      exact ih ranRest

/-- What guarded steps keep holds at the end of a guarded run. -/
theorem run_invariant
    (preserved :
      ∀ state label next, invariant state → guard state label →
        step state label = some next → invariant next)
    {state reached : σ}
    {labels : List ι}
    (start : invariant state)
    (along : Along step guard state labels)
    (ran : run step state labels = some reached) :
    invariant reached := by
  induction labels generalizing state with
  | nil =>
      cases ran
      exact start
  | cons label labels ih =>
      rcases run_cons_eq_some ran with ⟨next, taken, ranRest⟩
      exact ih (preserved state label next start along.1 taken)
        (along.2 next taken) ranRest

/-- What every step keeps holds at the end of every run. -/
theorem run_invariant_of_step
    (preserved :
      ∀ state label next, invariant state →
        step state label = some next → invariant next)
    {state reached : σ}
    {labels : List ι}
    (start : invariant state)
    (ran : run step state labels = some reached) :
    invariant reached := by
  have unguarded :
      Along step (fun _ _ => True) state labels :=
    along_of_forall state labels fun _ _ => trivial
  exact run_invariant
    (fun state label next kept _ taken =>
      preserved state label next kept taken) start unguarded ran

/--
Where a guarded label is enabled in every state of an invariant and keeps it,
a guarded run can be taken.
-/
theorem exists_run_of_invariant
    (progress :
      ∀ state label, invariant state → guard state label →
        ∃ next, step state label = some next ∧ invariant next)
    {state : σ}
    {labels : List ι}
    (start : invariant state)
    (along : Along step guard state labels) :
    ∃ reached, run step state labels = some reached := by
  induction labels generalizing state with
  | nil => exact ⟨state, rfl⟩
  | cons label labels ih =>
      rcases progress state label start along.1 with ⟨next, taken, kept⟩
      rw [run_cons taken]
      exact ih kept (along.2 next taken)

/-- Where guarded labels are enabled, a guarded run can be taken. -/
theorem exists_run_of_along
    (enabled :
      ∀ state label, guard state label →
        ∃ next, step state label = some next)
    {state : σ}
    {labels : List ι}
    (along : Along step guard state labels) :
    ∃ reached, run step state labels = some reached := by
  have progress :
      ∀ state label, True → guard state label →
        ∃ next, step state label = some next ∧ True := by
    intro state label _ guarded
    rcases enabled state label guarded with ⟨next, taken⟩
    exact ⟨next, taken, trivial⟩
  exact exists_run_of_invariant progress trivial along

/-- Where every label is enabled, every run can be taken. -/
theorem exists_run
    (enabled : ∀ state label, ∃ next, step state label = some next)
    (state : σ)
    (labels : List ι) :
    ∃ reached, run step state labels = some reached := by
  have unguarded : Along step (fun _ _ => True) state labels :=
    along_of_forall state labels fun _ _ => trivial
  exact exists_run_of_along (fun state label _ => enabled state label)
    unguarded

theorem always_of_along
    (preserved :
      ∀ state label next, invariant state → guard state label →
        step state label = some next → invariant next)
    (implies : ∀ state, invariant state → property state)
    {state : σ}
    {labels : List ι}
    (start : invariant state)
    (along : Along step guard state labels) :
    Always step property state labels := by
  rintro taken rest reached rfl ran
  exact implies reached (run_invariant preserved start along.left ran)

theorem Always.tail
    {state next : σ}
    {label : ι}
    {labels : List ι}
    (always : Always step property state (label :: labels))
    (taken : step state label = some next) :
    Always step property next labels := by
  intro more rest reached split ran
  exact always (label :: more) rest reached
    (by rw [List.cons_append, split]) (by rw [run_cons taken, ran])

theorem Always.here
    {state : σ}
    {labels : List ι}
    (always : Always step property state labels) :
    property state :=
  always [] labels state rfl rfl

/--
If every unguarded step breaks the property, a run on which the property
always holds meets the guard along the way.  What is assumed of the steps
anyway may be used on both sides.
-/
theorem along_of_always
    {assumed : σ → ι → Prop}
    (preserved :
      ∀ state label next, invariant state → assumed state label →
        guard state label → step state label = some next → invariant next)
    (breaks :
      ∀ state label next, invariant state → assumed state label →
        ¬ guard state label → step state label = some next →
          ¬ property next)
    {state reached : σ}
    {labels : List ι}
    (start : invariant state)
    (assumption : Along step assumed state labels)
    (ran : run step state labels = some reached)
    (always : Always step property state labels) :
    Along step guard state labels := by
  induction labels generalizing state with
  | nil => trivial
  | cons label labels ih =>
      rcases run_cons_eq_some ran with ⟨next, taken, ranRest⟩
      have guarded : guard state label := by
        by_contra unguarded
        exact breaks state label next start assumption.1 unguarded taken
          (always.tail taken).here
      refine ⟨guarded, fun other takenOther => ?_⟩
      rw [taken] at takenOther
      cases takenOther
      have kept :=
        preserved state label next start assumption.1 guarded taken
      exact ih kept (assumption.2 next taken) ranRest (always.tail taken)

/--
A run on which guarded steps keep an invariant, and unguarded ones break the
property it implies, always has the property if and only if it is guarded.
-/
theorem always_iff_along_of_run
    (preserved :
      ∀ state label next, invariant state → guard state label →
        step state label = some next → invariant next)
    (implies : ∀ state, invariant state → property state)
    (breaks :
      ∀ state label next, invariant state → ¬ guard state label →
        step state label = some next → ¬ property next)
    {state reached : σ}
    {labels : List ι}
    (start : invariant state)
    (ran : run step state labels = some reached) :
    Always step property state labels ↔ Along step guard state labels := by
  have unassumed : Along step (fun _ _ => True) state labels :=
    along_of_forall state labels fun _ _ => trivial
  constructor
  · exact along_of_always
      (fun state label next kept _ guarded taken =>
        preserved state label next kept guarded taken)
      (fun state label next kept _ unguarded taken =>
        breaks state label next kept unguarded taken)
      start unassumed ran
  · exact always_of_along preserved implies start

/-- Where every label is enabled this is so of every list of labels. -/
theorem always_iff_along
    (enabled : ∀ state label, ∃ next, step state label = some next)
    (preserved :
      ∀ state label next, invariant state → guard state label →
        step state label = some next → invariant next)
    (implies : ∀ state, invariant state → property state)
    (breaks :
      ∀ state label next, invariant state → ¬ guard state label →
        step state label = some next → ¬ property next)
    {state : σ}
    (start : invariant state)
    (labels : List ι) :
    Always step property state labels ↔ Along step guard state labels := by
  rcases exists_run enabled state labels with ⟨reached, ran⟩
  exact always_iff_along_of_run preserved implies breaks start ran

/--
Along a run that keeps an invariant, two guards that agree on the states of
the invariant hold together.
-/
theorem along_congr
    {assumed promised : σ → ι → Prop}
    (agree :
      ∀ state label, invariant state → assumed state label →
        (promised state label ↔ guard state label))
    (preserved :
      ∀ state label next, invariant state → assumed state label →
        promised state label → step state label = some next →
          invariant next)
    {state : σ}
    {labels : List ι}
    (start : invariant state)
    (assumption : Along step assumed state labels) :
    Along step promised state labels ↔ Along step guard state labels := by
  induction labels generalizing state with
  | nil => exact Iff.rfl
  | cons label labels ih =>
      have here := agree state label start assumption.1
      constructor
      · rintro ⟨meets, later⟩
        refine ⟨here.mp meets, fun next taken => ?_⟩
        have kept := preserved state label next start assumption.1 meets taken
        exact (ih kept (assumption.2 next taken)).mp (later next taken)
      · rintro ⟨meets, later⟩
        have promise := here.mpr meets
        refine ⟨promise, fun next taken => ?_⟩
        have kept := preserved state label next start assumption.1 promise taken
        exact (ih kept (assumption.2 next taken)).mpr (later next taken)

/-- What a kept invariant and the guard imply holds along a guarded run. -/
theorem Along.imp_of_invariant
    {promised : σ → ι → Prop}
    (implies :
      ∀ state label, invariant state → guard state label →
        promised state label)
    (preserved :
      ∀ state label next, invariant state → guard state label →
        step state label = some next → invariant next)
    {state : σ}
    {labels : List ι}
    (start : invariant state)
    (along : Along step guard state labels) :
    Along step promised state labels := by
  induction labels generalizing state with
  | nil => trivial
  | cons label labels ih =>
      refine ⟨implies state label start along.1, fun next taken => ?_⟩
      exact ih (preserved state label next start along.1 taken)
        (along.2 next taken)

/-- A guard on labels alone that holds along a run holds of its labels. -/
theorem forall_of_along
    {allowed : ι → Prop}
    {state reached : σ}
    {labels : List ι}
    (along : Along step (fun _ label => allowed label) state labels)
    (ran : run step state labels = some reached) :
    ∀ label ∈ labels, allowed label := by
  induction labels generalizing state with
  | nil => exact fun _ member => absurd member List.not_mem_nil
  | cons label labels ih =>
      rcases run_cons_eq_some ran with ⟨next, taken, ranRest⟩
      intro other member
      rcases List.mem_cons.mp member with rfl | later
      · exact along.1
      · exact ih (along.2 next taken) ranRest other later

end Rules

end DebuggerDap.Library.Run
