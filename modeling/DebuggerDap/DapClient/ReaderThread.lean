import DebuggerDap.DapClient.OnMessage
import DebuggerDap.Library.Run
import Mathlib.Data.List.Chain

/-!
# The reader thread and the main loop

The reader thread of a transport posts what it reads, and at most one
connection error, to the event queue of the client; the main loop dispatches
the queue in order.  `Reset` joins the thread but leaves the queue alone.

The transports are numbered by the calls of `SetTransport`.  Posted messages
carry the number of the reader they come from, and a log says which readers'
bytes and errors reached the client in which session.
-/

namespace DebuggerDap.DapClient.ReaderThread

open DebuggerDap.Text.Strings
open DebuggerDap.Protocol.JsonTree
open DebuggerDap.Protocol.JsonRpc
open DebuggerDap.DapClient.State
open DebuggerDap.DapClient.OnMessage
open DebuggerDap.Library.Run

variable {κ π : Type*}

/-- What a reader hands to the main loop with `CallAfter`. -/
inductive Posted where
  | data (reader : Nat) (content : WxString)
  | connectionError (reader : Nat)

def Posted.reader : Posted → Nat
  | .data reader _ => reader
  | .connectionError reader => reader

/-- What reaches the client, and in which session. -/
inductive Arrival where
  /-- Bytes of a reader are appended to `m_rpc`. -/
  | appended (reader session : Nat)
  /-- `OnMessage` is called on a buffer with bytes of these readers. -/
  | handled (readers : List Nat) (session : Nat) (resets : Bool)
  /-- A connection error of a reader resets the client. -/
  | torn (reader session : Nat)
  deriving DecidableEq, Repr

structure World (κ π : Type*) where
  client : Client κ
  plugin : π
  pending : List Posted
  /-- The number of calls of `SetTransport`. -/
  session : Nat
  /-- The readers whose bytes went into `m_rpc` since it was last emptied. -/
  sources : List Nat
  arrivals : List Arrival

def World.start (κ : Type*) (plugin : π) : World κ π where
  client := Client.new κ
  plugin := plugin
  pending := []
  session := 0
  sources := []
  arrivals := []

/-- What the plugin does on events; `true` says that it called `Reset`. -/
abbrev Reaction (κ π : Type*) := List (Output κ) → π → π × Bool

section Dispatch

variable (parse : WxString → Option Json)
variable (toolkit : Toolkit)
variable (react : Reaction κ π)

/-- `StaticOnDataRead` with the handlers of the dispatched events. -/
def staticOnDataRead : Callback Json (World κ π) :=
  fun json world =>
    let result := onMessage toolkit json world.client
    let reaction := react result.2 world.plugin
    ({ world with
        client := if reaction.2 then result.1.reset else result.1
        plugin := reaction.1
        sources := if reaction.2 then [] else world.sources
        arrivals :=
          world.arrivals ++
            [.handled world.sources world.session reaction.2] },
      reaction.2)

/-- `AppendBuffer` of a reader's bytes, as the log records it. -/
def World.append (reader : Nat) (world : World κ π) : World κ π :=
  { world with
    sources := world.sources ++ [reader]
    arrivals := world.arrivals ++ [.appended reader world.session] }

def World.onDataRead
    (reader : Nat)
    (content : WxString)
    (world : World κ π) : World κ π :=
  if content = [] then world
  else
    let processed :=
      processBuffer parse (staticOnDataRead toolkit react)
        (world.client.rpc ++ content) (world.append reader)
    { processed.2 with
      client := { processed.2.client with rpc := processed.1 } }

def World.onConnectionError
    (reader : Nat)
    (world : World κ π) : World κ π :=
  let result := world.client.onConnectionError
  { world with
    client := result.1
    plugin := (react result.2 world.plugin).1
    sources := []
    arrivals := world.arrivals ++ [.torn reader world.session] }

def World.dispatch
    (posted : Posted)
    (world : World κ π) : World κ π :=
  match posted with
  | .data reader content =>
      world.onDataRead parse toolkit react reader content
  | .connectionError reader => world.onConnectionError react reader

end Dispatch

inductive Label where
  /-- The reader got bytes and posts them. -/
  | read (content : WxString)
  /-- The reader failed, posts a connection error and ends. -/
  | fail
  /-- The main loop takes the head of the queue. -/
  | dispatch
  | reset
  | setTransport (transport : Nat)

/-- The reader of the current transport is running. -/
def World.reading (world : World κ π) : Bool :=
  world.client.readerThread && !world.client.terminated

def step
    (parse : WxString → Option Json)
    (toolkit : Toolkit)
    (react : Reaction κ π)
    (world : World κ π)
    (label : Label) : Option (World κ π) :=
  match label with
  | .read content =>
      if world.reading ∧ content ≠ [] then
        some
          { world with
            pending := world.pending ++ [.data world.session content] }
      else none
  | .fail =>
      if world.reading then
        some
          { world with
            client := { world.client with terminated := true }
            pending := world.pending ++ [.connectionError world.session] }
      else none
  | .dispatch =>
      match world.pending with
      | [] => none
      | posted :: pending =>
          some ({ world with pending := pending }.dispatch parse toolkit
            react posted)
  | .reset =>
      some { world with client := world.client.reset, sources := [] }
  | .setTransport transport =>
      some
        { world with
          client := world.client.setTransport transport
          session := world.session + 1
          sources := [] }

/-! ## Isolation -/

/-- What arrives comes from the reader of the session it arrives in. -/
def Arrival.Own : Arrival → Prop
  | .appended reader session => reader = session
  | .handled readers session _ => ∀ reader ∈ readers, reader = session
  | .torn reader session => reader = session

def Arrival.IsHandled : Arrival → Prop
  | .handled .. => True
  | _ => False

/-- `OnMessage` was called and a handler called `Reset`. -/
def Arrival.Resets : Arrival → Prop
  | .handled _ _ resets => resets = true
  | _ => False

/-- Nothing of an earlier reader has reached a later session. -/
def Isolated (world : World κ π) : Prop :=
  ∀ arrival ∈ world.arrivals, arrival.Own

/--
After a message whose handler called `Reset`, no message is handled before
new bytes arrive.
-/
def StopsOnReset (world : World κ π) : Prop :=
  world.arrivals.IsChain fun earlier later =>
    earlier.Resets → ¬ later.IsHandled

/-- `SetTransport` is only called while no message is pending. -/
def IdleAtSetTransport (world : World κ π) (label : Label) : Prop :=
  ∀ transport, label = .setTransport transport → world.pending = []

/-! ## One dispatch -/

/-- Any arrival may follow one whose handlers did not reset the client. -/
theorem isChain_of_quiet
    {arrivals : List Arrival}
    (quiet : ∀ arrival ∈ arrivals, ¬ arrival.Resets)
    (last : List Arrival)
    (single : last.length ≤ 1) :
    (arrivals ++ last).IsChain fun earlier later =>
      earlier.Resets → ¬ later.IsHandled := by
  refine List.IsChain.append ?_ ?_ ?_
  · exact List.Pairwise.isChain
      (List.pairwise_of_forall_mem_list fun earlier member later _ resets =>
        absurd resets (quiet earlier member))
  · rcases last with _ | ⟨first, _ | ⟨second, last⟩⟩
    · exact .nil
    · exact .singleton _
    · simp at single
  · intro earlier member later _ resets
    exact absurd resets (quiet earlier (List.mem_of_getLast? member))

/-- What a dispatched message changes besides the client and the plugin. -/
structure Dispatched
    (posted : Posted)
    (world next : World κ π)
    (first : Arrival)
    (later : List Arrival) : Prop where
  pending : next.pending = world.pending
  session : next.session = world.session
  sources :
    ∀ reader ∈ next.sources,
      reader ∈ world.sources ∨ reader = posted.reader
  arrivals : next.arrivals = world.arrivals ++ first :: later
  /-- First the bytes or the error arrive. -/
  reaches :
    first = .appended posted.reader world.session ∨
      first = .torn posted.reader world.session
  /-- Then messages are handled until a handler calls `Reset`. -/
  handles :
    ∀ arrival ∈ later,
      ∃ resets,
        arrival =
          .handled (world.sources ++ [posted.reader]) world.session resets
  stops :
    later.IsChain fun earlier later => earlier.Resets → ¬ later.IsHandled

section Dispatch

variable (parse : WxString → Option Json)
variable (toolkit : Toolkit)
variable (react : Reaction κ π)

/-- The worlds a loop passes through before a handler calls `Reset`. -/
structure Going (start world : World κ π) (count : Nat) : Prop where
  pending : world.pending = start.pending
  session : world.session = start.session
  sources : world.sources = start.sources
  arrivals :
    world.arrivals =
      start.arrivals ++
        List.replicate count (.handled start.sources start.session false)

/-- The world right after a handler has called `Reset`. -/
structure Stopped (start world : World κ π) (count : Nat) : Prop where
  pending : world.pending = start.pending
  session : world.session = start.session
  sources : world.sources = []
  arrivals :
    world.arrivals =
      start.arrivals ++
        (List.replicate count (.handled start.sources start.session false) ++
          [.handled start.sources start.session true])

theorem staticOnDataRead_continues
    {start world : World κ π}
    {count : Nat}
    (going : Going start world count)
    (json : Json)
    (keeps :
      (react (onMessage toolkit json world.client).2 world.plugin).2 =
        false) :
    Going start (staticOnDataRead toolkit react json world).1
      (count + 1) := by
  constructor
  case pending => exact going.pending
  case session => exact going.session
  case sources =>
    show (if _ = true then [] else world.sources) = start.sources
    rw [if_neg (Bool.eq_false_iff.mp keeps)]
    exact going.sources
  case arrivals =>
    show world.arrivals ++ [.handled world.sources world.session _] = _
    rw [keeps, going.arrivals, going.sources, going.session,
      List.replicate_succ', List.append_assoc]

theorem staticOnDataRead_stops
    {start world : World κ π}
    {count : Nat}
    (going : Going start world count)
    (json : Json)
    (resets :
      (react (onMessage toolkit json world.client).2 world.plugin).2 =
        true) :
    Stopped start (staticOnDataRead toolkit react json world).1 count := by
  constructor
  case pending => exact going.pending
  case session => exact going.session
  case sources =>
    show (if _ = true then [] else world.sources) = []
    exact if_pos resets
  case arrivals =>
    show world.arrivals ++ [.handled world.sources world.session _] = _
    rw [resets, going.arrivals, going.sources, going.session,
      List.append_assoc]

/-- The bytes are appended, then messages are handled until a reset. -/
theorem onDataRead_dispatched
    (reader : Nat)
    {content : WxString}
    (filled : content ≠ [])
    (world : World κ π) :
    ∃ later,
      Dispatched (.data reader content) world
        (world.onDataRead parse toolkit react reader content)
        (.appended reader world.session) later := by
  let start := world.append reader
  have outcome :=
    processBuffer_outcome parse (staticOnDataRead toolkit react)
      (fun world => ∃ count, Going start world count)
      (fun world => ∃ count, Stopped start world count)
      (fun json _ ⟨count, going⟩ keeps =>
        ⟨count + 1,
          staticOnDataRead_continues toolkit react going json keeps⟩)
      (fun json _ ⟨count, going⟩ resets =>
        ⟨count, staticOnDataRead_stops toolkit react going json resets⟩)
      (world.client.rpc ++ content)
      ⟨0, rfl, rfl, rfl, (List.append_nil _).symm⟩
  have quiet :
      ∀ count : Nat, ∀ arrival ∈
        List.replicate count
          (Arrival.handled start.sources start.session false),
        ¬ arrival.Resets := by
    intro count arrival member resets
    rw [List.eq_of_mem_replicate member] at resets
    exact Bool.false_ne_true resets
  unfold World.onDataRead
  rw [if_neg filled]
  rcases outcome with ⟨count, going⟩ | ⟨⟨count, stopped⟩, -⟩
  · refine ⟨List.replicate count
      (.handled start.sources start.session false), ?_⟩
    constructor
    case pending => exact going.pending
    case session => exact going.session
    case sources =>
      intro other member
      rw [show World.sources _ = start.sources from going.sources] at member
      rcases List.mem_append.mp member with old | new
      · exact Or.inl old
      · exact Or.inr (List.mem_singleton.mp new)
    case arrivals =>
      refine going.arrivals.trans ?_
      show (world.arrivals ++ [_]) ++ _ = _
      rw [List.append_assoc]
      rfl
    case reaches => exact Or.inl rfl
    case handles =>
      intro arrival member
      exact ⟨false, List.eq_of_mem_replicate member⟩
    case stops =>
      have chain := isChain_of_quiet (quiet count) [] (Nat.zero_le 1)
      rwa [List.append_nil] at chain
  · refine ⟨List.replicate count
      (.handled start.sources start.session false) ++
        [.handled start.sources start.session true], ?_⟩
    constructor
    case pending => exact stopped.pending
    case session => exact stopped.session
    case sources =>
      intro other member
      rw [show World.sources _ = [] from stopped.sources] at member
      exact absurd member List.not_mem_nil
    case arrivals =>
      refine stopped.arrivals.trans ?_
      show (world.arrivals ++ [_]) ++ _ = _
      rw [List.append_assoc]
      rfl
    case reaches => exact Or.inl rfl
    case handles =>
      intro arrival member
      rcases List.mem_append.mp member with before | last
      · exact ⟨false, List.eq_of_mem_replicate before⟩
      · exact ⟨true, List.mem_singleton.mp last⟩
    case stops => exact isChain_of_quiet (quiet count) _ (le_refl 1)

theorem onConnectionError_dispatched
    (reader : Nat)
    (world : World κ π) :
    Dispatched (.connectionError reader) world
      (world.onConnectionError react reader)
      (.torn reader world.session) [] where
  pending := rfl
  session := rfl
  sources := fun _ member => absurd member List.not_mem_nil
  arrivals := rfl
  reaches := Or.inr rfl
  handles := fun _ member => absurd member List.not_mem_nil
  stops := .nil

/-- No reader posts an empty text. -/
def Posted.Filled : Posted → Prop
  | .data _ content => content ≠ []
  | .connectionError _ => True

theorem dispatch_dispatched
    {posted : Posted}
    (filled : posted.Filled)
    (world : World κ π) :
    ∃ first later,
      Dispatched posted world
        (world.dispatch parse toolkit react posted) first later := by
  cases posted with
  | data reader content =>
      exact ⟨_, onDataRead_dispatched parse toolkit react reader filled world⟩
  | connectionError reader =>
      exact ⟨_, [], onConnectionError_dispatched react reader world⟩

end Dispatch

/-! ## What a step can be -/

section Steps

variable {parse : WxString → Option Json}
variable {toolkit : Toolkit}
variable {react : Reaction κ π}
variable {world next : World κ π}
variable {label : Label}

/-- Messages in the queue are not empty and come from a past reader. -/
def WellPosted (world : World κ π) : Prop :=
  ∀ posted ∈ world.pending,
    posted.Filled ∧ posted.reader ≤ world.session

/-- A reader posts a message of its session. -/
structure PostedOne
    (world next : World κ π)
    (posted : Posted) : Prop where
  filled : posted.Filled
  reader : posted.reader = world.session
  pending : next.pending = world.pending ++ [posted]
  session : next.session = world.session
  sources : next.sources = world.sources
  arrivals : next.arrivals = world.arrivals

/-- The client is reset, and the queue stays as it is. -/
structure Cleared (world next : World κ π) : Prop where
  pending : next.pending = world.pending
  sources : next.sources = []
  arrivals : next.arrivals = world.arrivals

theorem step_cases
    (wellPosted : WellPosted world)
    (taken : step parse toolkit react world label = some next) :
    (∃ posted, PostedOne world next posted ∧
        ∀ transport, label ≠ .setTransport transport) ∨
      (∃ posted pending first later,
        label = .dispatch ∧ world.pending = posted :: pending ∧
          Dispatched posted { world with pending := pending } next
            first later) ∨
        (label = .reset ∧ Cleared world next ∧
          next.session = world.session) ∨
          ∃ transport, label = .setTransport transport ∧
            Cleared world next ∧ next.session = world.session + 1 := by
  cases label with
  | read content =>
      simp only [step] at taken
      split at taken
      · next reading =>
          cases taken
          exact Or.inl ⟨.data world.session content,
            ⟨reading.2, rfl, rfl, rfl, rfl, rfl⟩, nofun⟩
      · cases taken
  | fail =>
      simp only [step] at taken
      split at taken
      · cases taken
        exact Or.inl ⟨.connectionError world.session,
          ⟨trivial, rfl, rfl, rfl, rfl, rfl⟩, nofun⟩
      · cases taken
  | dispatch =>
      simp only [step] at taken
      split at taken
      · cases taken
      · next posted pending queued =>
          cases taken
          have filled : posted.Filled :=
            (wellPosted posted (by rw [queued]; exact
              List.mem_cons_self)).1
          rcases dispatch_dispatched parse toolkit react filled
              { world with pending := pending } with
            ⟨first, later, dispatched⟩
          exact Or.inr (Or.inl
            ⟨posted, pending, first, later, rfl, queued, dispatched⟩)
  | reset =>
      cases taken
      exact Or.inr (Or.inr (Or.inl ⟨rfl, ⟨rfl, rfl, rfl⟩, rfl⟩))
  | setTransport transport =>
      cases taken
      exact Or.inr (Or.inr (Or.inr
        ⟨transport, rfl, ⟨rfl, rfl, rfl⟩, rfl⟩))

theorem wellPosted_step
    (wellPosted : WellPosted world)
    (taken : step parse toolkit react world label = some next) :
    WellPosted next := by
  intro posted member
  rcases step_cases wellPosted taken with
    ⟨new, one, -⟩ |
    ⟨head, pending, first, later, -, queued, dispatched⟩ |
    ⟨-, cleared, session⟩ |
    ⟨transport, -, cleared, session⟩
  · rw [one.pending] at member
    rw [one.session]
    rcases List.mem_append.mp member with old | last
    · exact wellPosted posted old
    · rw [List.mem_singleton.mp last]
      exact ⟨one.filled, Nat.le_of_eq one.reader⟩
  · rw [dispatched.pending] at member
    rw [dispatched.session]
    apply wellPosted
    rw [queued]
    exact List.mem_cons_of_mem head member
  · rw [cleared.pending] at member
    rw [session]
    exact wellPosted posted member
  · rw [cleared.pending] at member
    rw [session]
    rcases wellPosted posted member with ⟨filled, past⟩
    exact ⟨filled, Nat.le_succ_of_le past⟩

/-- The log of arrivals only grows. -/
theorem arrivals_step
    (wellPosted : WellPosted world)
    (taken : step parse toolkit react world label = some next) :
    world.arrivals <+: next.arrivals := by
  rcases step_cases wellPosted taken with
    ⟨new, one, -⟩ |
    ⟨head, pending, first, later, -, -, dispatched⟩ |
    ⟨-, cleared, -⟩ |
    ⟨transport, -, cleared, -⟩
  · rw [one.arrivals]
  · rw [dispatched.arrivals]
    exact List.prefix_append _ _
  · rw [cleared.arrivals]
  · rw [cleared.arrivals]

/-! ## While `SetTransport` waits for the queue -/

/-- Everything in the queue and in the buffer is of the current session. -/
structure Current (world : World κ π) : Prop where
  pending :
    ∀ posted ∈ world.pending,
      posted.Filled ∧ posted.reader = world.session
  sources : ∀ reader ∈ world.sources, reader = world.session
  isolated : Isolated world

theorem Current.wellPosted (current : Current world) :
    WellPosted world := by
  intro posted member
  rcases current.pending posted member with ⟨filled, own⟩
  exact ⟨filled, Nat.le_of_eq own⟩

theorem Dispatched.own
    {posted : Posted}
    {first : Arrival}
    {later : List Arrival}
    (dispatched : Dispatched posted world next first later)
    (reader : posted.reader = world.session)
    (sources : ∀ reader ∈ world.sources, reader = world.session) :
    ∀ arrival ∈ first :: later, arrival.Own := by
  intro arrival member
  rcases List.mem_cons.mp member with rfl | after
  · rcases dispatched.reaches with rfl | rfl
    · exact reader
    · exact reader
  · rcases dispatched.handles arrival after with ⟨resets, rfl⟩
    intro other among
    rcases List.mem_append.mp among with old | new
    · exact sources other old
    · rw [List.mem_singleton.mp new]
      exact reader

theorem current_step
    (current : Current world)
    (idle : IdleAtSetTransport world label)
    (taken : step parse toolkit react world label = some next) :
    Current next := by
  rcases step_cases current.wellPosted taken with
    ⟨new, one, -⟩ |
    ⟨head, pending, first, later, -, queued, dispatched⟩ |
    ⟨-, cleared, session⟩ |
    ⟨transport, rfl, cleared, session⟩
  · constructor
    case pending =>
      intro posted member
      rw [one.pending] at member
      rw [one.session]
      rcases List.mem_append.mp member with old | last
      · exact current.pending posted old
      · rw [List.mem_singleton.mp last]
        exact ⟨one.filled, one.reader⟩
    case sources =>
      rw [one.sources, one.session]
      exact current.sources
    case isolated =>
      rw [Isolated, one.arrivals]
      exact current.isolated
  · have head_own : head.reader = world.session := by
      refine (current.pending head ?_).2
      rw [queued]
      exact List.mem_cons_self
    constructor
    case pending =>
      intro posted member
      rw [dispatched.pending] at member
      rw [dispatched.session]
      apply current.pending
      rw [queued]
      exact List.mem_cons_of_mem head member
    case sources =>
      intro reader member
      rw [dispatched.session]
      rcases dispatched.sources reader member with old | rfl
      · exact current.sources reader old
      · exact head_own
    case isolated =>
      intro arrival member
      rw [dispatched.arrivals] at member
      rcases List.mem_append.mp member with old | new
      · exact current.isolated arrival old
      · exact dispatched.own head_own current.sources arrival new
  · constructor
    case pending =>
      rw [cleared.pending, session]
      exact current.pending
    case sources =>
      rw [cleared.sources]
      exact fun _ member => absurd member List.not_mem_nil
    case isolated =>
      rw [Isolated, cleared.arrivals]
      exact current.isolated
  · constructor
    case pending =>
      rw [cleared.pending, idle transport rfl]
      exact fun _ member => absurd member List.not_mem_nil
    case sources =>
      rw [cleared.sources]
      exact fun _ member => absurd member List.not_mem_nil
    case isolated =>
      rw [Isolated, cleared.arrivals]
      exact current.isolated

/-! ## When it does not wait -/

/-- A message of an earlier reader is pending or has reached the client. -/
structure Doomed (world : World κ π) : Prop where
  wellPosted : WellPosted world
  doom :
    (∃ posted ∈ world.pending, posted.reader < world.session) ∨
      ¬ Isolated world

theorem not_isolated_extended
    (leaked : ¬ Isolated world)
    (grown : world.arrivals <+: next.arrivals) :
    ¬ Isolated next :=
  fun isolated => leaked fun arrival member =>
    isolated arrival (grown.subset member)

theorem doomed_step
    (doomed : Doomed world)
    (taken : step parse toolkit react world label = some next) :
    Doomed next := by
  refine ⟨wellPosted_step doomed.wellPosted taken, ?_⟩
  rcases doomed.doom with ⟨posted, member, earlier⟩ | leaked
  · rcases step_cases doomed.wellPosted taken with
      ⟨new, one, -⟩ |
      ⟨head, pending, first, later, -, queued, dispatched⟩ |
      ⟨-, cleared, session⟩ |
      ⟨transport, -, cleared, session⟩
    · refine Or.inl ⟨posted, ?_, ?_⟩
      · rw [one.pending]
        exact List.mem_append_left _ member
      · rw [one.session]
        exact earlier
    · rw [queued] at member
      rcases List.mem_cons.mp member with rfl | still
      · refine Or.inr fun isolated => ?_
        have own : first.Own := by
          apply isolated
          rw [dispatched.arrivals]
          exact List.mem_append_right _ List.mem_cons_self
        rcases dispatched.reaches with rfl | rfl
        · exact Nat.ne_of_lt earlier own
        · exact Nat.ne_of_lt earlier own
      · refine Or.inl ⟨posted, ?_, ?_⟩
        · rw [dispatched.pending]
          exact still
        · rw [dispatched.session]
          exact earlier
    · refine Or.inl ⟨posted, ?_, ?_⟩
      · rw [cleared.pending]
        exact member
      · rw [session]
        exact earlier
    · refine Or.inl ⟨posted, ?_, ?_⟩
      · rw [cleared.pending]
        exact member
      · rw [session]
        exact Nat.lt_succ_of_lt earlier
  · exact Or.inr
      (not_isolated_extended leaked
        (arrivals_step doomed.wellPosted taken))

/-- `SetTransport` on a queue that is not empty dooms the session. -/
theorem doomed_of_busy
    (wellPosted : WellPosted world)
    (busy : ¬ IdleAtSetTransport world label)
    (taken : step parse toolkit react world label = some next) :
    Doomed next := by
  refine ⟨wellPosted_step wellPosted taken, ?_⟩
  simp only [IdleAtSetTransport, not_forall] at busy
  rcases busy with ⟨transport, rfl, waiting⟩
  rcases List.exists_mem_of_ne_nil _ waiting with ⟨posted, member⟩
  cases taken
  exact Or.inl
    ⟨posted, member, Nat.lt_succ_of_le (wellPosted posted member).2⟩

/-- The queue gets empty and nothing has leaked: `SetTransport` waited. -/
theorem idle_of_isolated
    {reached : World κ π}
    {labels : List Label}
    (wellPosted : WellPosted world)
    (ran : run (step parse toolkit react) world labels = some reached)
    (drained : reached.pending = [])
    (isolated : Isolated reached) :
    Along (step parse toolkit react) IdleAtSetTransport world labels := by
  induction labels generalizing world with
  | nil => trivial
  | cons label labels ih =>
      rcases run_cons_eq_some ran with ⟨next, taken, ranRest⟩
      have idle : IdleAtSetTransport world label := by
        by_contra busy
        have doomed : Doomed reached :=
          run_invariant_of_step
            (fun _ _ _ doomed taken => doomed_step doomed taken)
            (doomed_of_busy wellPosted busy taken) ranRest
        rcases doomed.doom with ⟨posted, member, -⟩ | leaked
        · rw [drained] at member
          exact absurd member List.not_mem_nil
        · exact leaked isolated
      refine ⟨idle, fun other takenOther => ?_⟩
      rw [taken] at takenOther
      cases takenOther
      exact ih (wellPosted_step wellPosted taken) ranRest

/-! ## Handlers that call `Reset` -/

theorem stopsOnReset_step
    (wellPosted : WellPosted world)
    (stops : StopsOnReset world)
    (taken : step parse toolkit react world label = some next) :
    StopsOnReset next := by
  rcases step_cases wellPosted taken with
    ⟨new, one, -⟩ |
    ⟨head, pending, first, later, -, -, dispatched⟩ |
    ⟨-, cleared, -⟩ |
    ⟨transport, -, cleared, -⟩
  · rw [StopsOnReset, one.arrivals]
    exact stops
  · have unhandled : ¬ first.IsHandled ∧ ¬ first.Resets := by
      rcases dispatched.reaches with rfl | rfl
      · exact ⟨id, id⟩
      · exact ⟨id, id⟩
    rw [StopsOnReset, dispatched.arrivals]
    refine List.IsChain.append stops ?_ ?_
    · refine List.isChain_cons.mpr ⟨?_, dispatched.stops⟩
      intro arrival _ resets
      exact absurd resets unhandled.2
    · intro earlier _ arrival ahead _
      rw [List.head?_cons, Option.mem_some_iff] at ahead
      rw [← ahead]
      exact unhandled.1
  · rw [StopsOnReset, cleared.arrivals]
    exact stops
  · rw [StopsOnReset, cleared.arrivals]
    exact stops

end Steps

/-! ## Every interleaving -/

theorem current_start (plugin : π) : Current (World.start κ plugin) where
  pending := fun _ member => absurd member List.not_mem_nil
  sources := fun _ member => absurd member List.not_mem_nil
  isolated := fun _ member => absurd member List.not_mem_nil

/--
Nothing of an earlier session reaches a later one in a run that calls
`SetTransport` only while the queue is empty; a run that ends with an empty
queue and is isolated has called it only then.  In every run a handler that
calls `Reset` ends the loop it is called from.
-/
theorem sessions_isolated
    (parse : WxString → Option Json)
    (toolkit : Toolkit)
    (react : Reaction κ π)
    (plugin : π)
    {labels : List Label}
    {reached : World κ π}
    (ran :
      run (step parse toolkit react) (World.start κ plugin) labels =
        some reached) :
    (Along (step parse toolkit react) IdleAtSetTransport
        (World.start κ plugin) labels →
      Always (step parse toolkit react) Isolated
        (World.start κ plugin) labels) ∧
      (reached.pending = [] →
        Always (step parse toolkit react) Isolated
          (World.start κ plugin) labels →
        Along (step parse toolkit react) IdleAtSetTransport
          (World.start κ plugin) labels) ∧
        Always (step parse toolkit react) StopsOnReset
          (World.start κ plugin) labels := by
  have start : Current (World.start κ plugin) := current_start plugin
  refine ⟨?_, ?_, ?_⟩
  · intro idle
    exact always_of_along
      (fun _ _ _ current idle taken => current_step current idle taken)
      (fun _ current => current.isolated) start idle
  · intro drained always
    have isolated : Isolated reached :=
      always labels [] reached (List.append_nil labels) ran
    exact idle_of_isolated start.wellPosted ran drained isolated
  · rintro taken rest world - ranWorld
    have preserved :
        ∀ (world : World κ π) label next,
          WellPosted world ∧ StopsOnReset world →
            step parse toolkit react world label = some next →
              WellPosted next ∧ StopsOnReset next :=
      fun _ _ _ kept taken =>
        ⟨wellPosted_step kept.1 taken,
          stopsOnReset_step kept.1 kept.2 taken⟩
    have stops : StopsOnReset (World.start κ plugin) := List.IsChain.nil
    exact (run_invariant_of_step preserved ⟨start.wellPosted, stops⟩
      ranWorld).2

/-- A plugin that does nothing. -/
def idlePlugin : Reaction Unit Unit :=
  fun _ plugin => (plugin, false)

/-- The queue is emptied before the second transport is set. -/
def reconnectIdle : List Label :=
  [.setTransport 1, .read ['x'], .dispatch, .setTransport 2, .read ['y'],
    .dispatch]

theorem sessions_isolated_reconnectIdle :
    ∃ reached,
      run (step (fun _ => none) plainToolkit idlePlugin)
          (World.start Unit ()) reconnectIdle = some reached ∧
        (Along (step (fun _ => none) plainToolkit idlePlugin)
            IdleAtSetTransport (World.start Unit ()) reconnectIdle →
          Always (step (fun _ => none) plainToolkit idlePlugin) Isolated
            (World.start Unit ()) reconnectIdle) ∧
          (reached.pending = [] →
            Always (step (fun _ => none) plainToolkit idlePlugin) Isolated
              (World.start Unit ()) reconnectIdle →
            Along (step (fun _ => none) plainToolkit idlePlugin)
              IdleAtSetTransport (World.start Unit ()) reconnectIdle) ∧
            Always (step (fun _ => none) plainToolkit idlePlugin)
              StopsOnReset (World.start Unit ()) reconnectIdle :=
  ⟨_, rfl,
    sessions_isolated (fun _ => none) plainToolkit idlePlugin () rfl⟩

/-- A reader's last bytes and its error are pending when it is replaced. -/
def reconnectBusy : List Label :=
  [.setTransport 1, .read ['x'], .fail, .setTransport 2, .dispatch,
    .dispatch]

/--
The bytes of the first reader go into the buffer of the second session, and
its error tears the second session down.
-/
theorem sessions_leak_reconnectBusy :
    ∃ reached,
      run (step (fun _ => none) plainToolkit idlePlugin)
          (World.start Unit ()) reconnectBusy = some reached ∧
        reached.arrivals = [.appended 1 2, .torn 1 2] ∧
          reached.client.transport = none ∧
            ¬ Always (step (fun _ => none) plainToolkit idlePlugin) Isolated
              (World.start Unit ()) reconnectBusy := by
  refine ⟨_, rfl, rfl, rfl, ?_⟩
  intro always
  have isolated :=
    always reconnectBusy [] _ (List.append_nil _) rfl
  have own : (1 : Nat) = 2 := isolated _ List.mem_cons_self
  cases own

end DebuggerDap.DapClient.ReaderThread
