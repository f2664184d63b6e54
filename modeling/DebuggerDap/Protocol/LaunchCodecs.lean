import DebuggerDap.Protocol.CodecRoundTrip

/-!
# The codec of the arguments of a launch

The environment of the debuggee is a map.  In the format of a list it is
written as one text `KEY=VALUE` for each variable, in the order in which the
map happens to be iterated, and read by cutting each text at its first equals
sign and inserting what is found into a map.

A map is given by its entries in the order of an iteration.  Two maps are the
same when the entries of one are those of the other in some order.
-/

namespace DebuggerDap.Protocol.Codecs

open DebuggerDap.Text.Strings
open DebuggerDap.Protocol.JsonTree
open DebuggerDap.Protocol.Messages (EnvFormat)

/-! ## The environment -/

/-- `std::unordered_map`: a key has at most one entry. -/
structure VarMap where
  entries : List (WxString × WxString)
  distinct : (entries.map Prod.fst).Nodup

namespace VarMap

def empty : VarMap where
  entries := []
  distinct := List.nodup_nil

/-- `insert` keeps an entry that is there. -/
def insert (key value : WxString) (vars : VarMap) : VarMap :=
  if there : ∃ entry ∈ vars.entries, entry.1 = key then vars
  else
    { entries := (key, value) :: vars.entries
      distinct :=
        List.nodup_cons.mpr
          ⟨fun member => there (List.mem_map.mp member), vars.distinct⟩ }

/-- The maps have the same entries. -/
def Same (left right : VarMap) : Prop :=
  left.entries.Perm right.entries

theorem entries_insert_of_new
    {key : WxString}
    {vars : VarMap}
    (new : key ∉ vars.entries.map Prod.fst)
    (value : WxString) :
    (vars.insert key value).entries = (key, value) :: vars.entries := by
  rw [insert, dif_neg fun there => new (List.mem_map.mpr there)]

end VarMap

structure Environment where
  format : EnvFormat
  vars : VarMap

namespace Environment

def fresh : Environment where
  format := .dictionary
  vars := VarMap.empty

def to_ (env : Environment) : Option Json :=
  match env.format with
  | .dictionary =>
      some (.object
        (env.vars.entries.map fun vt => (cString vt.1, createString vt.2)))
  | .list =>
      some (.array
        (env.vars.entries.map fun vt =>
          createString (vt.1 ++ '=' :: vt.2)))
  | .none => none

/-- The loop body of `From`; a text without an equals sign is passed over. -/
def insertEntry (vars : VarMap) (json : Json) : VarMap :=
  let str := Json.getString (some json) []
  if '=' ∈ str then vars.insert (beforeFirst str '=') (afterFirst str '=')
  else vars

/-- Only the format of a list is understood. -/
def from_ (json : Option Json) (env : Environment) : Environment :=
  { env with
    vars :=
      match json with
      | some (.array items) => items.foldl insertEntry VarMap.empty
      | _ => VarMap.empty }

end Environment

/-! ## The arguments -/

structure LaunchRequestArguments where
  noDebug : Bool
  program : WxString
  args : List WxString
  cwd : WxString
  env : Environment

namespace LaunchRequestArguments

def fresh : LaunchRequestArguments where
  noDebug := false
  program := []
  args := []
  cwd := []
  env := Environment.fresh

def to_ (arguments : LaunchRequestArguments) : Json :=
  let json :=
    createObject
      |> addBool "noDebug" arguments.noDebug
      |> addString "program" arguments.program
      |> addStringArray "args" arguments.args
      |> addString "cwd" arguments.cwd
  match arguments.env.to_ with
  | some env => add "env" env json
  | none => json

def from_ (json : Option Json) (arguments : LaunchRequestArguments) :
    LaunchRequestArguments :=
  { arguments with
    noDebug := Json.getBool (property json "noDebug") false
    program := Json.getString (property json "program") []
    args := getStringArray (property json "args")
    cwd := Json.getString (property json "cwd") []
    env := arguments.env.from_ (property json "env") }

end LaunchRequestArguments

/-! ## Cutting what was joined -/

section Cutting

variable {key value : WxString}

/-- An entry is read as it was written, whatever its value is. -/
theorem insertEntry_join
    (noEquals : '=' ∉ key)
    (noNulKey : NoNul key)
    (noNulValue : NoNul value)
    (vars : VarMap) :
    Environment.insertEntry vars (createString (key ++ '=' :: value)) =
      vars.insert key value := by
  have noNul : NoNul (key ++ '=' :: value) := by
    simp only [NoNul, List.mem_append, List.mem_cons, not_or]
    exact ⟨noNulKey, by decide, noNulValue⟩
  have equals : '=' ∈ key ++ '=' :: value :=
    List.mem_append_right key List.mem_cons_self
  rw [Environment.insertEntry, getString_createString noNul, if_pos equals,
    (cut_append noEquals value).1, (cut_append noEquals value).2]

end Cutting

/-- Keys without an equals sign, and no NUL in a key or a value. -/
def Environment.Joinable (env : Environment) : Prop :=
  ∀ vt ∈ env.vars.entries, '=' ∉ vt.1 ∧ NoNul vt.1 ∧ NoNul vt.2

/--
The entries of a list with distinct keys are put into a map that has none of
these keys, each before those put there earlier.
-/
theorem entries_foldl_insertEntry
    {entries : List (WxString × WxString)}
    {vars : VarMap}
    (joinable : ∀ vt ∈ entries, '=' ∉ vt.1 ∧ NoNul vt.1 ∧ NoNul vt.2)
    (distinct : (entries.map Prod.fst).Nodup)
    (new : ∀ vt ∈ entries, vt.1 ∉ vars.entries.map Prod.fst) :
    ((entries.map fun vt => createString (vt.1 ++ '=' :: vt.2)).foldl
        Environment.insertEntry vars).entries =
      entries.reverse ++ vars.entries := by
  induction entries generalizing vars with
  | nil => rfl
  | cons vt entries inductionHypothesis =>
      rcases vt with ⟨key, value⟩
      rcases joinable _ List.mem_cons_self with ⟨noEquals, keyFits, valueFits⟩
      rcases List.nodup_cons.mp distinct with ⟨different, distinctRest⟩
      have inserted :=
        VarMap.entries_insert_of_new (new _ List.mem_cons_self) value
      rw [List.map_cons, List.foldl_cons,
        insertEntry_join noEquals keyFits valueFits,
        inductionHypothesis _ distinctRest _, inserted, List.reverse_cons,
        List.append_assoc]
      · rfl
      · intro later laterIn
        exact joinable later (List.mem_cons_of_mem _ laterIn)
      · intro later laterIn
        rw [inserted, List.map_cons, List.mem_cons, not_or]
        refine ⟨?_, new later (List.mem_cons_of_mem _ laterIn)⟩
        intro same
        exact different (List.mem_map.mpr ⟨later, laterIn, same⟩)

theorem Environment.from_to
    {env : Environment}
    (list : env.format = .list)
    (joinable : env.Joinable)
    (used : Environment) :
    (used.from_ env.to_).vars.Same env.vars := by
  have entries :
      (used.from_ env.to_).vars.entries = env.vars.entries.reverse := by
    have read :=
      @entries_foldl_insertEntry env.vars.entries VarMap.empty joinable
        env.vars.distinct fun _ _ => List.not_mem_nil
    rw [Environment.to_, list]
    exact read.trans (List.append_nil _)
  rw [VarMap.Same, entries]
  exact List.reverse_perm env.vars.entries

/-- No text of the arguments has a NUL, and no key an equals sign. -/
structure LaunchRequestArguments.Fits
    (arguments : LaunchRequestArguments) : Prop where
  program : NoNul arguments.program
  args : ∀ arg ∈ arguments.args, NoNul arg
  cwd : NoNul arguments.cwd
  env : arguments.env.Joinable

/-- The arguments and the environment come back, in whatever order. -/
theorem LaunchRequestArguments.from_to_list
    {arguments : LaunchRequestArguments}
    (list : arguments.env.format = .list)
    (fits : arguments.Fits)
    (used : LaunchRequestArguments) :
    (used.from_ (some arguments.to_)).noDebug = arguments.noDebug ∧
      (used.from_ (some arguments.to_)).program = arguments.program ∧
      (used.from_ (some arguments.to_)).args = arguments.args ∧
      (used.from_ (some arguments.to_)).cwd = arguments.cwd ∧
      (used.from_ (some arguments.to_)).env.vars.Same arguments.env.vars := by
  rcases arguments with ⟨noDebug, program, args, cwd, env⟩
  have written : ∃ tree, env.to_ = some tree := by
    rw [Environment.to_, show env.format = .list from list]
    exact ⟨_, rfl⟩
  rcases written with ⟨tree, written⟩
  have environment := Environment.from_to list fits.env used.env
  rw [show env.to_ = some tree from written] at environment
  have argsBack := getStringArray_map fits.args
  have programBack := getString_createString fits.program
  have cwdBack := getString_createString fits.cwd
  simp only [from_, to_, written, addBool, addString, addStringArray,
    isObject_add, isObject_createObject, property_add, property_createObject]
  refine ⟨?_, ?_, ?_, ?_, ?_⟩
  · simp
  · simpa using programBack
  · simpa using argsBack
  · simpa using cwdBack
  · simpa using environment

/-- A variable with an equals sign in its value, and one without a value. -/
def pathAndEmpty : LaunchRequestArguments where
  noDebug := true
  program := "/bin/app".toList
  args := ["-x".toList, []]
  cwd := "/tmp".toList
  env :=
    { format := .list
      vars :=
        { entries := [("OPTS".toList, "a=b".toList), ("EMPTY".toList, [])]
          distinct := by decide } }

theorem from_to_list_pathAndEmpty :
    ((LaunchRequestArguments.fresh.from_
        (some pathAndEmpty.to_)).env.vars).Same pathAndEmpty.env.vars :=
  (LaunchRequestArguments.from_to_list rfl
    { program := by decide
      args := by decide
      cwd := by decide
      env := by
        unfold Environment.Joinable
        decide }
    LaunchRequestArguments.fresh).2.2.2.2

end DebuggerDap.Protocol.Codecs
