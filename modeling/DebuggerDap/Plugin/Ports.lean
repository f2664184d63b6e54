import DebuggerDap.Text.Numbers

/-!
# An available port

A port is taken for available if its number is in no line of what the system
lists.  The text of the port is the flag of the search as well: a line that
has it clears it.  A listing without any line ends the search before it
begins, although no port is in use then.
-/

namespace DebuggerDap.Plugin.Ports

open DebuggerDap.Text.Strings
open DebuggerDap.Text.Numbers

/-- `%d`. -/
def portText (port : Int) : WxString :=
  (toString port).toList

/-- The loop over the lines, which clears the text of a port it finds. -/
def searchLines (portStr : WxString) : List WxString → WxString
  | [] => portStr
  | result :: output =>
      if (find portStr result).isSome then []
      else searchLines portStr output

/-- The loop over a number of ports; it leaves the text of the last one. -/
def searchPorts (output : List WxString) :
    Nat → Int → WxString → WxString
  | 0, _, portStr => portStr
  | count + 1, port, _ =>
      let portStr := searchLines (portText port) output
      if portStr ≠ [] then portStr
      else searchPorts output count (port + 1) portStr

/-- `Find_available_port`, given what the command has written. -/
def findAvailablePort
    (output : List WxString)
    (startPort endPort : Int) : Int :=
  if output = [] then -1
  else
    let portStr :=
      searchPorts output (endPort - startPort).toNat startPort []
    if portStr ≠ [] then atol portStr else -1

/-! ## Available ports -/

/-- The number of the port is somewhere in a line. -/
def Listed (output : List WxString) (port : Int) : Prop :=
  ∃ line ∈ output, portText port <:+: line

/-- The first port of a range that is not listed. -/
structure FirstAvailable
    (output : List WxString)
    (startPort endPort port : Int) : Prop where
  lower : startPort ≤ port
  upper : port < endPort
  available : ¬Listed output port
  listedBefore :
    ∀ earlier, startPort ≤ earlier → earlier < port → Listed output earlier

/-- Every port of the range is listed. -/
def AllListed
    (output : List WxString)
    (startPort endPort : Int) : Prop :=
  ∀ port, startPort ≤ port → port < endPort → Listed output port

/-- The result is the first available port, and `-1` if there is none. -/
structure FindsPort
    (output : List WxString)
    (startPort endPort result : Int) : Prop where
  first :
    ∀ port, FirstAvailable output startPort endPort port → result = port
  none_iff : result = -1 ↔ AllListed output startPort endPort

section Ranges

variable {output : List WxString} {startPort endPort port : Int}

theorem portText_ne_nil (port : Int) : portText port ≠ [] := by
  cases port with
  | ofNat number =>
      rw [portText, toString_ofNat]
      exact Nat.toDigits_ne_nil
  | negSucc number =>
      rw [portText, toString_negSucc]
      exact List.cons_ne_nil _ _

theorem searchLines_eq (port : Int) (output : List WxString) :
    searchLines (portText port) output = portText port ∧
        ¬Listed output port ∨
      searchLines (portText port) output = [] ∧ Listed output port := by
  induction output with
  | nil => exact .inl ⟨rfl, fun listed => by simp [Listed] at listed⟩
  | cons line output inductionHypothesis =>
      have listedCons :
          Listed (line :: output) port ↔
            portText port <:+: line ∨ Listed output port := by
        simp [Listed]
      rw [searchLines, listedCons]
      split
      · next found =>
          exact .inr ⟨rfl, .inl ((find_isSome_iff _ _).mp found)⟩
      · next missing =>
          rw [find_isSome_iff] at missing
          rw [or_iff_right missing]
          exact inductionHypothesis

/-- A port that is listed is passed over. -/
theorem FirstAvailable.step
    (listed : Listed output startPort)
    (first : FirstAvailable output (startPort + 1) endPort port) :
    FirstAvailable output startPort endPort port where
  lower := by
    have lower := first.lower
    omega
  upper := first.upper
  available := first.available
  listedBefore := by
    intro earlier lower upper
    rcases Int.lt_or_eq_of_le lower with later | rfl
    · exact first.listedBefore earlier later upper
    · exact listed

/-- The loop finds the first available port, or leaves the text empty. -/
theorem searchPorts_eq (output : List WxString) (count : Nat) (start : Int) :
    (∃ port, FirstAvailable output start (start + count) port ∧
      searchPorts output count start [] = portText port) ∨
      AllListed output start (start + count) ∧
        searchPorts output count start [] = [] := by
  induction count generalizing start with
  | zero =>
      refine .inr ⟨fun port lower upper => ?_, rfl⟩
      simp at upper
      omega
  | succ count inductionHypothesis =>
      have shift : start + ((count + 1 : Nat) : Int) = start + 1 + count := by
        omega
      rw [searchPorts, shift]
      rcases searchLines_eq start output with
        ⟨kept, available⟩ | ⟨cleared, listed⟩
      · refine .inl ⟨start, ?_, ?_⟩
        · exact
            { lower := Int.le_refl start
              upper := by omega
              available := available
              listedBefore := fun earlier lower upper => by omega }
        · rw [kept, if_pos (portText_ne_nil start)]
      · rw [cleared, if_neg (not_not.mpr rfl)]
        rcases inductionHypothesis (start + 1) with
          ⟨port, first, found⟩ | ⟨allListed, nothing⟩
        · exact .inl ⟨port, first.step listed, found⟩
        · refine .inr ⟨fun port lower upper => ?_, nothing⟩
          rcases Int.lt_or_eq_of_le lower with later | rfl
          · exact allListed port later upper
          · exact listed

theorem FirstAvailable.unique
    {other : Int}
    (first : FirstAvailable output startPort endPort port)
    (second : FirstAvailable output startPort endPort other) :
    port = other := by
  rcases Int.lt_trichotomy port other with earlier | same | later
  · exact absurd (second.listedBefore port first.lower earlier)
      first.available
  · exact same
  · exact absurd (first.listedBefore other second.lower later)
      second.available

theorem FirstAvailable.not_allListed
    (first : FirstAvailable output startPort endPort port) :
    ¬AllListed output startPort endPort := fun allListed =>
  first.available (allListed port first.lower first.upper)

/-- With any output at all the search does what it is for. -/
theorem findAvailablePort_eq
    (someOutput : output ≠ [])
    (someRange : startPort < endPort) :
    FirstAvailable output startPort endPort
        (findAvailablePort output startPort endPort) ∨
      AllListed output startPort endPort ∧
        findAvailablePort output startPort endPort = -1 := by
  have endEq : startPort + ((endPort - startPort).toNat : Int) = endPort := by
    omega
  have searched :=
    searchPorts_eq output (endPort - startPort).toNat startPort
  rw [endEq] at searched
  rw [findAvailablePort, if_neg someOutput]
  rcases searched with ⟨port, first, found⟩ | ⟨allListed, nothing⟩
  · have read : atol (portText port) = port := (unsigned_toString port).2
    rw [found, if_pos (portText_ne_nil port), read]
    exact .inl first
  · rw [nothing, if_neg (not_not.mpr rfl)]
    exact .inr ⟨allListed, rfl⟩

/--
The search fails where it has no output, and where `-1` is itself the number
that is found.
-/
theorem findsPort_iff (someRange : startPort < endPort) :
    FindsPort output startPort endPort
        (findAvailablePort output startPort endPort) ↔
      output ≠ [] ∧ ¬FirstAvailable output startPort endPort (-1) := by
  by_cases noOutput : output = []
  · subst noOutput
    refine iff_of_false (fun findsPort => ?_) fun both => both.1 rfl
    have allListed := findsPort.none_iff.mp (if_pos rfl)
    have listed := allListed startPort (Int.le_refl _) someRange
    simp [Listed] at listed
  · rw [and_iff_right noOutput]
    rcases findAvailablePort_eq noOutput someRange with
      first | ⟨allListed, result⟩
    · constructor
      · intro findsPort clash
        have result := first.unique clash
        exact first.not_allListed (findsPort.none_iff.mp result)
      · intro noClash
        exact
          { first := fun port other => first.unique other
            none_iff :=
              iff_of_false (fun result => noClash (result ▸ first))
                first.not_allListed }
    · refine iff_of_true ?_ fun clash => clash.not_allListed allListed
      exact
        { first := fun port first => absurd allListed first.not_allListed
          none_iff := iff_of_true result allListed }

end Ranges

/-- One line that has the first port of the range. -/
theorem findsPort_second :
    FindsPort ["LISTEN 0 128 127.0.0.1:49152".toList] 49152 49154
      (findAvailablePort ["LISTEN 0 128 127.0.0.1:49152".toList]
        49152 49154) :=
  (findsPort_iff (by decide)).mpr
    ⟨by decide, fun clash => absurd clash.lower (by decide)⟩

/-- No line at all: every port is available and none is found. -/
theorem findsPort_noOutput :
    ¬FindsPort [] 49152 49999 (findAvailablePort [] 49152 49999) := by
  intro findsPort
  have allListed := findsPort.none_iff.mp (if_pos rfl)
  have listed := allListed 49152 (by decide) (by decide)
  simp [Listed] at listed

end DebuggerDap.Plugin.Ports
