import DebuggerDap.Protocol.LengthArithmetic
import DebuggerDap.Text.Numbers

/-!
# Connection strings

A connection string is a protocol, `://`, and a host with a port or the path
of a socket.  What follows the first colon loses two characters, whichever
they are, and `substr` throws if there are no two.  The port is what
`std::atol` makes of its text.
-/

namespace DebuggerDap.Protocol.ConnectionString

open DebuggerDap.Text.Strings
open DebuggerDap.Text.Numbers
open DebuggerDap.Library.MachineInt
open DebuggerDap.Protocol.LengthArithmetic

/-! ## Parsing -/

inductive EProtocol where
  | kTcp
  | kUnixLocalSocket
  deriving DecidableEq, Repr

/-- The members; the protocol may never be set. -/
structure ConnectionString where
  protocol : Option EProtocol
  host : WxString
  port : Int
  path : WxString
  isOK : Bool
  deriving DecidableEq, Repr

/-- What the constructor sets before it parses. -/
def ConnectionString.initial : ConnectionString where
  protocol := none
  host := []
  port := -1
  path := []
  isOK := false

/-- `wxString::substr`, which throws if it starts past the end. -/
def substr (str : WxString) (start : Nat) : Option WxString :=
  if str.length < start then none else some (str.drop start)

/-- The protocol, if it is one that is served. -/
def protocolOf (windows : Bool) (connectionString : WxString) :
    Option EProtocol :=
  let protocol := beforeFirst connectionString ':'
  if protocol = "tcp".toList then some .kTcp
  else if protocol = "unix".toList then
    if windows then none else some .kUnixLocalSocket
  else none

def parsePort (width : LongWidth) (port : WxString) : Int :=
  if port = [] then -1 else width.range.clamp (atol port)

def parseAddress
    (width : LongWidth)
    (protocol : EProtocol)
    (address : WxString) : ConnectionString :=
  match protocol with
  | .kUnixLocalSocket =>
      { ConnectionString.initial with
        protocol := some .kUnixLocalSocket
        path := address
        isOK := address ≠ [] }
  | .kTcp =>
      let host := beforeFirst address ':'
      let port := parsePort width (afterFirst address ':')
      { ConnectionString.initial with
        protocol := some .kTcp
        host := host
        port := port
        isOK := host ≠ [] ∧ port ≠ -1 }

/-- `DoParse`; there is no result if it throws. -/
def doParse
    (windows : Bool)
    (width : LongWidth)
    (connectionString : WxString) : Option ConnectionString :=
  match protocolOf windows connectionString with
  | none => some .initial
  | some protocol =>
      (substr (afterFirst connectionString ':') 2).map
        (parseAddress width protocol)

/-! ## The grammar -/

inductive Parts where
  | tcp (host : WxString) (port : Nat)
  | unix (path : WxString)

/-- The connection strings there are, with what they stand for. -/
inductive Grammar (windows : Bool) : WxString → Parts → Prop where
  | tcp
      (host digits : WxString)
      (hostGiven : host ≠ [])
      (noColon : ':' ∉ host)
      (digitsGiven : digits ≠ [])
      (decimal : ∀ ch ∈ digits, ch.isDigit = true) :
      Grammar windows ("tcp://".toList ++ (host ++ ':' :: digits))
        (.tcp host (leadingNumber digits))
  | unix
      (notWindows : windows = false)
      (path : WxString)
      (pathGiven : path ≠ []) :
      Grammar windows ("unix://".toList ++ path) (.unix path)

/-- The members are the parts. -/
def Holds (result : ConnectionString) : Parts → Prop
  | .tcp host port =>
      result.protocol = some .kTcp ∧ result.host = host ∧ result.port = port
  | .unix path =>
      result.protocol = some .kUnixLocalSocket ∧ result.path = path

/-- A string is parsed, and accepted with its parts if the grammar has it. -/
def ParsedExactly
    (windows : Bool)
    (width : LongWidth)
    (connectionString : WxString) : Prop :=
  ∃ result,
    doParse windows width connectionString = some result ∧
    (result.isOK = true ↔ ∃ parts, Grammar windows connectionString parts) ∧
    ∀ parts, Grammar windows connectionString parts → Holds result parts

/-- What no part can be taken from, behind the two characters. -/
def Unusable : EProtocol → WxString → Prop
  | .kUnixLocalSocket, path => path = []
  | .kTcp, address =>
      beforeFirst address ':' = [] ∨ afterFirst address ':' = [] ∨
        atol (afterFirst address ':') = -1

/-- The two characters are slashes, and a port is a number that fits. -/
def Proper (width : LongWidth) : EProtocol → WxString → Prop
  | .kUnixLocalSocket, address => ['/', '/'] <+: address
  | .kTcp, address =>
      ['/', '/'] <+: address ∧
        (∀ ch ∈ afterFirst (address.drop 2) ':', ch.isDigit = true) ∧
        leadingNumber (afterFirst (address.drop 2) ':') ≤ width.range.max

/-- A part is taken from the address, by its protocol. -/
def AddressOf : EProtocol → WxString → Parts → Prop
  | .kTcp, address, .tcp host port =>
      beforeFirst address ':' = host ∧ host ≠ [] ∧
        afterFirst address ':' ≠ [] ∧
        (∀ ch ∈ afterFirst address ':', ch.isDigit = true) ∧
        port = leadingNumber (afterFirst address ':')
  | .kUnixLocalSocket, address, .unix path => address = path ∧ path ≠ []
  | _, _, _ => False

section Strings

variable {windows : Bool} {connectionString : WxString} {parts : Parts}

/-- A protocol that is served stands before the first colon. -/
theorem protocolOf_eq_some_iff (protocol : EProtocol) :
    protocolOf windows connectionString = some protocol ↔
      match protocol with
      | .kTcp => beforeFirst connectionString ':' = "tcp".toList
      | .kUnixLocalSocket =>
          beforeFirst connectionString ':' = "unix".toList ∧
            windows = false := by
  rw [protocolOf]
  by_cases isTcp : beforeFirst connectionString ':' = "tcp".toList
  · rw [if_pos isTcp]
    cases protocol with
    | kTcp => exact iff_of_true rfl isTcp
    | kUnixLocalSocket =>
        refine iff_of_false nofun fun isUnix => ?_
        exact absurd (isTcp.symm.trans isUnix.1) (by decide)
  · rw [if_neg isTcp]
    by_cases isUnix : beforeFirst connectionString ':' = "unix".toList
    · rw [if_pos isUnix]
      cases protocol with
      | kTcp =>
          refine iff_of_false ?_ isTcp
          cases windows <;> nofun
      | kUnixLocalSocket =>
          rw [and_iff_right isUnix]
          cases windows with
          | false => exact iff_of_true rfl rfl
          | true => exact iff_of_false nofun nofun
    · rw [if_neg isUnix]
      cases protocol with
      | kTcp => exact iff_of_false nofun isTcp
      | kUnixLocalSocket => exact iff_of_false nofun fun both => isUnix both.1

/-- A string of the grammar, by its protocol and what follows two slashes. -/
theorem shape_of_grammar (grammar : Grammar windows connectionString parts) :
    ∃ protocol address,
      protocolOf windows connectionString = some protocol ∧
      afterFirst connectionString ':' = '/' :: '/' :: address ∧
      AddressOf protocol address parts := by
  cases grammar with
  | tcp host digits hostGiven noColon digitsGiven decimal =>
      have noEarlier : ':' ∉ "tcp".toList := by decide
      have cut := cut_append noEarlier ('/' :: '/' :: (host ++ ':' :: digits))
      rcases cut_append noColon digits with ⟨hostEq, digitsEq⟩
      refine ⟨.kTcp, host ++ ':' :: digits,
        (protocolOf_eq_some_iff .kTcp).mpr cut.1, cut.2, hostEq,
        hostGiven, ?_⟩
      rw [digitsEq]
      exact ⟨digitsGiven, decimal, rfl⟩
  | unix notWindows path pathGiven =>
      have noEarlier : ':' ∉ "unix".toList := by decide
      have cut := cut_append noEarlier ('/' :: '/' :: path)
      exact ⟨.kUnixLocalSocket, path,
        (protocolOf_eq_some_iff .kUnixLocalSocket).mpr ⟨cut.1, notWindows⟩,
        cut.2, rfl, pathGiven⟩

theorem grammar_of_shape
    {protocol : EProtocol}
    {address : WxString}
    (served : protocolOf windows connectionString = some protocol)
    (behind :
      afterFirst connectionString ':' = '/' :: '/' :: address)
    (taken : AddressOf protocol address parts) :
    Grammar windows connectionString parts := by
  have joined := @join_of_cut ':' connectionString (by simp [behind])
  rw [behind] at joined
  have before := (protocolOf_eq_some_iff protocol).mp served
  match protocol, parts, taken with
  | .kTcp, .tcp _ _, ⟨rfl, given, digitsGiven, decimal, rfl⟩ =>
      have address_eq := join_of_cut digitsGiven
      have text :
          "tcp://".toList ++
              (beforeFirst address ':' ++ ':' :: afterFirst address ':') =
            connectionString := by
        rw [address_eq, ← joined, before]
        rfl
      exact text ▸ .tcp _ _ given (not_mem_beforeFirst ':' address)
        digitsGiven decimal
  | .kUnixLocalSocket, .unix _, ⟨rfl, given⟩ =>
      have text : "unix://".toList ++ address = connectionString := by
        rw [← joined, before.1]
        rfl
      exact text ▸ .unix before.2 _ given

end Strings

/-! ## What is parsed exactly -/

section Exactness

variable (width : LongWidth) (protocol : EProtocol) (address : WxString)
variable {parts : Parts}

theorem parsePort_eq_neg_one_iff (port : WxString) :
    parsePort width port = -1 ↔ port = [] ∨ atol port = -1 := by
  rw [parsePort]
  by_cases empty : port = []
  · rw [if_pos empty]
    exact iff_of_true rfl (.inl empty)
  · rw [if_neg empty, or_iff_right empty]
    exact SignedRange.clamp_eq_neg_one_iff _

theorem isOK_parseAddress_iff :
    (parseAddress width protocol address).isOK = true ↔
      ¬Unusable protocol address := by
  cases protocol with
  | kTcp =>
      have port := parsePort_eq_neg_one_iff width (afterFirst address ':')
      show decide (_ ∧ _) = true ↔ _
      rw [decide_eq_true_iff, Unusable, not_or, ← port]
  | kUnixLocalSocket => exact decide_eq_true_iff

/-- Digits are read as a number that is not negative. -/
theorem atol_of_decimal
    {digits : WxString}
    (given : digits ≠ [])
    (decimal : ∀ ch ∈ digits, ch.isDigit = true) :
    atol digits = leadingNumber digits :=
  (of_digits given decimal).2.2

theorem usable_of_addressOf (taken : AddressOf protocol address parts) :
    ¬Unusable protocol address := by
  match protocol, parts, taken with
  | .kTcp, .tcp _ _, ⟨rfl, given, digitsGiven, decimal, rfl⟩ =>
      rintro (noHost | noPort | clash)
      · exact given noHost
      · exact digitsGiven noPort
      · rw [atol_of_decimal digitsGiven decimal] at clash
        omega
  | .kUnixLocalSocket, .unix _, ⟨rfl, given⟩ => exact given

/-- The parts are the members if the number of the port fits. -/
theorem holds_parseAddress_iff (taken : AddressOf protocol address parts) :
    Holds (parseAddress width protocol address) parts ↔
      Proper width protocol ('/' :: '/' :: address) := by
  have slashes : ['/', '/'] <+: '/' :: '/' :: address :=
    List.prefix_append ['/', '/'] address
  match protocol, parts, taken with
  | .kTcp, .tcp _ _, ⟨rfl, _, digitsGiven, decimal, rfl⟩ =>
      have read := atol_of_decimal digitsGiven decimal
      have port :
          parsePort width (afterFirst address ':') =
            width.range.clamp (leadingNumber (afterFirst address ':')) := by
        rw [parsePort, if_neg digitsGiven, read]
      have kept :
          parsePort width (afterFirst address ':') =
              (leadingNumber (afterFirst address ':') : Int) ↔
            leadingNumber (afterFirst address ':') ≤ width.range.max := by
        rw [port]
        exact SignedRange.clamp_eq_self_iff (Int.natCast_nonneg _)
      constructor
      · rintro ⟨-, -, same⟩
        exact ⟨slashes, decimal, kept.mp same⟩
      · rintro ⟨-, -, fits⟩
        exact ⟨rfl, rfl, kept.mpr fits⟩
  | .kUnixLocalSocket, .unix _, ⟨rfl, _⟩ =>
      exact iff_of_true ⟨rfl, rfl⟩ slashes

/-- What is usable and proper has parts. -/
theorem addressOf_of_proper
    (usable : ¬Unusable protocol address)
    (proper : Proper width protocol ('/' :: '/' :: address)) :
    ∃ parts, AddressOf protocol address parts := by
  match protocol with
  | .kTcp =>
      rw [Unusable, not_or, not_or] at usable
      exact ⟨.tcp _ _, rfl, usable.1, usable.2.1, proper.2.1, rfl⟩
  | .kUnixLocalSocket => exact ⟨.unix address, rfl, usable⟩

theorem parsedExactly_of_result
    {windows : Bool}
    {connectionString : WxString}
    {result : ConnectionString}
    (parsed : doParse windows width connectionString = some result) :
    ParsedExactly windows width connectionString ↔
      (result.isOK = true ↔
          ∃ parts, Grammar windows connectionString parts) ∧
        ∀ parts, Grammar windows connectionString parts →
          Holds result parts := by
  constructor
  · rintro ⟨other, parsedOther, exactly⟩
    rw [parsed] at parsedOther
    cases parsedOther
    exact exactly
  · intro exactly
    exact ⟨result, parsed, exactly⟩

/-- Nothing is proper that does not begin with two slashes. -/
theorem slashes_of_proper (proper : Proper width protocol address) :
    ∃ behind, address = '/' :: '/' :: behind := by
  have isPrefix : ['/', '/'] <+: address := by
    cases protocol with
    | kTcp => exact proper.1
    | kUnixLocalSocket => exact proper
  rcases isPrefix with ⟨behind, joined⟩
  exact ⟨behind, joined.symm⟩

section Served

variable {windows : Bool} {connectionString : WxString} {protocol : EProtocol}

/-- Behind slashes what is served has no parts, or proper ones. -/
theorem parsedExactly_of_slashes
    {address : WxString}
    (served : protocolOf windows connectionString = some protocol)
    (behind :
      afterFirst connectionString ':' = '/' :: '/' :: address) :
    ParsedExactly windows width connectionString ↔
      Unusable protocol address ∨
        Proper width protocol ('/' :: '/' :: address) := by
  have parsed :
      doParse windows width connectionString =
        some (parseAddress width protocol address) := by
    rw [doParse, served, behind]
    rfl
  have grammarIff (parts : Parts) :
      Grammar windows connectionString parts ↔
        AddressOf protocol address parts := by
    constructor
    · intro grammar
      rcases shape_of_grammar grammar with
        ⟨other, rest, servedOther, behindOther, taken⟩
      cases served.symm.trans servedOther
      cases behind.symm.trans behindOther
      exact taken
    · exact grammar_of_shape served behind
  simp only [parsedExactly_of_result width parsed, isOK_parseAddress_iff,
    grammarIff]
  by_cases usable : Unusable protocol address
  · have noParts (parts : Parts) : ¬AddressOf protocol address parts :=
      fun taken => usable_of_addressOf protocol address taken usable
    refine iff_of_true ⟨?_, fun parts taken => ?_⟩ (.inl usable)
    · exact iff_of_false (not_not.mpr usable) (not_exists.mpr noParts)
    · exact absurd taken (noParts parts)
  · rw [or_iff_right usable]
    constructor
    · rintro ⟨accepted, holds⟩
      rcases accepted.mp usable with ⟨parts, taken⟩
      exact (holds_parseAddress_iff width protocol address taken).mp
        (holds parts taken)
    · intro proper
      refine ⟨iff_of_true usable ?_, fun parts taken => ?_⟩
      · exact addressOf_of_proper width protocol address usable proper
      · exact (holds_parseAddress_iff width protocol address taken).mpr proper

/-- Without slashes what is served must not be accepted. -/
theorem parsedExactly_of_noSlashes
    (served : protocolOf windows connectionString = some protocol)
    (enough : 2 ≤ (afterFirst connectionString ':').length)
    (noSlashes :
      ¬∃ address,
        afterFirst connectionString ':' = '/' :: '/' :: address) :
    ParsedExactly windows width connectionString ↔
      Unusable protocol ((afterFirst connectionString ':').drop 2) := by
  have parsed :
      doParse windows width connectionString =
        some
          (parseAddress width protocol
            ((afterFirst connectionString ':').drop 2)) := by
    rw [doParse, served]
    show (substr _ 2).map _ = _
    rw [substr, if_neg (Nat.not_lt.mpr enough), Option.map_some]
  have noGrammar (parts : Parts) :
      ¬Grammar windows connectionString parts := by
    intro grammar
    rcases shape_of_grammar grammar with ⟨-, address, -, behind, -⟩
    exact noSlashes ⟨address, behind⟩
  rw [parsedExactly_of_result width parsed, isOK_parseAddress_iff]
  constructor
  · rintro ⟨accepted, -⟩
    by_contra usable
    rcases accepted.mp usable with ⟨parts, grammar⟩
    exact noGrammar parts grammar
  · intro unusable
    refine ⟨?_, fun parts grammar => absurd grammar (noGrammar parts)⟩
    exact iff_of_false (not_not.mpr unusable) (not_exists.mpr noGrammar)

/--
A string is parsed exactly if its protocol is not served, or if two
characters follow the first colon and there is nothing to be taken from what
is behind them, or these are slashes and a port is digits of a number that
fits.
-/
theorem parsedExactly_iff :
    ParsedExactly windows width connectionString ↔
      ∀ protocol ∈ protocolOf windows connectionString,
        2 ≤ (afterFirst connectionString ':').length ∧
          (Unusable protocol ((afterFirst connectionString ':').drop 2) ∨
            Proper width protocol (afterFirst connectionString ':')) := by
  cases served : protocolOf windows connectionString with
  | none =>
      have parsed :
          doParse windows width connectionString =
            some ConnectionString.initial := by
        rw [doParse, served]
      have noGrammar (parts : Parts) :
          ¬Grammar windows connectionString parts := by
        intro grammar
        rcases shape_of_grammar grammar with ⟨protocol, -, other, -⟩
        cases served.symm.trans other
      refine iff_of_true ?_ nofun
      rw [parsedExactly_of_result width parsed]
      refine ⟨?_, fun parts grammar => absurd grammar (noGrammar parts)⟩
      exact iff_of_false nofun (not_exists.mpr noGrammar)
  | some protocol =>
      simp only [Option.mem_some_iff, forall_eq']
      by_cases enough : 2 ≤ (afterFirst connectionString ':').length
      · rw [and_iff_right enough]
        by_cases slashes :
            ∃ address,
              afterFirst connectionString ':' = '/' :: '/' :: address
        · rcases slashes with ⟨address, behind⟩
          rw [parsedExactly_of_slashes width served behind, behind]
          rfl
        · rw [parsedExactly_of_noSlashes width served enough slashes,
            or_iff_left fun proper =>
              slashes (slashes_of_proper width protocol _ proper)]
      · have thrown :
            doParse windows width connectionString = none := by
          rw [doParse, served]
          show (substr _ 2).map _ = none
          rw [substr, if_pos (Nat.lt_of_not_le enough)]
          rfl
        refine iff_of_false ?_ fun both => enough both.1
        rintro ⟨result, parsed, -⟩
        cases thrown.symm.trans parsed

end Served

end Exactness

/-- Nothing follows the protocol, so that `substr` throws. -/
theorem tcp_not_parsedExactly :
    ¬ParsedExactly false .bits64 "tcp".toList := by
  rintro ⟨result, parsed, -⟩
  cases parsed

/-- The two characters need not be slashes. -/
example :
    (doParse false .bits64 "tcp:xxhost:80".toList).map (·.isOK) =
      some true := by
  decide

end DebuggerDap.Protocol.ConnectionString
