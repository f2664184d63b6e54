import DebuggerDap.Persistence.XmlReading
import DebuggerDap.Persistence.XmlText

/-!
# What can be printed

The values of nodes are printed without the marks that would end them, or must
not have them.  What is read back differs in the ends of lines of the values,
and has no texts of nothing but blanks.
-/

namespace DebuggerDap.Persistence.XmlPrintable

open DebuggerDap.Library.Bytes
open DebuggerDap.Library.XmlGrammar
open DebuggerDap.Persistence.XmlParser
open DebuggerDap.Persistence.XmlPrinter
open DebuggerDap.Persistence.XmlReading
open DebuggerDap.Persistence.XmlText

/-! ## What is printed, and what it stands for -/

def IsText (node : Node) : Prop :=
  ∃ value, node = .text false value

/-- A text of nothing but blanks is lost. -/
def isBlankText : Node → Bool
  | .text false value => value.all isWhiteSpace
  | _ => false

mutual

/-- A node as it is read back. -/
def settle (crlf : Bool) : Node → Node
  | .element name attributes children =>
      .element name
        (attributes.map fun attrib => (attrib.1, landed crlf attrib.2))
        (settleAll crlf children)
  | .text cData value => .text cData (landed crlf value)
  | .comment value => .comment (landed crlf value)
  | .declaration value => .declaration (landed crlf value)
  | .unknown value => .unknown (landed crlf value)

def settleAll (crlf : Bool) : List Node → List Node
  | [] => []
  | node :: nodes =>
      if isBlankText node then settleAll crlf nodes
      else settle crlf node :: settleAll crlf nodes

end

section Printable

variable (ulong : Nat)

mutual

/--
The values of a node are C strings, its names are names, and the marks that end
a value are not in it.  An element with something inside needs a level.
-/
def Printable : Nat → Node → Prop
  | levels, .element name attributes children =>
      IsName (lexis ulong) name ∧
        (∀ attrib ∈ attributes,
          IsName (lexis ulong) attrib.1 ∧ (0 : UInt8) ∉ attrib.2) ∧
        (attributes.map Prod.fst).Nodup ∧
        (children ≠ [] →
          0 < levels ∧ PrintableAll (levels - 1) children)
  | _, .text false value => (0 : UInt8) ∉ value
  | _, .text true value =>
      (0 : UInt8) ∉ value ∧ Unbroken (ascii "]]>") value
  | _, .comment value =>
      (0 : UInt8) ∉ value ∧ Unbroken (ascii "-->") value
  | _, .declaration _ => False
  | _, .unknown value =>
      (0 : UInt8) ∉ value ∧ byte '>' ∉ value ∧ ¬ ascii "--" <+: value ∧
        ¬ ascii "[CDATA[" <+: value

/-- No two texts of the nodes stand beside each other. -/
def PrintableAll : Nat → List Node → Prop
  | _, [] => True
  | levels, node :: nodes =>
      Printable levels node ∧ PrintableAll levels nodes ∧
        (IsText node → ∀ next ∈ nodes.head?, ¬ IsText next)

end

/-- Declarations, and nodes without texts beside them. -/
inductive PrintableDocument (levels : Nat) : List Node → Prop
  | content
      {nodes : List Node}
      (printable : PrintableAll ulong levels nodes)
      (noText : ∀ node ∈ nodes, ¬ IsText node) :
      PrintableDocument levels nodes
  | declaration
      {value : Bytes}
      {nodes : List Node}
      (noNul : (0 : UInt8) ∉ value)
      (unbroken : Unbroken (ascii "?>") value)
      (others : PrintableDocument levels nodes) :
      PrintableDocument levels (.declaration value :: nodes)

end Printable

/-! ## Texts in the file -/

section Pieces

variable {ulong : Nat} {crlf : Bool} {stop value : Bytes}

/-- A mark that is found in the file is found in what was written. -/
theorem prefix_of_prefix_stdio
    (noEnd : cr ∉ stop ∧ lf ∉ stop)
    (isPrefix : stop <+: stdio crlf value) : stop <+: value := by
  induction value generalizing stop with
  | nil => rwa [stdio_nil] at isPrefix
  | cons code value inductionHypothesis =>
      cases stop with
      | nil => exact List.nil_prefix
      | cons mark stop =>
          simp only [List.mem_cons, not_or] at noEnd
          by_cases isLf : code = lf
          · subst isLf
            cases crlf with
            | false => exact isPrefix
            | true =>
                rw [stdio_cons_lf] at isPrefix
                exact absurd (List.cons_prefix_cons.mp isPrefix).1.symm
                  noEnd.1.1
          · rw [stdio_cons_of_ne crlf value isLf] at isPrefix
            rcases List.cons_prefix_cons.mp isPrefix with ⟨same, others⟩
            exact List.cons_prefix_cons.mpr
              ⟨same, inductionHypothesis ⟨noEnd.1.2, noEnd.2.2⟩ others⟩

theorem unbroken_stdio
    (marked : stop ≠ [])
    (noEnd : cr ∉ stop ∧ lf ∉ stop)
    (unbroken : Unbroken stop value) : Unbroken stop (stdio crlf value) := by
  induction value with
  | nil =>
      rw [stdio_nil]
      exact unbroken
  | cons code value inductionHypothesis =>
      have later : Unbroken stop (stdio crlf value) :=
        inductionHypothesis fun count bound =>
          unbroken (count + 1) (Nat.succ_lt_succ bound)
      have noFirst {mark : UInt8} {rest : Bytes} (apart : mark ∉ stop) :
          ¬ stop <+: mark :: rest := by
        intro isPrefix
        cases stop with
        | nil => exact marked rfl
        | cons first stop =>
            have same := (List.cons_prefix_cons.mp isPrefix).1
            exact apart (same ▸ List.mem_cons_self)
      have cons
          {mark : UInt8}
          {raw : Bytes}
          (first : ¬ stop <+: mark :: (raw ++ stop))
          (others : Unbroken stop raw) : Unbroken stop (mark :: raw) := by
        intro count bound
        cases count with
        | zero => exact first
        | succ count => exact others count (Nat.lt_of_succ_lt_succ bound)
      by_cases isLf : code = lf
      · subst isLf
        have plain := cons (noFirst noEnd.2) later
        cases crlf with
        | false => exact plain
        | true =>
            rw [stdio_cons_lf]
            exact cons (noFirst noEnd.1) plain
      · rw [stdio_cons_of_ne crlf value isLf]
        refine cons (fun isPrefix => ?_) later
        refine unbroken 0 (Nat.succ_pos _) ?_
        have whole :
            code :: (stdio crlf value ++ stop) =
              stdio crlf (code :: (value ++ stop)) := by
          rw [stdio_cons_of_ne crlf _ isLf, stdio_append,
            stdio_of_not_mem crlf noEnd.2]
        rw [whole] at isPrefix
        exact prefix_of_prefix_stdio noEnd isPrefix

theorem blank_stdio
    (isBlank : Blank (lexis ulong) value) :
    Blank (lexis ulong) (stdio crlf value) := by
  intro code member
  rcases mem_stdio member with rfl | inValue
  · rfl
  · exact isBlank code inValue

theorem mem_stdio_of_mem
    {code : UInt8}
    (member : code ∈ value) : code ∈ stdio crlf value := by
  cases crlf with
  | false => exact member
  | true =>
      refine List.mem_flatMap.mpr ⟨code, member, ?_⟩
      split_ifs with isLf
      · exact List.mem_pair.mpr (.inr isLf)
      · exact List.mem_cons_self

/-- References are visible: a printed text is blank only if it was. -/
theorem blank_printed_iff :
    Blank (lexis ulong) (stdio crlf (value.flatMap (printByte true))) ↔
      Blank (lexis ulong) value := by
  constructor
  · intro isBlank code member
    rcases printByte_cases true code with ⟨plain, -⟩ | ⟨entity, -, -, coded⟩
    · refine isBlank code (mem_stdio_of_mem ?_)
      exact List.mem_flatMap.mpr
        ⟨code, member, plain ▸ List.mem_cons_self⟩
    · have mark := isBlank (byte '&') (mem_stdio_of_mem
        (List.mem_flatMap.mpr ⟨code, member, coded ▸ List.mem_cons_self⟩))
      exact absurd (show isWhiteSpace (byte '&') = true from mark) (by decide)
  · intro isBlank
    refine blank_stdio fun code member => ?_
    rcases List.mem_flatMap.mp member with ⟨source, inValue, printed⟩
    have space : isWhiteSpace source = true := isBlank source inValue
    rcases printByte_cases true source with
      ⟨plain, -⟩ | ⟨entity, known, same, -⟩
    · rw [plain] at printed
      rwa [List.mem_singleton.mp printed]
    · rw [← same] at space
      simp only [entities, List.mem_cons, List.not_mem_nil, or_false] at known
      rcases known with rfl | rfl | rfl | rfl | rfl
      all_goals exact absurd space (by decide)

/-- A byte that ends a value is printed as a reference. -/
theorem not_mem_printed
    {mark : UInt8}
    {restricted : Bool}
    (flagged : entityFlag restricted mark = true)
    (noEnd : mark ≠ cr)
    (noMark : mark ∉ byte '&' :: byte ';' :: entities.flatMap Prod.fst) :
    mark ∉ stdio crlf (value.flatMap (printByte restricted)) := by
  intro member
  rcases mem_stdio member with same | printed
  · exact noEnd same
  · rcases List.mem_flatMap.mp printed with ⟨source, -, inByte⟩
    by_cases isFlagged : entityFlag restricted source = true
    · rw [printByte, if_pos isFlagged] at inByte
      cases found : entities.find? fun entity => entity.2 = source with
      | none =>
          rw [found] at inByte
          exact absurd inByte List.not_mem_nil
      | some entity =>
          have known := List.mem_of_find?_eq_some found
          rw [found] at inByte
          simp only [List.mem_cons, List.mem_append, List.not_mem_nil,
            or_false] at inByte
          refine noMark ?_
          rw [List.mem_cons, List.mem_cons, List.mem_flatMap]
          rcases inByte with same | inName | same
          · exact .inl same
          · exact .inr (.inr ⟨entity, known, inName⟩)
          · exact .inr (.inl same)
    · rw [printByte, if_neg isFlagged] at inByte
      rw [List.mem_singleton.mp inByte] at flagged
      exact isFlagged flagged

theorem nul_not_mem_printed
    {restricted : Bool}
    (noNul : (0 : UInt8) ∉ value) :
    (0 : UInt8) ∉ value.flatMap (printByte restricted) := by
  intro member
  rcases List.mem_flatMap.mp member with ⟨source, inValue, printed⟩
  rcases printByte_cases restricted source with
    ⟨plain, -⟩ | ⟨entity, known, -, coded⟩
  · rw [plain] at printed
    exact noNul (List.mem_singleton.mp printed ▸ inValue)
  · rw [coded] at printed
    simp only [entities, List.mem_cons, List.not_mem_nil, or_false] at known
    rcases known with rfl | rfl | rfl | rfl | rfl
    all_goals exact absurd printed (by decide)

theorem nul_not_mem_stdio
    (noNul : (0 : UInt8) ∉ value) : (0 : UInt8) ∉ stdio crlf value :=
  fun member =>
    (mem_stdio member).elim (fun same => absurd same (by decide)) noNul

theorem lf_not_mem_name
    {name : Bytes}
    (named : IsName (lexis ulong) name) :
    lf ∉ name ∧ (0 : UInt8) ∉ name := by
  have noName {mark : UInt8} (other : isNameChar mark = false) :
      mark ∉ name := by
    intro member
    cases name with
    | nil => exact absurd member List.not_mem_nil
    | cons first letters =>
        rcases List.mem_cons.mp member with rfl | inLetters
        · have start : isNameStartChar mark = true := named.start
          rw [isNameChar, start] at other
          cases other
        · have letter : isNameChar mark = true := named.others mark inLetters
          rw [other] at letter
          cases letter
  exact ⟨noName (by decide), noName (by decide)⟩

end Pieces

end DebuggerDap.Persistence.XmlPrintable
