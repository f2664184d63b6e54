import DebuggerDap.Persistence.XmlWriting

/-!
# A saved document is loaded again

A document that can be printed is read back from its file, with the texts of
blanks left out and every end of a line a line feed.  It is the same document
again exactly when it has neither.
-/

namespace DebuggerDap.Persistence.XmlFile

open DebuggerDap.Library.Bytes
open DebuggerDap.Library.XmlGrammar
open DebuggerDap.Persistence.XmlParser
open DebuggerDap.Persistence.XmlPrinter
open DebuggerDap.Persistence.XmlReading
open DebuggerDap.Persistence.XmlText
open DebuggerDap.Persistence.XmlPrintable
open DebuggerDap.Persistence.XmlWriting

section Saving

variable {ulong : Nat} {crlf : Bool} {levels : Nat} {nodes : List Node}

theorem isText_settle_iff (node : Node) :
    IsText (settle crlf node) ↔ IsText node := by
  cases node with
  | text cData value =>
      cases cData with
      | false => exact ⟨fun _ => ⟨value, rfl⟩, fun _ => ⟨_, rfl⟩⟩
      | true => exact ⟨nofun, nofun⟩
  | element | comment | declaration | unknown => exact ⟨nofun, nofun⟩

theorem not_isText_declaration (value : Bytes) :
    ¬ IsText (.declaration value) := by
  rintro ⟨other, same⟩
  cases same

/-- Without texts nothing is left out. -/
theorem settleAll_of_not_text (noText : ∀ node ∈ nodes, ¬ IsText node) :
    settleAll crlf nodes = nodes.map (settle crlf) := by
  induction nodes with
  | nil => rw [settleAll, List.map_nil]
  | cons node nodes inductionHypothesis =>
      rcases List.forall_mem_cons.mp noText with ⟨first, others⟩
      rw [settleAll_cons_of_not_text first, inductionHypothesis others,
        List.map_cons]

theorem not_isText_of_printableDocument
    (printable : PrintableDocument ulong levels nodes) :
    ∀ node ∈ nodes, ¬ IsText node := by
  induction printable with
  | content _ noText => exact noText
  | declaration _ _ _ inductionHypothesis =>
      exact List.forall_mem_cons.mpr
        ⟨not_isText_declaration _, inductionHypothesis⟩

/-- The printed nodes of a document make a text of the grammar. -/
theorem exists_document
    {printer : Printer}
    (printable : PrintableDocument ulong levels nodes)
    (steady : Steady printer)
    (closed : printer.elementJustOpened = false) :
    ∃ text,
      (Printer.acceptAll nodes printer).file = printer.file ++ text ∧
        (0 : UInt8) ∉ text ∧
        Document (lexis ulong) levels (stdio crlf text)
          (settleAll crlf nodes) := by
  induction printable generalizing printer with
  | @content nodes printable noText =>
      rcases @acceptAll_content ulong crlf levels printer nodes printable
          steady (.inr noText) with
        ⟨body, content⟩
      have bracket : pending printer = [] := by
        rw [pending, closed]
        rfl
      have file := content.writes.file
      rw [bracket, ite_self, List.nil_append] at file
      have inside := content.content []
        (fun _ member => absurd member List.not_mem_nil) (fun _ => rfl)
      rw [List.append_nil] at inside
      refine ⟨body, file, content.noNul, .content inside ?_⟩
      intro value member
      rw [settleAll_of_not_text noText] at member
      rcases List.mem_map.mp member with ⟨node, among, same⟩
      exact noText node among ((isText_settle_iff node).mp ⟨value, same⟩)
  | @declaration value nodes noNul unbroken others inductionHypothesis =>
      rcases prepareForNewNode_eq printer steady with
        ⟨first, spaces, prepared, spacing, -, compact⟩
      have accepted :
          Printer.accept (.declaration value) printer =
            { printer with
              elementJustOpened := false
              firstElement := first }.write
              (pending printer ++
                (spaces ++ (ascii "<?" ++ (value ++ ascii "?>")))) := by
        rw [Printer.accept, Printer.pushDeclaration, prepared, write_write,
          write_write, write_write]
        simp only [List.append_assoc]
      have bracket : pending printer = [] := by
        rw [pending, closed]
        rfl
      rcases @inductionHypothesis (Printer.accept (.declaration value) printer)
          (by rw [accepted]; exact fun isFirst => .inr (compact isFirst))
          (by rw [accepted]; rfl) with
        ⟨text, file, noNulText, document⟩
      refine ⟨spaces ++ (ascii "<?" ++ (value ++ (ascii "?>" ++ text))), ?_,
        ?_, ?_⟩
      · rw [Printer.acceptAll, file, accepted, bracket]
        simp only [Printer.write, List.append_assoc, List.nil_append]
      · simp only [List.mem_append, not_or]
        exact ⟨nul_not_mem_spacing spacing, by decide, noNul, by decide,
          noNulText⟩
      · rw [stdio_append, stdio_append, stdio_append, stdio_append,
          @stdio_of_not_mem (ascii "<?") crlf (by decide),
          @stdio_of_not_mem (ascii "?>") crlf (by decide),
          settleAll_cons_of_not_text (not_isText_declaration value), settle]
        exact .declaration (blank_of_spacing spacing)
          (unbroken_stdio (by decide) (by decide) unbroken)
          (getStr_verbatim ulong crlf noNul) document

/-- `LoadFile` after `SaveFile`. -/
theorem loadFile_saveFile
    {compact : Bool}
    {document : XmlDocument}
    (printable : PrintableDocument ulong maxLevels document.children)
    (inhabited : document.children ≠ []) :
    loadFile ulong (some (saveFile crlf compact document)) =
      .ok { document with children := settleAll crlf document.children } := by
  have settled : settleAll crlf document.children ≠ [] := by
    rw [settleAll_of_not_text (not_isText_of_printableDocument printable)]
    exact fun empty => inhabited (List.map_eq_nil_iff.mp empty)
  rcases document with ⟨marked, children⟩
  let headed : Printer :=
    if marked then (Printer.new compact).write bom else Printer.new compact
  have steady : Steady headed := by
    intro _
    left
    cases marked <;> rfl
  have closed : headed.elementJustOpened = false := by
    cases marked <;> rfl
  have head : headed.file = if marked then bom else [] := by
    cases marked <;> rfl
  rcases @exists_document ulong crlf maxLevels children headed printable
      steady closed with
    ⟨text, file, noNul, read⟩
  have saved :
      saveFile crlf compact ⟨marked, children⟩ =
        (if marked then bom else []) ++ stdio crlf text := by
    show stdio crlf (headed.acceptAll children).file = _
    rw [file, head, stdio_append]
    congr 1
    cases marked with
    | true => exact stdio_of_not_mem crlf (by decide)
    | false => exact stdio_nil crlf
  rw [saved]
  exact loadFile_of_document read settled (Nat.le_refl _)
    (nul_not_mem_stdio noNul) marked

/-! ## When a document comes back -/

mutual

/-- Neither a carriage return nor a text of nothing but blanks. -/
def Unchanged : Node → Prop
  | .element _ attributes children =>
      (∀ attrib ∈ attributes, cr ∉ attrib.2) ∧ UnchangedAll children
  | .text false value => cr ∉ value ∧ value.all isWhiteSpace = false
  | .text true value => cr ∉ value
  | .comment value => cr ∉ value
  | .declaration value => cr ∉ value
  | .unknown value => cr ∉ value

def UnchangedAll : List Node → Prop
  | [] => True
  | node :: nodes => Unchanged node ∧ UnchangedAll nodes

end

theorem landedAttributes_eq_iff (attributes : List (Bytes × Bytes)) :
    (attributes.map fun attrib => (attrib.1, landed crlf attrib.2)) =
        attributes ↔
      ∀ attrib ∈ attributes, cr ∉ attrib.2 := by
  induction attributes with
  | nil => simp
  | cons attrib attributes inductionHypothesis =>
      rw [List.map_cons, List.cons.injEq, inductionHypothesis,
        List.forall_mem_cons]
      refine and_congr_left fun _ => ?_
      rw [Prod.ext_iff]
      exact (and_iff_right rfl).trans (landed_eq_iff crlf attrib.2)

theorem length_settleAll_le (nodes : List Node) :
    (settleAll crlf nodes).length ≤ nodes.length := by
  induction nodes with
  | nil => exact Nat.le_refl _
  | cons node nodes inductionHypothesis =>
      rw [settleAll]
      split_ifs
      · exact Nat.le_succ_of_le inductionHypothesis
      · exact Nat.succ_le_succ inductionHypothesis

mutual

theorem settle_eq_iff (node : Node) :
    (isBlankText node = false ∧ settle crlf node = node) ↔
      Unchanged node := by
  match node with
  | .element name attributes children =>
      have inside := settleAll_eq_iff children
      rw [Unchanged, ← inside, ← @landedAttributes_eq_iff crlf attributes,
        settle, Node.element.injEq]
      exact ⟨fun both => both.2.2, fun both => ⟨rfl, rfl, both⟩⟩
  | .text false value =>
      rw [Unchanged, ← landed_eq_iff crlf value, settle, Node.text.injEq,
        isBlankText]
      exact ⟨fun both => ⟨both.2.2, both.1⟩, fun both => ⟨both.2, rfl, both.1⟩⟩
  | .text true value =>
      rw [Unchanged, ← landed_eq_iff crlf value, settle, Node.text.injEq]
      exact ⟨fun both => both.2.2, fun same => ⟨rfl, rfl, same⟩⟩
  | .comment value =>
      rw [Unchanged, ← landed_eq_iff crlf value, settle, Node.comment.injEq]
      exact ⟨And.right, fun same => ⟨rfl, same⟩⟩
  | .declaration value =>
      rw [Unchanged, ← landed_eq_iff crlf value, settle,
        Node.declaration.injEq]
      exact ⟨And.right, fun same => ⟨rfl, same⟩⟩
  | .unknown value =>
      rw [Unchanged, ← landed_eq_iff crlf value, settle, Node.unknown.injEq]
      exact ⟨And.right, fun same => ⟨rfl, same⟩⟩

theorem settleAll_eq_iff (nodes : List Node) :
    settleAll crlf nodes = nodes ↔ UnchangedAll nodes := by
  match nodes with
  | [] => exact ⟨fun _ => trivial, fun _ => rfl⟩
  | node :: nodes =>
      have first := settle_eq_iff node
      have others := settleAll_eq_iff nodes
      rw [UnchangedAll, ← first, ← others, settleAll]
      cases blank : isBlankText node with
      | true =>
          rw [if_pos rfl]
          refine ⟨fun same => ?_, fun both => Bool.noConfusion both.1.1⟩
          have shorter := @length_settleAll_le crlf nodes
          rw [same] at shorter
          exact absurd shorter (Nat.not_succ_le_self _)
      | false =>
          rw [if_neg Bool.false_ne_true, List.cons.injEq]
          exact and_congr_left fun _ => (and_iff_right rfl).symm

end

/--
A document that can be printed comes back as it was exactly when its values
have no carriage returns and none of its texts is blank.
-/
theorem loadFile_saveFile_iff
    {compact : Bool}
    {document : XmlDocument}
    (printable : PrintableDocument ulong maxLevels document.children)
    (inhabited : document.children ≠ []) :
    loadFile ulong (some (saveFile crlf compact document)) = .ok document ↔
      UnchangedAll document.children := by
  rw [loadFile_saveFile printable inhabited, Except.ok.injEq,
    ← @settleAll_eq_iff crlf]
  exact ⟨congrArg XmlDocument.children,
    fun same => congrArg (XmlDocument.mk document.writeBOM) same⟩

end Saving

/-- An element with an attribute, and with a text that needs references. -/
def referenceDocument : XmlDocument where
  writeBOM := false
  children :=
    [.element (ascii "a") [(ascii "b", ascii "\"")]
      [.text false (ascii "x < y")]]

theorem printable_referenceDocument :
    PrintableDocument UInt64.size maxLevels referenceDocument.children := by
  have named (name : Bytes) (letter : UInt8) (same : name = [letter])
      (start : isNameStartChar letter = true) :
      IsName (lexis UInt64.size) name := by
    subst same
    exact ⟨start, fun _ member => absurd member List.not_mem_nil⟩
  refine .content ⟨⟨named _ (byte 'a') rfl rfl, ?_, by decide, fun _ =>
    ⟨by decide, (by decide : (0 : UInt8) ∉ ascii "x < y"), trivial, nofun⟩⟩,
    trivial, fun _ => nofun⟩ ?_
  · intro attrib member
    rw [List.mem_singleton.mp member]
    exact ⟨named _ (byte 'b') rfl rfl, (by decide : (0 : UInt8) ∉ ascii "\"")⟩
  · intro node member
    rw [List.mem_singleton.mp member]
    rintro ⟨value, same⟩
    cases same

theorem loadFile_saveFile_iff_reference :
    loadFile UInt64.size (some (saveFile true false referenceDocument)) =
        .ok referenceDocument ↔
      UnchangedAll referenceDocument.children :=
  loadFile_saveFile_iff printable_referenceDocument (List.cons_ne_nil _ _)

end DebuggerDap.Persistence.XmlFile
