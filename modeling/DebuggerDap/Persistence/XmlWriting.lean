import DebuggerDap.Persistence.XmlPrintable

/-!
# The printer writes XML texts

Whatever is put in front of the nodes and behind them, a printed document is a
text of the grammar: blanks are printed only where they do not belong to a
text.  What it stands for are the nodes that were printed, but for the ends of
lines in their values and for texts of nothing but blanks.
-/

namespace DebuggerDap.Persistence.XmlWriting

open DebuggerDap.Library.Bytes
open DebuggerDap.Library.XmlGrammar
open DebuggerDap.Persistence.XmlParser
open DebuggerDap.Persistence.XmlPrinter
open DebuggerDap.Persistence.XmlReading
open DebuggerDap.Persistence.XmlText
open DebuggerDap.Persistence.XmlPrintable

/-! ## Single operations -/

section Operations

variable (printer : Printer)

/-- The `>` that an open tag still lacks. -/
def pending : Bytes :=
  if printer.elementJustOpened then [byte '>'] else []

/-- As long as the first node is to come, nothing is open. -/
def Steady : Prop :=
  printer.firstElement = true →
    printer.depth = 0 ∨ printer.compactMode = true

/-- What the printer puts between nodes. -/
def Spacing (data : Bytes) : Prop :=
  ∀ code ∈ data, code = byte ' ' ∨ code = lf

theorem write_write (left right : Bytes) :
    (printer.write left).write right = printer.write (left ++ right) := by
  simp only [Printer.write, List.append_assoc]

theorem printSpace_eq (depth : Nat) :
    ∃ spaces, printer.printSpace depth = printer.write spaces ∧
      Spacing spaces ∧ (depth = 0 → spaces = []) := by
  induction depth generalizing printer with
  | zero =>
      refine ⟨[], ?_, fun _ member => absurd member List.not_mem_nil,
        fun _ => rfl⟩
      simp [Printer.printSpace, Printer.write]
  | succ depth inductionHypothesis =>
      rcases inductionHypothesis (printer.write (ascii "    ")) with
        ⟨spaces, printed, spacing, -⟩
      refine ⟨ascii "    " ++ spaces, ?_, ?_, nofun⟩
      · rw [Printer.printSpace, printed, write_write]
      · intro code member
        rcases List.mem_append.mp member with first | others
        · exact .inl (List.eq_of_mem_replicate
            (show code ∈ List.replicate 4 (byte ' ') from first))
        · exact spacing code others

theorem sealElementIfJustOpened_eq :
    printer.sealElementIfJustOpened =
      { printer with elementJustOpened := false }.write (pending printer) := by
  rw [Printer.sealElementIfJustOpened, pending]
  split_ifs with opened
  · rfl
  · rw [Bool.not_eq_true] at opened
    simp [Printer.write, ← opened]

/-- What is printed in front of a node; beside a text it is nothing. -/
theorem prepareForNewNode_eq (steady : Steady printer) :
    ∃ first spaces,
      printer.prepareForNewNode =
          { printer with
            elementJustOpened := false
            firstElement := first }.write (pending printer ++ spaces) ∧
        Spacing spaces ∧ (0 ≤ printer.textDepth → spaces = []) ∧
        (first = true → printer.compactMode = true) := by
  have noSpacing : Spacing [] :=
    fun _ member => absurd member List.not_mem_nil
  rw [Printer.prepareForNewNode, sealElementIfJustOpened_eq]
  generalize pending printer = bracket
  rcases printer with ⟨opened, stack, first, depth, deep, compact, file⟩
  cases compact with
  | true =>
      refine ⟨first, [], ?_, noSpacing, fun _ => rfl, fun _ => rfl⟩
      rw [List.append_nil]
      rfl
  | false =>
      refine ⟨false, ?_⟩
      cases first with
      | true =>
          have noDepth : depth = 0 :=
            (steady rfl).resolve_right Bool.false_ne_true
          subst noDepth
          refine ⟨[], ?_, noSpacing, fun _ => rfl, nofun⟩
          rw [List.append_nil]
          rfl
      | false =>
          by_cases alone : deep < 0
          · rcases printSpace_eq
                (Printer.write (bracket ++ [lf])
                  ⟨false, stack, false, depth, deep, false, file⟩) depth with
              ⟨spaces, printed, spacing, -⟩
            refine ⟨lf :: spaces, ?_, ?_,
              fun beside => absurd beside (Int.not_le.mpr alone), nofun⟩
            · simp only [write_write, List.append_assoc,
                List.singleton_append] at printed
              simp only [Printer.write] at printed
              simp only [Printer.putc, Printer.write, Bool.false_eq_true,
                if_false, alone, if_true, List.append_assoc, printed]
            · intro code member
              rcases List.mem_cons.mp member with same | others
              · exact .inr same
              · exact spacing code others
          · refine ⟨[], ?_, noSpacing, fun _ => rfl, nofun⟩
            simp [Printer.write, alone]

/-- What is printed for the attributes of a tag. -/
def attributeTexts (attributes : List (Bytes × Bytes)) : Bytes :=
  attributes.flatMap fun attrib =>
    byte ' ' :: (attrib.1 ++ (ascii "=\"" ++
      ((attrib.2.takeWhile (· ≠ 0)).flatMap (printByte false) ++
        [byte '"'])))

theorem pushAttributes_eq (attributes : List (Bytes × Bytes)) :
    attributes.foldl (fun printer attrib => printer.pushAttribute attrib)
        printer =
      printer.write (attributeTexts attributes) := by
  induction attributes generalizing printer with
  | nil => simp [attributeTexts, Printer.write]
  | cons attrib attributes inductionHypothesis =>
      rw [List.foldl_cons, inductionHypothesis]
      simp only [Printer.pushAttribute, Printer.putc, Printer.printString,
        write_write]
      congr 1
      simp only [attributeTexts, List.flatMap_cons, List.append_assoc,
        List.cons_append, List.nil_append]

/-- What is printed at the end of an element, and behind it. -/
theorem closeElement_eq :
    ∃ deep spaces behind,
      printer.closeElement =
          { printer with
            elementJustOpened := false
            stack := printer.stack.tail
            depth := printer.depth - 1
            textDepth := deep }.write
            ((if printer.elementJustOpened then ascii "/>"
              else spaces ++ (ascii "</" ++
                (printer.stack.headD [] ++ ascii ">"))) ++ behind) ∧
        Spacing spaces ∧ (0 ≤ printer.textDepth → spaces = []) ∧
        Spacing behind ∧ (printer.depth - 1 ≠ 0 → behind = []) := by
  have noSpacing : Spacing [] :=
    fun _ member => absurd member List.not_mem_nil
  rcases printer with ⟨opened, stack, first, depth, deep, compact, file⟩
  have placed :
      ∃ spaces,
        (if deep < 0 ∧ !compact then
            (Printer.putc lf ⟨opened, stack.tail, first, depth - 1, deep,
              compact, file⟩).printSpace (depth - 1)
          else
            ⟨opened, stack.tail, first, depth - 1, deep, compact, file⟩) =
          Printer.write spaces ⟨opened, stack.tail, first, depth - 1, deep,
            compact, file⟩ ∧
        Spacing spaces ∧ (0 ≤ deep → spaces = []) := by
    by_cases alone : deep < 0 ∧ !compact
    · rcases printSpace_eq
          (Printer.putc lf ⟨opened, stack.tail, first, depth - 1, deep,
            compact, file⟩) (depth - 1) with
        ⟨spaces, printed, spacing, -⟩
      refine ⟨lf :: spaces, ?_, ?_,
        fun beside => absurd beside (Int.not_le.mpr alone.1)⟩
      · rw [if_pos alone, printed]
        exact write_write _ [lf] spaces
      · intro code member
        rcases List.mem_cons.mp member with same | others
        · exact .inr same
        · exact spacing code others
    · refine ⟨[], ?_, noSpacing, fun _ => rfl⟩
      rw [if_neg alone, Printer.write, List.append_nil]
  rcases placed with ⟨spaces, placed, spacing, none⟩
  have left : ∃ deep', ∀ file,
      Printer.leaveText
          ⟨opened, stack.tail, first, depth - 1, deep, compact, file⟩ =
        ⟨opened, stack.tail, first, depth - 1, deep', compact, file⟩ := by
    by_cases same : deep = (depth - 1 : Nat)
    · exact ⟨-1, fun file => if_pos same⟩
    · exact ⟨deep, fun file => if_neg same⟩
  rcases left with ⟨deep', left⟩
  refine ⟨deep', spaces,
    if depth - 1 = 0 ∧ !compact then [lf] else [], ?_, spacing, none, ?_,
    fun inner => if_neg fun both => inner both.1⟩
  · simp only [Printer.closeElement, placed]
    cases opened with
    | true =>
        simp only [Printer.write, if_true, left, Printer.putc]
        split_ifs <;> simp
    | false =>
        simp only [Printer.write, Bool.false_eq_true, if_false, left,
          Printer.putc]
        split_ifs <;> simp
  · split_ifs
    · exact fun _ member => .inr (List.mem_singleton.mp member)
    · exact noSpacing

end Operations

/-! ## Tags and blanks -/

section Tags

variable {ulong : Nat} {crlf : Bool}

theorem blank_of_spacing
    {spaces : Bytes}
    (spacing : Spacing spaces) :
    Blank (lexis ulong) (stdio crlf spaces) := by
  refine blank_stdio fun code member => ?_
  rcases spacing code member with rfl | rfl <;> rfl

theorem nul_not_mem_spacing
    {spaces : Bytes}
    (spacing : Spacing spaces) : (0 : UInt8) ∉ spaces := by
  intro member
  rcases spacing 0 member with same | same
  all_goals exact absurd same (by decide)

/-- The printed attributes are those that are read. -/
theorem attributes_printed
    {attributes : List (Bytes × Bytes)}
    (printable : ∀ attrib ∈ attributes,
      IsName (lexis ulong) attrib.1 ∧ (0 : UInt8) ∉ attrib.2) :
    Attributes (lexis ulong) (stdio crlf (attributeTexts attributes))
        (attributes.map fun attrib => (attrib.1, landed crlf attrib.2)) ∧
      (0 : UInt8) ∉ attributeTexts attributes := by
  induction attributes with
  | nil =>
      have none : stdio crlf (attributeTexts []) = [] := stdio_nil crlf
      rw [none]
      exact ⟨.nil blank_nil, List.not_mem_nil⟩
  | cons attrib attributes inductionHypothesis =>
      rcases List.forall_mem_cons.mp printable with ⟨⟨named, noNul⟩, others⟩
      rcases inductionHypothesis others with ⟨read, noNulRest⟩
      have value : attrib.2.takeWhile (· ≠ 0) = attrib.2 :=
        takeWhile_of_nul_not_mem noNul
      have shape :
          attributeTexts (attrib :: attributes) =
            [byte ' '] ++ (attrib.1 ++ ([] ++ (ascii "=\"" ++
              (attrib.2.flatMap (printByte false) ++
                ([byte '"'] ++ attributeTexts attributes))))) := by
        simp only [attributeTexts, List.flatMap_cons, value,
          List.append_assoc, List.cons_append, List.nil_append]
      have one {data : Bytes} (oneLine : lf ∉ data) :
          stdio crlf data = data :=
        stdio_of_not_mem crlf oneLine
      rw [shape]
      constructor
      · simp only [stdio_append, one (lf_not_mem_name named).1, stdio_nil,
          @one [byte ' '] (by decide), @one (ascii "=\"") (by decide),
          @one [byte '"'] (by decide)]
        exact .cons
          (fun code member => by rw [List.mem_singleton.mp member]; rfl)
          (List.cons_ne_nil _ _) named blank_nil blank_nil (.inl rfl)
          (not_mem_printed rfl (by decide) (by decide))
          (getStr_printed ulong crlf false noNul) read
      · have marks : (0 : UInt8) ∉ [byte ' '] ∧ (0 : UInt8) ∉ ascii "=\"" ∧
            (0 : UInt8) ∉ [byte '"'] := by
          decide
        simp only [List.mem_append, not_or]
        exact ⟨marks.1, (lf_not_mem_name named).2, List.not_mem_nil,
          marks.2.1, nul_not_mem_printed noNul, marks.2.2, noNulRest⟩

theorem tag_printed
    {name : Bytes}
    {attributes : List (Bytes × Bytes)}
    (named : IsName (lexis ulong) name)
    (printable : ∀ attrib ∈ attributes,
      IsName (lexis ulong) attrib.1 ∧ (0 : UInt8) ∉ attrib.2)
    (distinct : (attributes.map Prod.fst).Nodup) :
    Tag (lexis ulong)
      (stdio crlf (byte '<' :: (name ++ attributeTexts attributes))) name
      (attributes.map fun attrib => (attrib.1, landed crlf attrib.2)) where
  named := named
  written := by
    refine ⟨stdio crlf (attributeTexts attributes), ?_,
      (attributes_printed printable).1⟩
    rw [stdio_cons_of_ne crlf _ (by decide), stdio_append,
      stdio_of_not_mem crlf (lf_not_mem_name named).1]
  distinct := by
    rw [List.map_map]
    exact distinct

end Tags

/-! ## Nodes -/

/-- So many bytes were written, and nothing was opened or closed. -/
structure Writes (printer after : Printer) (data : Bytes) : Prop where
  file : after.file = printer.file ++ data
  depth : after.depth = printer.depth
  stack : after.stack = printer.stack
  compactMode : after.compactMode = printer.compactMode
  steady : Steady after

section Nodes

variable (ulong : Nat) (crlf : Bool)

/-- What a node that is no text adds to the file. -/
structure MarkupPrinted
    (levels : Nat)
    (node : Node)
    (printer : Printer)
    (spaces text behind : Bytes) : Prop where
  writes :
    Writes printer (Printer.accept node printer)
      (pending printer ++ (spaces ++ (text ++ behind)))
  closed : (Printer.accept node printer).elementJustOpened = false
  spacing : Spacing spaces
  beside : 0 ≤ printer.textDepth → spaces = []
  behindSpacing : Spacing behind
  inner : printer.depth ≠ 0 → behind = []
  noNul : (0 : UInt8) ∉ text
  marked : Markup (lexis ulong) levels (stdio crlf text) (settle crlf node)

/-- What the children of a node add, before spacing that may follow them. -/
structure ContentPrinted
    (levels : Nat)
    (nodes : List Node)
    (printer : Printer)
    (body : Bytes) : Prop where
  writes :
    Writes printer (Printer.acceptAll nodes printer)
      ((if nodes.isEmpty then [] else pending printer) ++ body)
  opened :
    (Printer.acceptAll nodes printer).elementJustOpened =
      (printer.elementJustOpened && nodes.isEmpty)
  noNul : (0 : UInt8) ∉ body
  content :
    ∀ tail, Spacing tail →
      (0 ≤ (Printer.acceptAll nodes printer).textDepth → tail = []) →
        Content (lexis ulong) levels (stdio crlf (body ++ tail))
          (settleAll crlf nodes)
  next :
    0 ≤ printer.textDepth → (∀ node ∈ nodes.head?, ¬ IsText node) →
      ∀ tail,
        (0 ≤ (Printer.acceptAll nodes printer).textDepth → tail = []) →
          ∀ code ∈ (stdio crlf (body ++ tail)).head?, code = byte '<'

variable {ulong} {crlf} {levels : Nat} {printer : Printer}

/-- A node of a mark, its value and another mark. -/
theorem markupPrinted_leaf
    {node : Node}
    {text : Bytes}
    (steady : Steady printer)
    (accepted :
      Printer.accept node printer = printer.prepareForNewNode.write text)
    (noNul : (0 : UInt8) ∉ text)
    (marked :
      Markup (lexis ulong) levels (stdio crlf text) (settle crlf node)) :
    ∃ spaces,
      MarkupPrinted ulong crlf levels node printer spaces text [] := by
  rcases prepareForNewNode_eq printer steady with
    ⟨first, spaces, prepared, spacing, beside, compact⟩
  rw [prepared, write_write] at accepted
  refine ⟨spaces, ?_, ?_, spacing, beside,
    fun _ member => absurd member List.not_mem_nil, fun _ => rfl, noNul,
    marked⟩
  · rw [accepted]
    refine ⟨?_, rfl, rfl, rfl, fun isFirst => .inr (compact isFirst)⟩
    rw [List.append_nil, ← List.append_assoc (pending printer)]
    rfl
  · rw [accepted]
    rfl

/-- Around the value of a node stand marks on the same line. -/
theorem stdio_marked
    {before behind : Bytes}
    (value : Bytes)
    (beforeLine : lf ∉ before)
    (behindLine : lf ∉ behind) :
    stdio crlf (before ++ (value ++ behind)) =
      before ++ (stdio crlf value ++ behind) := by
  rw [stdio_append, stdio_append, stdio_of_not_mem crlf beforeLine,
    stdio_of_not_mem crlf behindLine]

theorem nul_not_mem_marked
    {before value behind : Bytes}
    (marks : (0 : UInt8) ∉ before ∧ (0 : UInt8) ∉ behind)
    (noNul : (0 : UInt8) ∉ value) :
    (0 : UInt8) ∉ before ++ (value ++ behind) := by
  simp only [List.mem_append, not_or]
  exact ⟨marks.1, noNul, marks.2⟩

theorem accept_comment
    {value : Bytes}
    (steady : Steady printer)
    (noNul : (0 : UInt8) ∉ value)
    (unbroken : Unbroken (ascii "-->") value) :
    ∃ spaces,
      MarkupPrinted ulong crlf levels (.comment value) printer spaces
        (ascii "<!--" ++ (value ++ ascii "-->")) [] := by
  refine markupPrinted_leaf steady ?_
    (nul_not_mem_marked (by decide) noNul) ?_
  · rw [Printer.accept, Printer.pushComment, write_write, write_write]
  · rw [stdio_marked value (by decide) (by decide), settle]
    exact .comment (unbroken_stdio (by decide) (by decide) unbroken)
      (getStr_verbatim ulong crlf noNul)

theorem accept_unknown
    {value : Bytes}
    (steady : Steady printer)
    (noNul : (0 : UInt8) ∉ value)
    (inside : byte '>' ∉ value)
    (noComment : ¬ ascii "--" <+: value)
    (noCData : ¬ ascii "[CDATA[" <+: value) :
    ∃ spaces,
      MarkupPrinted ulong crlf levels (.unknown value) printer spaces
        (ascii "<!" ++ (value ++ [byte '>'])) [] := by
  refine markupPrinted_leaf steady ?_
    (nul_not_mem_marked (by decide) noNul) ?_
  · rw [Printer.accept, Printer.pushUnknown, Printer.putc, write_write,
      write_write]
  · rw [stdio_marked value (by decide) (by decide), settle]
    refine .unknown (fun member => ?_)
      (fun same => noComment (prefix_of_prefix_stdio (by decide) same))
      (fun same => noCData (prefix_of_prefix_stdio (by decide) same))
      (getStr_verbatim ulong crlf noNul)
    exact (mem_stdio member).elim
      (fun same => absurd same (by decide)) inside

theorem pushText_eq (value : Bytes) (cData : Bool) :
    printer.pushText value cData =
      { printer with
        elementJustOpened := false
        textDepth := (printer.depth : Int) - 1 }.write
        (pending printer ++
          (if cData then ascii "<![CDATA[" ++ (value ++ ascii "]]>")
            else (value.takeWhile (· ≠ 0)).flatMap (printByte true))) := by
  rw [Printer.pushText, sealElementIfJustOpened_eq, ← write_write]
  cases cData with
  | true =>
      simp only [if_true, write_write, List.append_assoc]
      rfl
  | false => rfl

theorem accept_cData
    {value : Bytes}
    (steady : Steady printer)
    (noNul : (0 : UInt8) ∉ value)
    (unbroken : Unbroken (ascii "]]>") value) :
    MarkupPrinted ulong crlf levels (.text true value) printer []
      (ascii "<![CDATA[" ++ (value ++ ascii "]]>")) [] := by
  have accepted : Printer.accept (.text true value) printer = _ :=
    pushText_eq value true
  refine ⟨?_, ?_, fun _ member => absurd member List.not_mem_nil,
    fun _ => rfl, fun _ member => absurd member List.not_mem_nil,
    fun _ => rfl, nul_not_mem_marked (by decide) noNul, ?_⟩
  · rw [accepted, if_pos rfl, List.append_nil]
    exact ⟨rfl, rfl, rfl, rfl, steady⟩
  · rw [accepted]
    rfl
  · rw [stdio_marked value (by decide) (by decide), settle]
    exact .cData (unbroken_stdio (by decide) (by decide) unbroken)
      (getStr_verbatim ulong crlf noNul)

/-- The next node that is no text is still there when texts are lost. -/
theorem settleAll_head
    {nodes : List Node}
    (noText : ∀ node ∈ nodes.head?, ¬ IsText node)
    (value : Bytes) :
    (settleAll crlf nodes).head? ≠ some (.text false value) := by
  cases nodes with
  | nil => rintro ⟨⟩
  | cons node nodes =>
      have apart := noText node rfl
      cases node with
      | text cData value =>
          cases cData with
          | false => exact absurd ⟨value, rfl⟩ apart
          | true => rintro ⟨⟩
      | element | comment | declaration | unknown =>
          exact fun same => Node.noConfusion (Option.some.inj same)

theorem settleAll_cons_of_not_text
    {node : Node}
    (noText : ¬ IsText node)
    (nodes : List Node) :
    settleAll crlf (node :: nodes) =
      settle crlf node :: settleAll crlf nodes := by
  rw [settleAll]
  cases node with
  | text cData value =>
      cases cData with
      | false => exact absurd ⟨value, rfl⟩ noText
      | true => rfl
  | element | comment | declaration | unknown => rfl

/-- The printer behind the tag of an element. -/
theorem openElement_eq
    (steady : Steady printer)
    (name : Bytes)
    (attributes : List (Bytes × Bytes)) :
    ∃ first spaces,
      attributes.foldl (fun printer attrib => printer.pushAttribute attrib)
            (printer.openElement name) =
          { printer with
            elementJustOpened := true
            stack := name :: printer.stack
            firstElement := first
            depth := printer.depth + 1 }.write
            (pending printer ++ (spaces ++
              byte '<' :: (name ++ attributeTexts attributes))) ∧
        Spacing spaces ∧ (0 ≤ printer.textDepth → spaces = []) ∧
        (first = true → printer.compactMode = true) := by
  rcases prepareForNewNode_eq printer steady with
    ⟨first, spaces, prepared, spacing, beside, compact⟩
  refine ⟨first, spaces, ?_, spacing, beside, compact⟩
  rw [pushAttributes_eq, Printer.openElement, prepared]
  simp only [Printer.write, List.append_assoc]
  rfl

/-- An element, once its children are printed. -/
theorem accept_element
    {name : Bytes}
    {attributes : List (Bytes × Bytes)}
    {children : List Node}
    (steady : Steady printer)
    (named : IsName (lexis ulong) name)
    (printable : ∀ attrib ∈ attributes,
      IsName (lexis ulong) attrib.1 ∧ (0 : UInt8) ∉ attrib.2)
    (distinct : (attributes.map Prod.fst).Nodup)
    (inside :
      ∀ opened : Printer, opened.depth ≠ 0 → Steady opened →
        ∃ body, ContentPrinted ulong crlf (levels - 1) children opened body)
    (nested : children ≠ [] → 0 < levels) :
    ∃ spaces text behind,
      MarkupPrinted ulong crlf levels (.element name attributes children)
        printer spaces text behind := by
  rcases openElement_eq steady name attributes with
    ⟨first, spaces, opening, spacing, beside, compact⟩
  have tag := @tag_printed ulong crlf name attributes named printable distinct
  have noNulTag :
      (0 : UInt8) ∉ byte '<' :: (name ++ attributeTexts attributes) := by
    simp only [List.mem_cons, List.mem_append, not_or]
    exact ⟨by decide, (lf_not_mem_name named).2,
      (@attributes_printed ulong crlf attributes printable).2⟩
  generalize byte '<' :: (name ++ attributeTexts attributes) = tagText
    at opening tag noNulTag
  generalize openedIs :
    ({ printer with
        elementJustOpened := true
        stack := name :: printer.stack
        firstElement := first
        depth := printer.depth + 1 } : Printer).write
        (pending printer ++ (spaces ++ tagText)) = opened at opening
  have accepted :
      Printer.accept (.element name attributes children) printer =
        (Printer.acceptAll children opened).closeElement := by
    rw [Printer.accept, opening]
  have deeper : opened.depth = printer.depth + 1 := openedIs ▸ rfl
  rcases inside opened (by rw [deeper]; exact Nat.succ_ne_zero _)
      (openedIs ▸ fun isFirst => .inr (compact isFirst)) with
    ⟨body, content⟩
  have bracket : pending opened = [byte '>'] := openedIs ▸ rfl
  have justOpened : opened.elementJustOpened = true := openedIs ▸ rfl
  have openedFile :
      opened.file =
        printer.file ++ (pending printer ++ (spaces ++ tagText)) :=
    openedIs ▸ rfl
  have openedStack : opened.stack = name :: printer.stack := openedIs ▸ rfl
  have openedCompact : opened.compactMode = printer.compactMode :=
    openedIs ▸ rfl
  rcases closeElement_eq (Printer.acceptAll children opened) with
    ⟨deep, tail, behind, closed, tailSpacing, alone, behindSpacing, inner⟩
  have outer :
      (Printer.acceptAll children opened).depth - 1 = printer.depth := by
    rw [content.writes.depth, deeper]
    rfl
  have closedSteady :
      Steady (Printer.acceptAll children opened).closeElement := by
    intro isFirst
    rw [closed] at isFirst
    rcases content.writes.steady isFirst with noDepth | isCompact
    · rw [content.writes.depth, deeper] at noDepth
      exact absurd noDepth (Nat.succ_ne_zero _)
    · right
      rw [closed]
      exact isCompact
  have closedWrites
      {text : Bytes}
      (file :
        (Printer.acceptAll children opened).closeElement.file =
          printer.file ++ (pending printer ++
            (spaces ++ (text ++ behind)))) :
      Writes printer
        (Printer.accept (.element name attributes children) printer)
        (pending printer ++ (spaces ++ (text ++ behind))) := by
    refine ⟨accepted ▸ file, ?_, ?_, ?_, accepted ▸ closedSteady⟩
    · rw [accepted, closed]
      exact outer
    · rw [accepted, closed]
      show (Printer.acceptAll children opened).stack.tail = printer.stack
      rw [content.writes.stack, openedStack]
      rfl
    · rw [accepted, closed]
      exact content.writes.compactMode.trans openedCompact
  have notOpen :
      (Printer.accept (.element name attributes children)
        printer).elementJustOpened = false := by
    rw [accepted, closed]
    rfl
  cases children with
  | nil =>
      refine ⟨spaces, tagText ++ ascii "/>", behind, closedWrites ?_, notOpen,
        spacing, beside, behindSpacing, fun inside => inner (outer ▸ inside),
        ?_, ?_⟩
      · rw [closed, content.opened, justOpened]
        show opened.file ++ (ascii "/>" ++ behind) = _
        rw [openedFile]
        simp only [List.append_assoc]
      · rw [List.mem_append, not_or]
        exact ⟨noNulTag, by decide⟩
      · rw [stdio_append, @stdio_of_not_mem (ascii "/>") crlf (by decide),
          settle]
        exact .empty tag
  | cons child children =>
      refine ⟨spaces,
        tagText ++ byte '>' ::
          ((body ++ tail) ++ (ascii "</" ++ (name ++ ([] ++ [byte '>'])))),
        behind, closedWrites ?_, notOpen, spacing, beside, behindSpacing,
        fun inside => inner (outer ▸ inside), ?_, ?_⟩
      · have file := content.writes.file
        have stack := content.writes.stack
        rw [closed, content.opened, justOpened]
        show (Printer.acceptAll (child :: children) opened).file ++
          (tail ++ (ascii "</" ++
            ((Printer.acceptAll (child :: children) opened).stack.headD [] ++
              ascii ">")) ++ behind) = _
        rw [file, stack, openedStack, bracket, openedFile]
        simp only [List.isEmpty_cons, Bool.false_eq_true, if_false,
          List.headD_cons, List.append_assoc, List.cons_append,
          List.nil_append]
        rfl
      · simp only [List.mem_append, List.mem_cons, not_or]
        exact ⟨noNulTag, by decide, ⟨content.noNul,
          nul_not_mem_spacing tailSpacing⟩, by decide,
          (lf_not_mem_name named).2, List.not_mem_nil, by decide,
          List.not_mem_nil⟩
      · rcases Nat.exists_eq_add_of_lt (nested (List.cons_ne_nil _ _)) with
          ⟨inside, rfl⟩
        have later := content.content tail tailSpacing alone
        rw [Nat.zero_add, Nat.add_sub_cancel] at later
        rw [stdio_append, @stdio_cons_of_ne (byte '>') crlf _ (by decide),
          stdio_append, stdio_append crlf (ascii "</"), stdio_append crlf name,
          stdio_of_not_mem crlf (lf_not_mem_name named).1, settle,
          @stdio_of_not_mem (ascii "</") crlf (by decide),
          @stdio_of_not_mem ([] ++ [byte '>']) crlf (by decide),
          Nat.zero_add]
        exact .element tag later blank_nil

theorem contentPrinted_nil (steady : Steady printer) :
    ContentPrinted ulong crlf levels [] printer [] := by
  refine ⟨⟨(List.append_nil _).symm, rfl, rfl, rfl, steady⟩, ?_,
    List.not_mem_nil, ?_, ?_⟩
  · exact (Bool.and_true _).symm
  · intro tail spacing _
    exact .blank (blank_of_spacing spacing)
  · intro beside _ tail alone code head
    rw [alone beside, List.append_nil, stdio_nil] at head
    cases head

/-- A text and the nodes behind it. -/
theorem contentPrinted_text
    {value body : Bytes}
    {nodes : List Node}
    (noNul : (0 : UInt8) ∉ value)
    (inside : printer.depth ≠ 0)
    (apart : ∀ node ∈ nodes.head?, ¬ IsText node)
    (content :
      ContentPrinted ulong crlf levels nodes
        (Printer.accept (.text false value) printer) body) :
    ContentPrinted ulong crlf levels (.text false value :: nodes) printer
      (value.flatMap (printByte true) ++ body) := by
  have accepted :
      Printer.accept (.text false value) printer =
        { printer with
          elementJustOpened := false
          textDepth := (printer.depth : Int) - 1 }.write
          (pending printer ++ value.flatMap (printByte true)) := by
    rw [Printer.accept, pushText_eq, takeWhile_of_nul_not_mem noNul]
    rfl
  have beside : 0 ≤ (Printer.accept (.text false value) printer).textDepth := by
    rw [accepted]
    show (0 : Int) ≤ (printer.depth : Int) - 1
    omega
  have bracket : pending (Printer.accept (.text false value) printer) = [] := by
    rw [accepted]
    rfl
  have closed :
      (Printer.accept (.text false value) printer).elementJustOpened =
        false := by
    rw [accepted]
    rfl
  have second := content.writes
  rw [bracket, ite_self, List.nil_append] at second
  refine ⟨⟨?_, ?_, ?_, ?_, second.steady⟩, ?_, ?_, ?_, ?_⟩
  · rw [Printer.acceptAll, second.file, accepted]
    simp only [Printer.write, List.isEmpty_cons, Bool.false_eq_true, if_false,
      List.append_assoc]
  · rw [Printer.acceptAll, second.depth, accepted]
    rfl
  · rw [Printer.acceptAll, second.stack, accepted]
    rfl
  · rw [Printer.acceptAll, second.compactMode, accepted]
    rfl
  · rw [Printer.acceptAll, content.opened, closed, Bool.false_and,
      List.isEmpty_cons, Bool.and_false]
  · simp only [List.mem_append, not_or]
    exact ⟨nul_not_mem_printed noNul, content.noNul⟩
  · intro tail spacing alone
    have later := content.content tail spacing alone
    rw [List.append_assoc, stdio_append, settleAll]
    by_cases blank : value.all isWhiteSpace = true
    · rw [isBlankText, if_pos blank]
      have isBlank : Blank (lexis ulong) value := List.all_eq_true.mp blank
      exact later.blank_append (blank_printed_iff.mpr isBlank)
        (settleAll_head apart)
    · rw [isBlankText, if_neg blank, settle]
      refine .text (not_mem_printed rfl (by decide) (by decide)) ?_
        (getStr_printed ulong crlf true noNul) later
        (content.next beside apart tail alone)
      exact fun isBlank =>
        blank (List.all_eq_true.mpr (blank_printed_iff.mp isBlank))
  · exact fun _ noText => absurd ⟨value, rfl⟩ (noText _ rfl)

/-- A node that is no text, and the nodes behind it. -/
theorem contentPrinted_markup
    {spaces text behind body : Bytes}
    {node : Node}
    {nodes : List Node}
    (noText : ¬ IsText node)
    (placed : printer.depth ≠ 0 ∨ ∀ other ∈ node :: nodes, ¬ IsText other)
    (printed :
      MarkupPrinted ulong crlf levels node printer spaces text behind)
    (content :
      ContentPrinted ulong crlf levels nodes (Printer.accept node printer)
        body) :
    ContentPrinted ulong crlf levels (node :: nodes) printer
      (spaces ++ (text ++ (behind ++ body))) := by
  have bracket : pending (Printer.accept node printer) = [] := by
    rw [pending, printed.closed]
    rfl
  have whole (tail : Bytes) :
      stdio crlf (spaces ++ (text ++ (behind ++ body)) ++ tail) =
        stdio crlf spaces ++ (stdio crlf text ++
          (stdio crlf behind ++ stdio crlf (body ++ tail))) := by
    simp only [stdio_append, List.append_assoc]
  have first := printed.writes
  have second := content.writes
  rw [bracket, ite_self, List.nil_append] at second
  refine ⟨⟨?_, second.depth.trans first.depth, second.stack.trans first.stack,
    second.compactMode.trans first.compactMode, second.steady⟩, ?_, ?_, ?_,
    ?_⟩
  · rw [Printer.acceptAll, second.file, first.file]
    simp only [List.isEmpty_cons, Bool.false_eq_true, if_false,
      List.append_assoc]
  · rw [Printer.acceptAll, content.opened, printed.closed, Bool.false_and,
      List.isEmpty_cons, Bool.and_false]
  · simp only [List.mem_append, not_or]
    exact ⟨nul_not_mem_spacing printed.spacing, printed.noNul,
      nul_not_mem_spacing printed.behindSpacing, content.noNul⟩
  · intro tail spacing alone
    have later := content.content tail spacing alone
    have behindThem :
        Content (lexis ulong) levels
          (stdio crlf behind ++ stdio crlf (body ++ tail))
          (settleAll crlf nodes) := by
      rcases placed with inner | noTexts
      · rw [printed.inner inner, stdio_nil]
        exact later
      · refine later.blank_append (blank_of_spacing printed.behindSpacing)
          (settleAll_head fun other head => ?_)
        exact noTexts other
          (List.mem_cons_of_mem node (List.mem_of_mem_head? head))
    rw [whole, settleAll_cons_of_not_text noText]
    exact .markup (blank_of_spacing printed.spacing) printed.marked behindThem
  · intro beside _ tail _ code head
    rcases exists_mark_of_markup printed.marked with ⟨next, others, shape⟩
    rw [whole, printed.beside beside, stdio_nil, shape] at head
    exact (Option.some.inj head).symm

mutual

theorem accept_markup
    {levels : Nat}
    {printer : Printer}
    (node : Node)
    (printable : Printable ulong levels node)
    (noText : ¬ IsText node)
    (steady : Steady printer) :
    ∃ spaces text behind,
      MarkupPrinted ulong crlf levels node printer spaces text behind := by
  match node with
  | .comment value =>
      rcases accept_comment steady printable.1 printable.2 with
        ⟨spaces, printed⟩
      exact ⟨spaces, _, [], printed⟩
  | .unknown value =>
      rcases accept_unknown steady printable.1 printable.2.1 printable.2.2.1
          printable.2.2.2 with
        ⟨spaces, printed⟩
      exact ⟨spaces, _, [], printed⟩
  | .text true value =>
      exact ⟨[], _, [], accept_cData steady printable.1 printable.2⟩
  | .text false value => exact absurd ⟨value, rfl⟩ noText
  | .declaration value => exact printable.elim
  | .element name attributes children =>
      rcases printable with ⟨named, attribs, distinct, nested⟩
      refine accept_element steady named attribs distinct ?_
        fun inhabited => (nested inhabited).1
      intro opened deeper openedSteady
      have inside : PrintableAll ulong (levels - 1) children := by
        by_cases empty : children = []
        · rw [empty]
          trivial
        · exact (nested empty).2
      exact acceptAll_content children inside openedSteady (.inl deeper)

theorem acceptAll_content
    {levels : Nat}
    {printer : Printer}
    (nodes : List Node)
    (printable : PrintableAll ulong levels nodes)
    (steady : Steady printer)
    (placed : printer.depth ≠ 0 ∨ ∀ node ∈ nodes, ¬ IsText node) :
    ∃ body, ContentPrinted ulong crlf levels nodes printer body := by
  match nodes with
  | [] => exact ⟨[], contentPrinted_nil steady⟩
  | node :: nodes =>
      rcases printable with ⟨first, others, apart⟩
      by_cases isText : IsText node
      · rcases isText with ⟨value, rfl⟩
        have inside : printer.depth ≠ 0 :=
          placed.resolve_right fun noText =>
            noText _ List.mem_cons_self ⟨value, rfl⟩
        rcases @acceptAll_content levels (Printer.accept (.text false value)
            printer) nodes others
            (by rw [Printer.accept, pushText_eq]; exact steady)
            (.inl (by rw [Printer.accept, pushText_eq]; exact inside)) with
          ⟨body, content⟩
        exact ⟨_, contentPrinted_text first inside (apart ⟨value, rfl⟩) content⟩
      · rcases accept_markup node first isText steady with
          ⟨spaces, text, behind, printed⟩
        have outside :
            (Printer.accept node printer).depth ≠ 0 ∨
              ∀ other ∈ nodes, ¬ IsText other := by
          rw [printed.writes.depth]
          exact placed.imp_right fun noText other member =>
            noText other (List.mem_cons_of_mem node member)
        rcases acceptAll_content nodes others printed.writes.steady outside
          with ⟨body, content⟩
        exact ⟨_, contentPrinted_markup isText placed printed content⟩

end

end Nodes

end DebuggerDap.Persistence.XmlWriting
