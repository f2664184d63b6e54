import DebuggerDap.Persistence.XmlParser
import Mathlib.Data.List.TakeWhile

/-!
# The parser reads every XML text

A text of the grammar is read to the nodes it stands for.  The loop over the
children of a node moves from one node to the next: where it stands, less than
its fuel of the text is left.
-/

namespace DebuggerDap.Persistence.XmlReading

open DebuggerDap.Library.Bytes
open DebuggerDap.Library.XmlGrammar
open DebuggerDap.Persistence.XmlParser

/-- What the parser makes of bytes and of pieces of text. -/
def lexis (ulong : Nat) : Lexis where
  space := isWhiteSpace
  nameStart := isNameStartChar
  nameByte := isNameChar
  value raw value := getStr ulong true raw = value
  verbatim raw value := getStr ulong false raw = value

/-! ## Bytes -/

theorem forall_bytes
    {property : UInt8 → Prop}
    (all : ∀ number < 256, property (UInt8.ofNat number))
    (code : UInt8) : property code := by
  have byNumber := all code.toNat code.toNat_lt
  rwa [UInt8.ofNat_toNat] at byNumber

theorem isNameChar_of_isWhiteSpace
    {code : UInt8}
    (space : isWhiteSpace code = true) : isNameChar code = false :=
  @forall_bytes
    (fun code => isWhiteSpace code = true → isNameChar code = false)
    (by decide +kernel) code space

section Blanks

variable {ulong : Nat} {blank rest : Bytes}

theorem skipWhiteSpace_cons
    {code : UInt8}
    (visible : isWhiteSpace code = false) :
    skipWhiteSpace (code :: rest) = code :: rest :=
  List.dropWhile_cons_of_neg (by rw [visible]; exact Bool.false_ne_true)

theorem skipWhiteSpace_blank
    (isBlank : Blank (lexis ulong) blank)
    (rest : Bytes) :
    skipWhiteSpace (blank ++ rest) = skipWhiteSpace rest :=
  List.dropWhile_append_of_pos isBlank

theorem skipWhiteSpace_eq_nil
    (isBlank : Blank (lexis ulong) blank) : skipWhiteSpace blank = [] := by
  have skipped := skipWhiteSpace_blank isBlank []
  rwa [List.append_nil] at skipped

/-- Where a text is visible, it is its first visible byte that is found. -/
theorem exists_visible
    (visible : ¬ Blank (lexis ulong) rest) :
    ∃ code others,
      skipWhiteSpace rest = code :: others ∧ code ∈ rest ∧
        isWhiteSpace code = false := by
  cases shape : skipWhiteSpace rest with
  | nil => exact absurd (List.dropWhile_eq_nil_iff.mp shape) visible
  | cons code others =>
      refine ⟨code, others, rfl, ?_, ?_⟩
      · have kept : code ∈ skipWhiteSpace rest := by
          rw [shape]
          exact List.mem_cons_self
        exact (List.dropWhile_sublist _).mem kept
      · have first := List.head?_dropWhile_not isWhiteSpace rest
        rw [show rest.dropWhile isWhiteSpace = code :: others from shape]
          at first
        simpa using first

end Blanks

/-! ## Pieces of the text -/

section Pieces

variable {raw rest stop : Bytes}

theorem parseText_cons_of_not_prefix
    {code : UInt8}
    (apart : ¬ stop <+: code :: rest) :
    parseText stop (code :: rest) =
      (parseText stop rest).map fun result =>
        (code :: result.1, result.2) := by
  rw [parseText, if_neg fun same => apart (List.isPrefixOf_iff_prefix.mp same)]

/-- A text is cut off at the first mark. -/
theorem parseText_of_unbroken
    (marked : stop ≠ [])
    (unbroken : Unbroken stop raw)
    (rest : Bytes) :
    parseText stop (raw ++ (stop ++ rest)) = some (raw, rest) := by
  induction raw with
  | nil =>
      cases stop with
      | nil => exact absurd rfl marked
      | cons code stop =>
          have found : (code :: stop).isPrefixOf (code :: (stop ++ rest)) :=
            List.isPrefixOf_iff_prefix.mpr ⟨rest, rfl⟩
          rw [List.nil_append, List.cons_append, parseText, if_pos found]
          exact congrArg (fun tail => some ([], tail)) List.drop_left
  | cons code raw inductionHypothesis =>
      have apart : ¬ stop <+: code :: (raw ++ (stop ++ rest)) := by
        intro isPrefix
        refine unbroken 0 (Nat.succ_pos _)
          (List.prefix_of_prefix_length_le isPrefix
            ⟨rest, by simp⟩ ?_)
        rw [List.drop_zero, List.length_append]
        exact Nat.le_add_left _ _
      have later : Unbroken stop raw :=
        fun count bound =>
          unbroken (count + 1) (Nat.succ_lt_succ bound)
      rw [List.cons_append, parseText_cons_of_not_prefix apart,
        inductionHypothesis later]
      rfl

theorem unbroken_of_not_mem
    {mark : UInt8}
    (inside : mark ∉ raw) : Unbroken [mark] raw := by
  intro count bound isPrefix
  have first : mark ∈ (raw.drop count).head? := by
    rw [List.drop_append_of_le_length (Nat.le_of_lt bound)] at isPrefix
    cases shape : raw.drop count with
    | nil => exact absurd (List.drop_eq_nil_iff.mp shape) (by omega)
    | cons code others =>
        rw [shape] at isPrefix
        exact congrArg some (List.cons_prefix_cons.mp isPrefix).1.symm
  exact inside (List.mem_of_mem_drop (List.mem_of_mem_head? first))

theorem parseText_of_not_mem
    {mark : UInt8}
    (inside : mark ∉ raw)
    (rest : Bytes) :
    parseText [mark] (raw ++ mark :: rest) = some (raw, rest) :=
  parseText_of_unbroken (List.cons_ne_nil _ _) (unbroken_of_not_mem inside) rest

/-- A name ends where the text goes on with another byte. -/
theorem parseName_append
    {ulong : Nat}
    {name : Bytes}
    (named : IsName (lexis ulong) name)
    (ends : ∀ code ∈ rest.head?, isNameChar code = false) :
    parseName (name ++ rest) = some (name, rest) := by
  cases name with
  | nil => exact absurd named.start Bool.false_ne_true
  | cons first others =>
      have stops : rest.takeWhile isNameChar = [] := by
        cases rest with
        | nil => rfl
        | cons code rest =>
            rw [List.takeWhile_cons, ends code rfl]
            rfl
      have stays : rest.dropWhile isNameChar = rest := by
        cases rest with
        | nil => rfl
        | cons code rest =>
            rw [List.dropWhile_cons, ends code rfl]
            rfl
      have start : isNameStartChar first = true := named.start
      have inside : ∀ code ∈ others, isNameChar code = true := named.others
      rw [List.cons_append, parseName, if_pos start,
        List.takeWhile_append_of_pos inside,
        List.dropWhile_append_of_pos inside, stops, stays, List.append_nil]

end Pieces

/-! ## Tags -/

section Tags

variable {ulong : Nat}

/-- The end of a tag: whether it closes the element, and what follows. -/
inductive TagEnd : Bytes → Bool → Bytes → Prop
  | opened (rest : Bytes) : TagEnd (byte '>' :: rest) false rest
  | closed (rest : Bytes) : TagEnd (byte '/' :: byte '>' :: rest) true rest

/-- The name of a tag, or of an attribute, ends in front of a blank. -/
theorem notName_blank
    {blank rest : Bytes}
    (isBlank : Blank (lexis ulong) blank)
    (ends : ∀ code ∈ rest.head?, isNameChar code = false) :
    ∀ code ∈ (blank ++ rest).head?, isNameChar code = false := by
  cases blank with
  | nil => exact ends
  | cons first others =>
      intro code head
      cases Option.some.inj head
      exact isNameChar_of_isWhiteSpace (isBlank first List.mem_cons_self)

theorem isNameStartChar_head
    {name : Bytes}
    (named : IsName (lexis ulong) name) :
    ∃ first others, name = first :: others ∧ isNameStartChar first = true := by
  cases name with
  | nil => exact absurd named.start Bool.false_ne_true
  | cons first others => exact ⟨first, others, rfl, named.start⟩

theorem isWhiteSpace_of_isNameStartChar
    {code : UInt8}
    (start : isNameStartChar code = true) : isWhiteSpace code = false := by
  cases space : isWhiteSpace code with
  | false => rfl
  | true =>
      have noName := isNameChar_of_isWhiteSpace space
      rw [isNameChar, start] at noName
      cases noName

theorem parseAttribute_append
    {name before after raw rest : Bytes}
    {quote : UInt8}
    (named : IsName (lexis ulong) name)
    (beforeBlank : Blank (lexis ulong) before)
    (afterBlank : Blank (lexis ulong) after)
    (quoted : quote = byte '"' ∨ quote = byte '\x27')
    (inside : quote ∉ raw) :
    parseAttribute ulong
        (name ++ (before ++ byte '=' ::
          (after ++ quote :: (raw ++ quote :: rest)))) =
      some ((name, getStr ulong true raw), rest) := by
  have noName : ∀ code ∈
      (before ++ byte '=' :: (after ++ quote :: (raw ++ quote :: rest))).head?,
      isNameChar code = false := by
    refine notName_blank beforeBlank fun code head => ?_
    cases Option.some.inj head
    rfl
  have visible : isWhiteSpace quote = false := by
    rcases quoted with rfl | rfl <;> rfl
  have isQuote : ¬ (quote ≠ byte '"' ∧ quote ≠ byte '\x27') :=
    fun both => quoted.elim both.1 both.2
  simp only [parseAttribute, parseName_append named noName,
    skipWhiteSpace_blank beforeBlank, skipWhiteSpace_blank afterBlank,
    skipWhiteSpace_cons (show isWhiteSpace (byte '=') = false from rfl),
    skipWhiteSpace_cons visible, if_neg isQuote,
    parseText_of_not_mem inside, ne_eq, not_true_eq_false, if_false]
  rfl

theorem parseAttributes_end
    {blank tail rest : Bytes}
    {closed : Bool}
    (isBlank : Blank (lexis ulong) blank)
    (ends : TagEnd tail closed rest)
    (fuel : Nat)
    (attributes : List (Bytes × Bytes)) :
    parseAttributes ulong (fuel + 1) attributes (blank ++ tail) =
      .ok (attributes, closed, rest) := by
  rw [parseAttributes, skipWhiteSpace_blank isBlank]
  cases ends <;> rfl

/-- The attributes of a tag are read up to its end. -/
theorem parseAttributes_append
    {text tail rest : Bytes}
    {attributes before : List (Bytes × Bytes)}
    {closed : Bool}
    {fuel : Nat}
    (written : Attributes (lexis ulong) text attributes)
    (ends : TagEnd tail closed rest)
    (distinct : ((before ++ attributes).map Prod.fst).Nodup)
    (enough : text.length < fuel) :
    parseAttributes ulong fuel before (text ++ tail) =
      .ok (before ++ attributes, closed, rest) := by
  induction written generalizing before fuel with
  | nil isBlank =>
      cases fuel with
      | zero => exact absurd enough (Nat.not_lt_zero _)
      | succ fuel =>
          rw [List.append_nil]
          exact parseAttributes_end isBlank ends fuel before
  | @cons blank name left right raw value later quote attributes isBlank
      separated named leftBlank rightBlank quoted inside stands others
      inductionHypothesis =>
      cases fuel with
      | zero => exact absurd enough (Nat.not_lt_zero _)
      | succ fuel =>
          have fresh : name ∉ before.map Prod.fst := by
            rw [List.map_append, List.nodup_append] at distinct
            exact fun member =>
              distinct.2.2 name member name List.mem_cons_self rfl
          have stood : getStr ulong true raw = value := stands
          have read := @parseAttribute_append ulong name left right raw
            (later ++ tail) quote named leftBlank rightBlank quoted inside
          rw [stood] at read
          have others := @inductionHypothesis (before ++ [(name, value)]) fuel
            (by rw [List.append_assoc]; exact distinct)
            (by simp only [List.length_append, List.length_cons] at enough
                omega)
          rcases isNameStartChar_head named with ⟨first, letters, rfl, start⟩
          have shape :
              blank ++ (first :: letters ++ (left ++ byte '=' ::
                  (right ++ quote :: (raw ++ quote :: later)))) ++ tail =
                blank ++ (first :: (letters ++ (left ++ byte '=' ::
                  (right ++ quote :: (raw ++ quote :: (later ++ tail)))))) := by
            simp only [List.append_assoc, List.cons_append]
          rw [List.cons_append] at read
          rw [shape, parseAttributes, skipWhiteSpace_blank isBlank,
            skipWhiteSpace_cons (isWhiteSpace_of_isNameStartChar start)]
          simp only [if_pos start, read, if_neg fresh, others,
            List.append_assoc, List.cons_append, List.nil_append]

/-- The tag of an element is read up to its end. -/
theorem parseTag_append
    {text name tail rest : Bytes}
    {attributes : List (Bytes × Bytes)}
    {closed : Bool}
    (tag : Tag (lexis ulong) text name attributes)
    (ends : TagEnd tail closed rest) :
    ∃ head,
      text ++ tail = byte '<' :: head ∧
        parseTag ulong head =
          .ok
            { name := name
              attributes := attributes
              closingType := if closed then .closed else .open
              rest := rest } := by
  rcases tag.written with ⟨others, rfl, written⟩
  rcases isNameStartChar_head tag.named with ⟨first, letters, shape, start⟩
  refine ⟨name ++ (others ++ tail), by simp, ?_⟩
  have noName : ∀ code ∈ (others ++ tail).head?, isNameChar code = false := by
    have mark : ∀ code ∈ tail.head?, isNameChar code = false := by
      cases ends
      all_goals
        intro code head
        cases Option.some.inj head
        rfl
    cases written with
    | nil isBlank => exact notName_blank isBlank mark
    | @cons blank _ _ _ _ _ _ _ _ isBlank separated =>
        cases blank with
        | nil => exact absurd rfl separated
        | cons space blank =>
            intro code head
            cases Option.some.inj head
            exact isNameChar_of_isWhiteSpace
              (isBlank space List.mem_cons_self)
  have skipped :
      skipWhiteSpace (name ++ (others ++ tail)) =
        name ++ (others ++ tail) := by
    rw [shape]
    exact skipWhiteSpace_cons (isWhiteSpace_of_isNameStartChar start)
  have notClosing :
      ¬ (name ++ (others ++ tail)).head? = some (byte '/') := by
    rw [shape]
    rintro same
    rw [Option.some.inj same] at start
    exact absurd start (by decide)
  have read := @parseAttributes_append ulong others tail rest attributes []
    closed ((others ++ tail).length + 1) written ends tag.distinct
    (by rw [List.length_append]; omega)
  simp only [parseTag, skipped, notClosing, if_false,
    parseName_append tag.named noName, read, List.nil_append]

/-- The end tag of an element. -/
theorem parseTag_closing
    {name blank rest : Bytes}
    (named : IsName (lexis ulong) name)
    (isBlank : Blank (lexis ulong) blank) :
    parseTag ulong
        (byte '/' :: (name ++ (blank ++ byte '>' :: rest))) =
      .ok
        { name := name
          attributes := []
          closingType := .closing
          rest := rest } := by
  have noName :
      ∀ code ∈ (blank ++ byte '>' :: rest).head?, isNameChar code = false := by
    refine notName_blank isBlank fun code head => ?_
    cases Option.some.inj head
    rfl
  have read := parseAttributes_end isBlank (.opened rest)
    (blank ++ byte '>' :: rest).length []
  have skipped := @skipWhiteSpace_cons
    (name ++ (blank ++ byte '>' :: rest)) (byte '/') rfl
  simp only [parseTag, skipped, List.head?_cons, if_true,
    List.drop_succ_cons, List.drop_zero, parseName_append named noName, read,
    Bool.false_eq_true, if_false]

end Tags

/-! ## Nodes -/

section Nodes

variable {ulong : Nat} {blank raw rest : Bytes}

theorem prefix_of_prefix_mark
    {mark : UInt8}
    {pattern : Bytes}
    (apart : mark ∉ pattern)
    (isPrefix : pattern <+: raw ++ mark :: rest) : pattern <+: raw := by
  rcases Nat.lt_or_ge raw.length pattern.length with longer | shorter
  · have cut : raw ++ [mark] <+: pattern := by
      have inText : raw ++ [mark] <+: raw ++ mark :: rest :=
        ⟨rest, by rw [List.append_assoc]; rfl⟩
      refine List.prefix_of_prefix_length_le inText isPrefix ?_
      rw [List.length_append]
      exact longer
    exact absurd (cut.subset (List.mem_append_right raw List.mem_cons_self))
      apart
  · exact List.prefix_of_prefix_length_le isPrefix (List.prefix_append _ _)
      shorter

theorem identify_declaration
    (isBlank : Blank (lexis ulong) blank)
    (rest : Bytes) :
    identify (blank ++ (ascii "<?" ++ rest)) = some (.declaration, rest) := by
  rw [identify, skipWhiteSpace_blank isBlank]
  rfl

theorem identify_comment
    (isBlank : Blank (lexis ulong) blank)
    (rest : Bytes) :
    identify (blank ++ (ascii "<!--" ++ rest)) = some (.comment, rest) := by
  rw [identify, skipWhiteSpace_blank isBlank]
  rfl

theorem identify_cData
    (isBlank : Blank (lexis ulong) blank)
    (rest : Bytes) :
    identify (blank ++ (ascii "<![CDATA[" ++ rest)) =
      some (.cData, rest) := by
  rw [identify, skipWhiteSpace_blank isBlank]
  rfl

theorem identify_unknown
    (isBlank : Blank (lexis ulong) blank)
    (noComment : ¬ ascii "--" <+: rest)
    (noCData : ¬ ascii "[CDATA[" <+: rest) :
    identify (blank ++ (ascii "<!" ++ rest)) = some (.unknown, rest) := by
  have apart
      {pattern others : Bytes}
      (shape : pattern = ascii "<!" ++ others)
      (none : ¬ others <+: rest) :
      ¬ pattern.isPrefixOf (ascii "<!" ++ rest) = true := by
    intro same
    rw [shape] at same
    exact none ((List.prefix_append_right_inj _).mp
      (List.isPrefixOf_iff_prefix.mp same))
  have start : skipWhiteSpace (ascii "<!" ++ rest) = ascii "<!" ++ rest := rfl
  rw [identify, skipWhiteSpace_blank isBlank, start,
    if_neg (show ascii "<!" ++ rest ≠ [] from List.cons_ne_nil _ _),
    if_neg (show ¬ (ascii "<?").isPrefixOf (ascii "<!" ++ rest) = true from
      Bool.false_ne_true),
    if_neg (apart (rfl : ascii "<!--" = _ ++ ascii "--") noComment),
    if_neg (apart (rfl : ascii "<![CDATA[" = _ ++ ascii "[CDATA[") noCData)]
  rfl

theorem identify_element
    {first : UInt8}
    (isBlank : Blank (lexis ulong) blank)
    (noDeclaration : first ≠ byte '?')
    (noUnknown : first ≠ byte '!')
    (rest : Bytes) :
    identify (blank ++ byte '<' :: first :: rest) =
      some (.element, first :: rest) := by
  have apart
      {mark : UInt8}
      {pattern others : Bytes}
      (shape : pattern = byte '<' :: mark :: others)
      (differs : first ≠ mark) :
      ¬ pattern.isPrefixOf (byte '<' :: first :: rest) = true := by
    intro same
    rw [shape] at same
    have isPrefix := List.isPrefixOf_iff_prefix.mp same
    exact differs (List.cons_prefix_cons.mp
      (List.cons_prefix_cons.mp isPrefix).2).1.symm
  have start :
      skipWhiteSpace (byte '<' :: first :: rest) =
        byte '<' :: first :: rest :=
    rfl
  rw [identify, skipWhiteSpace_blank isBlank, start,
    if_neg (List.cons_ne_nil _ _),
    if_neg (apart (rfl : ascii "<?" = _) noDeclaration),
    if_neg (apart (rfl : ascii "<!--" = _) noUnknown),
    if_neg (apart (rfl : ascii "<![CDATA[" = _) noUnknown),
    if_neg (apart (rfl : ascii "<!" = _) noUnknown)]
  rfl

theorem identify_text
    (inside : byte '<' ∉ raw)
    (visible : ¬ Blank (lexis ulong) raw)
    (rest : Bytes) :
    identify (raw ++ rest) = some (.text, raw ++ rest) := by
  rcases exists_visible visible with ⟨code, others, shape, member, -⟩
  have start : skipWhiteSpace (raw ++ rest) = code :: (others ++ rest) := by
    rw [skipWhiteSpace, List.dropWhile_append, ← skipWhiteSpace, shape]
    rfl
  have apart
      {pattern marks : Bytes}
      (shape : pattern = byte '<' :: marks) :
      ¬ pattern.isPrefixOf (code :: (others ++ rest)) = true := by
    intro same
    rw [shape] at same
    have isPrefix := List.isPrefixOf_iff_prefix.mp same
    exact inside ((List.cons_prefix_cons.mp isPrefix).1 ▸ member)
  rw [identify, start, if_neg (List.cons_ne_nil _ _),
    if_neg (apart (rfl : ascii "<?" = _)),
    if_neg (apart (rfl : ascii "<!--" = _)),
    if_neg (apart (rfl : ascii "<![CDATA[" = _)),
    if_neg (apart (rfl : ascii "<!" = _)),
    if_neg (apart (rfl : ascii "<" = _))]

theorem identify_blank
    (isBlank : Blank (lexis ulong) blank) : identify blank = none := by
  rw [identify, skipWhiteSpace_eq_nil isBlank]
  rfl

end Nodes

/-! ## Steps of the loop -/

section Steps

variable
  {ulong fuel depth : Nat}
  {document : Bool}
  {children : List Node}
  {blank raw rest : Bytes}

theorem parseDeep_comment
    (isBlank : Blank (lexis ulong) blank)
    (unbroken : Unbroken (ascii "-->") raw) :
    parseDeep ulong (fuel + 1) depth document children
        (blank ++ (ascii "<!--" ++ (raw ++ (ascii "-->" ++ rest)))) =
      parseDeep ulong fuel depth document
        (children ++ [.comment (getStr ulong false raw)]) rest := by
  have cut := parseText_of_unbroken (by decide) unbroken rest
  simp only [parseDeep, identify_comment isBlank, cut]

theorem parseDeep_cData
    (isBlank : Blank (lexis ulong) blank)
    (unbroken : Unbroken (ascii "]]>") raw) :
    parseDeep ulong (fuel + 1) depth document children
        (blank ++ (ascii "<![CDATA[" ++ (raw ++ (ascii "]]>" ++ rest)))) =
      parseDeep ulong fuel depth document
        (children ++ [.text true (getStr ulong false raw)]) rest := by
  have cut := parseText_of_unbroken (by decide) unbroken rest
  simp only [parseDeep, identify_cData isBlank, cut]

theorem parseDeep_unknown
    (isBlank : Blank (lexis ulong) blank)
    (inside : byte '>' ∉ raw)
    (noComment : ¬ ascii "--" <+: raw)
    (noCData : ¬ ascii "[CDATA[" <+: raw) :
    parseDeep ulong (fuel + 1) depth document children
        (blank ++ (ascii "<!" ++ (raw ++ byte '>' :: rest))) =
      parseDeep ulong fuel depth document
        (children ++ [.unknown (getStr ulong false raw)]) rest := by
  have identified :=
    @identify_unknown ulong blank (raw ++ byte '>' :: rest) isBlank
      (fun same => noComment (prefix_of_prefix_mark (by decide) same))
      (fun same => noCData (prefix_of_prefix_mark (by decide) same))
  have cut : parseText (ascii ">") (raw ++ byte '>' :: rest) =
      some (raw, rest) :=
    parseText_of_not_mem inside rest
  simp only [parseDeep, identified, cut]

/-- Declarations come before all other nodes of a document. -/
theorem parseDeep_declaration
    (isBlank : Blank (lexis ulong) blank)
    (unbroken : Unbroken (ascii "?>") raw)
    (located : ∀ node ∈ children, isDeclaration node = true) :
    parseDeep ulong (fuel + 1) depth true children
        (blank ++ (ascii "<?" ++ (raw ++ (ascii "?>" ++ rest)))) =
      parseDeep ulong fuel depth true
        (children ++ [.declaration (getStr ulong false raw)]) rest := by
  have cut := parseText_of_unbroken (by decide) unbroken rest
  have first : children.head?.all isDeclaration = true := by
    cases children with
    | nil => rfl
    | cons node children => exact located node List.mem_cons_self
  have last : children.getLast?.all isDeclaration = true := by
    cases shape : children.getLast? with
    | none => rfl
    | some node => exact located node (List.mem_of_getLast? shape)
  simp only [parseDeep, identify_declaration isBlank, first, last, cut,
    and_self, if_true]

/-- A text ends where the next node begins. -/
theorem parseDeep_text
    (inside : byte '<' ∉ raw)
    (visible : ¬ Blank (lexis ulong) raw)
    (more : rest ≠ []) :
    parseDeep ulong (fuel + 1) depth document children
        (raw ++ byte '<' :: rest) =
      parseDeep ulong fuel depth document
        (children ++ [.text false (getStr ulong true raw)])
        (byte '<' :: rest) := by
  have cut : parseText (ascii "<") (raw ++ byte '<' :: rest) =
      some (raw, rest) :=
    parseText_of_not_mem inside rest
  cases rest with
  | nil => exact absurd rfl more
  | cons code rest =>
      simp only [parseDeep, identify_text inside visible, cut]

theorem parseDeep_blank (isBlank : Blank (lexis ulong) blank) :
    parseDeep ulong (fuel + 1) depth document children blank =
      .ok (children, none) := by
  simp only [parseDeep, identify_blank isBlank]

section Elements

variable {text name : Bytes} {attributes : List (Bytes × Bytes)}

theorem identify_tag
    {tail : Bytes}
    {closed : Bool}
    (isBlank : Blank (lexis ulong) blank)
    (tag : Tag (lexis ulong) text name attributes)
    (ends : TagEnd tail closed rest) :
    ∃ head,
      identify (blank ++ (text ++ tail)) = some (.element, head) ∧
        parseTag ulong head =
          .ok
            { name := name
              attributes := attributes
              closingType := if closed then .closed else .open
              rest := rest } := by
  rcases parseTag_append tag ends with ⟨head, shape, read⟩
  refine ⟨head, ?_, read⟩
  rcases tag.written with ⟨others, rfl, -⟩
  rcases isNameStartChar_head tag.named with ⟨first, letters, rfl, start⟩
  have same : head = first :: (letters ++ (others ++ tail)) := by
    rw [List.cons_append] at shape
    rw [← (List.cons.inj shape).2, List.append_assoc, List.cons_append]
  have apart (mark : UInt8) (noStart : isNameStartChar mark = false) :
      first ≠ mark := by
    rintro rfl
    rw [start] at noStart
    cases noStart
  rw [shape, same]
  exact identify_element isBlank (apart _ (by decide)) (apart _ (by decide)) _

theorem parseDeep_empty
    (isBlank : Blank (lexis ulong) blank)
    (tag : Tag (lexis ulong) text name attributes) :
    parseDeep ulong (fuel + 1) depth document children
        (blank ++ (text ++ byte '/' :: byte '>' :: rest)) =
      parseDeep ulong fuel depth document
        (children ++ [.element name attributes []]) rest := by
  rcases identify_tag isBlank tag (.closed rest) with
    ⟨head, identified, read⟩
  simp only [parseDeep, identified, read, if_true]

/-- An element with its end tag behind what is inside of it. -/
theorem parseDeep_element
    {body : Bytes}
    {inner : List Node}
    (isBlank : Blank (lexis ulong) blank)
    (tag : Tag (lexis ulong) text name attributes)
    (more : body ≠ [])
    (shallow : depth + 1 ≠ maxElementDepth)
    (inside :
      parseDeep ulong fuel (depth + 1) false [] body =
        .ok (inner, some (name, rest))) :
    parseDeep ulong (fuel + 1) depth document children
        (blank ++ (text ++ byte '>' :: body)) =
      parseDeep ulong fuel depth document
        (children ++ [.element name attributes inner]) rest := by
  rcases identify_tag isBlank tag (.opened body) with
    ⟨head, identified, read⟩
  simp only [parseDeep, identified, read, Bool.false_eq_true, if_false, more,
    shallow, inside, ne_eq, not_true_eq_false]

theorem parseDeep_endTag
    {before : Bytes}
    (beforeBlank : Blank (lexis ulong) before)
    (named : IsName (lexis ulong) name)
    (isBlank : Blank (lexis ulong) blank) :
    parseDeep ulong (fuel + 1) depth document children
        (before ++ (ascii "</" ++ (name ++ (blank ++ byte '>' :: rest)))) =
      .ok (children, some (name, rest)) := by
  have identified :=
    identify_element beforeBlank
      (show byte '/' ≠ byte '?' by decide) (show byte '/' ≠ byte '!' by decide)
      (name ++ (blank ++ byte '>' :: rest))
  have read := @parseTag_closing ulong name blank rest named isBlank
  have shape :
      ascii "</" ++ (name ++ (blank ++ byte '>' :: rest)) =
        byte '<' :: byte '/' :: (name ++ (blank ++ byte '>' :: rest)) :=
    rfl
  simp only [shape, parseDeep, identified, read]

end Elements

end Steps

/-! ## Documents -/

section Documents

variable {ulong : Nat}

/-- A text that goes on, if it does, with the mark of a node. -/
def Marked (text : Bytes) : Prop :=
  text = [] ∨ ∃ code others, text = byte '<' :: code :: others

theorem Marked.append
    {left right : Bytes}
    (leftMarked : Marked left)
    (rightMarked : Marked right) : Marked (left ++ right) := by
  rcases leftMarked with rfl | ⟨code, others, rfl⟩
  · exact rightMarked
  · exact .inr ⟨code, others ++ right, rfl⟩

/-- The text of a node begins with its mark. -/
theorem exists_mark_of_markup
    {levels : Nat}
    {text : Bytes}
    {node : Node}
    (marked : Markup (lexis ulong) levels text node) :
    ∃ code others, text = byte '<' :: code :: others := by
  cases marked with
  | comment | cData | unknown => exact ⟨_, _, rfl⟩
  | empty tag | element tag =>
      rcases tag.written with ⟨others, rfl, -⟩
      rcases isNameStartChar_head tag.named with ⟨first, letters, rfl, -⟩
      exact ⟨first, _, rfl⟩

theorem marked_of_content
    {levels : Nat}
    {text : Bytes}
    {nodes : List Node}
    (content : Content (lexis ulong) levels text nodes)
    (begins : ∀ code ∈ text.head?, code = byte '<') : Marked text := by
  have noBlank
      {blank rest : Bytes}
      (isBlank : Blank (lexis ulong) blank)
      (first : ∀ code ∈ (blank ++ rest).head?, code = byte '<') :
      blank = [] := by
    cases blank with
    | nil => rfl
    | cons code blank =>
        have space : isWhiteSpace code = true :=
          isBlank code List.mem_cons_self
        rw [first code rfl] at space
        exact absurd space (by decide)
  cases content with
  | blank isBlank =>
      rw [← List.append_nil text] at begins
      exact .inl (noBlank isBlank begins)
  | @markup _ blank text rest _ _ isBlank marked =>
      rw [noBlank isBlank begins]
      rcases exists_mark_of_markup marked with ⟨code, others, rfl⟩
      exact .inr ⟨code, others ++ rest, rfl⟩
  | @text _ raw _ _ _ inside visible =>
      cases raw with
      | nil => exact absurd blank_nil visible
      | cons code raw =>
          exact absurd (begins code rfl ▸ List.mem_cons_self) inside

mutual

theorem parseDeep_of_markup
    {levels fuel depth : Nat}
    {document : Bool}
    {children : List Node}
    {text blank rest : Bytes}
    {node : Node}
    (marked : Markup (lexis ulong) levels text node)
    (isBlank : Blank (lexis ulong) blank)
    (shallow : depth + levels < maxElementDepth)
    (enough : text.length + rest.length ≤ fuel) :
    parseDeep ulong (fuel + 1) depth document children
        (blank ++ (text ++ rest)) =
      parseDeep ulong fuel depth document (children ++ [node]) rest := by
  cases marked with
  | comment unbroken stands =>
      rw [← show getStr ulong false _ = _ from stands]
      simp only [List.append_assoc]
      exact parseDeep_comment isBlank unbroken
  | cData unbroken stands =>
      rw [← show getStr ulong false _ = _ from stands]
      simp only [List.append_assoc]
      exact parseDeep_cData isBlank unbroken
  | unknown inside noComment noCData stands =>
      rw [← show getStr ulong false _ = _ from stands]
      simp only [List.append_assoc]
      exact parseDeep_unknown isBlank inside noComment noCData
  | empty tag =>
      simp only [List.append_assoc]
      exact parseDeep_empty isBlank tag
  | @element levels opening name body after attributes inner tag content
      afterBlank =>
      have shape :
          opening ++ byte '>' :: (body ++ (ascii "</" ++
              (name ++ (after ++ [byte '>'])))) ++ rest =
            opening ++ byte '>' :: (body ++ (ascii "</" ++
              (name ++ (after ++ byte '>' :: rest)))) := by
        simp only [List.append_assoc, List.cons_append, List.nil_append]
      have long : 0 < opening.length := by
        rcases tag.written with ⟨others, rfl, -⟩
        exact Nat.succ_pos _
      have whole := congrArg List.length shape
      simp only [List.length_append, List.length_cons] at whole enough
      rcases @parseDeep_of_content levels fuel (depth + 1) false [] body
          (ascii "</" ++ (name ++ (after ++ byte '>' :: rest))) inner content
          (by omega)
          (by simp only [List.length_append, List.length_cons]; omega)
          (.inr ⟨byte '/', _, rfl⟩)
          (fun empty => absurd empty (List.cons_ne_nil _ _)) with
        ⟨left, between, betweenBlank, leftEnough, inside⟩
      rcases Nat.exists_eq_add_of_lt leftEnough with ⟨left, rfl⟩
      rw [shape]
      refine parseDeep_element isBlank tag ?_ (by omega) ?_
      · cases body <;> exact List.cons_ne_nil _ _
      · rw [inside, List.nil_append]
        exact parseDeep_endTag betweenBlank tag.named afterBlank

/-- The loop over the nodes of a content, which leaves at most blanks. -/
theorem parseDeep_of_content
    {levels fuel depth : Nat}
    {document : Bool}
    {children : List Node}
    {text tail : Bytes}
    {nodes : List Node}
    (content : Content (lexis ulong) levels text nodes)
    (shallow : depth + levels < maxElementDepth)
    (enough : (text ++ tail).length < fuel)
    (next : Marked tail)
    (closed : tail = [] → ∀ value, Node.text false value ∉ nodes) :
    ∃ left blank,
      Blank (lexis ulong) blank ∧ (blank ++ tail).length < left ∧
        parseDeep ulong fuel depth document children (text ++ tail) =
          parseDeep ulong left depth document (children ++ nodes)
            (blank ++ tail) := by
  cases content with
  | blank isBlank =>
      refine ⟨fuel, text, isBlank, enough, ?_⟩
      rw [List.append_nil]
  | @markup _ blank text rest node nodes isBlank marked others =>
      cases fuel with
      | zero => exact absurd enough (Nat.not_lt_zero _)
      | succ fuel =>
          simp only [List.length_append] at enough
          have step :=
            @parseDeep_of_markup levels fuel depth document children text
              blank (rest ++ tail) node marked isBlank shallow
              (by rw [List.length_append]; omega)
          have long : 0 < text.length := by
            rcases exists_mark_of_markup marked with ⟨code, others, rfl⟩
            exact Nat.succ_pos _
          rcases @parseDeep_of_content levels fuel depth document
              (children ++ [node]) rest tail nodes others shallow
              (by rw [List.length_append]; omega) next
              (fun empty value member =>
                closed empty value (List.mem_cons_of_mem node member)) with
            ⟨left, between, betweenBlank, leftEnough, later⟩
          refine ⟨left, between, betweenBlank, leftEnough, ?_⟩
          rw [List.append_assoc] at later
          rw [List.append_assoc, List.append_assoc, step, later]
          rfl
  | @text _ raw value rest nodes inside visible stands others begins =>
      have stood : getStr ulong true raw = value := stands
      cases fuel with
      | zero => exact absurd enough (Nat.not_lt_zero _)
      | succ fuel =>
          have long : 0 < raw.length :=
            List.length_pos_of_ne_nil fun empty =>
              visible (empty ▸ blank_nil)
          -- The node behind the text, or the tail, begins with a mark.
          have mark := (marked_of_content others begins).append next
          rcases mark with empty | ⟨code, more, shape⟩
          · exact absurd List.mem_cons_self
              (closed (List.append_eq_nil_iff.mp empty).2 _)
          · simp only [List.length_append] at enough
            rcases @parseDeep_of_content levels fuel depth document
                (children ++ [.text false value]) rest tail nodes others
                shallow (by rw [List.length_append]; omega) next
                (fun empty value member =>
                  closed empty value (List.mem_cons_of_mem _ member)) with
              ⟨left, between, betweenBlank, leftEnough, later⟩
            refine ⟨left, between, betweenBlank, leftEnough, ?_⟩
            rw [List.append_assoc] at later
            rw [List.append_assoc, shape,
              parseDeep_text inside visible (List.cons_ne_nil code more),
              stood, ← shape, later]
            rfl

end

theorem parseDeep_of_document
    {levels fuel : Nat}
    {children : List Node}
    {text : Bytes}
    {nodes : List Node}
    (document : Document (lexis ulong) levels text nodes)
    (located : ∀ node ∈ children, isDeclaration node = true)
    (shallow : 1 + levels < maxElementDepth)
    (enough : text.length < fuel) :
    parseDeep ulong fuel 1 true children text =
      .ok (children ++ nodes, none) := by
  induction document generalizing fuel children with
  | @content text nodes body noText =>
      rcases @parseDeep_of_content ulong levels fuel 1 true children text []
          nodes body shallow (by rwa [List.append_nil]) (.inl rfl)
          (fun _ => noText) with
        ⟨left, between, betweenBlank, leftEnough, read⟩
      rcases Nat.exists_eq_add_of_lt leftEnough with ⟨left, rfl⟩
      rw [List.append_nil, List.append_nil] at read
      rw [read, parseDeep_blank betweenBlank]
  | @declaration blank raw value rest nodes isBlank unbroken stands others
      inductionHypothesis =>
      have stood : getStr ulong false raw = value := stands
      cases fuel with
      | zero => exact absurd enough (Nat.not_lt_zero _)
      | succ fuel =>
          simp only [List.length_append] at enough
          have long : 0 < (ascii "<?").length := by decide
          have later := @inductionHypothesis fuel
            (children ++ [.declaration value])
            (fun node member => by
              rcases List.mem_append.mp member with old | new
              · exact located node old
              · rw [List.mem_singleton.mp new]
                rfl)
            (by omega)
          rw [parseDeep_declaration isBlank unbroken located, stood, later,
            List.append_assoc]
          rfl

/-- Blanks in front of a document do not belong to it. -/
theorem exists_front
    {levels : Nat}
    {text : Bytes}
    {nodes : List Node}
    (document : Document (lexis ulong) levels text nodes)
    (inhabited : nodes ≠ []) :
    ∃ code others,
      skipWhiteSpace text = byte '<' :: code :: others ∧
        Document (lexis ulong) levels (skipWhiteSpace text) nodes := by
  have visible (code : UInt8) (others : Bytes) :
      skipWhiteSpace (byte '<' :: code :: others) =
        byte '<' :: code :: others :=
    skipWhiteSpace_cons rfl
  cases document with
  | content body noText =>
      cases body with
      | blank => exact absurd rfl inhabited
      | text => exact absurd List.mem_cons_self (noText _)
      | @markup _ blank text rest node nodes isBlank marked others =>
          rcases exists_mark_of_markup marked with ⟨code, letters, rfl⟩
          have shape :
              skipWhiteSpace
                  (blank ++ (byte '<' :: code :: letters ++ rest)) =
                [] ++ (byte '<' :: code :: letters ++ rest) :=
            (skipWhiteSpace_blank isBlank _).trans (visible _ _)
          refine ⟨code, letters ++ rest, shape, ?_⟩
          rw [shape]
          exact .content (.markup blank_nil marked others) noText
  | @declaration blank raw value rest nodes isBlank unbroken stands others =>
      have shape :
          skipWhiteSpace
              (blank ++ (ascii "<?" ++ (raw ++ (ascii "?>" ++ rest)))) =
            [] ++ (ascii "<?" ++ (raw ++ (ascii "?>" ++ rest))) :=
        (skipWhiteSpace_blank isBlank _).trans (visible _ _)
      refine ⟨byte '?', raw ++ (ascii "?>" ++ rest), shape, ?_⟩
      rw [shape]
      exact .declaration blank_nil unbroken stands others

/-- How many elements can be open in each other: the document counts too. -/
def maxLevels : Nat :=
  maxElementDepth - 2

/--
`LoadFile` reads every document of the grammar that is not nested too deep,
behind a byte order mark or without.
-/
theorem loadFile_of_document
    {levels : Nat}
    {text : Bytes}
    {nodes : List Node}
    (document : Document (lexis ulong) levels text nodes)
    (inhabited : nodes ≠ [])
    (shallow : levels ≤ maxLevels)
    (noNul : (0 : UInt8) ∉ text)
    (marked : Bool) :
    loadFile ulong (some ((if marked then bom else []) ++ text)) =
      .ok { writeBOM := marked, children := nodes } := by
  have depth : 1 + levels < maxElementDepth := by
    rw [maxLevels] at shallow
    have positive : 2 ≤ maxElementDepth := by decide
    omega
  have noNulWhole : ∀ code ∈ (if marked then bom else []) ++ text,
      decide (code ≠ 0) = true := by
    intro code member
    refine decide_eq_true fun same => ?_
    rw [same] at member
    rcases List.mem_append.mp member with inMark | inText
    · split_ifs at inMark
      · exact absurd inMark (by decide)
      · exact absurd inMark List.not_mem_nil
    · exact noNul inText
  rcases exists_front document inhabited with ⟨code, others, shape, front⟩
  rw [loadFile, List.takeWhile_eq_self_iff.mpr noNulWhole]
  cases marked with
  | false =>
      have read := parseDeep_of_document front
        (fun node member => absurd member List.not_mem_nil) depth
        (Nat.lt_succ_self _)
      have noMark :
          bom.isPrefixOf (byte '<' :: code :: others) = false :=
        rfl
      rw [shape] at read
      simp only [parse, Bool.false_eq_true, if_false, List.nil_append, shape,
        noMark, read, reduceCtorEq]
      rfl
  | true =>
      have read := parseDeep_of_document document
        (fun node member => absurd member List.not_mem_nil) depth
        (Nat.lt_succ_self _)
      have start : skipWhiteSpace (bom ++ text) = bom ++ text := rfl
      have mark : bom.isPrefixOf (bom ++ text) = true :=
        List.isPrefixOf_iff_prefix.mpr ⟨text, rfl⟩
      have behind : (bom ++ text).drop 3 = text := rfl
      have more : text ≠ [] := by
        rintro rfl
        cases shape
      simp only [parse, if_true, start, mark, behind, more, if_false, read]
      rfl

end Documents

end DebuggerDap.Persistence.XmlReading
