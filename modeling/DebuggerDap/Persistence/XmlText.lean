import DebuggerDap.Persistence.XmlPrinter
import Mathlib.Data.List.TakeWhile

/-!
# What comes back of a printed text

The references the printer writes are those the parser replaces, so that a
text loses nothing but its carriage returns: whatever ends a line becomes a
line feed.
-/

namespace DebuggerDap.Persistence.XmlText

open DebuggerDap.Library.Bytes
open DebuggerDap.Library.XmlGrammar
open DebuggerDap.Persistence.XmlParser
open DebuggerDap.Persistence.XmlPrinter

/-- A text with every end of a line as a line feed, without `skipped` bytes. -/
def endLines : Nat → Bytes → Bytes
  | _, [] => []
  | skipped + 1, _ :: rest => endLines skipped rest
  | 0, code :: rest =>
      if code = cr then
        lf :: endLines (if rest.head? = some lf then 1 else 0) rest
      else if code = lf then
        lf :: endLines (if rest.head? = some cr then 1 else 0) rest
      else code :: endLines 0 rest

/-- What is read of a text after it was written. -/
def landed (crlf : Bool) (value : Bytes) : Bytes :=
  endLines 0 (stdio crlf value)

/-! ## Ends of lines -/

section Lines

variable {code : UInt8} {text : Bytes}

theorem endLines_cr (text : Bytes) :
    endLines 0 (cr :: text) =
      lf :: endLines (if text.head? = some lf then 1 else 0) text := by
  rw [endLines, if_pos rfl]

theorem endLines_lf (text : Bytes) :
    endLines 0 (lf :: text) =
      lf :: endLines (if text.head? = some cr then 1 else 0) text := by
  rw [endLines, if_neg (by decide), if_pos rfl]

theorem endLines_plain
    (noCr : code ≠ cr)
    (noLf : code ≠ lf) :
    endLines 0 (code :: text) = code :: endLines 0 text := by
  rw [endLines, if_neg noCr, if_neg noLf]

/-- What a step over a byte leaves of a text. -/
theorem endLines_cases (code : UInt8) (text : Bytes) :
    ∃ first skipped,
      endLines 0 (code :: text) = first :: endLines skipped text ∧
        first ≠ cr ∧ (first = lf ∨ first = code) := by
  by_cases isCr : code = cr
  · rw [isCr, endLines_cr]
    exact ⟨lf, _, rfl, by decide, .inl rfl⟩
  · by_cases isLf : code = lf
    · rw [isLf, endLines_lf]
      exact ⟨lf, _, rfl, by decide, .inl rfl⟩
    · exact ⟨code, 0, endLines_plain isCr isLf, isCr, .inr rfl⟩

theorem mem_endLines
    {skipped : Nat}
    (member : code ∈ endLines skipped text) :
    code ≠ cr ∧ (code = lf ∨ code ∈ text) := by
  induction text generalizing skipped with
  | nil => simp [endLines] at member
  | cons source text inductionHypothesis =>
      have later {skipped : Nat} (inRest : code ∈ endLines skipped text) :=
        (inductionHypothesis inRest).imp_right
          (Or.imp_right (List.mem_cons_of_mem source))
      cases skipped with
      | succ skipped => exact later member
      | zero =>
          rcases endLines_cases source text with
            ⟨first, skipped, shape, noCr, origin⟩
          rw [shape] at member
          rcases List.mem_cons.mp member with rfl | inRest
          · refine ⟨noCr, origin.imp_right fun same => ?_⟩
            rw [same]
            exact List.mem_cons_self
          · exact later inRest

end Lines

/-! ## Files -/

section Files

variable {crlf : Bool} {code : UInt8} {data : Bytes}

theorem stdio_nil (crlf : Bool) : stdio crlf [] = [] := by
  cases crlf <;> rfl

theorem stdio_append (crlf : Bool) (left right : Bytes) :
    stdio crlf (left ++ right) = stdio crlf left ++ stdio crlf right := by
  cases crlf with
  | false => rfl
  | true => exact List.flatMap_append

theorem stdio_cons_of_ne
    (crlf : Bool)
    (data : Bytes)
    (apart : code ≠ lf) :
    stdio crlf (code :: data) = code :: stdio crlf data := by
  cases crlf with
  | false => rfl
  | true => exact congrArg (· ++ stdio true data) (if_neg apart)

theorem stdio_cons_lf (data : Bytes) :
    stdio true (lf :: data) = cr :: lf :: stdio true data :=
  congrArg (· ++ stdio true data) (if_pos rfl)

/-- What has no line feed is written as it is. -/
theorem stdio_of_not_mem
    (crlf : Bool)
    (oneLine : lf ∉ data) : stdio crlf data = data := by
  induction data with
  | nil => exact stdio_nil crlf
  | cons code data inductionHypothesis =>
      rw [List.mem_cons, not_or] at oneLine
      rw [stdio_cons_of_ne crlf data (Ne.symm oneLine.1),
        inductionHypothesis oneLine.2]

theorem mem_stdio (member : code ∈ stdio crlf data) :
    code = cr ∨ code ∈ data := by
  cases crlf with
  | false => exact .inr member
  | true =>
      rcases List.mem_flatMap.mp member with ⟨source, inData, written⟩
      by_cases isLf : source = lf
      · rw [if_pos isLf] at written
        rcases List.mem_pair.mp written with same | same
        · exact .inl same
        · exact .inr (same ▸ isLf ▸ inData)
      · rw [if_neg isLf] at written
        exact .inr (List.mem_singleton.mp written ▸ inData)

/-- A text without carriage returns comes back as it was. -/
theorem landed_of_not_mem
    (crlf : Bool)
    (noCr : cr ∉ data) : landed crlf data = data := by
  rw [landed]
  induction data with
  | nil => rw [stdio_nil, endLines]
  | cons code data inductionHypothesis =>
      rw [List.mem_cons, not_or] at noCr
      have later := inductionHypothesis noCr.2
      by_cases isLf : code = lf
      · subst isLf
        cases crlf with
        | true =>
            rw [stdio_cons_lf, endLines_cr]
            exact congrArg (lf :: ·) later
        | false =>
            have apart : data.head? ≠ some cr :=
              fun same => noCr.2 (List.mem_of_mem_head? same)
            show endLines 0 (lf :: data) = lf :: data
            rw [endLines_lf, if_neg apart]
            exact congrArg (lf :: ·) later
      · rw [stdio_cons_of_ne crlf data isLf,
          endLines_plain (Ne.symm noCr.1) isLf, later]

/-- Only the ends of lines of a text can change. -/
theorem landed_eq_iff (crlf : Bool) (value : Bytes) :
    landed crlf value = value ↔ cr ∉ value := by
  constructor
  · intro same member
    rw [← same] at member
    exact (mem_endLines member).1 rfl
  · exact landed_of_not_mem crlf

end Files

/-! ## References -/

section References

variable (ulong : Nat)

/-- A byte is printed as it is, or as the reference that stands for it. -/
theorem printByte_cases (restricted : Bool) (code : UInt8) :
    (printByte restricted code = [code] ∧ code ≠ byte '&') ∨
      ∃ entity ∈ entities,
        entity.2 = code ∧
          printByte restricted code =
            byte '&' :: (entity.1 ++ [byte ';']) := by
  rw [printByte]
  by_cases flagged : entityFlag restricted code = true
  · rw [if_pos flagged]
    have known : ∃ entity ∈ entities, entity.2 = code := by
      cases restricted with
      | true =>
          simp only [entityFlag, if_true, Bool.or_eq_true,
            decide_eq_true_eq] at flagged
          rcases flagged with (rfl | rfl) | rfl
          · exact ⟨(ascii "amp", byte '&'), by simp [entities], rfl⟩
          · exact ⟨(ascii "lt", byte '<'), by simp [entities], rfl⟩
          · exact ⟨(ascii "gt", byte '>'), by simp [entities], rfl⟩
      | false => simpa [entityFlag] using flagged
    cases found : entities.find? fun entity => entity.2 = code with
    | none =>
        rcases known with ⟨entity, member, same⟩
        have apart := List.find?_eq_none.mp found entity member
        exact absurd same (by simpa using apart)
    | some entity =>
        exact .inr ⟨entity, List.mem_of_find?_eq_some found,
          by simpa using List.find?_some found, rfl⟩
  · rw [if_neg flagged]
    refine .inl ⟨rfl, ?_⟩
    rintro rfl
    exact flagged (by cases restricted <;> rfl)

/-- A reference from the table is replaced. -/
theorem getStrLoop_entity
    {entity : Bytes × UInt8}
    (member : entity ∈ entities)
    (segment : Bytes)
    (written : Nat)
    (rest : Bytes) :
    getStrLoop ulong true true segment 0 written
        (byte '&' :: (entity.1 ++ (byte ';' :: rest))) =
      entity.2 :: getStrLoop ulong true true segment 0 (written + 1) rest := by
  simp only [entities, List.mem_cons, List.not_mem_nil, or_false] at member
  rcases member with rfl | rfl | rfl | rfl | rfl
  all_goals rfl

/-- What a byte is printed as begins with an end of a line only if it is one. -/
theorem printByte_of_end
    {mark : UInt8}
    (isEnd : mark = cr ∨ mark = lf)
    (restricted : Bool) : printByte restricted mark = [mark] := by
  rcases isEnd with rfl | rfl
  all_goals cases restricted <;> rfl

theorem end_not_mem_printByte
    {mark code : UInt8}
    (isEnd : mark = cr ∨ mark = lf)
    (apart : code ≠ mark)
    (restricted : Bool) : mark ∉ printByte restricted code := by
  rcases printByte_cases restricted code with
    ⟨plain, -⟩ | ⟨entity, member, -, coded⟩
  · rw [plain, List.mem_singleton]
    exact Ne.symm apart
  · rw [coded]
    simp only [entities, List.mem_cons, List.not_mem_nil, or_false] at member
    rcases isEnd with rfl | rfl
    all_goals rcases member with rfl | rfl | rfl | rfl | rfl <;> decide

theorem printByte_ne_nil
    (restricted : Bool)
    (code : UInt8) : printByte restricted code ≠ [] := by
  rcases printByte_cases restricted code with
    ⟨plain, -⟩ | ⟨entity, -, -, coded⟩
  · rw [plain]
    exact List.cons_ne_nil code []
  · rw [coded]
    exact List.cons_ne_nil _ _

/-- The next end of a line is seen behind the printed bytes as well. -/
theorem head?_printed_iff
    {mark : UInt8}
    (isEnd : mark = cr ∨ mark = lf)
    (restricted : Bool)
    (value : Bytes) :
    (value.flatMap (printByte restricted)).head? = some mark ↔
      value.head? = some mark := by
  cases value with
  | nil => exact Iff.rfl
  | cons code value =>
      rw [List.flatMap_cons, List.head?_append_of_ne_nil _
        (printByte_ne_nil restricted code), List.head?_cons]
      constructor
      · intro first
        by_contra apart
        exact end_not_mem_printByte isEnd (fun same => apart (same ▸ rfl))
          restricted (List.mem_of_mem_head? first)
      · intro same
        rw [Option.some.inj same, printByte_of_end isEnd]
        rfl

variable (references : Bool) (segment : Bytes) (written : Nat)

theorem getStrLoop_cr (text : Bytes) :
    getStrLoop ulong references true segment 0 written (cr :: text) =
      lf :: getStrLoop ulong references true segment
        (if text.head? = some lf then 1 else 0) (written + 1) text := by
  rw [getStrLoop, if_pos ⟨rfl, rfl⟩]

theorem getStrLoop_lf (text : Bytes) :
    getStrLoop ulong references true segment 0 written (lf :: text) =
      lf :: getStrLoop ulong references true segment
        (if text.head? = some cr then 1 else 0) (written + 1) text := by
  rw [getStrLoop, if_neg (by decide), if_pos ⟨rfl, rfl⟩]

variable {references} in
theorem getStrLoop_plain
    {code : UInt8}
    {text : Bytes}
    (noCr : code ≠ cr)
    (noLf : code ≠ lf)
    (noMark : references = true → code ≠ byte '&') :
    getStrLoop ulong references true segment 0 written (code :: text) =
      code :: getStrLoop ulong references true segment 0 (written + 1)
        text := by
  rw [getStrLoop, if_neg fun both => noCr both.2,
    if_neg fun both => noLf both.2, if_neg fun both => noMark both.1 both.2]

/-- Without references only the ends of lines are replaced. -/
theorem getStrLoop_verbatim (skipped : Nat) (text : Bytes) :
    getStrLoop ulong false true segment skipped written text =
      endLines skipped text := by
  induction text generalizing skipped written with
  | nil => cases skipped <;> rfl
  | cons code text inductionHypothesis =>
      cases skipped with
      | succ skipped => exact inductionHypothesis written skipped
      | zero =>
          by_cases isCr : code = cr
          · rw [isCr, getStrLoop_cr, endLines_cr, inductionHypothesis]
          · by_cases isLf : code = lf
            · rw [isLf, getStrLoop_lf, endLines_lf, inductionHypothesis]
            · rw [endLines_plain isCr isLf,
                getStrLoop_plain ulong segment written isCr isLf
                  fun references => Bool.noConfusion references,
                inductionHypothesis]

/-- The references of a printed text are replaced by what was printed. -/
theorem getStrLoop_printed
    (restricted : Bool)
    (skipped : Nat)
    (value : Bytes)
    (ends :
      skipped = 0 ∨
        skipped = 1 ∧ (value.head? = some cr ∨ value.head? = some lf)) :
    getStrLoop ulong true true segment skipped written
        (value.flatMap (printByte restricted)) =
      endLines skipped value := by
  induction value generalizing skipped written with
  | nil => cases skipped <;> rfl
  | cons code value inductionHypothesis =>
      have plain := inductionHypothesis (written + 1) 0 (.inl rfl)
      rw [List.flatMap_cons]
      rcases ends with rfl | ⟨rfl, next⟩
      · -- The skip behind an end of a line is decided by the next byte.
        have behind (mark : UInt8) (isEnd : mark = cr ∨ mark = lf) :
            getStrLoop ulong true true segment
                (if (value.flatMap (printByte restricted)).head? = some mark
                  then 1 else 0) (written + 1)
                (value.flatMap (printByte restricted)) =
              endLines (if value.head? = some mark then 1 else 0) value := by
          simp only [head?_printed_iff isEnd restricted value]
          split_ifs with marked
          · refine inductionHypothesis (written + 1) 1 (.inr ⟨rfl, ?_⟩)
            rw [marked]
            exact isEnd.imp (congrArg some) (congrArg some)
          · exact plain
        by_cases isCr : code = cr
        · rw [isCr, printByte_of_end (.inl rfl), List.singleton_append,
            getStrLoop_cr, endLines_cr, behind lf (.inr rfl)]
        · by_cases isLf : code = lf
          · rw [isLf, printByte_of_end (.inr rfl), List.singleton_append,
              getStrLoop_lf, endLines_lf, behind cr (.inl rfl)]
          · rw [endLines_plain isCr isLf]
            rcases printByte_cases restricted code with
              ⟨itself, noMark⟩ | ⟨entity, member, same, coded⟩
            · rw [itself, List.singleton_append,
                getStrLoop_plain ulong segment written isCr isLf
                  fun _ => noMark, plain]
            · rw [coded, List.cons_append, List.append_assoc,
                List.singleton_append, getStrLoop_entity ulong member, same,
                plain]
      · have isEnd : code = cr ∨ code = lf :=
          next.imp Option.some.inj Option.some.inj
        rw [printByte_of_end isEnd]
        exact inductionHypothesis written 0 (.inl rfl)

/-! ## Values -/

theorem stdio_printed (crlf restricted : Bool) (value : Bytes) :
    stdio crlf (value.flatMap (printByte restricted)) =
      (stdio crlf value).flatMap (printByte restricted) := by
  induction value with
  | nil => rw [List.flatMap_nil, stdio_nil, List.flatMap_nil]
  | cons code value inductionHypothesis =>
      rw [List.flatMap_cons, stdio_append, inductionHypothesis]
      by_cases isLf : code = lf
      · subst isLf
        rw [printByte_of_end (.inr rfl)]
        cases crlf with
        | false =>
            show [lf] ++ value.flatMap (printByte restricted) =
              (lf :: value).flatMap (printByte restricted)
            rw [List.flatMap_cons, printByte_of_end (.inr rfl)]
        | true =>
            rw [stdio_cons_lf, stdio_cons_lf, List.flatMap_cons,
              List.flatMap_cons, printByte_of_end (.inl rfl),
              printByte_of_end (.inr rfl)]
            rfl
      · rw [stdio_of_not_mem crlf
          (end_not_mem_printByte (.inr rfl) isLf restricted),
          stdio_cons_of_ne crlf value isLf, List.flatMap_cons]

theorem nul_not_mem_landed
    {crlf : Bool}
    {value : Bytes}
    (noNul : (0 : UInt8) ∉ value) : (0 : UInt8) ∉ landed crlf value := by
  intro member
  rcases (mem_endLines member).2 with same | inFile
  · exact absurd same (by decide)
  · exact (mem_stdio inFile).elim (fun same => absurd same (by decide)) noNul

theorem takeWhile_of_nul_not_mem
    {value : Bytes}
    (noNul : (0 : UInt8) ∉ value) :
    value.takeWhile (· ≠ 0) = value :=
  List.takeWhile_eq_self_iff.mpr fun _ member =>
    decide_eq_true fun same => noNul (same ▸ member)

/-- What is read of the printed form of a value. -/
theorem getStr_printed
    (crlf restricted : Bool)
    {value : Bytes}
    (noNul : (0 : UInt8) ∉ value) :
    getStr ulong true (stdio crlf (value.flatMap (printByte restricted))) =
      landed crlf value := by
  rw [getStr, stdio_printed, getStrLoop_printed ulong _ 0 restricted 0 _
    (.inl rfl)]
  exact takeWhile_of_nul_not_mem (nul_not_mem_landed noNul)

/-- What is read of a value that was written as it is. -/
theorem getStr_verbatim
    (crlf : Bool)
    {value : Bytes}
    (noNul : (0 : UInt8) ∉ value) :
    getStr ulong false (stdio crlf value) = landed crlf value := by
  rw [getStr, getStrLoop_verbatim]
  exact takeWhile_of_nul_not_mem (nul_not_mem_landed noNul)

end References

end DebuggerDap.Persistence.XmlText
