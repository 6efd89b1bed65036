import SyncWatch.Proofs.Log.Reassembly
import SyncWatch.Proofs.Text.Replacement
import SyncWatch.Proofs.Text.Trim

/-!
# Line ends

A line ends with a line feed, and a carriage return before it belongs to the
end.  Apart from the form of these ends, and from the end of the last line, an
assembler loses nothing of a text: the lines that it emits, the unfinished one
in the end among them, make up the text again.
-/

namespace SyncWatch
namespace Log

theorem trim_dropReturn (line : List Char) : Text.trim (dropReturn line) = Text.trim line := by
  rw [dropReturn]
  split
  next ends =>
    obtain ⟨init, rfl⟩ := List.getLast?_eq_some_iff.mp ends
    rw [List.dropLast_concat, Text.trim_concat_of_isBlank (by decide)]
  next => rfl

theorem trimmed_dropReturn (text : String) :
    Text.trimmed (String.ofList (dropReturn text.toList)) = Text.trimmed text := by
  rw [Text.trimmed, String.toList_ofList, trim_dropReturn]
  rfl

theorem isSentinel_dropReturn (line : List Char) :
    isSentinel (dropReturn line) = isSentinel line := by
  rw [isSentinel, isSentinel, trim_dropReturn]

theorem dropReturn_cons_cons (char next : Char) (rest : List Char) :
    dropReturn (char :: next :: rest) = char :: dropReturn (next :: rest) := by
  rw [dropReturn, dropReturn, List.getLast?_cons_cons]
  split <;> rfl

/-- A text in which a line feed alone ends each line. -/
def withLineFeeds (text : List Char) : List Char :=
  Text.replaceAll ['\r', '\n'] ['\n'] text

/-- A text without the line feed at its end. -/
def dropFinalFeed (text : List Char) : List Char :=
  if text.getLast? = some '\n' then text.dropLast else text

/-- A text without line feeds has no line ends to change. -/
theorem withLineFeeds_of_not_mem
    {text : List Char}
    (absent : '\n' ∉ text) :
    withLineFeeds text = text :=
  Text.replaceAll_of_not_mem (by simp) absent _

/-- A character stays unless it is a carriage return before a line feed. -/
theorem withLineFeeds_cons
    {char : Char}
    {rest : List Char}
    (stays : char = '\r' → rest.head? ≠ some '\n') :
    withLineFeeds (char :: rest) = char :: withLineFeeds rest := by
  refine Text.replaceAll_cons_of_not_isPrefix ?_ _
  rw [List.cons_prefix_cons]
  rintro ⟨same, after, rfl⟩
  exact stays same.symm rfl

/-- The first line of a text loses the carriage return at its end. -/
theorem withLineFeeds_append_newline
    {line : List Char}
    (absent : '\n' ∉ line)
    (rest : List Char) :
    withLineFeeds (line ++ '\n' :: rest) = dropReturn line ++ '\n' :: withLineFeeds rest := by
  induction line with
  | nil => exact withLineFeeds_cons fun same => absurd same (by decide)
  | cons char others inductionHypothesis =>
      rw [List.mem_cons, not_or] at absent
      have next := inductionHypothesis absent.2
      -- A carriage return belongs to the end exactly when it is the last of the line.
      cases others with
      | nil =>
          by_cases ends : char = '\r'
          · rw [ends]
            exact Text.replaceAll_append_self (by simp) _ rest
          · have kept : dropReturn [char] = [char] := by simp [dropReturn, ends]
            rw [kept, List.singleton_append, withLineFeeds_cons fun same => absurd same ends]
            exact congrArg _ next
      | cons second others =>
          rw [List.mem_cons, not_or] at absent
          have goesOn : (second :: others ++ '\n' :: rest).head? ≠ some '\n' :=
            fun begins => absent.2.1 (Option.some.inj begins).symm
          rw [dropReturn_cons_cons, List.cons_append, withLineFeeds_cons fun _ => goesOn, next]
          rfl

/-- Every finished line loses the carriage return at its end. -/
theorem withLineFeeds_intercalate
    {lines : List (List Char)}
    {tail : List Char}
    (finished : ∀ line ∈ lines, '\n' ∉ line)
    (unfinished : '\n' ∉ tail) :
    withLineFeeds (['\n'].intercalate (lines ++ [tail])) =
      ['\n'].intercalate (lines.map dropReturn ++ [tail]) := by
  induction lines with
  | nil => simp [withLineFeeds_of_not_mem unfinished]
  | cons line others inductionHypothesis =>
      rw [List.forall_mem_cons] at finished
      rw [List.cons_append, List.intercalate_cons_of_ne_nil (by simp), List.append_assoc,
        List.singleton_append, withLineFeeds_append_newline finished.1,
        inductionHypothesis finished.2, List.map_cons, List.cons_append,
        List.intercalate_cons_of_ne_nil (by simp), List.append_assoc, List.singleton_append]

/-- A last part comes after one more separator. -/
theorem intercalate_concat
    {separator last : List Char}
    {parts : List (List Char)}
    (nonempty : parts ≠ []) :
    separator.intercalate (parts ++ [last]) =
      separator.intercalate parts ++ (separator ++ last) := by
  induction parts with
  | nil => exact absurd rfl nonempty
  | cons part others inductionHypothesis =>
      cases others with
      | nil => simp
      | cons second others =>
          have next := inductionHypothesis (List.cons_ne_nil _ _)
          rw [List.cons_append, List.intercalate_cons_of_ne_nil (by simp), next,
            List.intercalate_cons_cons, List.append_assoc, List.append_assoc, List.append_assoc]

/-- What is joined ends with the last part. -/
theorem suffix_intercalate_concat (separator last : List Char) (parts : List (List Char)) :
    last <:+ separator.intercalate (parts ++ [last]) := by
  cases parts with
  | nil => simp
  | cons part others =>
      rw [intercalate_concat (List.cons_ne_nil _ _), ← List.append_assoc]
      exact List.suffix_append _ _

/-- A text that ends with a line feed ends with an empty part. -/
theorem dropFinalFeed_intercalate
    {lines : List (List Char)}
    {tail : List Char}
    (unfinished : '\n' ∉ tail) :
    dropFinalFeed (['\n'].intercalate (lines ++ [tail])) =
      ['\n'].intercalate (lines ++ if tail = [] then [] else [tail]) := by
  by_cases empty : tail = []
  · rw [if_pos empty, empty, List.append_nil]
    cases lines with
    | nil => rfl
    | cons line others =>
        rw [intercalate_concat (List.cons_ne_nil _ _), List.append_nil, dropFinalFeed]
        simp
  · rw [if_neg empty, dropFinalFeed, if_neg]
    obtain ⟨before, joined⟩ := suffix_intercalate_concat ['\n'] tail lines
    rw [← joined, List.getLast?_append_of_ne_nil _ empty]
    exact fun ends => unfinished (List.mem_of_getLast? ends)

/-- A finished line that is not the reserved text is shown without its end. -/
theorem LogToken.ofLine_of_not_isSentinel
    {line : List Char}
    (plain : isSentinel line = false) :
    ofLine line = .line (String.ofList (dropReturn line)) := by
  rw [← isSentinel_dropReturn] at plain
  rw [ofLine, plain]
  rfl

/-- An unfinished line that is not the reserved text is shown as it is, unless it
is empty. -/
theorem flush_of_not_isSentinel
    {tail : List Char}
    (ended : tail.getLast? ≠ some '\r')
    (plain : isSentinel tail = false) :
    flush tail = (if tail = [] then [] else [tail]).map fun line => .line (String.ofList line) := by
  rw [flush, dropReturn, if_neg ended, plain]
  cases tail <;> rfl

/-- The lines of a text, the unfinished one among them, make up the text again. -/
theorem exists_lines_of_text
    {text : List Char}
    (ended : text.getLast? ≠ some '\r')
    (plain : ∀ line ∈ text.splitOn '\n', isSentinel line = false) :
    ∃ texts : List String,
      tokensOfText text ++ flush (unfinishedLine text) = texts.map .line ∧
        "\n".intercalate texts = String.ofList (dropFinalFeed (withLineFeeds text)) := by
  have parts := splitOn_newline text
  have whole : ['\n'].intercalate (text.splitOn '\n') = text := List.intercalate_splitOn '\n'
  have oneLine : ∀ line ∈ text.splitOn '\n', '\n' ∉ line :=
    fun _ present => newline_not_mem_of_mem_splitOn present
  rw [parts] at whole oneLine plain
  rw [tokensOfText_eq, unfinishedLine_eq]
  generalize (splitLines text).1 = lines at *
  generalize (splitLines text).2 = tail at *
  simp only [List.forall_mem_append, List.forall_mem_singleton] at oneLine plain
  have tailEnded : tail.getLast? ≠ some '\r' := by
    intro ends
    obtain ⟨before, joined⟩ := suffix_intercalate_concat ['\n'] tail lines
    rw [← whole, ← joined, List.getLast?_append, ends] at ended
    exact ended rfl
  refine ⟨(lines.map dropReturn ++ if tail = [] then [] else [tail]).map String.ofList, ?_, ?_⟩
  · have finished : lines.map LogToken.ofLine =
        (lines.map dropReturn).map fun line => .line (String.ofList line) := by
      rw [List.map_map]
      exact List.map_congr_left fun line present =>
        LogToken.ofLine_of_not_isSentinel (plain.1 line present)
    rw [finished, flush_of_not_isSentinel tailEnded plain.2, ← List.map_append, List.map_map]
    rfl
  · rw [← String.toList_inj, String.toList_intercalate, String.toList_ofList, ← whole,
      withLineFeeds_intercalate oneLine.1 oneLine.2, dropFinalFeed_intercalate oneLine.2,
      List.map_map]
    simp [Function.comp_def]

namespace LineAssembler

/-- Pieces of which none is the reserved text are one stretch. -/
theorem segments_of_not_isSentinel
    {chunks : List (List Char)}
    (plain : ∀ chunk ∈ chunks, isSentinel chunk = false) :
    segments chunks = [chunks] :=
  List.splitOnP_eq_singleton plain

/-- Pieces of which none is the reserved text give the tokens of their
concatenation. -/
theorem tokensOfAll_of_not_isSentinel
    {chunks : List (List Char)}
    (plain : ∀ chunk ∈ chunks, isSentinel chunk = false) :
    tokensOfAll {} chunks = tokensOfText chunks.flatten := by
  rw [tokensOfAll_eq List.not_mem_nil, segments_of_not_isSentinel plain]
  simp

theorem pending_pushAll_of_not_isSentinel
    {chunks : List (List Char)}
    (plain : ∀ chunk ∈ chunks, isSentinel chunk = false) :
    (pushAll {} chunks).pending = unfinishedLine chunks.flatten := by
  rw [pending_pushAll_eq List.not_mem_nil, segments_of_not_isSentinel plain]
  simp

/-- A text that does not end with a carriage return comes in pieces, of which none
is the reserved text, and no line of it is either.  Then a new assembler that is
flushed after the last piece emits lines and nothing else.  Joined by line feeds
these are the text again, with a line feed alone at the end of each line and none
at the end of the text. -/
theorem joined_lines_of_pieces
    (chunks : List (List Char))
    (ended : chunks.flatten.getLast? ≠ some '\r')
    (plain : ∀ chunk ∈ chunks, Text.trim chunk ≠ sentinel.toList)
    (plainLines : ∀ line ∈ chunks.flatten.splitOn '\n', Text.trim line ≠ sentinel.toList) :
    ∃ texts : List String,
      tokensOfAll {} chunks ++ flush (pushAll {} chunks).pending = texts.map .line ∧
        "\n".intercalate texts =
          String.ofList (dropFinalFeed (withLineFeeds chunks.flatten)) := by
  have other (part : List Char) : Text.trim part ≠ sentinel.toList → isSentinel part = false :=
    fun differs => by simpa [isSentinel] using differs
  have plainPieces : ∀ chunk ∈ chunks, isSentinel chunk = false :=
    fun chunk present => other chunk (plain chunk present)
  rw [tokensOfAll_of_not_isSentinel plainPieces, pending_pushAll_of_not_isSentinel plainPieces]
  exact exists_lines_of_text ended fun line present => other line (plainLines line present)

/-- Blank lines come back, line ends of two characters may come in two pieces,
and carriage returns elsewhere stay. -/
theorem joined_lines_of_mixed_line_ends :
    let chunks := ["\na\r".toList, "\n\r\r".toList, [], "\n\rb".toList, "\n".toList]
    chunks.flatten.getLast? ≠ some '\r' ∧
      (∀ chunk ∈ chunks, Text.trim chunk ≠ sentinel.toList) ∧
      (∀ line ∈ chunks.flatten.splitOn '\n', Text.trim line ≠ sentinel.toList) ∧
      ∃ texts : List String,
        tokensOfAll {} chunks ++ flush (pushAll {} chunks).pending = texts.map .line ∧
          "\n".intercalate texts = "\na\n\r\n\rb" := by
  intro chunks
  have ended : chunks.flatten.getLast? ≠ some '\r' := by decide
  have plain : ∀ chunk ∈ chunks, Text.trim chunk ≠ sentinel.toList := by decide +kernel
  have plainLines : ∀ line ∈ chunks.flatten.splitOn '\n', Text.trim line ≠ sentinel.toList := by
    decide +kernel
  obtain ⟨texts, tokens, joined⟩ := joined_lines_of_pieces chunks ended plain plainLines
  have short : dropFinalFeed (withLineFeeds chunks.flatten) = "\na\n\r\n\rb".toList := by
    decide +kernel
  rw [short, String.ofList_toList] at joined
  exact ⟨ended, plain, plainLines, texts, tokens, joined⟩

end LineAssembler
end Log
end SyncWatch
