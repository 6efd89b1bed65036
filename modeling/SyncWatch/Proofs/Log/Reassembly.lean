import SyncWatch.Log.Line

/-!
# Lines from pieces

An assembler emits what a whole text would give, wherever its pieces end.  A
piece that is the reserved text as a whole cuts the text: it asks for an empty
log, and the unfinished line before it is lost.  Between two such pieces the
tokens are those of the finished lines of the concatenation.
-/

namespace SyncWatch
namespace Log

theorem splitLines_cons_newline (rest : List Char) :
    splitLines ('\n' :: rest) = ([] :: (splitLines rest).1, (splitLines rest).2) := by
  simp [splitLines]

/-- A character other than a line feed belongs to the first line. -/
theorem splitLines_cons
    {char : Char}
    (other : char ≠ '\n')
    (rest : List Char) :
    splitLines (char :: rest) =
      match splitLines rest with
      | ([], tail) => ([], char :: tail)
      | (line :: lines, tail) => ((char :: line) :: lines, tail) := by
  rw [splitLines]
  exact if_neg (by simpa using other)

/-- The finished lines and the unfinished one are the parts between line feeds. -/
theorem splitOn_newline (text : List Char) :
    text.splitOn '\n' = (splitLines text).1 ++ [(splitLines text).2] := by
  induction text with
  | nil => rfl
  | cons char rest inductionHypothesis =>
      rw [List.splitOn_cons_eq_if_modifyHead, inductionHypothesis]
      by_cases newline : char = '\n'
      · rw [newline, splitLines_cons_newline]
        rfl
      · rw [splitLines_cons newline]
        rcases splitLines rest with ⟨lines, tail⟩
        cases lines <;> simp [newline]

/-- A text without line feeds is one unfinished line. -/
theorem splitLines_of_not_mem
    {text : List Char}
    (absent : '\n' ∉ text) :
    splitLines text = ([], text) := by
  induction text with
  | nil => rfl
  | cons char rest inductionHypothesis =>
      rw [List.mem_cons, not_or] at absent
      rw [splitLines_cons (Ne.symm absent.1), inductionHypothesis absent.2]

/-- An unfinished line has no line feed. -/
theorem newline_not_mem_unfinished (text : List Char) : '\n' ∉ (splitLines text).2 := by
  induction text with
  | nil => simp [splitLines]
  | cons char rest inductionHypothesis =>
      by_cases newline : char = '\n'
      · rw [newline, splitLines_cons_newline]
        exact inductionHypothesis
      · rw [splitLines_cons newline]
        rcases equal : splitLines rest with ⟨lines, tail⟩
        rw [equal] at inductionHypothesis
        cases lines with
        | nil => simpa [Ne.symm newline] using inductionHypothesis
        | cons line lines => exact inductionHypothesis

theorem newline_not_mem_of_mem_splitOn
    {text piece : List Char}
    (member : piece ∈ text.splitOn '\n') :
    '\n' ∉ piece := by
  induction text generalizing piece with
  | nil =>
      rw [List.splitOn_nil, List.mem_singleton] at member
      simp [member]
  | cons char rest inductionHypothesis =>
      obtain ⟨first, others, equal⟩ :=
        List.exists_cons_of_ne_nil (List.splitOn_ne_nil '\n' rest)
      rw [List.splitOn_cons_eq_if_modifyHead, equal] at member
      rw [equal] at inductionHypothesis
      by_cases newline : char = '\n'
      · rw [newline, beq_self_eq_true, if_pos rfl, List.mem_cons] at member
        rcases member with rfl | member
        · exact List.not_mem_nil
        · exact inductionHypothesis member
      · rw [if_neg (by simpa using newline), List.modifyHead_cons, List.mem_cons] at member
        rcases member with rfl | member
        · have absent := inductionHypothesis List.mem_cons_self
          simp [absent, Ne.symm newline]
        · exact inductionHypothesis (List.mem_cons_of_mem _ member)

/-- Text that follows goes on with the unfinished line and leaves the finished
lines as they are. -/
theorem splitLines_append (text more : List Char) :
    splitLines (text ++ more) =
      ((splitLines text).1 ++ (splitLines ((splitLines text).2 ++ more)).1,
        (splitLines ((splitLines text).2 ++ more)).2) := by
  induction text with
  | nil => rfl
  | cons char rest inductionHypothesis =>
      by_cases newline : char = '\n'
      · rw [newline, List.cons_append, splitLines_cons_newline, splitLines_cons_newline,
          inductionHypothesis]
        rfl
      · rw [List.cons_append, splitLines_cons newline, splitLines_cons newline,
          inductionHypothesis]
        rcases splitLines rest with ⟨lines, tail⟩
        cases lines with
        | nil => simp [splitLines_cons newline]
        | cons line lines => rfl

/-- The tokens of the finished lines of a text. -/
def tokensOfText (text : List Char) : List LogToken :=
  (text.splitOn '\n').dropLast.map LogToken.ofLine

/-- The text after the last line feed. -/
def unfinishedLine (text : List Char) : List Char :=
  (text.splitOn '\n').getLastD []

theorem tokensOfText_eq (text : List Char) :
    tokensOfText text = (splitLines text).1.map LogToken.ofLine := by
  rw [tokensOfText, splitOn_newline, List.dropLast_concat]

theorem unfinishedLine_eq (text : List Char) : unfinishedLine text = (splitLines text).2 := by
  rw [unfinishedLine, splitOn_newline, List.getLastD_concat]

theorem tokensOfText_of_not_mem
    {text : List Char}
    (absent : '\n' ∉ text) :
    tokensOfText text = [] := by
  rw [tokensOfText_eq, splitLines_of_not_mem absent]
  rfl

theorem unfinishedLine_of_not_mem
    {text : List Char}
    (absent : '\n' ∉ text) :
    unfinishedLine text = text := by
  rw [unfinishedLine_eq, splitLines_of_not_mem absent]

theorem newline_not_mem_unfinishedLine (text : List Char) : '\n' ∉ unfinishedLine text := by
  rw [unfinishedLine_eq]
  exact newline_not_mem_unfinished text

theorem tokensOfText_append (text more : List Char) :
    tokensOfText (text ++ more) =
      tokensOfText text ++ tokensOfText (unfinishedLine text ++ more) := by
  rw [tokensOfText_eq, splitLines_append, List.map_append, tokensOfText_eq, tokensOfText_eq,
    unfinishedLine_eq]

theorem unfinishedLine_append (text more : List Char) :
    unfinishedLine (text ++ more) = unfinishedLine (unfinishedLine text ++ more) := by
  rw [unfinishedLine_eq, splitLines_append, unfinishedLine_eq, unfinishedLine_eq]

/-- A finished line loses one carriage return at its end and asks for an empty
log when the rest is the reserved text. -/
theorem LogToken.ofLine_eq
    {line content : List Char}
    (ends : line = content ++ ['\r'] ∨ line = content ∧ content.getLast? ≠ some '\r') :
    ofLine line =
      if Text.trim content = sentinel.toList then .clear else .line (String.ofList content) := by
  have dropped : dropReturn line = content := by
    rcases ends with rfl | ⟨rfl, plain⟩
    · simp [dropReturn]
    · rw [dropReturn, if_neg plain]
  simp only [ofLine, dropped, isSentinel, beq_iff_eq]

/-- The stretches between the pieces that are the reserved text as a whole. -/
def segments (chunks : List (List Char)) : List (List (List Char)) :=
  chunks.splitOnP isSentinel

/-- A piece either ends the first stretch or belongs to it. -/
theorem segments_cons (chunk : List Char) (rest : List (List Char)) :
    segments (chunk :: rest) =
      if isSentinel chunk then [] :: segments rest
      else (segments rest).modifyHead (chunk :: ·) :=
  List.splitOnP_cons_eq_if_modifyHead chunk rest

theorem exists_segments_eq_cons (chunks : List (List Char)) :
    ∃ first others, segments chunks = first :: others :=
  List.exists_cons_of_ne_nil (List.splitOnP_ne_nil isSentinel chunks)

/-- Tokens at the beginning of the first of several lists come before all. -/
theorem intercalate_cons_append
    (between first second : List LogToken)
    (others : List (List LogToken)) :
    between.intercalate ((first ++ second) :: others) =
      first ++ between.intercalate (second :: others) := by
  induction first with
  | nil => rfl
  | cons token rest inductionHypothesis =>
      rw [List.cons_append, List.intercalate_cons_cons_left, inductionHypothesis,
        List.cons_append]

namespace LineAssembler

/-- The tokens that pieces of text finish, one piece after the other. -/
def tokensOfAll : LineAssembler → List (List Char) → List LogToken
  | _, [] => []
  | assembler, chunk :: rest =>
    assembler.tokens chunk ++ (assembler.push chunk).tokensOfAll rest

/-- The assembler after pieces of text. -/
def pushAll (assembler : LineAssembler) (chunks : List (List Char)) : LineAssembler :=
  chunks.foldl push assembler

variable {chunk : List Char}

theorem tokens_of_isSentinel
    (cuts : isSentinel chunk = true)
    (assembler : LineAssembler) :
    assembler.tokens chunk = [.clear] := by
  rw [tokens, tokenize, if_pos cuts]

theorem push_of_isSentinel
    (cuts : isSentinel chunk = true)
    (assembler : LineAssembler) :
    assembler.push chunk = {} := by
  rw [push, tokenize, if_pos cuts]

theorem tokens_of_not_isSentinel
    (plain : isSentinel chunk = false)
    (assembler : LineAssembler) :
    assembler.tokens chunk = tokensOfText (assembler.pending ++ chunk) := by
  rw [tokens, tokenize, plain, tokensOfText_eq]
  rfl

theorem pending_push_of_not_isSentinel
    (plain : isSentinel chunk = false)
    (assembler : LineAssembler) :
    (assembler.push chunk).pending = unfinishedLine (assembler.pending ++ chunk) := by
  rw [push, tokenize, plain, unfinishedLine_eq]
  rfl

/-- The tokens of pieces are those of the stretches, of which the first one
goes on with the unfinished line. -/
theorem tokensOfAll_eq
    {assembler : LineAssembler}
    (unfinished : '\n' ∉ assembler.pending)
    (chunks : List (List Char)) :
    assembler.tokensOfAll chunks =
      [LogToken.clear].intercalate
        ((((segments chunks).modifyHead (assembler.pending :: ·)).map List.flatten).map
          tokensOfText) := by
  induction chunks generalizing assembler with
  | nil => simp [tokensOfAll, segments, tokensOfText_of_not_mem unfinished]
  | cons chunk rest inductionHypothesis =>
      obtain ⟨first, others, equal⟩ := exists_segments_eq_cons rest
      have next := @inductionHypothesis (assembler.push chunk)
      rw [tokensOfAll, segments_cons]
      cases cuts : isSentinel chunk with
      | true =>
          rw [push_of_isSentinel cuts] at next ⊢
          rw [next (by simp), tokens_of_isSentinel cuts, equal]
          simp [tokensOfText_of_not_mem unfinished]
      | false =>
          have goesOn := newline_not_mem_unfinishedLine (assembler.pending ++ chunk)
          rw [pending_push_of_not_isSentinel cuts] at next
          rw [next goesOn, tokens_of_not_isSentinel cuts, equal]
          simp only [Bool.false_eq_true, if_false, List.modifyHead_cons, List.map_cons,
            List.flatten_cons]
          rw [← List.append_assoc assembler.pending, tokensOfText_append (_ ++ chunk),
            intercalate_cons_append]

/-- The unfinished line after pieces is that of the last stretch. -/
theorem pending_pushAll_eq
    {assembler : LineAssembler}
    (unfinished : '\n' ∉ assembler.pending)
    (chunks : List (List Char)) :
    (assembler.pushAll chunks).pending =
      unfinishedLine
        ((((segments chunks).modifyHead (assembler.pending :: ·)).map List.flatten).getLastD
          []) := by
  induction chunks generalizing assembler with
  | nil => simp [pushAll, segments, unfinishedLine_of_not_mem unfinished]
  | cons chunk rest inductionHypothesis =>
      obtain ⟨first, others, equal⟩ := exists_segments_eq_cons rest
      have next := @inductionHypothesis (assembler.push chunk)
      have unrolled : assembler.pushAll (chunk :: rest) =
          (assembler.push chunk).pushAll rest := rfl
      rw [unrolled, segments_cons]
      cases cuts : isSentinel chunk with
      | true =>
          rw [push_of_isSentinel cuts] at next ⊢
          rw [next (by simp), equal]
          cases others <;> simp
      | false =>
          have goesOn := newline_not_mem_unfinishedLine (assembler.pending ++ chunk)
          rw [pending_push_of_not_isSentinel cuts] at next
          rw [next goesOn, equal]
          -- Only in the last stretch does the unfinished line matter.
          cases others with
          | nil =>
              simp only [Bool.false_eq_true, if_false, List.modifyHead_cons, List.map_cons,
                List.map_nil, List.getLastD_cons, List.getLastD_nil, List.flatten_cons]
              rw [← List.append_assoc assembler.pending, unfinishedLine_append (_ ++ chunk)]
          | cons second others => simp

/-- A piece in front that says nothing adds nothing to the first stretch. -/
theorem map_flatten_modifyHead_nil (stretches : List (List (List Char))) :
    (stretches.modifyHead ([] :: ·)).map List.flatten = stretches.map List.flatten := by
  cases stretches <;> rfl

/-- The concatenated pieces of each stretch. -/
def segmentTexts (chunks : List (List Char)) : List (List Char) :=
  (segments chunks).map List.flatten

/-- A new assembler emits, stretch by stretch, one token for each finished line
of the concatenated pieces and one for each piece between two stretches, and it
keeps the text after the last line feed of the last stretch.  So where pieces
end within a stretch makes no difference. -/
theorem tokens_of_any_pieces (chunks : List (List Char)) :
    tokensOfAll {} chunks =
        [LogToken.clear].intercalate ((segmentTexts chunks).map tokensOfText) ∧
      (pushAll {} chunks).pending = unfinishedLine ((segmentTexts chunks).getLastD []) ∧
      (∀ line content : List Char,
        (line = content ++ ['\r'] ∨ line = content ∧ content.getLast? ≠ some '\r') →
          LogToken.ofLine line =
            if Text.trim content = sentinel.toList then .clear
            else .line (String.ofList content)) ∧
      ∀ others : List (List Char), segmentTexts others = segmentTexts chunks →
        tokensOfAll {} others = tokensOfAll {} chunks ∧
          pushAll {} others = pushAll {} chunks := by
  have nothing : '\n' ∉ ({} : LineAssembler).pending := List.not_mem_nil
  have tokens (pieces : List (List Char)) :
      tokensOfAll {} pieces =
        [LogToken.clear].intercalate ((segmentTexts pieces).map tokensOfText) := by
    rw [tokensOfAll_eq nothing, map_flatten_modifyHead_nil, segmentTexts]
  have pending (pieces : List (List Char)) :
      (pushAll {} pieces).pending = unfinishedLine ((segmentTexts pieces).getLastD []) := by
    rw [pending_pushAll_eq nothing, map_flatten_modifyHead_nil, segmentTexts]
  refine ⟨tokens chunks, pending chunks, fun _ _ ends => LogToken.ofLine_eq ends, ?_⟩
  intro others same
  refine ⟨?_, ?_⟩
  · rw [tokens others, tokens chunks, same]
  · have equal : (pushAll {} others).pending = (pushAll {} chunks).pending := by
      rw [pending others, pending chunks, same]
    exact congrArg mk equal

/-- A carriage return and its line feed may come in two pieces, and a piece
that is the reserved text drops the unfinished line before it. -/
example :
    tokensOfAll {} ["half".toList, " ::CLEAR::\n".toList, "a\r".toList, "\n::CL".toList,
        "EAR::\nb".toList] = [.clear, .line "a", .clear] := by
  decide +kernel

end LineAssembler
end Log
end SyncWatch
