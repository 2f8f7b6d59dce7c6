import LayerAtlas.Proofs.Reading.Word

/-!
# Gaps between tokens

What may stand between two tokens: blanks, comments, line breaks and the backslash that joins two lines.
Where the line may end, a line break is no blank but the end of the line. `IsGap` says which texts are
gaps. A reader that passes blanks moves over a whole gap up to the next token, wherever the lines break,
and over nothing else.
-/
namespace LayerAtlas.SourceText

/-! What a gap is. -/

/-- Blanks, comments and line breaks between two tokens. A line break where the line may end is one only
behind a hidden blank, up to the next comment or joined line. No identifier holds a hidden blank; that is
asked for here so that no proof has to go through the tables of identifiers. -/
inductive IsGap (mayEnd : Bool) : (isMeasured : Bool) → List Char → Prop
  | nothing {isMeasured : Bool} : IsGap mayEnd isMeasured []
  | blank {isMeasured : Bool} {c : Char} {behind : List Char} (blank : isIndentation c = true)
      (isGap : IsGap mayEnd isMeasured behind) : IsGap mayEnd isMeasured (c :: behind)
  | hidden {isMeasured : Bool} {c : Char} {behind : List Char} (hidden : isHiddenBlank c = true)
      (apart : isIdentifierContinue c = false) (isGap : IsGap mayEnd false behind) :
      IsGap mayEnd isMeasured (c :: behind)
  | lineBreak {isMeasured : Bool} {behind : List Char} (passed : (mayEnd && isMeasured) = false)
      (isGap : IsGap mayEnd isMeasured behind) : IsGap mayEnd isMeasured ('\n' :: behind)
  | comment {isMeasured : Bool} {words behind : List Char} (passed : mayEnd = false)
      (unbroken : '\n' ∉ words) (isGap : IsGap mayEnd true behind) :
      IsGap mayEnd isMeasured ('#' :: (words ++ '\n' :: behind))
  | joined {isMeasured : Bool} {behind : List Char} (isGap : IsGap mayEnd true behind) :
      IsGap mayEnd isMeasured ('\\' :: '\n' :: behind)
  | joinedReturn {isMeasured : Bool} {behind : List Char} (isGap : IsGap mayEnd true behind) :
      IsGap mayEnd isMeasured ('\\' :: '\r' :: '\n' :: behind)

/-- A gap. `mayEnd` says whether the line may end where it stands. -/
structure Gap (mayEnd : Bool) where
  text : List Char
  isGap : IsGap mayEnd true text

/-- A gap between two words, which would be one word without it. -/
structure Space (mayEnd : Bool) extends Gap mayEnd where
  parts : text ≠ []

def Space.blank (mayEnd : Bool) : Space mayEnd :=
  ⟨⟨[' '], .blank rfl .nothing⟩, List.cons_ne_nil _ _⟩

def Gap.blank (mayEnd : Bool) : Gap mayEnd :=
  (Space.blank mayEnd).toGap

/-- What may stand between the last token of a line and its end. -/
inductive IsTail : List Char → Prop
  | nothing : IsTail []
  | comment {words : List Char} (unbroken : '\n' ∉ words) : IsTail ('#' :: words)
  | blank {c : Char} {behind : List Char} (blank : isIndentation c = true) (isTail : IsTail behind) :
      IsTail (c :: behind)
  | joined {behind : List Char} (isTail : IsTail behind) : IsTail ('\\' :: '\n' :: behind)
  | joinedReturn {behind : List Char} (isTail : IsTail behind) :
      IsTail ('\\' :: '\r' :: '\n' :: behind)

structure Tail where
  text : List Char
  isTail : IsTail text

def Gap.nothing (mayEnd : Bool) : Gap mayEnd :=
  ⟨[], .nothing⟩

def Tail.nothing : Tail :=
  ⟨[], .nothing⟩

/-! Passing a gap. -/

theorem Margin.isComment_note (margin : Margin) : margin.note.isComment = margin.isComment := by
  unfold Margin.note
  split <;> rfl

theorem Margin.isMeasured_joined (margin : Margin) : margin.joined.isMeasured = true := by
  unfold Margin.joined
  split <;> rename_i measured
  · exact measured
  · rfl

theorem Margin.isComment_joined (margin : Margin) : margin.joined.isComment = margin.isComment := by
  unfold Margin.joined
  split <;> rfl

theorem ne_lineBreak_of_isIndentation {c : Char} (blank : isIndentation c = true) : c ≠ '\n' := by
  rintro rfl
  cases blank

theorem ne_lineBreak_of_isHiddenBlank {c : Char} (hidden : isHiddenBlank c = true) : c ≠ '\n' := by
  rintro rfl
  cases hidden

section Passing

variable {stops notes : Bool} {margin : Margin} (outside : margin.isComment = false)
  (indents : List Nat) (rest : List Char) (position row : Nat)
include outside

theorem passBlanks_blank {c : Char} (blank : isIndentation c = true) :
    passBlanks stops notes indents (c :: rest) position row margin =
      passBlanks stops notes indents rest (position + 1) row (margin.blank c) := by
  rw [passBlanks.eq_def]
  simp [outside, ne_lineBreak_of_isIndentation blank, blank]

theorem passBlanks_hidden {c : Char} (hidden : isHiddenBlank c = true) :
    passBlanks stops notes indents (c :: rest) position row margin =
      passBlanks stops notes indents rest (position + 1) row margin.hide := by
  have visible : isIndentation c = false := by
    simp only [isHiddenBlank, Bool.or_eq_true, decide_eq_true_eq] at hidden
    rcases hidden with ((rfl | rfl) | rfl) | rfl <;> rfl
  rw [passBlanks.eq_def]
  simp [outside, ne_lineBreak_of_isHiddenBlank hidden, visible, hidden]

theorem passBlanks_joined :
    passBlanks stops notes indents ('\\' :: '\n' :: rest) position row margin =
      passBlanks stops notes indents rest (position + 2) (row + 1) margin.joined := by
  rw [passBlanks.eq_def]
  simp [outside, isIndentation, isHiddenBlank]

theorem passBlanks_joinedReturn :
    passBlanks stops notes indents ('\\' :: '\r' :: '\n' :: rest) position row margin =
      passBlanks stops notes indents rest (position + 3) (row + 1) margin.joined := by
  rw [passBlanks.eq_def]
  simp [outside, isIndentation, isHiddenBlank]

theorem passBlanks_sign :
    passBlanks stops notes indents ('#' :: rest) position row margin =
      passBlanks stops notes indents rest (position + 1) row
        (if notes then margin.note else margin).comment := by
  rw [passBlanks.eq_def]
  simp [outside, isIndentation, isHiddenBlank]

omit outside in
theorem passBlanks_lineBreak (goesOn : (stops && margin.isMeasured) = false) :
    passBlanks stops notes indents ('\n' :: rest) position row margin =
      passBlanks stops notes indents rest (position + 1) (row + 1) margin.lineBreak := by
  rw [passBlanks.eq_def]
  simp [goesOn]

omit outside in
theorem passBlanks_lineEnd (measured : margin.isMeasured = true) :
    passBlanks true notes indents ('\n' :: rest) position row margin =
      (margin, ⟨'\n' :: rest, position, row, indents⟩) := by
  rw [passBlanks.eq_def]
  simp [measured]

omit outside in
/-- The text of a comment is passed up to the end of the line. -/
theorem passBlanks_comment (inside : margin.isComment = true) {words : List Char}
    (unbroken : '\n' ∉ words) :
    passBlanks stops notes indents (words ++ rest) position row margin =
      passBlanks stops notes indents rest (position + words.length) row margin := by
  induction words generalizing position with
  | nil => rfl
  | cons c words ih =>
    obtain ⟨other, later⟩ : '\n' ≠ c ∧ '\n' ∉ words := by simpa using unbroken
    have step : passBlanks stops notes indents (c :: (words ++ rest)) position row margin =
        passBlanks stops notes indents (words ++ rest) (position + 1) row margin := by
      rw [passBlanks.eq_def]
      simp [inside, other.symm]
    rw [List.cons_append, step, ih _ later, List.length_cons, Nat.add_assoc, Nat.add_comm 1]

end Passing

variable {stops isMeasured : Bool} {text rest : List Char} {c : Char} {follow : Follow}

/-- A whole gap is passed, and no comment is open behind it. -/
theorem passBlanks_of_isGap (notes : Bool) (isGap : IsGap stops isMeasured text) (indents : List Nat)
    (rest : List Char) (margin : Margin) (measured : margin.isMeasured = isMeasured)
    (outside : margin.isComment = false) (position row : Nat) :
    ∃ after : Margin, after.isComment = false ∧
      passBlanks stops notes indents (text ++ rest) position row margin =
        passBlanks stops notes indents rest (position + text.length) (row + text.count '\n') after := by
  induction isGap generalizing margin position row with
  | nothing => exact ⟨margin, outside, rfl⟩
  | @blank _ c behind blank _ ih =>
    obtain ⟨after, closed, passed⟩ := ih (margin.blank c) measured outside (position + 1) row
    refine ⟨after, closed, ?_⟩
    have other := ne_lineBreak_of_isIndentation blank
    rw [List.cons_append, passBlanks_blank outside _ _ _ _ blank, passed, List.length_cons,
      List.count_cons_of_ne other, Nat.add_assoc, Nat.add_comm 1]
  | @hidden _ c behind hidden _ _ ih =>
    obtain ⟨after, closed, passed⟩ := ih margin.hide rfl
      (margin.isComment_note.trans outside) (position + 1) row
    refine ⟨after, closed, ?_⟩
    have other := ne_lineBreak_of_isHiddenBlank hidden
    rw [List.cons_append, passBlanks_hidden outside _ _ _ _ hidden, passed, List.length_cons,
      List.count_cons_of_ne other, Nat.add_assoc, Nat.add_comm 1]
  | @lineBreak _ behind goesOn _ ih =>
    obtain ⟨after, closed, passed⟩ := ih margin.lineBreak measured rfl (position + 1)
      (row + 1)
    refine ⟨after, closed, ?_⟩
    rw [List.cons_append, passBlanks_lineBreak _ _ _ _ (measured ▸ goesOn), passed, List.length_cons,
      List.count_cons_self]
    congr 1 <;> omega
  | @comment _ words behind goesOn unbroken _ ih =>
    obtain ⟨after, closed, passed⟩ := ih
      (if notes then margin.note else margin).comment.lineBreak rfl rfl
      (position + 1 + words.length + 1) (row + 1)
    refine ⟨after, closed, ?_⟩
    rw [List.cons_append, passBlanks_sign outside, List.append_assoc,
      passBlanks_comment _ _ _ _ rfl unbroken, List.cons_append,
      passBlanks_lineBreak _ _ _ _ (by rw [goesOn, Bool.false_and]), passed,
      List.count_cons_of_ne (by decide), List.count_append, List.count_eq_zero_of_not_mem unbroken,
      List.count_cons_self, List.length_cons, List.length_append, List.length_cons]
    congr 1 <;> omega
  | @joined _ behind _ ih =>
    obtain ⟨after, closed, passed⟩ := ih margin.joined margin.isMeasured_joined
      (margin.isComment_joined.trans outside) (position + 2) (row + 1)
    refine ⟨after, closed, ?_⟩
    rw [List.cons_append, List.cons_append, passBlanks_joined outside, passed, List.length_cons,
      List.length_cons, List.count_cons_of_ne (by decide), List.count_cons_self]
    congr 1 <;> omega
  | @joinedReturn _ behind _ ih =>
    obtain ⟨after, closed, passed⟩ := ih margin.joined margin.isMeasured_joined
      (margin.isComment_joined.trans outside) (position + 3) (row + 1)
    refine ⟨after, closed, ?_⟩
    rw [List.cons_append, List.cons_append, List.cons_append, passBlanks_joinedReturn outside, passed,
      List.length_cons, List.length_cons, List.length_cons, List.count_cons_of_ne (by decide),
      List.count_cons_of_ne (by decide), List.count_cons_self]
    congr 1 <;> omega

/-! Where a line ends. -/

/-- The line ends here, or the whole text. -/
def EndsLine (rest : List Char) : Prop :=
  rest = [] ∨ ∃ after, rest = '\n' :: after

theorem EndsLine.endsWord (ends : EndsLine rest) : EndsWord rest := by
  obtain rfl | ⟨after, rfl⟩ := ends
  · exact endsWord_nil
  · exact endsWord_cons rfl after

theorem passBlanks_of_endsLine (notes : Bool) (ends : EndsLine rest) (indents : List Nat)
    (margin : Margin) (measured : margin.isMeasured = true) (position row : Nat) :
    ∃ after : Margin, after.isMeasured = true ∧
      passBlanks true notes indents rest position row margin =
        (after, ⟨rest, position, row, indents⟩) := by
  obtain rfl | ⟨after, rfl⟩ := ends
  · have finished : margin.finish.isMeasured = true := by
      unfold Margin.finish Margin.note
      split <;> exact measured
    exact ⟨margin.finish, finished, passBlanks_nil true notes indents position row margin⟩
  · exact ⟨margin, measured, passBlanks_lineEnd indents after position row measured⟩

/-- Where the line may end, what stands in front of its end is passed, and the end itself is not. -/
theorem passBlanks_of_isTail (notes : Bool) (isTail : IsTail text) (ends : EndsLine rest)
    (indents : List Nat) (margin : Margin) (measured : margin.isMeasured = true)
    (outside : margin.isComment = false) (position row : Nat) :
    ∃ after : Margin, after.isMeasured = true ∧
      passBlanks true notes indents (text ++ rest) position row margin =
        (after, ⟨rest, position + text.length, row + text.count '\n', indents⟩) := by
  induction isTail generalizing margin position row with
  | nothing => exact passBlanks_of_endsLine notes ends indents margin measured position row
  | @comment words unbroken =>
    obtain ⟨after, still, passed⟩ := passBlanks_of_endsLine notes ends indents
      (if notes then margin.note else margin).comment rfl (position + 1 + words.length) row
    refine ⟨after, still, ?_⟩
    rw [List.cons_append, passBlanks_sign outside, passBlanks_comment _ _ _ _ rfl unbroken, passed,
      List.count_cons_of_ne (by decide), List.count_eq_zero_of_not_mem unbroken, List.length_cons,
      Nat.add_assoc, Nat.add_comm 1]
    rfl
  | @blank c behind blank _ ih =>
    obtain ⟨after, still, passed⟩ := ih (margin.blank c) measured outside (position + 1) row
    refine ⟨after, still, ?_⟩
    rw [List.cons_append, passBlanks_blank outside _ _ _ _ blank, passed, List.length_cons,
      List.count_cons_of_ne (ne_lineBreak_of_isIndentation blank), Nat.add_assoc, Nat.add_comm 1]
  | @joined behind _ ih =>
    obtain ⟨after, still, passed⟩ := ih margin.joined margin.isMeasured_joined
      (margin.isComment_joined.trans outside) (position + 2) (row + 1)
    refine ⟨after, still, ?_⟩
    rw [List.cons_append, List.cons_append, passBlanks_joined outside, passed, List.length_cons,
      List.length_cons, List.count_cons_of_ne (by decide), List.count_cons_self]
    congr 2 <;> omega
  | @joinedReturn behind _ ih =>
    obtain ⟨after, still, passed⟩ := ih margin.joined margin.isMeasured_joined
      (margin.isComment_joined.trans outside) (position + 3) (row + 1)
    refine ⟨after, still, ?_⟩
    rw [List.cons_append, List.cons_append, List.cons_append, passBlanks_joinedReturn outside, passed,
      List.length_cons, List.length_cons, List.length_cons, List.count_cons_of_ne (by decide),
      List.count_cons_of_ne (by decide), List.count_cons_self]
    congr 2 <;> omega

/-! Readers of gaps. -/

theorem passBlanks_of_not_mem (stops notes : Bool) (indents : List Nat) (solid : c ∉ layoutChars)
    (rest : List Char) (position row : Nat) {margin : Margin} (text : margin.isComment = false) :
    passBlanks stops notes indents (c :: rest) position row margin =
      (margin.note, ⟨c :: rest, position, row, indents⟩) := by
  simp only [layoutChars, List.mem_cons, List.not_mem_nil, or_false, not_or] at solid
  unfold passBlanks
  simp [isIndentation, isHiddenBlank, text, solid]

/-- Outside of all blocks no line is indented too little. -/
theorem isUndercut_of_nil (margin : Margin) (rest : List Char) (position row : Nat) :
    (⟨rest, position, row, []⟩ : Cursor).isUndercut margin = false := by
  unfold Cursor.isUndercut Cursor.indent
  split
  · exact decide_eq_false (Nat.not_lt_zero _)
  · rfl

theorem gap_of_passBlanks {position row : Nat} {margin : Margin} {text : List Char} {next : Cursor}
    (passed : passBlanks follow.lineEnd true [] text position row .start = (margin, next))
    (more : next.rest ≠ []) :
    gap follow false ⟨text, position, row, []⟩ = .ok ((), next) := by
  unfold gap Cursor.passBlanks
  simp [passed, more, isUndercut_of_nil]

/-- A token comes here. -/
def BeginsToken (rest : List Char) : Prop :=
  ∃ c after, rest = c :: after ∧ c ∉ layoutChars

theorem beginsToken_cons (solid : c ∉ layoutChars) (after : List Char) : BeginsToken (c :: after) :=
  ⟨c, after, rfl, solid⟩

theorem beginsToken_name {name : String} (named : isName name = true) (after : List Char) :
    BeginsToken (name.toList ++ after) := by
  obtain ⟨c, others, chars, starts, _⟩ := exists_of_isName named
  rw [chars]
  exact beginsToken_cons starts.not_mem_layoutChars (others ++ after)

/-! Behind a gap. -/

theorem isIdentifierContinue_of_isIndentation (blank : isIndentation c = true) :
    isIdentifierContinue c = false := by
  simp only [isIndentation, Bool.or_eq_true, decide_eq_true_eq] at blank
  rcases blank with ((rfl | rfl) | rfl) | rfl <;> rfl

theorem IsGap.endsWord {mayEnd : Bool} (isGap : IsGap mayEnd isMeasured text) (ends : EndsWord rest) :
    EndsWord (text ++ rest) := by
  cases isGap with
  | nothing => exact ends
  | blank blank _ => exact endsWord_cons (isIdentifierContinue_of_isIndentation blank) _
  | hidden _ apart _ => exact endsWord_cons apart _
  | lineBreak _ _ => exact endsWord_cons rfl _
  | comment _ _ _ => exact endsWord_cons rfl _
  | joined _ => exact endsWord_cons rfl _
  | joinedReturn _ => exact endsWord_cons rfl _

theorem IsTail.endsWord (isTail : IsTail text) (ends : EndsWord rest) : EndsWord (text ++ rest) := by
  cases isTail with
  | nothing => exact ends
  | comment _ => exact endsWord_cons rfl _
  | blank blank _ => exact endsWord_cons (isIdentifierContinue_of_isIndentation blank) _
  | joined _ => exact endsWord_cons rfl _
  | joinedReturn _ => exact endsWord_cons rfl _

theorem Space.endsWord {mayEnd : Bool} (space : Space mayEnd) (rest : List Char) :
    EndsWord (space.text ++ rest) := by
  obtain empty | ⟨c, after, text, ends⟩ := space.isGap.endsWord endsWord_nil
  · exact absurd (List.append_eq_nil_iff.mp empty).1 space.parts
  · rw [List.append_nil] at text
    rw [text]
    exact endsWord_cons ends _

theorem spans_gap (follow : Follow) (blanks : Gap follow.lineEnd) (token : BeginsToken rest) :
    Spans (gap follow false) blanks.text rest () := by
  intro position row
  obtain ⟨c, after, rfl, solid⟩ := token
  obtain ⟨margin, closed, passed⟩ := passBlanks_of_isGap true blanks.isGap [] (c :: after) .start
    rfl rfl position row
  rw [passBlanks_of_not_mem _ _ _ solid _ _ _ closed] at passed
  exact gap_of_passBlanks passed (List.cons_ne_nil _ _)

theorem spans_innerGap (blanks : Gap false) (token : BeginsToken rest) :
    Spans innerGap blanks.text rest () :=
  spans_gap .more blanks token

theorem spans_tail (tail : Tail) (ends : EndsLine rest) : Spans (gap .line false) tail.text rest () := by
  intro position row
  obtain ⟨margin, measured, passed⟩ := passBlanks_of_isTail true tail.isTail ends [] .start rfl
    rfl position row
  unfold gap Cursor.passBlanks
  simp [Follow.line, passed, measured]

/-! Nothing but gaps. -/

/-- Up to the next token there is only a gap, behind the end of the comment that may still be open. -/
def GapAhead (stops : Bool) (margin : Margin) (text rest : List Char) : Prop :=
  if margin.isComment then
    ∃ words between, text = words ++ '\n' :: (between ++ rest) ∧ '\n' ∉ words ∧
      (stops && margin.isMeasured) = false ∧ IsGap stops margin.isMeasured between
  else ∃ between, text = between ++ rest ∧ IsGap stops margin.isMeasured between

theorem gapAhead_of_outside {margin : Margin} (outside : margin.isComment = false) :
    GapAhead stops margin text rest ↔
      ∃ between, text = between ++ rest ∧ IsGap stops margin.isMeasured between := by
  simp [GapAhead, outside]

theorem gapAhead_of_inside {margin : Margin} (inside : margin.isComment = true) :
    GapAhead stops margin text rest ↔
      ∃ words between, text = words ++ '\n' :: (between ++ rest) ∧ '\n' ∉ words ∧
        (stops && margin.isMeasured) = false ∧ IsGap stops margin.isMeasured between := by
  simp [GapAhead, inside]

theorem gapAhead_of_passBlanks (apart : ∀ c, isHiddenBlank c = true → isIdentifierContinue c = false)
    (notes : Bool) (indents : List Nat) (position row : Nat) {margin after : Margin} {next : Cursor}
    (passed : passBlanks stops notes indents text position row margin = (after, next))
    (token : BeginsToken next.rest) : GapAhead stops margin text next.rest := by
  have solid {c : Char} {behind : List Char} (layout : c ∈ layoutChars) : next.rest ≠ c :: behind := by
    obtain ⟨d, others, begins, solid⟩ := token
    rw [begins]
    rintro ⟨⟩
    exact solid layout
  have nonempty : next.rest ≠ [] := by
    obtain ⟨c, behind, begins, _⟩ := token
    exact begins ▸ List.cons_ne_nil _ _
  have closed {margin : Margin} {c : Char} (guard : ¬(margin.isComment && decide (c ≠ '\n')) = true)
      (other : c ≠ '\n') : margin.isComment = false := by
    simpa [other] using guard
  fun_induction passBlanks stops notes indents text position row margin with
  | case1 position row margin =>
    cases passed
    exact absurd rfl nonempty
  | case2 c behind position row margin inComment ih =>
    obtain ⟨inside, other⟩ : margin.isComment = true ∧ c ≠ '\n' := by simpa using inComment
    obtain ⟨words, between, rfl, unbroken, goesOn, isGap⟩ := (gapAhead_of_inside inside).mp (ih passed)
    exact (gapAhead_of_inside inside).mpr
      ⟨c :: words, between, rfl, by simpa [other.symm] using unbroken, goesOn, isGap⟩
  | case3 behind position row margin stop guard =>
    cases passed
    exact absurd rfl (solid (by decide))
  | case4 behind position row margin goesOn guard ih =>
    obtain ⟨between, rfl, isGap⟩ := (gapAhead_of_outside rfl).mp (ih passed)
    have goesOn : (stops && margin.isMeasured) = false := Bool.eq_false_iff.mpr goesOn
    cases comment : margin.isComment with
    | true =>
      exact (gapAhead_of_inside comment).mpr ⟨[], between, rfl, List.not_mem_nil, goesOn, isGap⟩
    | false =>
      exact (gapAhead_of_outside comment).mpr ⟨'\n' :: between, rfl, .lineBreak goesOn isGap⟩
  | case5 c behind position row margin guard other blank ih =>
    have outside := closed guard other
    obtain ⟨between, rfl, isGap⟩ := (gapAhead_of_outside outside).mp (ih passed)
    exact (gapAhead_of_outside outside).mpr ⟨c :: between, rfl, .blank blank isGap⟩
  | case6 c behind position row margin guard other visible hidden ih =>
    have outside := closed guard other
    have hides : margin.hide.isComment = false := margin.isComment_note.trans outside
    obtain ⟨between, rfl, isGap⟩ := (gapAhead_of_outside hides).mp (ih passed)
    exact (gapAhead_of_outside outside).mpr ⟨c :: between, rfl, .hidden hidden (apart c hidden) isGap⟩
  | case7 behind position row margin noted guard other _ _ ih =>
    obtain ⟨words, between, rfl, unbroken, goesOn, isGap⟩ := (gapAhead_of_inside rfl).mp (ih passed)
    have goesOn : stops = false := by simpa [Margin.comment] using goesOn
    exact (gapAhead_of_outside (closed guard other)).mpr
      ⟨'#' :: (words ++ '\n' :: between), by simp, .comment goesOn unbroken isGap⟩
  | case8 position row margin behind guard other _ _ _ ih =>
    have outside := closed guard other
    obtain ⟨between, rfl, isGap⟩ :=
      (gapAhead_of_outside (margin.isComment_joined.trans outside)).mp (ih passed)
    rw [margin.isMeasured_joined] at isGap
    exact (gapAhead_of_outside outside).mpr ⟨'\\' :: '\n' :: between, rfl, .joined isGap⟩
  | case9 position row margin behind guard other _ _ _ ih =>
    have outside := closed guard other
    obtain ⟨between, rfl, isGap⟩ :=
      (gapAhead_of_outside (margin.isComment_joined.trans outside)).mp (ih passed)
    rw [margin.isMeasured_joined] at isGap
    exact (gapAhead_of_outside outside).mpr
      ⟨'\\' :: '\r' :: '\n' :: between, rfl, .joinedReturn isGap⟩
  | case10 position row margin guard =>
    cases passed
    exact absurd rfl nonempty
  | case11 position row margin behind _ _ _ guard =>
    cases passed
    exact absurd rfl (solid (by decide))
  | case12 c behind position row margin guard other =>
    cases passed
    exact (gapAhead_of_outside (closed guard other)).mpr ⟨[], rfl, .nothing⟩

/-- Nothing but a gap is passed on the way to the next token. -/
theorem exists_isGap_of_gap (apart : ∀ c, isHiddenBlank c = true → isIdentifierContinue c = false)
    {position row : Nat} {next : Cursor}
    (passed : gap follow false ⟨text, position, row, []⟩ = .ok ((), next))
    (token : BeginsToken next.rest) :
    ∃ between, text = between ++ next.rest ∧ IsGap follow.lineEnd true between := by
  cases moved : passBlanks follow.lineEnd true [] text position row .start with
  | mk margin reached =>
    have same : reached = next := by
      unfold gap Cursor.passBlanks at passed
      rw [moved] at passed
      revert passed
      dsimp only
      split
      · split
        · exact nofun
        · exact fun passed => by cases passed; rfl
      · rw [isUndercut_of_nil, Bool.false_and, if_neg Bool.false_ne_true]
        exact fun passed => by cases passed; rfl
    have ahead := gapAhead_of_passBlanks apart true [] position row moved (same ▸ token)
    exact same ▸ (gapAhead_of_outside rfl).mp ahead

end LayerAtlas.SourceText
