import LayerAtlas.Proofs.Toml.StringBody
import LayerAtlas.Toml.Quoting

/-!
# Strings that read back

Whatever form a text is written in, what stands between the quotes is a body that stands for it. A form with
escapes suits every text, and a form without is chosen only for a text that needs none.
-/
namespace LayerAtlas.Toml

variable {text : List Char}

theorem isInline_of_not_isControl {c : Char} (unbroken : c ≠ '\n') (free : isControl c = false) :
    isInline c = true := by
  by_cases tab : c = '\t'
  · simp [isInline, tab]
  · simp [isControl, tab, unbroken] at free
    simp [isInline, tab]
    omega

/-- The digits of a control character are the number of the character. -/
theorem hex4_control :
    ∀ n : Fin 128, let digits := ((JsonDoc.hex4 n).map Char.toUpper).toList
      digits.length = 4 ∧ digits.all isHexDigit = true ∧
        digits.foldl (fun value c => value * 16 + CharTable.hexValue c) 0 = n := by
  decide +kernel

theorem escapes_control {c : Char} (ascii : c.toNat < 128) :
    Escapes ('u' :: ((JsonDoc.hex4 c.toNat).map Char.toUpper).toList) c := by
  obtain ⟨four, digital, same⟩ := hex4_control ⟨c.toNat, ascii⟩
  refine ⟨⟨'u', _, rfl, by decide⟩, fun rest => ?_⟩
  change codePoint 4 (((JsonDoc.hex4 c.toNat).map Char.toUpper).toList ++ rest) = _
  generalize ((JsonDoc.hex4 c.toNat).map Char.toUpper).toList = digits at four digital same
  have taken : (digits ++ rest).take 4 = digits := by simp [← four]
  have dropped : (digits ++ rest).drop 4 = rest := by simp [← four]
  have valid : (digits.foldl (fun value c => value * 16 + CharTable.hexValue c) 0).isValidChar := by
    rw [same]
    exact c.valid
  have made : ∀ (n : Nat) (valid : n.isValidChar), n = c.toNat → Char.ofNatAux n valid = c := by
    rintro _ _ rfl
    rfl
  unfold codePoint
  dsimp only
  rw [taken, dropped, if_pos ⟨four, digital⟩, dif_pos valid, made _ valid same]

/-- In double quotes every character but the quote is written as a piece. -/
theorem piece_escapeChar {c : Char} (unquoted : c ≠ '"') :
    Piece (lineString '"') '"' (escapeChar false c).toList c ∧
      Piece (blockString '"') '"' (escapeChar true c).toList c := by
  have both : ∀ {code : List Char}, Escapes code c →
      Piece (lineString '"') '"' ('\\' :: code) c ∧ Piece (blockString '"') '"' ('\\' :: code) c :=
    fun escapes => ⟨linePiece_escaped escapes, blockPiece_escaped escapes⟩
  unfold escapeChar
  split
  · next same =>
    subst same
    exact both (escapes_letter (fun _ => rfl) (by decide))
  split
  · next same =>
    subst same
    exact both (escapes_letter (fun _ => rfl) (by decide))
  split
  · next same =>
    subst same
    exact both (escapes_letter (fun _ => rfl) (by decide))
  split
  · next eight =>
    obtain rfl : c = '\x08' := Char.toNat_inj.1 eight
    exact both (escapes_letter (fun _ => rfl) (by decide))
  split
  · next twelve =>
    obtain rfl : c = '\x0c' := Char.toNat_inj.1 twelve
    exact both (escapes_letter (fun _ => rfl) (by decide))
  split
  · next same =>
    subst same
    exact ⟨linePiece_escaped (escapes_letter (fun _ => rfl) (by decide)), blockPiece_newline (by decide)⟩
  split
  · next control =>
    have ascii : c.toNat < 128 := by
      simp only [isControl, Bool.or_eq_true, Bool.and_eq_true, decide_eq_true_eq] at control
      omega
    rw [String.toList_append]
    exact both (escapes_control ascii)
  · next unescaped _ _ _ _ unbroken free =>
    have inline := isInline_of_not_isControl unbroken ((Bool.not_eq_true _).mp free)
    rw [show c.toString.toList = [c] from String.toList_singleton c]
    have plain : ¬ (c = '\\' ∧ '"' = '"') := fun same => unescaped same.1
    exact ⟨linePiece_plain inline unquoted plain, blockPiece_plain inline unquoted plain⟩

theorem escapes_quote : Escapes ['"'] '"' :=
  escapes_letter (fun _ => rfl) (by decide)

theorem lineBody_escapeText (run : Nat) (text : List Char) :
    LineBody '"' (escapeText false run text).toList text := by
  induction text generalizing run with
  | nil => exact .done
  | cons c rest ih =>
    unfold escapeText
    split
    · next same =>
      subst same
      rw [if_pos (by simp), String.toList_append]
      exact .piece (linePiece_escaped escapes_quote) (ih 0)
    · next unquoted =>
      rw [String.toList_append]
      exact .piece (piece_escapeChar unquoted).1 (ih 0)

/-- Of every three quotes in a row the third is escaped. -/
theorem blockBody_escapeText (run : Nat) (few : run ≤ 2) (text : List Char) :
    BlockBody '"' (2 - run) (escapeText true run text).toList text := by
  induction text generalizing run with
  | nil => exact .done _
  | cons c rest ih =>
    unfold escapeText
    split
    · next same =>
      subst same
      split
      · rw [String.toList_append]
        exact .piece (blockPiece_escaped escapes_quote) (ih 0 (by omega))
      · next more =>
        have fewer : run < 2 := by
          simp only [Bool.not_true, Bool.false_or, decide_eq_true_eq] at more
          omega
        rw [String.toList_append, show 2 - run = 2 - (run + 1) + 1 by omega]
        exact .quote (ih (run + 1) (by omega))
    · next unquoted =>
      rw [String.toList_append]
      exact .piece (piece_escapeChar unquoted).2 (ih 0 (by omega))

/-- The longest run of a character in a text, or the given one if that is longer; `run` of the character
stand before the text. -/
def longestFrom (mark : Char) (run best : Nat) (text : List Char) : Nat :=
  (text.foldl (fun (run, best) c =>
    let run := if c = mark then run + 1 else 0
    (run, max run best)) (run, best)).2

theorem longestFrom_cons (mark c : Char) (run best : Nat) (text : List Char) :
    longestFrom mark run best (c :: text) =
      longestFrom mark (if c = mark then run + 1 else 0) (max (if c = mark then run + 1 else 0) best)
        text := rfl

theorem le_longestFrom (mark : Char) (run best : Nat) (text : List Char) :
    best ≤ longestFrom mark run best text := by
  induction text generalizing run best with
  | nil => exact Nat.le_refl best
  | cons c rest ih =>
    rw [longestFrom_cons]
    exact Nat.le_trans (Nat.le_max_right _ best) (ih _ _)

/-- A quote behind others is part of their run. -/
theorem lt_longestFrom_cons (mark : Char) (run best : Nat) (text : List Char) :
    run < longestFrom mark run best (mark :: text) := by
  have counted := le_longestFrom mark (run + 1) (max (run + 1) best) text
  rw [longestFrom_cons, if_pos rfl]
  omega

theorem not_mem_of_longestFrom {mark : Char} {run best : Nat}
    (none : longestFrom mark run best text = 0) : mark ∉ text := by
  induction text generalizing run best with
  | nil => exact List.not_mem_nil
  | cons c rest ih =>
    intro member
    rcases List.mem_cons.1 member with rfl | behind
    · have counted := lt_longestFrom_cons mark run best rest
      omega
    · rw [longestFrom_cons] at none
      exact ih none behind

theorem lineBody_literal (free : ∀ c ∈ text, isControl c = false) (oneLine : '\n' ∉ text)
    (unquoted : '\'' ∉ text) : LineBody '\'' text text := by
  induction text with
  | nil => exact .done
  | cons c rest ih =>
    obtain ⟨unbroken, oneLine⟩ := not_or.1 (mt List.mem_cons.2 oneLine)
    obtain ⟨other, unquoted⟩ := not_or.1 (mt List.mem_cons.2 unquoted)
    have inline := isInline_of_not_isControl (Ne.symm unbroken) (free c List.mem_cons_self)
    exact .piece (linePiece_plain inline (Ne.symm other) (fun both => absurd both.2 (by decide)))
      (ih (fun c member => free c (List.mem_cons_of_mem _ member)) oneLine unquoted)

theorem blockBody_literal (run best : Nat) (free : ∀ c ∈ text, isControl c = false)
    (short : longestFrom '\'' run best text ≤ 2) : BlockBody '\'' (2 - run) text text := by
  induction text generalizing run best with
  | nil => exact .done _
  | cons c rest ih =>
    have free' := fun c member => free c (List.mem_cons_of_mem _ member)
    by_cases quoted : c = '\''
    · subst quoted
      have fewer : run < 2 := Nat.lt_of_lt_of_le (lt_longestFrom_cons '\'' run best rest) short
      rw [longestFrom_cons, if_pos rfl] at short
      rw [show 2 - run = 2 - (run + 1) + 1 by omega]
      exact .quote (ih (run + 1) _ free' short)
    · rw [longestFrom_cons, if_neg quoted] at short
      have stands : Piece (blockString '\'') '\'' [c] c := by
        by_cases broken : c = '\n'
        · subst broken
          exact blockPiece_newline (by decide)
        · exact blockPiece_plain (isInline_of_not_isControl broken (free c List.mem_cons_self)) quoted
            (fun both => absurd both.2 (by decide))
      exact .piece stands (ih 0 _ free' short)

/-- A form without escapes is chosen only where the text needs none. -/
theorem choose_spec (text : List Char) :
    (StringForm.choose text = .literal →
      (∀ c ∈ text, isControl c = false) ∧ '\n' ∉ text ∧ longestRun '\'' text = 0) ∧
    (StringForm.choose text = .literalBlock →
      (∀ c ∈ text, isControl c = false) ∧ longestRun '\'' text ≤ 2) := by
  have free : (!text.any isControl) = true → ∀ c ∈ text, isControl c = false := by simp
  unfold StringForm.choose
  dsimp only
  constructor
  · intro chosen
    split at chosen
    · cases chosen
    split at chosen
    · next conditions =>
      simp only [Bool.and_eq_true, decide_eq_true_eq] at conditions
      obtain ⟨⟨uncontrolled, single⟩, oneLine⟩ := conditions
      exact ⟨free uncontrolled, by simpa using oneLine, single⟩
    split at chosen
    · cases chosen
    split at chosen
    · cases chosen
    split at chosen <;> cases chosen
  · intro chosen
    split at chosen
    · cases chosen
    split at chosen
    · cases chosen
    split at chosen
    · cases chosen
    split at chosen
    · next conditions =>
      simp only [Bool.and_eq_true, decide_eq_true_eq] at conditions
      exact ⟨free conditions.1, conditions.2⟩
    split at chosen <;> cases chosen

/-- Whatever form is chosen, a string is read back behind its first quote, up to its end. -/
theorem string_quote (text : String) {rest : List Char} (plain : rest.head? ≠ some '"')
    (plain' : rest.head? ≠ some '\'') :
    ∃ mark body, (mark = '"' ∨ mark = '\'') ∧ (quote text).toList ++ rest = mark :: body ∧
      string mark body = .ok (text, rest) := by
  have lead : (if text.toList.contains '\n' then "\n" else "").toList =
      if '\n' ∈ text.toList then ['\n'] else [] := by
    simp only [List.contains_iff_mem]
    split <;> rfl
  have whole : String.ofList text.toList = text := String.ofList_toList
  obtain ⟨literal, literalBlock⟩ := choose_spec text.toList
  unfold quote
  dsimp only
  split
  · refine ⟨'"', _, .inl rfl, by simp only [String.toList_append, List.append_assoc]; rfl, ?_⟩
    exact (string_line (lineBody_escapeText 0 text.toList) plain).trans (by rw [whole])
  · next chosen =>
    obtain ⟨free, oneLine, none⟩ := literal chosen
    refine ⟨'\'', _, .inr rfl, by simp only [String.toList_append, List.append_assoc]; rfl, ?_⟩
    have written := lineBody_literal free oneLine (not_mem_of_longestFrom none)
    exact (string_line written plain').trans (by rw [whole])
  · refine ⟨'"', _, .inl rfl, by simp only [String.toList_append, List.append_assoc]; rfl, ?_⟩
    have written := blockBody_escapeText 0 (by omega) text.toList
    rw [lead]
    exact (string_block written (by decide) plain).trans (by rw [whole])
  · next chosen =>
    obtain ⟨free, short⟩ := literalBlock chosen
    refine ⟨'\'', _, .inr rfl, by simp only [String.toList_append, List.append_assoc]; rfl, ?_⟩
    have written := blockBody_literal 0 0 free short
    rw [lead]
    exact (string_block written (by decide) plain').trans (by rw [whole])

end LayerAtlas.Toml
