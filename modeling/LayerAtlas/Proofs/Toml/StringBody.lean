import LayerAtlas.Toml.Scalar
import Mathlib.Data.List.Basic

/-!
# Bodies of strings

The body of a written string is a sequence of pieces, one for each character that it stands for: the
character itself, or an escape. Reading a piece gives its character and goes on behind it, so reading the
body gives the text. In a string of several lines quotes stand unescaped too, never three of them together,
and the reader takes a run of them at once.
-/
namespace LayerAtlas.Toml

/-- Where a reader of strings may be called again. -/
abbrev BodyReader := Nat → List Char → Except TomlFault (List Char × List Char)

/-- The character in front of what the rest of the body stands for. -/
def prefixed (c : Char) : List Char × List Char → List Char × List Char :=
  fun (more, rest) => (c :: more, rest)

/-- A written piece of the body of a string that stands for one character. -/
structure Piece (read : BodyReader) (quote : Char) (piece : List Char) (c : Char) : Prop where
  /-- A piece is told from a quote, and from a line break unless it is one, by its first character. -/
  front : ∃ first more, piece = first :: more ∧ first ≠ quote ∧ first ≠ '\r' ∧ (first = '\n' → c = '\n')
  reads : ∀ fuel rest, read (fuel + 1) (piece ++ rest) = (read fuel rest).map (prefixed c)

theorem newline?_eq_none {c : Char} {text : List Char} (unbroken : c ≠ '\n') (unreturned : c ≠ '\r') :
    newline? (c :: text) = none := by
  unfold newline?
  split
  · next same => exact absurd (List.cons.inj same).1 unbroken
  · next same => exact absurd (List.cons.inj same).1 unreturned
  · rfl

/-! ## Characters that stand for themselves -/

section Plain

variable {quote c : Char}

theorem isInline_ne_break (inline : isInline c = true) : c ≠ '\n' ∧ c ≠ '\r' := by
  constructor <;>
  · rintro rfl
    revert inline
    decide

theorem linePiece_plain (inline : isInline c = true) (unquoted : c ≠ quote)
    (unescaped : ¬ (c = '\\' ∧ quote = '"')) : Piece (lineString quote) quote [c] c where
  front := ⟨c, [], rfl, unquoted, (isInline_ne_break inline).2,
    fun same => absurd same (isInline_ne_break inline).1⟩
  reads := by
    intro fuel rest
    rw [List.singleton_append, lineString]
    simp only [if_neg unquoted, if_neg unescaped, if_pos inline]
    cases lineString quote fuel rest <;> rfl

theorem blockPiece_plain (inline : isInline c = true) (unquoted : c ≠ quote)
    (unescaped : ¬ (c = '\\' ∧ quote = '"')) : Piece (blockString quote) quote [c] c where
  front := (linePiece_plain inline unquoted unescaped).front
  reads := by
    intro fuel rest
    obtain ⟨unbroken, unreturned⟩ := isInline_ne_break inline
    rw [List.singleton_append, blockString]
    simp only [if_neg unquoted, if_neg unescaped, newline?_eq_none unbroken unreturned, if_pos inline]
    cases blockString quote fuel rest <;> rfl

theorem blockPiece_newline (unquoted : '\n' ≠ quote) : Piece (blockString quote) quote ['\n'] '\n' where
  front := ⟨'\n', [], rfl, unquoted, by decide, fun _ => rfl⟩
  reads := by
    intro fuel rest
    have unescaped : ¬ ('\n' = '\\' ∧ quote = '"') := fun both => absurd both.1 (by decide)
    rw [List.singleton_append, blockString]
    simp only [if_neg unquoted, if_neg unescaped, newline?]
    cases blockString quote fuel rest <;> rfl

end Plain

/-! ## Escapes -/

/-- What is written behind a backslash for a character. -/
structure Escapes (code : List Char) (c : Char) : Prop where
  /-- The backslash hides no line break. -/
  front : ∃ first more, code = first :: more ∧ isSpace first = false ∧ first ≠ '\n' ∧ first ≠ '\r'
  reads : ∀ rest, escape (code ++ rest) = .ok (c, rest)

section Escapes

variable {code : List Char} {c : Char}

theorem hiddenBreak?_eq_none (escapes : Escapes code c) (rest : List Char) :
    hiddenBreak? (code ++ rest) = none := by
  obtain ⟨first, more, rfl, solid, unbroken, unreturned⟩ := escapes.front
  have stays : skipSpaces (first :: more ++ rest) = first :: (more ++ rest) :=
    List.dropWhile_cons_of_neg (by simp [solid])
  rw [hiddenBreak?, stays, newline?_eq_none unbroken unreturned, Option.map_none]

theorem linePiece_escaped (escapes : Escapes code c) : Piece (lineString '"') '"' ('\\' :: code) c where
  front := ⟨'\\', code, rfl, by decide, by decide, fun same => absurd same (by decide)⟩
  reads := by
    intro fuel rest
    have unquoted : '\\' ≠ '"' := by decide
    rw [List.cons_append, lineString]
    simp only [if_neg unquoted, and_self, if_true, escapes.reads, bind, Except.bind]
    cases lineString '"' fuel rest <;> rfl

theorem blockPiece_escaped (escapes : Escapes code c) :
    Piece (blockString '"') '"' ('\\' :: code) c where
  front := (linePiece_escaped escapes).front
  reads := by
    intro fuel rest
    have unquoted : '\\' ≠ '"' := by decide
    rw [List.cons_append, blockString]
    simp only [if_neg unquoted, and_self, if_true, escapes.reads, hiddenBreak?_eq_none escapes, bind,
      Except.bind]
    cases blockString '"' fuel rest <;> rfl

theorem escapes_letter {letter : Char} (reads : ∀ rest, escape (letter :: rest) = .ok (c, rest))
    (solid : isSpace letter = false ∧ letter ≠ '\n' ∧ letter ≠ '\r') : Escapes [letter] c :=
  ⟨⟨letter, [], rfl, solid⟩, reads⟩

end Escapes

/-! ## Bodies -/

/-- The written body of a string on one line, and the text that it stands for. -/
inductive LineBody (quote : Char) : List Char → List Char → Prop
  | done : LineBody quote [] []
  | piece {piece body value : List Char} {c : Char} (stands : Piece (lineString quote) quote piece c)
      (rest : LineBody quote body value) : LineBody quote (piece ++ body) (c :: value)

/-- The written body of a string of several lines, and the text that it stands for. At most `room` quotes
may stand at its front, those already before it being part of the same run. -/
inductive BlockBody (quote : Char) : Nat → List Char → List Char → Prop
  | done (room : Nat) : BlockBody quote room [] []
  | quote {room : Nat} {body value : List Char} (rest : BlockBody quote room body value) :
      BlockBody quote (room + 1) (quote :: body) (quote :: value)
  | piece {room : Nat} {piece body value : List Char} {c : Char}
      (stands : Piece (blockString quote) quote piece c) (rest : BlockBody quote 2 body value) :
      BlockBody quote room (piece ++ body) (c :: value)

section Bodies

variable {quote : Char} {room run fuel : Nat} {body value text rest : List Char}

theorem LineBody.reads (written : LineBody quote body value) (rest : List Char)
    (enough : body.length < fuel) : lineString quote fuel (body ++ quote :: rest) = .ok (value, rest) := by
  induction written generalizing fuel with
  | done =>
    obtain ⟨less, rfl⟩ : ∃ less, fuel = less + 1 := ⟨fuel - 1, by omega⟩
    rw [List.nil_append, lineString]
    exact if_pos rfl
  | @piece piece body value c stands _ ih =>
    obtain ⟨first, more, rfl, _⟩ := stands.front
    rw [List.length_append, List.length_cons] at enough
    obtain ⟨less, rfl⟩ : ∃ less, fuel = less + 1 := ⟨fuel - 1, by omega⟩
    rw [List.append_assoc, stands.reads, ih (by omega)]
    rfl

theorem takeWhile_quotes (run : Nat) (begins : text.head? ≠ some quote) :
    (List.replicate run quote ++ text).takeWhile (· = quote) = List.replicate run quote := by
  have stops : text.takeWhile (· = quote) = [] := by
    cases text with
    | nil => rfl
    | cons c rest => exact List.takeWhile_cons_of_neg (by simpa using begins)
  rw [List.takeWhile_append_of_pos (by simp), stops, List.append_nil]

/-- One or two quotes belong to the string. -/
theorem blockString_quotes (begins : text.head? ≠ some quote) (few : run + 1 < 3) :
    blockString quote (fuel + 1) (List.replicate (run + 1) quote ++ text) =
      (blockString quote fuel text).map fun (more, rest) =>
        (List.replicate (run + 1) quote ++ more, rest) := by
  have length := congrArg List.length (takeWhile_quotes (run + 1) begins)
  rw [List.length_replicate] at length
  have dropped : (List.replicate (run + 1) quote ++ text).drop (run + 1) = text := by simp
  rw [List.replicate_succ, List.cons_append] at length dropped ⊢
  rw [blockString]
  simp only [if_true, length, if_pos few, dropped]
  cases blockString quote fuel text <;> rfl

/-- Of three to five quotes the last three close the string. -/
theorem blockString_close (begins : rest.head? ≠ some quote) (few : run ≤ 2) :
    blockString quote (fuel + 1) (List.replicate run quote ++ quote :: quote :: quote :: rest) =
      .ok (List.replicate run quote, rest) := by
  have closing : List.replicate run quote ++ quote :: quote :: quote :: rest =
      List.replicate (run + 3) quote ++ rest := by
    rw [← List.replicate_append_replicate, List.append_assoc]
    rfl
  have length := congrArg List.length (takeWhile_quotes (run + 3) begins)
  rw [List.length_replicate] at length
  have dropped : (List.replicate (run + 3) quote ++ rest).drop (run + 3) = rest := by simp
  rw [closing, List.replicate_succ, List.cons_append] at *
  rw [blockString]
  have many : ¬ run + 3 < 3 := by omega
  have bounded : run + 3 ≤ 5 := by omega
  simp only [if_true, length, if_neg many, if_pos bounded, dropped, Nat.add_sub_cancel]

theorem BlockBody.reads (written : BlockBody quote room body value) (run fuel : Nat)
    (few : run + room ≤ 2) (begins : rest.head? ≠ some quote) (enough : run + body.length < fuel) :
    blockString quote fuel (List.replicate run quote ++ (body ++ quote :: quote :: quote :: rest)) =
      .ok (List.replicate run quote ++ value, rest) := by
  -- The quotes before the body are read together with those at its front.
  induction written generalizing run fuel with
  | done room =>
    obtain ⟨less, rfl⟩ : ∃ less, fuel = less + 1 := ⟨fuel - 1, by omega⟩
    rw [List.nil_append, blockString_close begins (by omega), List.append_nil]
  | @quote room body value _ ih =>
    rw [List.length_cons] at enough
    have read := ih (run + 1) fuel (by omega) (by omega)
    rw [List.replicate_succ', List.append_assoc, List.append_assoc] at read
    exact read
  | @piece room piece body value c stands _ ih =>
    obtain ⟨first, more, same, unquoted, _⟩ := stands.front
    have longer : 0 < piece.length := by simp [same]
    rw [List.length_append] at enough
    have fresh : ∀ left, body.length < left →
        blockString quote (left + 1) (piece ++ body ++ quote :: quote :: quote :: rest) =
          .ok (c :: value, rest) := by
      intro left enough
      have read := ih 0 left (by omega) (by omega)
      rw [List.append_assoc, stands.reads]
      rw [List.replicate_zero, List.nil_append, List.nil_append] at read
      rw [read]
      rfl
    cases run with
    | zero =>
      obtain ⟨left, rfl⟩ : ∃ left, fuel = left + 1 := ⟨fuel - 1, by omega⟩
      exact fresh left (by omega)
    | succ run =>
      obtain ⟨left, rfl⟩ : ∃ left, fuel = left + 1 + 1 := ⟨fuel - 2, by omega⟩
      have unquotedFront :
          (piece ++ body ++ quote :: quote :: quote :: rest).head? ≠ some quote := by
        simpa [same] using unquoted
      rw [blockString_quotes unquotedFront (by omega), fresh left (by omega)]
      rfl

/-- A body on one line is not mistaken for the rest of three quotes. -/
theorem LineBody.isPrefixOf?_eq_none (written : LineBody quote body value)
    (begins : rest.head? ≠ some quote) :
    [quote, quote].isPrefixOf? (body ++ quote :: rest) = none := by
  refine Option.eq_none_iff_forall_ne_some.2 fun left same => ?_
  have quoted : quote :: quote :: left = body ++ quote :: rest :=
    List.isPrefixOf?_eq_some_iff_append_eq.1 same
  cases written with
  | done => exact begins (by rw [← (List.cons.inj quoted).2, List.head?_cons])
  | piece stands _ =>
    obtain ⟨first, more, rfl, unquoted, _⟩ := stands.front
    exact unquoted (List.cons.inj quoted).1.symm

/-- A body that stands for no line break does not begin with one. -/
theorem BlockBody.newline?_eq_none (written : BlockBody quote room body value)
    (unbroken : quote ≠ '\n' ∧ quote ≠ '\r') (oneLine : '\n' ∉ value) (rest : List Char) :
    newline? (body ++ quote :: rest) = none := by
  cases written with
  | done => exact Toml.newline?_eq_none unbroken.1 unbroken.2
  | quote => exact Toml.newline?_eq_none unbroken.1 unbroken.2
  | piece stands _ =>
    obtain ⟨first, more, rfl, _, unreturned, breaks⟩ := stands.front
    refine Toml.newline?_eq_none (fun same => ?_) unreturned
    exact oneLine (by rw [breaks same]; exact List.mem_cons_self)

theorem string_line (written : LineBody quote body value) (begins : rest.head? ≠ some quote) :
    string quote (body ++ quote :: rest) = .ok (String.ofList value, rest) := by
  rw [string, written.isPrefixOf?_eq_none begins]
  dsimp only
  rw [written.reads rest (by simp only [List.length_append, List.length_cons]; omega)]
  rfl

/-- A block whose text has several lines begins on a line of its own. -/
theorem string_block (written : BlockBody quote 2 body value) (unbroken : quote ≠ '\n' ∧ quote ≠ '\r')
    (begins : rest.head? ≠ some quote) :
    string quote (quote :: quote :: ((if '\n' ∈ value then ['\n'] else []) ++
      (body ++ quote :: quote :: quote :: rest))) = .ok (String.ofList value, rest) := by
  have opened : ∀ text, [quote, quote].isPrefixOf? (quote :: quote :: text) = some text :=
    fun text => List.isPrefixOf?_eq_some_iff_append_eq.2 rfl
  have entered : (newline? ((if '\n' ∈ value then ['\n'] else []) ++
      (body ++ quote :: quote :: quote :: rest))).getD ((if '\n' ∈ value then ['\n'] else []) ++
      (body ++ quote :: quote :: quote :: rest)) = body ++ quote :: quote :: quote :: rest := by
    split
    · rfl
    · next oneLine => rw [List.nil_append, written.newline?_eq_none unbroken oneLine, Option.getD_none]
  have read := written.reads 0 ((body ++ quote :: quote :: quote :: rest).length + 1) (by omega) begins
    (by simp only [List.length_append, List.length_cons]; omega)
  rw [List.replicate_zero, List.nil_append, List.nil_append] at read
  rw [string, opened]
  dsimp only
  rw [entered, read]
  rfl

end Bodies

end LayerAtlas.Toml
