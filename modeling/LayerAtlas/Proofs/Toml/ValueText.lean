import LayerAtlas.Proofs.Toml.StringText
import LayerAtlas.Toml.Parser
import Mathlib.Data.List.Basic
import Mathlib.Data.List.TakeDrop
import Mathlib.Data.List.TakeWhile

/-!
# Values that read back

A written value is read as itself wherever a line, an item or a list ends behind it: strings, numbers that
fit, words, and lists of such values with one item on a line.
-/
namespace LayerAtlas.Toml

/-- Behind a value ends a line, an item or a list. -/
def Ends (rest : List Char) : Prop :=
  ∃ c tail, rest = c :: tail ∧ (c = '\n' ∨ c = ',' ∨ c = ']')

/-- A text that is read as this value, which has so many levels of lists. -/
structure Shows (levels : Nat) (text : List Char) (item : TomlValue) : Prop where
  /-- No part of it is passed over as blank, comment or line break, and it ends no list. -/
  front : ∃ first more, text = first :: more ∧ isSpace first = false ∧
    first ≠ '#' ∧ first ≠ '\n' ∧ first ≠ '\r' ∧ first ≠ ']'
  reads : ∀ fuel depth rest, text.length < fuel → depth + levels < maxDepth → Ends rest →
    value fuel depth (text ++ rest) = .ok (item, rest)

theorem ends_cons {c : Char} (tail : List Char) (ends : c = '\n' ∨ c = ',' ∨ c = ']') : Ends (c :: tail) :=
  ⟨c, tail, rfl, ends⟩

/-- What ends a value is neither a quote nor a part of a word or number. -/
theorem Ends.head? {rest : List Char} (ends : Ends rest) {c : Char}
    (other : c = '"' ∨ c = '\'' ∨ isTokenChar c = true) : rest.head? ≠ some c := by
  obtain ⟨first, tail, rfl, mark⟩ := ends
  intro same
  obtain rfl : first = c := Option.some.inj same
  rcases mark with rfl | rfl | rfl <;> revert other <;> decide

theorem shows_quote (text : String) : Shows 0 (quote text).toList (.text text) where
  front := by
    obtain ⟨mark, body, either, same, _⟩ := @string_quote text [] (by simp) (by simp)
    rw [List.append_nil] at same
    refine ⟨mark, body, same, ?_⟩
    rcases either with rfl | rfl <;> decide
  reads := by
    intro fuel depth rest enough _ ends
    obtain ⟨less, rfl⟩ : ∃ less, fuel = less + 1 := ⟨fuel - 1, by omega⟩
    obtain ⟨mark, body, either, same, read⟩ :=
      string_quote text (ends.head? (.inl rfl)) (ends.head? (.inr (.inl rfl)))
    rw [same]
    rcases either with rfl | rfl
    · rw [value, read]
      rfl
    · rw [value, read]
      rfl

/-! ## Words and numbers -/

section Tokens

variable {token rest : List Char}

theorem isTokenChar_front {c : Char} (part : isTokenChar c = true) :
    isSpace c = false ∧ c ≠ '#' ∧ c ≠ '\n' ∧ c ≠ '\r' ∧ c ≠ ']' ∧ c ≠ '"' ∧ c ≠ '\'' ∧ c ≠ '[' ∧
      c ≠ '{' := by
  have blank : isSpace c = false := by
    cases space : isSpace c with
    | false => rfl
    | true =>
      simp only [isSpace, Bool.or_eq_true, decide_eq_true_eq] at space
      rcases space with rfl | rfl <;> revert part <;> decide
  refine ⟨blank, ?_, ?_, ?_, ?_, ?_, ?_, ?_, ?_⟩ <;>
  · rintro rfl
    revert part
    decide

theorem span_token (parts : token.all isTokenChar = true) (ends : Ends rest) :
    (token ++ rest).span isTokenChar = (token, rest) := by
  have inside := List.all_eq_true.1 parts
  have stops : rest.takeWhile isTokenChar = [] ∧ rest.dropWhile isTokenChar = rest := by
    obtain ⟨c, tail, rfl, mark⟩ := ends
    have outside : ¬ isTokenChar c = true := by rcases mark with rfl | rfl | rfl <;> decide
    exact ⟨List.takeWhile_cons_of_neg outside, List.dropWhile_cons_of_neg outside⟩
  rw [List.span_eq_takeWhile_dropWhile, List.takeWhile_append_of_pos inside,
    List.dropWhile_append_of_pos inside, stops.1, stops.2, List.append_nil]

/-- A value without quotes or brackets is read as a whole token. -/
theorem shows_token {item : TomlValue} (parts : token.all isTokenChar = true) (present : token ≠ [])
    (reads : ∀ rest, Ends rest → plain (token ++ rest) = .ok (item, rest)) : Shows 0 token item := by
  obtain ⟨first, more, rfl⟩ := List.exists_cons_of_ne_nil present
  obtain ⟨solid, visible, unbroken, unreturned, unclosed, single, double, bracket, brace⟩ :=
    isTokenChar_front (List.all_eq_true.1 parts first List.mem_cons_self)
  refine ⟨⟨first, more, rfl, solid, visible, unbroken, unreturned, unclosed⟩, ?_⟩
  intro fuel depth rest enough _ ends
  obtain ⟨less, rfl⟩ : ∃ less, fuel = less + 1 := ⟨fuel - 1, by omega⟩
  rw [← reads rest ends, List.cons_append]
  unfold value
  split
  · next same => exact absurd (List.cons.inj same).1 single
  · next same => exact absurd (List.cons.inj same).1 double
  · next same => exact absurd (List.cons.inj same).1 bracket
  · next same => exact absurd (List.cons.inj same).1 brace
  · rfl

theorem shows_true : Shows 0 "true".toList (.boolean true) :=
  shows_token (by decide) (by decide) fun rest ends => by
    rw [plain, span_token (by decide) ends]
    rfl

theorem shows_false : Shows 0 "false".toList (.boolean false) :=
  shows_token (by decide) (by decide) fun rest ends => by
    rw [plain, span_token (by decide) ends]
    rfl

/-- A number other than zero has no zero at its front. -/
theorem head?_toDigits {n : Nat} (positive : 0 < n) : (Nat.toDigits 10 n).head? ≠ some '0' := by
  induction n using Nat.strongRecOn with
  | ind n ih =>
    by_cases small : n < 10
    · rw [Nat.toDigits_of_lt_base small, List.head?_cons]
      intro zero
      exact absurd (Nat.digitChar_eq_zero.1 (Option.some.inj zero)) (by omega)
    · rw [Nat.toDigits_of_base_le (by omega) (by omega), List.head?_append_of_ne_nil _ Nat.toDigits_ne_nil]
      exact ih (n / 10) (by omega) (by omega)

theorem isDigit_toDigits (n : Nat) : ∀ c ∈ Nat.toDigits 10 n, c.isDigit = true :=
  fun _ member => Nat.isDigit_of_mem_toDigits (by omega) (by omega) member

theorem isTokenChar_of_isDigit {c : Char} (digit : c.isDigit = true) : isTokenChar c = true := by
  simp [isTokenChar, Char.isAlphanum, digit]

theorem isDecimal_toDigits (n : Nat) : isDecimal (Nat.toDigits 10 n) = true := by
  have unbarred : '_' ∉ Nat.toDigits 10 n := fun member => absurd (isDigit_toDigits n _ member) (by decide)
  have whole : isDigitRun Char.isDigit (Nat.toDigits 10 n) = true := by
    rw [isDigitRun, splitPieces_of_not_mem unbarred]
    simpa [Nat.toDigits_ne_nil] using isDigit_toDigits n
  rw [isDecimal, whole, Bool.true_and]
  rcases Nat.eq_zero_or_pos n with rfl | positive
  · rfl
  · simp [head?_toDigits positive]

theorem digitsValue_toDigits (n : Nat) : digitsValue 10 (Nat.toDigits 10 n) = n := by
  have kept : (Nat.toDigits 10 n).filter (· ≠ '_') = Nat.toDigits 10 n := by
    refine List.filter_eq_self.2 fun c member => ?_
    have digit := isDigit_toDigits n c member
    simp only [decide_eq_true_eq]
    rintro rfl
    revert digit
    decide
  have places : (Nat.toDigits 10 n).foldl (fun value c => value * 10 + CharTable.hexValue c) 0 =
      Nat.ofDigitChars 10 (Nat.toDigits 10 n) 0 := by
    refine List.foldl_ext _ _ _ fun value c member => ?_
    rw [CharTable.hexValue, if_pos (isDigit_toDigits n c member), Nat.mul_comm]
  rw [digitsValue, kept, places]
  exact Nat.ofDigitChars_toDigits (by omega) (by omega)

theorem number_toDigits {n : Nat} (small : n ≤ 0x7FFFFFFFFFFFFFFF) :
    number (Nat.toDigits 10 n) = .ok (.integer n) := by
  have unsigned : takeSign (Nat.toDigits 10 n) = (false, Nat.toDigits 10 n) := by
    unfold takeSign
    split
    · next same => exact absurd (isDigit_toDigits n '-' (by simp [same])) (by decide)
    · next same => exact absurd (isDigit_toDigits n '+' (by simp [same])) (by decide)
    · rfl
  have fits : fitted (n : Int) = .ok (.integer n) := if_pos ⟨by omega, by omega⟩
  unfold number
  split
  · next same => exact absurd (isDigit_toDigits n 'x' (by simp [same])) (by decide)
  · next same => exact absurd (isDigit_toDigits n 'o' (by simp [same])) (by decide)
  · next same => exact absurd (isDigit_toDigits n 'b' (by simp [same])) (by decide)
  · simp only [unsigned, isDecimal_toDigits, digitsValue_toDigits, if_true]
    exact fits

theorem shows_number {n : Nat} (small : n ≤ 0x7FFFFFFFFFFFFFFF) : Shows 0 (toString n).toList (.integer n) := by
  have digits := isDigit_toDigits n
  have parts : (Nat.toDigits 10 n).all isTokenChar = true :=
    List.all_eq_true.2 fun c member => isTokenChar_of_isDigit (digits c member)
  have lettered : ∀ word : List Char, (∃ c ∈ word, c.isDigit = false) → Nat.toDigits 10 n ≠ word := by
    rintro word ⟨c, member, letter⟩ same
    rw [digits c (same ▸ member)] at letter
    cases letter
  have undated : looksDated (Nat.toDigits 10 n) = false := by
    have all : (Nat.toDigits 10 n).takeWhile Char.isDigit = Nat.toDigits 10 n :=
      List.takeWhile_eq_self_iff.2 digits
    rw [looksDated, all, List.drop_length]
  rw [show (toString n).toList = Nat.toDigits 10 n from Nat.toList_repr]
  refine shows_token parts Nat.toDigits_ne_nil fun rest ends => ?_
  have untrue := lettered "true".toList ⟨'t', by decide, by decide⟩
  have unfalse := lettered "false".toList ⟨'f', by decide, by decide⟩
  rw [plain, span_token parts ends]
  simp only [Nat.toDigits_ne_nil, untrue, unfalse, undated, number_toDigits small, if_false]
  rfl

end Tokens

/-! ## Lists -/

section Lists

variable {α : Type} {rest : List Char} {fuel depth : Nat}

theorem skipLines_front {first : Char} {more : List Char} (fuel : Nat)
    (front : isSpace first = false ∧ first ≠ '#' ∧ first ≠ '\n' ∧ first ≠ '\r') :
    skipLines fuel (first :: more) = first :: more := by
  obtain ⟨solid, visible, unbroken, unreturned⟩ := front
  cases fuel with
  | zero => rfl
  | succ fuel =>
    have stays : skipSpaces (first :: more) = first :: more :=
      List.dropWhile_cons_of_neg (by simp [solid])
    rw [skipLines, stays]
    split
    · next same => exact absurd (List.cons.inj same).1 visible
    · rw [newline?_eq_none unbroken unreturned]

/-- Blanks and line breaks before an item. -/
theorem skipLines_indented {first : Char} {more : List Char} (fuel : Nat)
    (front : isSpace first = false ∧ first ≠ '#' ∧ first ≠ '\n' ∧ first ≠ '\r') :
    skipLines (fuel + 2) ('\n' :: ("    ".toList ++ first :: more)) = first :: more := by
  have broken : skipLines (fuel + 2) ('\n' :: ("    ".toList ++ first :: more)) =
      skipLines (fuel + 1) (first :: more) := rfl
  rw [broken, skipLines_front _ front]

/-- What a list is behind an item that has been read. -/
def behindItem (fuel depth : Nat) (item : TomlValue) :
    List Char → Except TomlFault (List TomlValue × List Char)
  | ']' :: rest => .ok ([item], rest)
  | ',' :: rest => (items fuel depth rest).map fun (more, rest) => (item :: more, rest)
  | rest => .error (stuck rest)

theorem items_item {levels : Nat} {text written : List Char} {item : TomlValue}
    (shows : Shows levels written item) (skipped : skipLines text.length text = written ++ rest)
    (enough : written.length < fuel) (shallow : depth + levels < maxDepth) (ends : Ends rest)
    (solid : skipLines rest.length rest = rest) :
    items (fuel + 1) depth text = behindItem fuel depth item rest := by
  have read := shows.reads fuel depth rest enough shallow ends
  obtain ⟨first, more, rfl, _, _, _, _, unclosed⟩ := shows.front
  rw [items, skipped]
  split
  · next same => exact absurd (List.cons.inj same).1 unclosed
  · rw [read]
    simp only [bind, Except.bind, solid]
    split
    · rfl
    · rw [behindItem]
      cases items fuel depth _ <;> rfl
    · rw [behindItem] <;> assumption

/-- The items of a list with one item on a line. -/
def itemLines (write : α → List Char) (list : List α) : List Char :=
  list.flatMap fun a => "    ".toList ++ write a ++ ",\n".toList

theorem items_lines {levels : Nat} {write : α → List Char} {item : α → TomlValue}
    (shows : ∀ a, Shows levels (write a) (item a)) (list : List α)
    (shallow : depth + levels < maxDepth) (enough : (itemLines write list).length + 1 < fuel) :
    items fuel depth ('\n' :: (itemLines write list ++ ']' :: rest)) = .ok (list.map item, rest) := by
  induction list generalizing fuel with
  | nil =>
    obtain ⟨less, rfl⟩ : ∃ less, fuel = less + 1 := ⟨fuel - 1, by omega⟩
    have skipped : skipLines ('\n' :: ']' :: rest).length ('\n' :: ']' :: rest) = ']' :: rest :=
      @skipLines_front ']' rest (rest.length + 1) (by decide)
    change items (less + 1) depth ('\n' :: ']' :: rest) = _
    rw [items, skipped]
    rfl
  | cons a list ih =>
    obtain ⟨less, rfl⟩ : ∃ less, fuel = less + 1 := ⟨fuel - 1, by omega⟩
    have laidOut : itemLines write (a :: list) ++ ']' :: rest =
        "    ".toList ++ (write a ++ ',' :: '\n' :: (itemLines write list ++ ']' :: rest)) := by
      simp only [itemLines, List.flatMap_cons, List.append_assoc]
      rfl
    have longer : (write a).length + (itemLines write list).length + 6 =
        (itemLines write (a :: list)).length := by
      simp only [itemLines, List.flatMap_cons, List.length_append]
      simp
      omega
    have skipped : skipLines ('\n' :: (itemLines write (a :: list) ++ ']' :: rest)).length
        ('\n' :: (itemLines write (a :: list) ++ ']' :: rest)) =
        write a ++ ',' :: '\n' :: (itemLines write list ++ ']' :: rest) := by
      obtain ⟨first, more, same, solid, visible, unbroken, unreturned, _⟩ := (shows a).front
      rw [laidOut, same]
      exact skipLines_indented _ ⟨solid, visible, unbroken, unreturned⟩
    rw [items_item (shows a) skipped (by omega) shallow (ends_cons _ (.inr (.inl rfl)))
      (skipLines_front _ (by decide)), behindItem, ih (by omega)]
    rfl

/-- A list is one level above its items. -/
theorem shows_list {levels : Nat} {body : List Char} {list : List TomlValue}
    (reads : ∀ fuel depth rest, body.length + 1 < fuel → depth + levels < maxDepth →
      items fuel depth (body ++ ']' :: rest) = .ok (list, rest)) :
    Shows (levels + 1) ('[' :: (body ++ [']'])) (.list list) where
  front := ⟨'[', _, rfl, by decide⟩
  reads := by
    intro fuel depth rest enough shallow _
    obtain ⟨less, rfl⟩ : ∃ less, fuel = less + 1 := ⟨fuel - 1, by omega⟩
    simp only [List.length_cons, List.length_append, List.length_nil] at enough
    have below : depth + 1 < maxDepth := by omega
    rw [List.cons_append, List.append_assoc, List.singleton_append, value, if_pos below,
      reads less (depth + 1) rest (by omega) (by omega)]
    rfl

theorem shows_emptyList : Shows 1 "[]".toList (.list []) :=
  @shows_list 0 [] [] fun fuel depth rest enough _ => by
    obtain ⟨less, rfl⟩ : ∃ less, fuel = less + 1 := ⟨fuel - 1, by omega⟩
    have skipped : skipLines (']' :: rest).length (']' :: rest) = ']' :: rest :=
      skipLines_front _ (by decide)
    rw [List.nil_append, items, skipped]
    rfl

theorem shows_singleton {levels : Nat} {written : List Char} {item : TomlValue}
    (shows : Shows levels written item) : Shows (levels + 1) ('[' :: (written ++ [']'])) (.list [item]) :=
  shows_list fun fuel depth rest enough shallow => by
    obtain ⟨less, rfl⟩ : ∃ less, fuel = less + 1 := ⟨fuel - 1, by omega⟩
    have skipped : skipLines (written ++ ']' :: rest).length (written ++ ']' :: rest) =
        written ++ ']' :: rest := by
      obtain ⟨first, more, rfl, solid, visible, unbroken, unreturned, _⟩ := shows.front
      exact skipLines_front _ ⟨solid, visible, unbroken, unreturned⟩
    rw [items_item shows skipped (by omega) shallow (ends_cons rest (.inr (.inr rfl)))
      (skipLines_front _ (by decide)), behindItem]

theorem shows_lines {levels : Nat} {write : α → List Char} {item : α → TomlValue}
    (shows : ∀ a, Shows levels (write a) (item a)) (list : List α) :
    Shows (levels + 1) ('[' :: ('\n' :: itemLines write list ++ [']'])) (.list (list.map item)) :=
  shows_list fun fuel depth rest enough shallow => by
    rw [List.length_cons] at enough
    exact items_lines shows list shallow (by omega)

end Lists

end LayerAtlas.Toml
