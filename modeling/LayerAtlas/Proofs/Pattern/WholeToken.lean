import LayerAtlas.Classify.TokenPattern
import LayerAtlas.Proofs.Pattern.ClosedSequence
import LayerAtlas.Proofs.Pattern.Matching

/-!
# Patterns between anchors

A text between anchors is a pattern exactly for whole tokens, as long as it is a pattern by itself: the
group around it then ends where the text ends. A text that closes a group which it has not opened ends
the group around it, and its last alternatives stand outside of one anchor.
-/
namespace LayerAtlas

namespace Regex

variable {flags : PatternFlags} {dialect : PatternDialect} {text : List Char} {regex : Regex}

theorem read_eq_ok :
    read flags text = .ok regex ↔
      ∃ part after,
        PatternContext.read (text.length + 1) { flags := flags } [] [] text = .ok (part, after, []) ∧
          part.height ≤ maxHeight ∧ part.regex = regex := by
  constructor
  · intro success
    obtain ⟨⟨part, after, rest⟩, read, success⟩ := exists_of_bind success
    cases rest with
    | cons c rest => cases success
    | nil =>
      refine ⟨part, after, read, ?_⟩
      change (if maxHeight < part.height then Except.error PatternFault.tooDeep else .ok part.regex) = _
        at success
      split at success
      · cases success
      next low =>
      cases success
      exact ⟨Nat.not_lt.mp low, rfl⟩
  · rintro ⟨part, after, success, low, rfl⟩
    unfold read
    rw [success]
    change (if maxHeight < part.height then _ else _) = _
    rw [if_neg (Nat.not_lt.mpr low)]

theorem read_of_left {after : PatternContext} {rest : List Char} {c : Char} {part : PatternPart}
    (success : PatternContext.read (text.length + 1) { flags := flags } [] [] text =
      .ok (part, after, c :: rest)) : read flags text = .error .unopenedGroup := by
  unfold read
  rw [success]
  rfl

/-- What is accepted has been read and is not too large. -/
theorem read_of_parse (accepted : parse dialect text = .ok regex) :
    read { dialect := dialect } text = .ok regex ∧ dialect.fits text regex = true := by
  obtain ⟨found, success, accepted⟩ := exists_of_bind accepted
  split at accepted
  · next fits =>
    cases accepted
    exact ⟨success, fits⟩
  · cases accepted

/-- A pattern between the ends of the text. -/
def between (regex : Regex) : Regex :=
  .seq .empty (.seq (.look .textStart) (.seq regex (.look .textEnd)))

end Regex

/-- What a pattern is read under that is to match without regard to case. -/
def PatternFlags.ignoringCase (dialect : PatternDialect) : PatternFlags :=
  { dialect := dialect, ignoreCase := true }

namespace PatternContext

variable (dialect : PatternDialect) (fuel : Nat)

/-- Between anchors a text is read in a group of its own, and the anchor behind it after that. -/
theorem read_anchored (text : List Char) :
    PatternContext.read (fuel + 3) { flags := { dialect := dialect } } [] []
        ("(?i)^(?:".toList ++ (text ++ closing)) =
      PatternContext.read fuel { flags := .ignoringCase dialect } [] [] (text ++ closing) >>= fun inner =>
      match inner.2.2 with
      | ')' :: rest =>
        ({ inner.2.1 with flags := .ignoringCase dialect } : PatternContext).read fuel []
          [⟨inner.1.regex, inner.1.height + 1, false⟩, .ofRegex (.look .textStart), .flags] rest
      | _ => .error .unclosedGroup := by
  rfl

theorem read_textEnd (names : List String) (parts : List PatternPart) :
    PatternContext.read (fuel + 2) ⟨.ignoringCase dialect, names⟩ [] parts ['$'] =
      .ok (.choice [.sequence (.ofRegex (.look .textEnd) :: parts)],
        ⟨.ignoringCase dialect, names⟩, []) := by
  rfl

end PatternContext

namespace TokenPattern

variable {dialect : PatternDialect} {source : String}

/-- The pattern that a text is by itself, read without regard to case. -/
def alone (dialect : PatternDialect) (source : String) : Except PatternFault Regex :=
  Regex.read (.ignoringCase dialect) source.toList

/-- A text that is accepted between anchors is a pattern by itself, which then stands between the ends
of the text, or it closes a group that it has not opened. -/
theorem compile_cases {pattern : TokenPattern} (accepted : compile dialect source = .ok pattern) :
    pattern.source = source ∧
      ((∃ regex, alone dialect source = .ok regex ∧
          dialect.fits (anchored source) regex.between = true ∧ pattern.regex = regex.between) ∨
        alone dialect source = .error .unopenedGroup) := by
  unfold compile at accepted
  split at accepted
  case h_2 => cases accepted
  next whole parsed =>
  cases accepted
  refine ⟨rfl, ?_⟩
  obtain ⟨parsed, fits⟩ := Regex.read_of_parse parsed
  obtain ⟨part, after, read, low, rfl⟩ := Regex.read_eq_ok.mp parsed
  have text : anchored source = "(?i)^(?:".toList ++ (source.toList ++ closing) :=
    List.append_assoc _ _ _
  have fuel : (anchored source).length + 1 = (source.toList.length + 6 + 2) + 3 := by
    rw [text, List.length_append, List.length_append]
    change 8 + (source.toList.length + 2) + 1 = _
    omega
  rw [fuel, text, PatternContext.read_anchored] at read
  obtain ⟨⟨inner, inside, closed⟩, innerRead, read⟩ := exists_of_bind read
  dsimp only at read
  split at read
  case h_2 => cases read
  next behind =>
  rcases PatternContext.ends_read ⟨.ignoringCase dialect, []⟩ [] [] (Nat.lt_succ_self _) inner inside _ innerRead
    with ⟨rest, same, _, readAlone⟩ | nothing
  case inr => cases nothing
  rcases PatternContext.read_rest readAlone with rfl | ⟨more, rfl⟩
  · -- The group ends where the text ends, and the anchor behind it is read.
    left
    cases same
    rw [PatternContext.read_textEnd] at read
    cases read
    have lower : inner.height ≤ Regex.maxHeight := by
      refine Nat.le_trans ?_ low
      change inner.height ≤ max (max (max (max 0 0) (inner.height + 1)) 0) 0 + 1
      omega
    exact ⟨inner.regex, Regex.read_eq_ok.mpr ⟨inner, inside, readAlone, lower, rfl⟩, fits, rfl⟩
  · exact .inr (Regex.read_of_left readAlone)

/-- A pattern that is one by itself matches the tokens that it covers, and no others. -/
theorem isMatch_iff_covers {pattern : TokenPattern} {regex : Regex}
    (accepted : compile dialect source = .ok pattern) (known : alone dialect source = .ok regex)
    (token : String) : pattern.isMatch token = true ↔ regex.Covers token := by
  obtain ⟨_, ⟨other, same, _, whole⟩ | unopened⟩ := compile_cases accepted
  · rw [known] at same
    cases same
    unfold isMatch
    rw [whole]
    exact Regex.isMatch_anchored_iff
  · rw [known] at unopened
    cases unopened

/-- A text that is no pattern by itself is rejected, unless it closes a group that it has not opened. -/
theorem compile_of_alone_error {fault : PatternFault}
    (failed : alone dialect source = .error fault) (opened : fault ≠ .unopenedGroup) :
    ∃ reason, compile dialect source = .error (.invalidPattern source reason) := by
  cases outcome : compile dialect source with
  | error fault =>
    unfold compile at outcome
    split at outcome
    · cases outcome
    · cases outcome
      exact ⟨_, rfl⟩
  | ok pattern =>
    obtain ⟨_, ⟨regex, known, _⟩ | unopened⟩ := compile_cases outcome
    · rw [failed] at known
      cases known
    · rw [failed] at unopened
      cases unopened
      exact absurd rfl opened

end TokenPattern

end LayerAtlas
