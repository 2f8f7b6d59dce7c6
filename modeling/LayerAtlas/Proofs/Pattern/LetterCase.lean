import LayerAtlas.Proofs.Pattern.Matching
import LayerAtlas.Text.Blank
import Mathlib

/-!
# Patterns without regard to case

A pattern whose sets of characters hold a letter of ASCII in both cases or in neither matches a text just
in case it matches the text in lower case. Assertions do not tell the cases apart: whether a character ends
a line or belongs to a word does not depend on its case.
-/
namespace LayerAtlas

section Letters

variable {c d : Char}

/-- Only letters have a lower case other than themselves. -/
theorem toLower_eq_iff (plain : d.isAlpha = false) : c.toLower = d ↔ c = d := by
  by_cases upper : c.isUpper
  · have letter : c.isAlpha = true := by simp [Char.isAlpha, upper]
    constructor
    · rintro rfl
      rw [Char.isAlpha_toLower_eq_isAlpha, letter] at plain
      cases plain
    · rintro rfl
      rw [letter] at plain
      cases plain
  · rw [Char.toLower_eq_of_not_isUpper upper]

theorem toNat_lt_of_isAlpha (letter : c.isAlpha = true) : c.toNat < 128 := by
  simp only [Char.isAlpha, Char.isUpper, Char.isLower, Bool.or_eq_true, Bool.and_eq_true,
    decide_eq_true_eq, UInt32.le_iff_toNat_le] at letter
  change (65 ≤ c.toNat ∧ c.toNat ≤ 90) ∨ (97 ≤ c.toNat ∧ c.toNat ≤ 122) at letter
  omega

end Letters

namespace CaseFold

theorem variants_toLower (c : Char) : variants c.toLower = variants c := by
  by_cases upper : c.isUpper
  · have letter : c.isAlpha = true := by simp [Char.isAlpha, upper]
    have lower : c.toLower.isAlpha = true := by rw [Char.isAlpha_toLower_eq_isAlpha, letter]
    rw [mem_variants_ascii (toNat_lt_of_isAlpha letter), mem_variants_ascii (toNat_lt_of_isAlpha lower)]
    unfold asciiVariants
    simp only [Char.toLower_toLower_eq_toLower, Char.toUpper_toLower_eq_toUpper, letter, lower]
    rfl
  · rw [Char.toLower_eq_of_not_isUpper upper]

end CaseFold

namespace CharSet

/-- Whether the form of a set shows that it holds a letter in both cases or in neither. A range or a table
shows it only when it is folded. -/
def isCaseless : CharSet → Bool
  | oneOf members => members.all fun c => !c.isAlpha
  | folded _ | asciiFolded _ => true
  | complement set => set.isCaseless
  | union left right | inter left right | diff left right | symmDiff left right =>
    left.isCaseless && right.isCaseless
  | range _ _ | table _ => false

theorem contains_toLower {set : CharSet} (caseless : set.isCaseless = true) (c : Char) :
    set.contains c.toLower = set.contains c := by
  by_cases upper : c.isUpper
  · have letter : c.isAlpha = true := by simp [Char.isAlpha, upper]
    have lower : c.toLower.isAlpha = true := by rw [Char.isAlpha_toLower_eq_isAlpha, letter]
    induction set with
    | oneOf members =>
      have plain : ∀ d : Char, d.isAlpha = true → d ∉ members := by
        intro d alpha member
        have other := List.all_eq_true.1 caseless d member
        simp [alpha] at other
      simp [contains, plain c letter, plain c.toLower lower]
    | folded set => simp only [contains, CaseFold.variants_toLower]
    | asciiFolded set =>
      have raised : c.toUpper = c := Char.toUpper_eq_of_not_isLower (Char.not_isLower_of_isUpper upper)
      simp only [contains, Char.toUpper_toLower_eq_toUpper, Char.toLower_toLower_eq_toLower, raised]
      cases set.contains c <;> cases set.contains c.toLower <;> rfl
    | complement set ih => simp only [contains, ih caseless]
    | union left right leftIh rightIh | inter left right leftIh rightIh
    | diff left right leftIh rightIh | symmDiff left right leftIh rightIh =>
      obtain ⟨leftCaseless, rightCaseless⟩ := Bool.and_eq_true_iff.1 caseless
      simp only [contains, leftIh leftCaseless, rightIh rightCaseless]
    | range low high => cases caseless
    | table ranges => cases caseless
  · rw [Char.toLower_eq_of_not_isUpper upper]

end CharSet

/-- The place in the same text in lower case. -/
def Spot.lower (spot : Spot) : Spot :=
  ⟨spot.before.map Char.toLower, spot.rest.map Char.toLower⟩

theorem WordRule.isWordChar_toLower (rule : WordRule) (c : Char) :
    rule.isWordChar c.toLower = rule.isWordChar c := by
  by_cases upper : c.isUpper
  · have letter : c.isAlpha = true := by simp [Char.isAlpha, upper]
    have lower : c.toLower.isAlpha = true := by rw [Char.isAlpha_toLower_eq_isAlpha, letter]
    unfold isWordChar
    rw [if_pos (toNat_lt_of_isAlpha letter), if_pos (toNat_lt_of_isAlpha lower)]
    simp [Char.isAlphanum, letter, lower]
  · rw [Char.toLower_eq_of_not_isUpper upper]

/-- Assertions do not tell the cases apart. -/
theorem Look.holds_lower (look : Look) (spot : Spot) : look.holds spot.lower = look.holds spot := by
  have other : ∀ {c d : Char}, d.isAlpha = false → (some c.toLower != some d) = (some c != some d) := by
    intro c d plain
    rw [Bool.eq_iff_iff]
    simp [toLower_eq_iff plain]
  obtain ⟨before, rest⟩ := spot
  cases before <;> cases rest <;> cases look <;>
    simp (disch := decide) [holds, Spot.lower, toLower_eq_iff, other, WordRule.isWordChar_toLower]

namespace Regex

/-- Whether the forms of all sets of characters in a pattern show it. -/
def isCaseless : Regex → Bool
  | empty | look _ => true
  | chars set => set.isCaseless
  | seq first second => first.isCaseless && second.isCaseless
  | alt left right => left.isCaseless && right.isCaseless
  | repeated body _ _ => body.isCaseless

section Steps

variable {step : Spot → Spot → Prop} {count : Nat} {first last : Spot}

theorem Times.lower (keeps : ∀ first last, step first last → step first.lower last.lower)
    (steps : Times step count first last) : Times step count first.lower last.lower := by
  induction count generalizing first with
  | zero => exact congrArg Spot.lower steps
  | succ count ih =>
    obtain ⟨next, here, behind⟩ := steps
    exact ⟨next.lower, keeps first next here, ih behind⟩

theorem Times.exists_of_lower
    (lifts : ∀ first after, step first.lower after → ∃ last, last.lower = after ∧ step first last)
    {after : Spot} (steps : Times step count first.lower after) :
    ∃ last, last.lower = after ∧ Times step count first last := by
  induction count generalizing first with
  | zero => exact ⟨first, steps.symm, rfl⟩
  | succ count ih =>
    obtain ⟨_, here, behind⟩ := steps
    obtain ⟨next, rfl, taken⟩ := lifts first _ here
    obtain ⟨last, same, rest⟩ := ih behind
    exact ⟨last, same, next, taken, rest⟩

end Steps

/-- A caseless pattern matches in lower case what it matches. -/
theorem Leads.lower {regex : Regex} (caseless : regex.isCaseless = true) {first last : Spot}
    (leads : regex.Leads first last) : regex.Leads first.lower last.lower := by
  induction regex generalizing first last with
  | empty => exact congrArg Spot.lower leads
  | chars set =>
    obtain ⟨c, rest, here, member, rfl⟩ := leads
    refine ⟨c.toLower, rest.map Char.toLower, ?_, ?_, rfl⟩
    · simp [Spot.lower, here]
    · rw [CharSet.contains_toLower caseless, member]
  | look assertion =>
    obtain ⟨holds, rfl⟩ := leads
    exact ⟨(assertion.holds_lower _).trans holds, rfl⟩
  | seq before behind beforeIh behindIh =>
    obtain ⟨beforeCaseless, behindCaseless⟩ := Bool.and_eq_true_iff.1 caseless
    obtain ⟨middle, left, right⟩ := leads
    exact ⟨middle.lower, beforeIh beforeCaseless left, behindIh behindCaseless right⟩
  | alt left right leftIh rightIh =>
    obtain ⟨leftCaseless, rightCaseless⟩ := Bool.and_eq_true_iff.1 caseless
    rcases leads with leads | leads
    · exact .inl (leftIh leftCaseless leads)
    · exact .inr (rightIh rightCaseless leads)
  | repeated body least most bodyIh =>
    obtain ⟨more, bounded, steps⟩ := leads
    exact ⟨more, bounded, steps.lower fun _ _ => bodyIh caseless⟩

/-- What a caseless pattern matches in lower case it matches as it is written. -/
theorem Leads.exists_of_lower {regex : Regex} (caseless : regex.isCaseless = true) {first after : Spot}
    (leads : regex.Leads first.lower after) : ∃ last, last.lower = after ∧ regex.Leads first last := by
  induction regex generalizing first after with
  | empty => exact ⟨first, leads.symm, rfl⟩
  | chars set =>
    obtain ⟨_, _, here, member, rfl⟩ := leads
    obtain ⟨c, rest, written, rfl, rfl⟩ := List.map_eq_cons_iff.1 here
    rw [CharSet.contains_toLower caseless] at member
    exact ⟨⟨some c, rest⟩, rfl, c, rest, written, member, rfl⟩
  | look assertion =>
    obtain ⟨holds, rfl⟩ := leads
    exact ⟨first, rfl, (assertion.holds_lower first).symm.trans holds, rfl⟩
  | seq before behind beforeIh behindIh =>
    obtain ⟨beforeCaseless, behindCaseless⟩ := Bool.and_eq_true_iff.1 caseless
    obtain ⟨_, left, right⟩ := leads
    obtain ⟨middle, rfl, taken⟩ := beforeIh beforeCaseless left
    obtain ⟨last, same, rest⟩ := behindIh behindCaseless right
    exact ⟨last, same, middle, taken, rest⟩
  | alt left right leftIh rightIh =>
    obtain ⟨leftCaseless, rightCaseless⟩ := Bool.and_eq_true_iff.1 caseless
    rcases leads with leads | leads
    · obtain ⟨last, same, taken⟩ := leftIh leftCaseless leads
      exact ⟨last, same, .inl taken⟩
    · obtain ⟨last, same, taken⟩ := rightIh rightCaseless leads
      exact ⟨last, same, .inr taken⟩
  | repeated body least most bodyIh =>
    obtain ⟨more, bounded, steps⟩ := leads
    obtain ⟨last, same, taken⟩ := steps.exists_of_lower fun _ _ => bodyIh caseless
    exact ⟨last, same, more, bounded, taken⟩

theorem from?_lower (before : Option Char) (text : List Char) :
    Spot.from? (before.map Char.toLower) (text.map Char.toLower) =
      (Spot.from? before text).map Spot.lower := by
  induction text generalizing before with
  | nil => rfl
  | cons c rest ih =>
    have behind := ih (some c)
    simp only [Option.map_some] at behind
    simp [Spot.from?, Spot.lower, behind]

/-- A caseless pattern does not tell the cases of a text apart. -/
theorem isMatch_asciiLower {regex : Regex} (caseless : regex.isCaseless = true) (token : String) :
    regex.isMatch (asciiLower token) = regex.isMatch token := by
  have places : Spot.all (asciiLower token).toList = (Spot.all token.toList).map Spot.lower := by
    rw [asciiLower, String.toList_ofList]
    exact from?_lower none token.toList
  rw [Bool.eq_iff_iff, isMatch_iff, isMatch_iff, places]
  constructor
  · rintro ⟨_, member, after, leads⟩
    obtain ⟨first, listed, rfl⟩ := List.mem_map.1 member
    obtain ⟨last, _, taken⟩ := leads.exists_of_lower caseless
    exact ⟨first, listed, last, taken⟩
  · rintro ⟨first, listed, last, leads⟩
    exact ⟨first.lower, List.mem_map_of_mem listed, last.lower, leads.lower caseless⟩

end Regex

end LayerAtlas
