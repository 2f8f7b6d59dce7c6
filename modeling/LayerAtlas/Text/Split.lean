/-!
# Splitting at a separator

Pieces of a text between separators, and the two parts around the last separator. Joining the pieces
again gives the text back. A text is a list of letters, be they characters or bytes.
-/
namespace LayerAtlas

variable {α : Type} [DecidableEq α]

/-- The pieces between separators; one more than there are separators. -/
def splitPieces (sep : α) : List α → List (List α)
  | [] => [[]]
  | c :: rest =>
    if c = sep then [] :: splitPieces sep rest
    else
      match splitPieces sep rest with
      | [] => [[c]]
      | piece :: pieces => (c :: piece) :: pieces

theorem splitPieces_ne_nil (sep : α) (text : List α) : splitPieces sep text ≠ [] := by
  cases text with
  | nil => simp [splitPieces]
  | cons c rest =>
    unfold splitPieces
    split
    · simp
    · split <;> simp

theorem intercalate_splitPieces (sep : α) (text : List α) :
    [sep].intercalate (splitPieces sep text) = text := by
  induction text with
  | nil => simp [splitPieces, List.intercalate]
  | cons c rest ih =>
    unfold splitPieces
    split
    · rename_i h
      subst h
      cases hs : splitPieces c rest with
      | nil => exact absurd hs (splitPieces_ne_nil c rest)
      | cons piece pieces =>
        rw [hs] at ih
        simpa [List.intercalate, List.intersperse] using ih
    · cases hs : splitPieces sep rest with
      | nil => exact absurd hs (splitPieces_ne_nil sep rest)
      | cons piece pieces =>
        rw [hs] at ih
        cases pieces <;> simpa [List.intercalate, List.intersperse] using ih

theorem splitPieces_of_not_mem {sep : α} {text : List α} (plain : sep ∉ text) :
    splitPieces sep text = [text] := by
  induction text with
  | nil => rfl
  | cons c rest ih =>
    obtain ⟨other, behind⟩ := not_or.1 (mt List.mem_cons.2 plain)
    unfold splitPieces
    rw [if_neg (Ne.symm other), ih behind]

/-- A separator divides the pieces before it from those behind it. -/
theorem splitPieces_append (sep : α) (front back : List α) :
    splitPieces sep (front ++ sep :: back) = splitPieces sep front ++ splitPieces sep back := by
  induction front with
  | nil => simp [splitPieces]
  | cons c rest ih =>
    rw [List.cons_append, splitPieces, splitPieces, ih]
    by_cases same : c = sep
    · rw [if_pos same, if_pos same, List.cons_append]
    · rw [if_neg same, if_neg same]
      cases pieces : splitPieces sep rest with
      | nil => exact absurd pieces (splitPieces_ne_nil sep rest)
      | cons piece others => rfl

theorem not_mem_of_mem_splitPieces {sep : α} {text piece : List α}
    (member : piece ∈ splitPieces sep text) : sep ∉ piece := by
  induction text generalizing piece with
  | nil =>
    obtain rfl := List.mem_singleton.1 member
    exact List.not_mem_nil
  | cons c rest ih =>
    unfold splitPieces at member
    split at member
    · rcases List.mem_cons.1 member with rfl | behind
      · exact List.not_mem_nil
      · exact ih behind
    · next other =>
      split at member
      · obtain rfl := List.mem_singleton.1 member
        simpa using Ne.symm other
      · next first others pieces =>
        rcases List.mem_cons.1 member with rfl | behind
        · have plain : sep ∉ first := ih (pieces ▸ List.mem_cons_self)
          simpa using ⟨Ne.symm other, plain⟩
        · exact ih (pieces ▸ List.mem_cons_of_mem _ behind)

/-- The parts before and after the last separator, if there is one. -/
def splitLast? (sep : α) : List α → Option (List α × List α)
  | [] => none
  | c :: rest =>
    match splitLast? sep rest with
    | some (before, after) => some (c :: before, after)
    | none => if c = sep then some ([], rest) else none

theorem not_mem_of_splitLast? {sep : α} {text : List α} (whole : splitLast? sep text = none) :
    sep ∉ text := by
  induction text with
  | nil => exact List.not_mem_nil
  | cons c rest ih =>
    unfold splitLast? at whole
    split at whole
    · cases whole
    · next behind =>
      split at whole
      · cases whole
      · next other => simpa using ⟨Ne.symm other, ih behind⟩

theorem splitLast?_eq_some {sep : α} {text before after : List α}
    (divided : splitLast? sep text = some (before, after)) :
    text = before ++ sep :: after ∧ sep ∉ after := by
  induction text generalizing before with
  | nil => cases divided
  | cons c rest ih =>
    unfold splitLast? at divided
    split at divided
    · next front back behind =>
      cases divided
      obtain ⟨same, plain⟩ := ih behind
      exact ⟨congrArg (c :: ·) same, plain⟩
    · next whole =>
      split at divided
      · next same =>
        cases divided
        exact ⟨by rw [same, List.nil_append], not_mem_of_splitLast? whole⟩
      · cases divided

theorem splitLast?_of_not_mem {sep : α} {text : List α} (plain : sep ∉ text) :
    splitLast? sep text = none := by
  cases split : splitLast? sep text with
  | none => rfl
  | some parts =>
    obtain ⟨before, after⟩ := parts
    obtain ⟨divided, _⟩ := splitLast?_eq_some split
    rw [divided] at plain
    exact absurd (List.mem_append_right _ List.mem_cons_self) plain

theorem splitLast?_append {sep : α} (before : List α) {after : List α}
    (plain : sep ∉ after) : splitLast? sep (before ++ sep :: after) = some (before, after) := by
  induction before with
  | nil => simp [splitLast?, splitLast?_of_not_mem plain]
  | cons c rest ih => simp [splitLast?, ih]

end LayerAtlas
