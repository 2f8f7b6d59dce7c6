import LayerAtlas.Text.Blank
import LayerAtlas.Text.Identifier

/-!
# Characters of identifiers

No identifier begins with a blank: the ranges of first characters and those of blanks are apart. The table
of first characters is checked row by row. Rows are read from the codes of their characters for that, since
the kernel is slow with the characters themselves.
-/
namespace LayerAtlas

namespace CharTable

/-! Rows. -/

/-- `readRanges` on codes. -/
def readCodes (value : Nat) (low : Option Nat) : List Nat → CharTable
  | [] => [(low.getD value, value)]
  | code :: rest =>
    if code = 32 then (low.getD value, value) :: readCodes 0 none rest
    else if code = 45 then readCodes 0 (some value) rest
    else readCodes (value * 16 + if code < 97 then code - 48 else code - 87) low rest

/-- The codes of blanks, dashes and hexadecimal digits in lower case. -/
def isRangeCode (code : Nat) : Bool :=
  code = 32 || code = 45 || (48 ≤ code && code ≤ 57) || (97 ≤ code && code ≤ 102)

theorem hexValue_of_isRangeCode {c : Char} (written : isRangeCode c.toNat) (blank : c.toNat ≠ 32)
    (dash : c.toNat ≠ 45) :
    hexValue c = if c.toNat < 97 then c.toNat - 48 else c.toNat - 87 := by
  have digit : c.isDigit = true ↔ 48 ≤ c.toNat ∧ c.toNat ≤ 57 := by
    simp [Char.isDigit, UInt32.le_iff_toNat_le]
  have cases : (48 ≤ c.toNat ∧ c.toNat ≤ 57) ∨ (97 ≤ c.toNat ∧ c.toNat ≤ 102) := by
    simpa [isRangeCode, blank, dash] using written
  unfold hexValue
  by_cases isDigit : c.isDigit
  · have low := digit.mp isDigit
    rw [if_pos isDigit, if_pos (by omega)]
    rfl
  · have other := mt digit.mpr isDigit
    have letter : 97 ≤ c.toNat := by omega
    have lower : ¬(c.val ≥ 'A'.val ∧ c.val ≤ 'Z'.val) := fun upper =>
      absurd (Nat.le_trans letter (UInt32.le_iff_toNat_le.mp upper.2)) (by decide)
    have same : c.toLower = c := dif_neg lower
    rw [if_neg isDigit, if_neg (by omega), same]
    change c.toNat - 97 + 10 = _
    omega

theorem readRanges_eq_readCodes {chars : List Char} (written : (chars.map Char.toNat).all isRangeCode)
    (value : Nat) (low : Option Nat) :
    readRanges value low chars = readCodes value low (chars.map Char.toNat) := by
  induction chars generalizing value low with
  | nil => rfl
  | cons c chars ih =>
    obtain ⟨here, later⟩ : isRangeCode c.toNat ∧ (chars.map Char.toNat).all isRangeCode := by
      simpa using written
    have blank : c = ' ' ↔ c.toNat = 32 := Char.toNat_inj.symm
    have dash : c = '-' ↔ c.toNat = 45 := Char.toNat_inj.symm
    unfold readRanges
    rw [List.map_cons, readCodes, ih later, ih later, ih later]
    simp only [blank, dash]
    split
    · rfl
    · split
      · rfl
      · rw [hexValue_of_isRangeCode here ‹_› ‹_›]

/-! Tables apart from each other. -/

/-- No range of the table shares a character with this one. -/
def isApart (table : CharTable) (range : Nat × Nat) : Bool :=
  table.all fun other => range.2 < other.1 || other.2 < range.1

theorem contains_eq_false_of_isApart {table other : CharTable} {c : Char}
    (apart : ∀ range ∈ table, other.isApart range) (inside : table.contains c = true) :
    other.contains c = false := by
  obtain ⟨range, listed, low, high⟩ := (contains_iff table c).mp inside
  refine Bool.eq_false_iff.mpr fun both => ?_
  obtain ⟨also, here, least, most⟩ := (contains_iff other c).mp both
  have away := List.all_eq_true.mp (apart range listed) also here
  simp only [Bool.or_eq_true, decide_eq_true_eq] at away
  omega

/-- A row that is checked through its codes. -/
theorem isApart_of_row {table : CharTable} {row : List Char}
    (checked : ((row.map Char.toNat).all isRangeCode &&
      (readCodes 0 none (row.map Char.toNat)).all table.isApart) = true) :
    ∀ range ∈ readRanges 0 none (String.ofList row).toList, table.isApart range := by
  obtain ⟨written, apart⟩ := Bool.and_eq_true_iff.mp checked
  rw [String.toList_ofList, readRanges_eq_readCodes written]
  exact List.all_eq_true.mp apart

end CharTable

/-! Identifiers. -/

theorem isApart_identifierStartTable :
    ∀ range ∈ identifierStartTable, blankTable.isApart range := by
  refine List.forall_mem_flatMap.mpr ?_
  dsimp only
  repeat
    refine List.forall_mem_cons.mpr ⟨CharTable.isApart_of_row (by decide +kernel), ?_⟩
  exact fun _ listed => absurd listed List.not_mem_nil

theorem isBlank_of_isIdentifierStart {c : Char} (start : isIdentifierStart c = true) :
    isBlank c = false := by
  unfold isIdentifierStart at start
  split at start
  · have letter : 65 ≤ c.toNat ∧ c.toNat ≤ 122 := by
      rcases (Bool.or_eq_true _ _).mp start with letter | line
      · rcases (Bool.or_eq_true _ _).mp letter with upper | lower
        · obtain ⟨low, high⟩ := of_decide_eq_true upper
          exact ⟨UInt32.le_iff_toNat_le.mp low,
            Nat.le_trans (UInt32.le_iff_toNat_le.mp high) (by decide)⟩
        · obtain ⟨low, high⟩ := (Bool.and_eq_true _ _).mp lower
          have low := UInt32.le_iff_toNat_le.mp (of_decide_eq_true low)
          exact ⟨Nat.le_trans (by decide) low, UInt32.le_iff_toNat_le.mp (of_decide_eq_true high)⟩
      · obtain rfl := of_decide_eq_true line
        decide
    refine Bool.eq_false_iff.mpr fun blank => ?_
    obtain ⟨range, listed, low, high⟩ := (CharTable.contains_iff _ c).mp blank
    have outside : ∀ range ∈ blankTable, range.2 < 65 ∨ 122 < range.1 := by decide
    have away := outside range listed
    omega
  · exact CharTable.contains_eq_false_of_isApart isApart_identifierStartTable start

end LayerAtlas
