import LayerAtlas.Text.RawText

/-!
# Reading raw text

The bytes of a text are read as that text. Bytes of ASCII are read as what they are wherever they stand, and
nothing else is: so a raw text can be divided at such a byte before it is shown or afterwards.
-/
namespace LayerAtlas

namespace Utf8

/-- Which bytes follow a leading byte, told by its number. -/
theorem followers?_ofNat {value : Nat} (byte : value < 256) :
    followers? (UInt8.ofNat value) =
      if value < 0x80 then some []
      else if value < 0xc2 then none
      else if value < 0xe0 then some [(0x80, 0xbf)]
      else if value = 0xe0 then some [(0xa0, 0xbf), (0x80, 0xbf)]
      else if value = 0xed then some [(0x80, 0x9f), (0x80, 0xbf)]
      else if value < 0xf0 then some [(0x80, 0xbf), (0x80, 0xbf)]
      else if value = 0xf0 then some [(0x90, 0xbf), (0x80, 0xbf), (0x80, 0xbf)]
      else if value < 0xf4 then some [(0x80, 0xbf), (0x80, 0xbf), (0x80, 0xbf)]
      else if value = 0xf4 then some [(0x80, 0x8f), (0x80, 0xbf), (0x80, 0xbf)]
      else none := by
  have number : (UInt8.ofNat value).toNat = value := UInt8.toNat_ofNat_of_lt' byte
  simp only [followers?, UInt8.lt_iff_toNat_lt, ← UInt8.toNat_inj, number]
  rfl

namespace Begun

theorem step_lead {value : Nat} (byte : value < 256) {lacking : List (UInt8 × UInt8)}
    (opens : followers? (UInt8.ofNat value) = some lacking) :
    idle.step (UInt8.ofNat value) =
      settle (leadValue value lacking.length) lacking := by
  have number : (UInt8.ofNat value).toNat = value := UInt8.toNat_ofNat_of_lt' byte
  change lead _ = _
  rw [lead, opens]
  dsimp only
  rw [number]

/-- A byte in the range that a sequence lacks continues it. -/
theorem step_continued {begun : Begun} {range : UInt8 × UInt8} {lacking : List (UInt8 × UInt8)}
    {value : Nat} (owed : begun.lacking = range :: lacking) (least : range.1.toNat ≤ value)
    (most : value ≤ range.2.toNat) :
    begun.step (UInt8.ofNat value) = settle (begun.value * 64 + value % 64) lacking := by
  obtain ⟨low, high⟩ := range
  have number : (UInt8.ofNat value).toNat = value :=
    UInt8.toNat_ofNat_of_lt' (Nat.lt_of_le_of_lt most high.toNat_lt)
  unfold step
  rw [owed]
  dsimp only
  rw [if_pos, number]
  rw [UInt8.le_iff_toNat_le, UInt8.le_iff_toNat_le, number]
  exact ⟨least, most⟩

theorem read_cons (begun : Begun) (byte : UInt8) (rest : List UInt8) :
    begun.read (byte :: rest) = (begun.step byte).1 ++ (begun.step byte).2.read rest :=
  rfl

variable {first value : Nat} {range other : UInt8 × UInt8} {lacking : List (UInt8 × UInt8)}

theorem read_lead (byte : first < 256)
    (opens : followers? (UInt8.ofNat first) = some (range :: lacking)) (rest : List UInt8) :
    idle.read (UInt8.ofNat first :: rest) =
      (⟨leadValue first (range :: lacking).length, range :: lacking⟩ : Begun).read rest := by
  rw [read_cons, step_lead byte opens]
  simp [settle]

theorem read_within (least : range.1.toNat ≤ value) (most : value ≤ range.2.toNat) (sum : Nat)
    (rest : List UInt8) :
    (⟨sum, range :: other :: lacking⟩ : Begun).read (UInt8.ofNat value :: rest) =
      (⟨sum * 64 + value % 64, other :: lacking⟩ : Begun).read rest := by
  rw [read_cons, step_continued rfl least most]
  simp [settle]

theorem read_last (least : range.1.toNat ≤ value) (most : value ≤ range.2.toNat) (sum : Nat)
    (rest : List UInt8) :
    (⟨sum, [range]⟩ : Begun).read (UInt8.ofNat value :: rest) =
      Char.ofNat (sum * 64 + value % 64) :: idle.read rest := by
  rw [read_cons, step_continued rfl least most]
  simp [settle]

/-- Of three bytes, the second lies in a range of its own where the sequence would be too long otherwise or
stand for half of a pair. -/
theorem second_of_three {code : Nat} (least : 0x800 ≤ code) (most : code < 0x10000)
    (scalar : code < 0xd800 ∨ 0xdfff < code ∧ code < 0x110000) :
    ∃ range : UInt8 × UInt8,
      followers? (UInt8.ofNat (code / 4096 % 16 + 224)) = some [range, (0x80, 0xbf)] ∧
      range.1.toNat ≤ code / 64 % 64 + 128 ∧ code / 64 % 64 + 128 ≤ range.2.toNat := by
  rw [followers?_ofNat (by omega), if_neg (by omega), if_neg (by omega), if_neg (by omega)]
  by_cases first : code / 4096 % 16 + 224 = 0xe0
  · exact ⟨_, if_pos first, show 160 ≤ _ by omega, show _ ≤ 191 by omega⟩
  rw [if_neg first]
  by_cases surrogate : code / 4096 % 16 + 224 = 0xed
  · exact ⟨_, if_pos surrogate, show 128 ≤ _ by omega, show _ ≤ 159 by omega⟩
  rw [if_neg surrogate]
  exact ⟨_, if_pos (by omega), show 128 ≤ _ by omega, show _ ≤ 191 by omega⟩

/-- Of four bytes, the second lies in a range of its own where the sequence would be too long otherwise or
stand for no character. -/
theorem second_of_four {code : Nat} (least : 0x10000 ≤ code) (most : code < 0x110000) :
    ∃ range : UInt8 × UInt8,
      followers? (UInt8.ofNat (code / 262144 % 8 + 240)) =
        some [range, (0x80, 0xbf), (0x80, 0xbf)] ∧
      range.1.toNat ≤ code / 4096 % 64 + 128 ∧ code / 4096 % 64 + 128 ≤ range.2.toNat := by
  rw [followers?_ofNat (by omega), if_neg (by omega), if_neg (by omega), if_neg (by omega),
    if_neg (by omega), if_neg (by omega), if_neg (by omega)]
  by_cases first : code / 262144 % 8 + 240 = 0xf0
  · exact ⟨_, if_pos first, show 144 ≤ _ by omega, show _ ≤ 191 by omega⟩
  rw [if_neg first]
  by_cases middle : code / 262144 % 8 + 240 < 0xf4
  · exact ⟨_, if_pos middle, show 128 ≤ _ by omega, show _ ≤ 191 by omega⟩
  rw [if_neg middle]
  exact ⟨_, if_pos (by omega), show 128 ≤ _ by omega, show _ ≤ 143 by omega⟩

/-- The bytes of a character are read as that character. -/
theorem read_encode (c : Char) (rest : List UInt8) :
    idle.read (String.utf8EncodeChar c ++ rest) = c :: idle.read rest := by
  have scalar : c.val.toNat < 0xd800 ∨ 0xdfff < c.val.toNat ∧ c.val.toNat < 0x110000 := c.valid
  have own : Char.ofNat c.val.toNat = c := Char.ofNat_toNat c
  unfold String.utf8EncodeChar
  dsimp only
  generalize c.val.toNat = code at scalar own ⊢
  -- One case for each number of bytes.
  split
  · next one =>
    have opens : followers? (UInt8.ofNat code) = some [] := by
      rw [followers?_ofNat (by omega), if_pos (by omega)]
    rw [List.singleton_append, read_cons, step_lead (by omega) opens]
    simp [settle, leadValue, own]
  split
  · next two =>
    have opens : followers? (UInt8.ofNat (code / 64 % 32 + 192)) = some [(0x80, 0xbf)] := by
      rw [followers?_ofNat (by omega), if_neg (by omega), if_neg (by omega), if_pos (by omega)]
    have sum : (code / 64 % 32 + 192) % 0x20 * 64 + (code % 64 + 128) % 64 = code := by omega
    rw [List.cons_append, List.singleton_append, read_lead (by omega) opens,
      read_last (show 128 ≤ _ by omega) (show _ ≤ 191 by omega)]
    simp only [List.length_singleton, leadValue, sum, own]
  split
  · next three =>
    obtain ⟨range, opens, least, most⟩ := second_of_three (show 0x800 ≤ code by omega) (by omega) scalar
    have sum : ((code / 4096 % 16 + 224) % 0x10 * 64 + (code / 64 % 64 + 128) % 64) * 64 +
        (code % 64 + 128) % 64 = code := by omega
    rw [List.cons_append, List.cons_append, List.singleton_append, read_lead (by omega) opens,
      read_within least most, read_last (show 128 ≤ _ by omega) (show _ ≤ 191 by omega)]
    simp only [List.length_cons, List.length_nil, leadValue, sum, own]
  · next four =>
    obtain ⟨range, opens, least, most⟩ := second_of_four (show 0x10000 ≤ code by omega) (by omega)
    have sum : (((code / 262144 % 8 + 240) % 0x08 * 64 + (code / 4096 % 64 + 128) % 64) * 64 +
        (code / 64 % 64 + 128) % 64) * 64 + (code % 64 + 128) % 64 = code := by omega
    rw [List.cons_append, List.cons_append, List.cons_append, List.singleton_append,
      read_lead (by omega) opens, read_within least most,
      read_within (show 128 ≤ _ by omega) (show _ ≤ 191 by omega),
      read_last (show 128 ≤ _ by omega) (show _ ≤ 191 by omega)]
    simp only [List.length_cons, List.length_nil, leadValue, sum, own]

/-! ## Bytes of ASCII -/

/-- The least value at which a sequence can end. -/
def least : Nat → List (UInt8 × UInt8) → Nat
  | value, [] => value
  | value, range :: others => least (value * 64 + range.1.toNat % 64) others

theorem least_mono {sum value : Nat} (atMost : sum ≤ value) (lacking : List (UInt8 × UInt8)) :
    least sum lacking ≤ least value lacking := by
  induction lacking generalizing sum value with
  | nil => exact atMost
  | cons range others ih => exact ih (by omega)

/-- The bytes that a sequence lacks lie beyond ASCII, and so does the character that it will be. -/
structure Sound (begun : Begun) : Prop where
  beyond : ∀ range ∈ begun.lacking, 0x80 ≤ range.1.toNat ∧ range.2.toNat < 0xc0
  large : begun.lacking ≠ [] → 0x80 ≤ least begun.value begun.lacking

theorem sound_idle : Sound idle where
  beyond := nofun
  large := fun lacks => absurd rfl lacks

theorem toNat_ofNat_cases (value : Nat) :
    (Char.ofNat value).toNat = value ∨ (Char.ofNat value).toNat = 0 := by
  by_cases valid : value.isValidChar
  · rw [Char.ofNat, dif_pos valid]
    exact .inl (UInt32.toNat_ofNatLT ..)
  · rw [Char.ofNat, dif_neg valid]
    exact .inr rfl

/-- No character of ASCII but the null character comes of a value beyond it. -/
theorem settle_spec {value : Nat} {lacking : List (UInt8 × UInt8)}
    (beyond : ∀ range ∈ lacking, 0x80 ≤ range.1.toNat ∧ range.2.toNat < 0xc0)
    (large : 0x80 ≤ least value lacking) :
    Sound (settle value lacking).2 ∧
      ∀ c ∈ (settle value lacking).1, 0 < c.toNat → 0x80 ≤ c.toNat := by
  unfold settle
  split
  · next complete =>
    subst complete
    refine ⟨sound_idle, fun c member given => ?_⟩
    obtain rfl := List.mem_singleton.1 member
    rcases toNat_ofNat_cases value with same | null
    · rwa [same]
    · omega
  · exact ⟨⟨beyond, fun _ => large⟩, nofun⟩

theorem followers?_of_beyond {byte : UInt8} (beyond : 0x80 ≤ byte.toNat)
    {lacking : List (UInt8 × UInt8)} (opens : followers? byte = some lacking) :
    (∀ range ∈ lacking, 0x80 ≤ range.1.toNat ∧ range.2.toNat < 0xc0) ∧
      0x80 ≤ least (leadValue byte.toNat lacking.length) lacking := by
  have code := followers?_ofNat byte.toNat_lt
  rw [UInt8.ofNat_toNat, opens, if_neg (Nat.not_lt.2 beyond)] at code
  repeat' split at code
  all_goals cases code
  all_goals
    refine ⟨by simp, ?_⟩
    simp [least, leadValue]
    omega

theorem lead_of_beyond {byte : UInt8} (beyond : 0x80 ≤ byte.toNat) :
    Sound (lead byte).2 ∧ ∀ c ∈ (lead byte).1, 0 < c.toNat → 0x80 ≤ c.toNat := by
  unfold lead
  split
  · next lacking opens =>
    obtain ⟨ranges, large⟩ := followers?_of_beyond beyond opens
    exact settle_spec ranges large
  · exact ⟨sound_idle, by simp [replacement]⟩

theorem lead_of_ascii {byte : UInt8} (ascii : byte.toNat < 0x80) :
    lead byte = ([Char.ofNat byte.toNat], idle) := by
  have code := followers?_ofNat byte.toNat_lt
  rw [UInt8.ofNat_toNat, if_pos ascii] at code
  rw [lead, code]
  rfl

/-- A byte of ASCII breaks off what has begun. -/
theorem Sound.step_of_ascii {begun : Begun} (sound : Sound begun) {byte : UInt8}
    (ascii : byte.toNat < 0x80) :
    begun.step byte = (begun.read [] ++ [Char.ofNat byte.toNat], idle) := by
  unfold step
  cases owed : begun.lacking with
  | nil => simp [read, owed, lead_of_ascii ascii]
  | cons range others =>
    obtain ⟨low, high⟩ := range
    have lacks : 0x80 ≤ low.toNat := (sound.beyond (low, high) (by simp [owed])).1
    have outside : ¬ (low ≤ byte ∧ byte ≤ high) := by
      rw [UInt8.le_iff_toNat_le]
      omega
    simp [read, owed, outside, lead_of_ascii ascii]

theorem Sound.step_of_beyond {begun : Begun} (sound : Sound begun) {byte : UInt8}
    (beyond : 0x80 ≤ byte.toNat) :
    Sound (begun.step byte).2 ∧ ∀ c ∈ (begun.step byte).1, 0 < c.toNat → 0x80 ≤ c.toNat := by
  obtain ⟨next, letters⟩ := lead_of_beyond beyond
  unfold step
  split
  · exact ⟨next, letters⟩
  · next low high others owed =>
    split
    · next inside =>
      obtain ⟨lower, upper⟩ := inside
      rw [UInt8.le_iff_toNat_le] at lower upper
      have ranges := fun range member => sound.beyond range (owed ▸ List.mem_cons_of_mem _ member)
      obtain ⟨own, bounded⟩ : 0x80 ≤ low.toNat ∧ high.toNat < 0xc0 :=
        sound.beyond (low, high) (owed ▸ List.mem_cons_self)
      have sum : begun.value * 64 + low.toNat % 64 ≤ begun.value * 64 + byte.toNat % 64 := by omega
      have large := sound.large (by simp [owed])
      rw [owed] at large
      exact settle_spec ranges (Nat.le_trans large (least_mono sum others))
    · refine ⟨next, fun c member given => ?_⟩
      rcases List.mem_cons.1 member with rfl | behind
      · decide
      · exact letters c behind given

theorem Sound.step {begun : Begun} (sound : Sound begun) (byte : UInt8) :
    Sound (begun.step byte).2 := by
  by_cases ascii : byte.toNat < 0x80
  · rw [sound.step_of_ascii ascii]
    exact sound_idle
  · exact (sound.step_of_beyond (Nat.not_lt.1 ascii)).1

/-- A byte of ASCII is read as what it is, wherever it stands. -/
theorem Sound.read_append {begun : Begun} (sound : Sound begun) (front : List UInt8) {byte : UInt8}
    (ascii : byte.toNat < 0x80) (rest : List UInt8) :
    begun.read (front ++ byte :: rest) =
      begun.read front ++ Char.ofNat byte.toNat :: idle.read rest := by
  induction front generalizing begun with
  | nil => rw [List.nil_append, read_cons, sound.step_of_ascii ascii, List.append_assoc,
      List.singleton_append]
  | cons first behind ih =>
    rw [List.cons_append, read_cons, read_cons, ih (sound.step first), List.append_assoc]

theorem read_nil_beyond {begun : Begun} {c : Char} (member : c ∈ begun.read []) : 0x80 ≤ c.toNat := by
  unfold read at member
  split at member
  · cases member
  · obtain rfl := List.mem_singleton.1 member
    decide

/-- A character of ASCII is read from a byte only. -/
theorem Sound.mem_of_mem_read {begun : Begun} (sound : Sound begun) {bytes : List UInt8} {c : Char}
    (member : c ∈ begun.read bytes) (given : 0 < c.toNat) (ascii : c.toNat < 0x80) :
    ∃ byte ∈ bytes, byte.toNat = c.toNat := by
  induction bytes generalizing begun with
  | nil => exact absurd ascii (Nat.not_lt.2 (read_nil_beyond member))
  | cons first rest ih =>
    rw [read_cons, List.mem_append] at member
    rcases member with here | later
    · by_cases own : first.toNat < 0x80
      · rw [sound.step_of_ascii own, List.mem_append, List.mem_singleton] at here
        rcases here with broken | rfl
        · exact absurd ascii (Nat.not_lt.2 (read_nil_beyond broken))
        · refine ⟨first, List.mem_cons_self, ?_⟩
          rcases toNat_ofNat_cases first.toNat with same | null
          · exact same.symm
          · omega
      · have large := (sound.step_of_beyond (Nat.not_lt.1 own)).2 c here given
        omega
    · obtain ⟨byte, listed, same⟩ := ih (sound.step first) later
      exact ⟨byte, List.mem_cons_of_mem _ listed, same⟩

/-- After a byte there is a character, or a sequence has begun. -/
theorem settle_fst_ne_nil (value : Nat) (lacking : List (UInt8 × UInt8)) :
    (settle value lacking).1 ≠ [] ∨ (settle value lacking).2.lacking ≠ [] := by
  unfold settle
  split
  · exact .inl (by simp)
  · next lacks => exact .inr lacks

theorem step_fst_ne_nil (begun : Begun) (byte : UInt8) :
    (begun.step byte).1 ≠ [] ∨ (begun.step byte).2.lacking ≠ [] := by
  unfold step
  split
  · unfold lead
    split
    · exact settle_fst_ne_nil _ _
    · exact .inl (by simp)
  · split
    · exact settle_fst_ne_nil _ _
    · exact .inl (by simp)

theorem read_ne_nil {begun : Begun} {bytes : List UInt8} (given : begun.lacking ≠ [] ∨ bytes ≠ []) :
    begun.read bytes ≠ [] := by
  induction bytes generalizing begun with
  | nil => simp [read, given.resolve_right (fun filled => filled rfl)]
  | cons byte rest ih =>
    rw [read_cons]
    rcases step_fst_ne_nil begun byte with letters | lacks
    · exact List.append_ne_nil_of_left_ne_nil letters _
    · exact List.append_ne_nil_of_right_ne_nil _ (ih (.inl lacks))

/-- Bytes beyond ASCII are not read as characters of ASCII alone. -/
theorem Sound.exists_beyond {begun : Begun} (sound : Sound begun) {bytes : List UInt8}
    (given : begun.lacking ≠ [] ∨ ∃ byte ∈ bytes, 0x80 ≤ byte.toNat) :
    ∃ c ∈ begun.read bytes, c.toNat = 0 ∨ 0x80 ≤ c.toNat := by
  induction bytes generalizing begun with
  | nil =>
    have lacks : begun.lacking ≠ [] := by simpa using given
    exact ⟨replacement, by simp [read, lacks], by decide⟩
  | cons byte rest ih =>
    rw [read_cons]
    by_cases ascii : byte.toNat < 0x80
    · rw [sound.step_of_ascii ascii]
      by_cases lacks : begun.lacking = []
      · obtain ⟨other, listed, beyond⟩ := given.resolve_left (fun some => some lacks)
        have behind : other ∈ rest := (List.mem_cons.1 listed).resolve_left fun same => by
          rw [same] at beyond
          omega
        obtain ⟨c, member, outside⟩ := ih sound_idle (.inr ⟨other, behind, beyond⟩)
        exact ⟨c, List.mem_append_right _ member, outside⟩
      · exact ⟨replacement, by simp [read, lacks], by decide⟩
    · obtain ⟨next, letters⟩ := sound.step_of_beyond (Nat.not_lt.1 ascii)
      rcases step_fst_ne_nil begun byte with some | lacks
      · obtain ⟨c, others, first⟩ := List.exists_cons_of_ne_nil some
        rw [first] at letters ⊢
        refine ⟨c, List.mem_cons_self, ?_⟩
        have beyond := letters c List.mem_cons_self
        omega
      · obtain ⟨c, member, outside⟩ := ih next (.inl lacks)
        exact ⟨c, List.mem_append_right _ member, outside⟩

theorem read_of_ascii {bytes : List UInt8} (ascii : ∀ byte ∈ bytes, byte.toNat < 0x80) :
    idle.read bytes = bytes.map fun byte => Char.ofNat byte.toNat := by
  induction bytes with
  | nil => rfl
  | cons byte rest ih =>
    obtain ⟨first, others⟩ := List.forall_mem_cons.1 ascii
    rw [read_cons, sound_idle.step_of_ascii first, ih others]
    rfl

end Begun

theorem encode_of_ascii {byte : UInt8} (ascii : byte.toNat < 0x80) :
    String.utf8EncodeChar (Char.ofNat byte.toNat) = [byte] := by
  have valid : byte.toNat.isValidChar := .inl (Nat.lt_trans ascii (by decide))
  have number : (Char.ofNat byte.toNat).val.toNat = byte.toNat := by
    rw [Char.ofNat, dif_pos valid]
    rfl
  unfold String.utf8EncodeChar
  dsimp only
  rw [number, if_pos (by omega), UInt8.ofNat_toNat]

theorem flatMap_encode_of_ascii {bytes : List UInt8} (ascii : ∀ byte ∈ bytes, byte.toNat < 0x80) :
    (bytes.map fun byte => Char.ofNat byte.toNat).flatMap String.utf8EncodeChar = bytes := by
  induction bytes with
  | nil => rfl
  | cons byte rest ih =>
    obtain ⟨first, others⟩ := List.forall_mem_cons.1 ascii
    rw [List.map_cons, List.flatMap_cons, encode_of_ascii first, ih others, List.singleton_append]

end Utf8

namespace RawText

variable {raw other : RawText} {text : String} {c : Char}

theorem ext_iff {first second : RawText} : first = second ↔ first.bytes = second.bytes :=
  ⟨congrArg bytes, fun same => congrArg mk same⟩

instance : Std.Irrefl (· < · : RawText → RawText → Prop) :=
  ⟨fun raw => List.lt_irrefl raw.bytes⟩

/-- Text proper is shown as it is. -/
@[simp] theorem lossy_ofString (text : String) : (ofString text).lossy = text := by
  have letters (list : List Char) :
      Utf8.Begun.idle.read (list.flatMap String.utf8EncodeChar) = list := by
    induction list with
    | nil => rfl
    | cons c rest ih => rw [List.flatMap_cons, Utf8.Begun.read_encode, ih]
  rw [lossy, Utf8.decodeLossy, ofString, letters, String.ofList_toList]

theorem ofString_inj {first second : String} : ofString first = ofString second ↔ first = second :=
  ⟨fun same => by rw [← lossy_ofString first, same, lossy_ofString], congrArg ofString⟩

theorem isText_ofString (text : String) : (ofString text).IsText :=
  congrArg ofString (lossy_ofString text)

/-- Texts are spelled as they are shown. -/
theorem map_ofString_lossy {raws : List RawText} (texts : ∀ raw ∈ raws, raw.IsText) :
    (raws.map lossy).map ofString = raws := by
  rw [List.map_map]
  exact (List.map_congr_left texts).trans (List.map_id _)

/-- Bytes are read as the text that they encode, or not at all. -/
theorem toString?_eq_some_iff : raw.toString? = some text ↔ raw = ofString text := by
  unfold toString?
  constructor
  · intro found
    split at found
    · next own =>
      cases found
      exact own.symm
    · cases found
  · rintro rfl
    rw [if_pos (isText_ofString text), lossy_ofString]

@[simp] theorem bytes_append (front back : RawText) : (front ++ back).bytes = front.bytes ++ back.bytes :=
  rfl

theorem append_assoc (first second third : RawText) :
    first ++ second ++ third = first ++ (second ++ third) :=
  congrArg mk (List.append_assoc ..)

theorem ofString_append (front back : String) :
    ofString (front ++ back) = ofString front ++ ofString back := by
  simp only [ofString, String.toList_append, List.flatMap_append]
  rfl

/-- A byte of ASCII divides what is shown of the bytes before it from what is shown of those behind. -/
theorem toList_lossy_append (front back : List UInt8) {byte : UInt8} (ascii : byte.toNat < 0x80) :
    (⟨front ++ byte :: back⟩ : RawText).lossy.toList =
      (⟨front⟩ : RawText).lossy.toList ++
        Char.ofNat byte.toNat :: (⟨back⟩ : RawText).lossy.toList := by
  simp only [lossy, Utf8.decodeLossy, String.toList_ofList]
  exact Utf8.Begun.sound_idle.read_append front ascii back

theorem mem_toList_lossy_iff (given : 0 < c.toNat) (ascii : c.toNat < 0x80) :
    c ∈ raw.lossy.toList ↔ UInt8.ofNat c.toNat ∈ raw.bytes := by
  constructor
  · intro member
    rw [lossy, Utf8.decodeLossy, String.toList_ofList] at member
    obtain ⟨byte, listed, same⟩ := Utf8.Begun.sound_idle.mem_of_mem_read member given ascii
    rwa [← same, UInt8.ofNat_toNat]
  · intro member
    have number : (UInt8.ofNat c.toNat).toNat = c.toNat :=
      UInt8.toNat_ofNat_of_lt' (Nat.lt_trans ascii (by decide))
    obtain ⟨front, back, divided⟩ := List.append_of_mem member
    have shown := toList_lossy_append front back (number ▸ ascii)
    rw [← divided, number, Char.ofNat_toNat] at shown
    rw [shown]
    exact List.mem_append_right _ List.mem_cons_self

theorem dot_mem_iff : dot ∈ raw.bytes ↔ '.' ∈ raw.lossy.toList :=
  (mem_toList_lossy_iff (c := '.') (by decide) (by decide)).symm

theorem slash_mem_iff : slash ∈ raw.bytes ↔ '/' ∈ raw.lossy.toList :=
  (mem_toList_lossy_iff (c := '/') (by decide) (by decide)).symm

/-- Whether a text is of ASCII, the null character left out. -/
def isAscii (text : String) : Bool :=
  text.toList.all fun c => decide (0 < c.toNat ∧ c.toNat < 0x80)

/-- Nothing but the text itself is shown as a text of ASCII. -/
theorem lossy_eq_iff_of_ascii (ascii : isAscii text = true) :
    raw.lossy = text ↔ raw = ofString text := by
  refine ⟨fun shown => ?_, fun same => by rw [same, lossy_ofString]⟩
  have letters : Utf8.Begun.idle.read raw.bytes = text.toList := by
    rw [← shown, lossy, Utf8.decodeLossy, String.toList_ofList]
  have plain : ∀ byte ∈ raw.bytes, byte.toNat < 0x80 := by
    intro byte member
    refine Classical.byContradiction fun beyond => ?_
    obtain ⟨c, listed, outside⟩ :=
      Utf8.Begun.sound_idle.exists_beyond (.inr ⟨byte, member, Nat.not_lt.1 beyond⟩)
    have inside := of_decide_eq_true (List.all_eq_true.1 ascii c (letters ▸ listed))
    omega
  have whole : raw.bytes = text.toList.flatMap String.utf8EncodeChar := by
    rw [← letters, Utf8.Begun.read_of_ascii plain, Utf8.flatMap_encode_of_ascii plain]
  exact congrArg mk whole

theorem lossy_eq_empty_iff : raw.lossy = "" ↔ raw.bytes = [] := by
  constructor
  · intro nothing
    refine Classical.byContradiction fun filled => ?_
    rw [← String.toList_inj, lossy, Utf8.decodeLossy, String.toList_ofList] at nothing
    exact Utf8.Begun.read_ne_nil (.inr filled) nothing
  · intro nothing
    rw [lossy, nothing]
    rfl

end RawText

end LayerAtlas
