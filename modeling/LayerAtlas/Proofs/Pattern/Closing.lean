import LayerAtlas.Pattern.Parser
import LayerAtlas.Proofs.Outcome

/-!
# A pattern in front of what closes its group

A pattern is read with the closing of a group behind it. Every reader does there what it does on the
pattern alone, unless it takes the parenthesis of the closing for its own: as a member of a set, behind a
backslash, in a comment, as the end of a group that the pattern opens. Then too little is left of the
closing to end the group around the pattern.
-/
namespace LayerAtlas

/-- What stands behind a pattern that is set between anchors. -/
def closing : List Char := [')', '$']

/-- What is left of the closing once its parenthesis has been taken. -/
def Broken (rest : List Char) : Prop :=
  rest = ['$'] ∨ rest = []

/-- Behind the closing's text a reader gives the same value as without it and leaves the closing whole,
or it has broken the closing. -/
def Agrees {α : Type} (text : List Char) (whole alone : Except PatternFault (α × List Char)) : Prop :=
  ∀ value rest, whole = .ok (value, rest) →
    (∃ left, rest = left ++ closing ∧ left.length ≤ text.length ∧ alone = .ok (value, left)) ∨
      Broken rest

/-- A reader that minds the closing only by breaking it, and leaves it broken. -/
structure Steady {α : Type} (reader : List Char → Except PatternFault (α × List Char)) : Prop where
  agrees : ∀ text, Agrees text (reader (text ++ closing)) (reader text)
  broken : ∀ rest, Broken rest → ∀ value last, reader rest = .ok (value, last) → Broken last

section Outcomes

variable {α β : Type} {text : List Char} {whole alone : Except PatternFault (α × List Char)}

theorem Agrees.of_ok (value : α) (text : List Char) :
    Agrees text (.ok (value, text ++ closing)) (.ok (value, text)) := by
  intro other rest same
  cases same
  exact .inl ⟨text, rfl, Nat.le_refl _, rfl⟩

theorem Agrees.of_error (fault : PatternFault) (text : List Char) :
    Agrees text (.error fault) alone :=
  nofun

theorem Agrees.of_broken (breaks : ∀ value rest, whole = .ok (value, rest) → Broken rest) :
    Agrees text whole alone :=
  fun value rest success => .inr (breaks value rest success)

theorem Agrees.mono {shorter : List Char} (agrees : Agrees shorter whole alone)
    (bound : shorter.length ≤ text.length) : Agrees text whole alone := by
  intro value rest success
  rcases agrees value rest success with ⟨left, same, short, read⟩ | broken
  · exact .inl ⟨left, same, Nat.le_trans short bound, read⟩
  · exact .inr broken

theorem Agrees.bind {wholeNext aloneNext : α × List Char → Except PatternFault (β × List Char)}
    (begun : Agrees text whole alone)
    (goesOn : ∀ value left, left.length ≤ text.length →
      Agrees left (wholeNext (value, left ++ closing)) (aloneNext (value, left)))
    (breaks : ∀ value rest, Broken rest → ∀ result last,
      wholeNext (value, rest) = .ok (result, last) → Broken last) :
    Agrees text (whole >>= wholeNext) (alone >>= aloneNext) := by
  intro result last success
  obtain ⟨⟨value, rest⟩, read, success⟩ := exists_of_bind success
  rcases begun value rest read with ⟨left, rfl, short, same⟩ | broken
  · rw [same]
    exact (goesOn value left short).mono short result last success
  · exact .inr (breaks value rest broken result last success)

/-- A first step that cannot fail. -/
theorem Agrees.step {whole alone : α × List Char}
    (wholeNext aloneNext : α × List Char → Except PatternFault (β × List Char))
    (begun : Agrees text (.ok whole) (.ok alone))
    (goesOn : ∀ value left, left.length ≤ text.length →
      Agrees left (wholeNext (value, left ++ closing)) (aloneNext (value, left)))
    (breaks : ∀ value rest, Broken rest → ∀ result last,
      wholeNext (value, rest) = .ok (result, last) → Broken last) :
    Agrees text (wholeNext whole) (aloneNext alone) :=
  begun.bind goesOn breaks

theorem Steady.of_ok (value : α) : Steady fun text => .ok (value, text) where
  agrees := Agrees.of_ok value
  broken := by
    intro rest broken other last same
    cases same
    exact broken

theorem Steady.of_error (fault : PatternFault) :
    Steady fun _ => (.error fault : Except PatternFault (α × List Char)) where
  agrees := Agrees.of_error fault
  broken := fun _ _ => nofun

theorem Steady.bind {reader : List Char → Except PatternFault (α × List Char)}
    {further : α × List Char → Except PatternFault (β × List Char)} (first : Steady reader)
    (next : ∀ value, Steady fun text => further (value, text)) :
    Steady fun text => reader text >>= further where
  agrees := fun text => (first.agrees text).bind (fun value left _ => (next value).agrees left)
    fun value => (next value).broken
  broken := by
    intro rest broken result last success
    obtain ⟨⟨value, left⟩, read, success⟩ := exists_of_bind success
    exact (next value).broken left (first.broken rest broken value left read) result last success

/-- A first step that cannot fail. -/
theorem Steady.step {pass : List Char → α × List Char}
    (further : α × List Char → Except PatternFault (β × List Char))
    (first : Steady fun text => .ok (pass text)) (next : ∀ value, Steady fun text => further (value, text)) :
    Steady fun text => further (pass text) :=
  first.bind next

/-- A reader that takes the first character and goes on as that character asks. -/
theorem Steady.of_cons {fault : PatternFault}
    {further : Char → List Char → Except PatternFault (α × List Char)}
    (each : ∀ c, Steady (further c)) :
    Steady fun text =>
      match text with
      | [] => .error fault
      | c :: rest => further c rest where
  agrees := by
    intro text
    cases text with
    | nil => exact .of_broken ((each ')').broken ['$'] (.inl rfl))
    | cons c rest => exact ((each c).agrees rest).mono (Nat.le_succ _)
  broken := by
    rintro rest (rfl | rfl)
    · exact (each '$').broken [] (.inr rfl)
    · exact nofun

/-- A reader that looks whether a certain character comes first. -/
theorem Steady.of_head {c : Char} {taken kept : List Char → Except PatternFault (α × List Char)}
    (inClosing : c ∉ closing) (onTaken : Steady taken) (onKept : Steady kept) :
    Steady fun text => if text.head? = some c then taken text.tail else kept text where
  agrees := by
    intro text
    cases text with
    | nil =>
      have other : closing.head? ≠ some c := fun same => inClosing (List.mem_of_head? same)
      rw [List.nil_append, if_neg other, if_neg nofun]
      exact onKept.agrees []
    | cons first rest =>
      have alike : (first :: rest ++ closing).head? = (first :: rest).head? := rfl
      by_cases same : (first :: rest).head? = some c
      · rw [if_pos same, if_pos (alike.trans same)]
        exact (onTaken.agrees rest).mono (Nat.le_succ _)
      · rw [if_neg same, if_neg (alike ▸ same)]
        exact onKept.agrees (first :: rest)
  broken := by
    intro rest broken
    have other : rest.head? ≠ some c := by
      rcases broken with rfl | rfl
      · exact fun same => inClosing (List.mem_of_mem_tail (List.mem_of_head? same))
      · exact nofun
    rw [if_neg other]
    exact onKept.broken rest broken

end Outcomes

/-- Matching on a first character is looking whether it comes first. -/
theorem match_head {β : Type} {c : Char} {text : List Char} {whole other : β}
    (found : List Char → β) (onFound : ∀ rest, text = c :: rest → whole = found rest)
    (onOther : text.head? ≠ some c → whole = other) :
    whole = if text.head? = some c then found text.tail else other := by
  cases text with
  | nil => exact onOther nofun
  | cons first rest =>
    split
    · next same => exact onFound rest (congrArg (· :: rest) (Option.some.inj same))
    · next other => exact onOther other

theorem exists_of_head {c : Char} {text : List Char} (here : text.head? = some c) :
    ∃ rest, text = c :: rest :=
  List.head?_eq_some_iff.mp here

/-- The closing gives a text no other beginning than its own. -/
theorem head_append_ne {c : Char} {text : List Char} (inClosing : c ∉ closing)
    (other : text.head? ≠ some c) : (text ++ closing).head? ≠ some c := by
  cases text with
  | nil => exact fun same => inClosing (List.mem_of_head? same)
  | cons first rest => exact other

namespace PatternFlags

variable {α : Type} (flags : PatternFlags)

/-! Blanks and comments. -/

theorem dropIgnored_append (inComment : Bool) (text : List Char) :
    dropIgnored inComment (text ++ closing) = dropIgnored inComment text ++ closing ∨
      (dropIgnored inComment text = [] ∧ dropIgnored inComment (text ++ closing) = []) := by
  induction text generalizing inComment with
  | nil =>
    cases inComment with
    | false => exact .inl (by decide)
    | true => exact .inr (by decide)
  | cons c rest ih =>
    rw [List.cons_append]
    unfold dropIgnored
    split
    · exact ih _
    · split
      · exact ih false
      · split
        · exact ih true
        · exact .inl rfl

theorem length_dropIgnored_le (inComment : Bool) (text : List Char) :
    (dropIgnored inComment text).length ≤ text.length := by
  induction text generalizing inComment with
  | nil => exact Nat.le_refl _
  | cons c rest ih =>
    unfold dropIgnored
    split
    · exact Nat.le_succ_of_le (ih _)
    · split
      · exact Nat.le_succ_of_le (ih false)
      · split
        · exact Nat.le_succ_of_le (ih true)
        · exact Nat.le_refl _

/-- Blanks and comments are passed alike, unless a comment at the end takes the closing. -/
theorem skip_append (text : List Char) :
    flags.skip (text ++ closing) = flags.skip text ++ closing ∨
      (flags.skip text = [] ∧ flags.skip (text ++ closing) = []) := by
  unfold skip
  split
  · exact dropIgnored_append false text
  · exact .inl rfl

theorem length_skip_le (text : List Char) : (flags.skip text).length ≤ text.length := by
  unfold skip
  split
  · exact length_dropIgnored_le false text
  · exact Nat.le_refl _

/-- A text that begins with neither a blank nor a comment is not shortened. -/
theorem skip_cons {c : Char} {rest : List Char} (solid : isBlank c = false) (plain : c ≠ '#') :
    flags.skip (c :: rest) = c :: rest := by
  unfold skip dropIgnored
  simp [solid, plain]

@[simp] theorem skip_nil : flags.skip [] = [] := by
  unfold skip
  split <;> rfl

theorem skip_broken {rest : List Char} (broken : Broken rest) : flags.skip rest = rest := by
  rcases broken with rfl | rfl
  · exact flags.skip_cons (by decide) (by decide)
  · exact flags.skip_nil

theorem steady_skip {reader : List Char → Except PatternFault (α × List Char)}
    (steady : Steady reader) (flags : PatternFlags) : Steady fun text => reader (flags.skip text) where
  agrees := by
    intro text
    rcases flags.skip_append text with same | ⟨_, nothing⟩
    · rw [same]
      exact (steady.agrees _).mono (flags.length_skip_le text)
    · rw [nothing]
      exact .of_broken (steady.broken [] (.inr rfl))
  broken := by
    intro rest broken
    rw [flags.skip_broken broken]
    exact steady.broken rest broken

/-! Escapes. -/

theorem steady_hexDigits (count : Nat) : Steady (flags.hexDigits count) := by
  induction count with
  | zero => exact .of_ok []
  | succ count ih =>
    have shape : flags.hexDigits (count + 1) = fun text =>
        match text with
        | [] => .error .endInEscape
        | c :: rest =>
          if isHexDigit c then
            flags.hexDigits count (flags.skip rest) >>= fun read => .ok (c :: read.1, read.2)
          else .error .badCodePoint := by
      funext text
      cases text <;> rfl
    rw [shape]
    refine .of_cons fun c => ?_
    split
    · exact (steady_skip ih flags).bind fun digits => .of_ok (c :: digits)
    · exact .of_error .badCodePoint

theorem braced_succ (fuel : Nat) (text : List Char) :
    flags.braced (fuel + 1) text =
      match flags.skip text with
      | [] => .error .endInEscape
      | c :: rest =>
        if c = '}' then .ok ([], rest)
        else flags.braced fuel rest >>= fun read => .ok (c :: read.1, read.2) := by
  rw [braced]
  cases flags.skip text with
  | nil => rfl
  | cons c rest =>
    by_cases same : c = '}'
    · subst same
      rfl
    · simp only [if_neg same]

theorem braced_broken (fuel : Nat) {rest : List Char} (broken : Broken rest) :
    ∃ fault, flags.braced fuel rest = .error fault := by
  have nothing : ∀ fuel, ∃ fault, flags.braced fuel [] = .error fault := by
    intro fuel
    cases fuel with
    | zero => exact ⟨_, rfl⟩
    | succ fuel => exact ⟨.endInEscape, by rw [braced_succ, skip_nil]⟩
  rcases broken with rfl | rfl
  · cases fuel with
    | zero => exact ⟨_, rfl⟩
    | succ fuel =>
      obtain ⟨fault, failed⟩ := nothing fuel
      refine ⟨fault, ?_⟩
      rw [braced_succ, flags.skip_broken (.inl rfl)]
      simp [failed, bind, Except.bind]
  · exact nothing fuel

theorem agrees_braced {fuel own : Nat} {text : List Char} (enough : text.length < own) :
    Agrees text (flags.braced fuel (text ++ closing)) (flags.braced own text) := by
  induction fuel generalizing own text with
  | zero => exact .of_error .endInEscape text
  | succ fuel ih =>
    obtain ⟨own, rfl⟩ := Nat.exists_eq_add_one.mpr (Nat.zero_lt_of_lt enough)
    have short := flags.length_skip_le text
    rw [braced_succ, braced_succ]
    rcases flags.skip_append text with same | ⟨_, nothing⟩
    · rw [same]
      cases left : flags.skip text with
      | nil =>
        obtain ⟨fault, failed⟩ := flags.braced_broken fuel (.inl rfl : Broken ['$'])
        simp [closing, failed, bind, Except.bind]
        exact .of_error fault text
      | cons c rest =>
        rw [left, List.length_cons] at short
        dsimp only [List.cons_append]
        split
        · exact (Agrees.of_ok [] rest).mono (by omega)
        · refine ((ih (by omega)).bind (fun inner left _ => .of_ok (c :: inner) left) ?_).mono ?_
          · intro inner rest broken result last success
            cases success
            exact broken
          · omega
    · rw [nothing]
      exact .of_error .endInEscape text

theorem steady_name : Steady fun text => flags.braced (text.length + 1) text where
  agrees := fun _ => flags.agrees_braced (Nat.lt_succ_self _)
  broken := by
    intro rest broken value last success
    obtain ⟨fault, failed⟩ := flags.braced_broken (rest.length + 1) broken
    rw [failed] at success
    cases success

/-- The character that digits number. -/
def numeral (width : Nat) (digits rest : List Char) : Except PatternFault (Escaped × List Char) :=
  if digits.isEmpty ∨ !digits.all isHexDigit then .error .badCodePoint
  else
    (codePoint? digits).elim (.error .badCodePoint) fun c =>
      .ok (.letter c (width = 2 && c.toNat < 256), rest)

theorem steady_numeral (width : Nat) (digits : List Char) : Steady (numeral width digits) := by
  unfold numeral
  split
  · exact .of_error .badCodePoint
  · cases codePoint? digits with
    | none => exact .of_error .badCodePoint
    | some c => exact .of_ok _

theorem numbered_eq (width : Nat) (text : List Char) :
    flags.numbered (width + 1) text =
      (match flags.skip text with
        | [] => .error .endInEscape
        | c :: rest =>
          if c = '{' then flags.braced (rest.length + 1) rest
          else if isHexDigit c then
            flags.hexDigits width (flags.skip rest) >>= fun read => .ok (c :: read.1, read.2)
          else .error .badCodePoint) >>= fun read => numeral (width + 1) read.1 read.2 := by
  unfold numbered
  cases flags.skip text with
  | nil => rfl
  | cons c rest =>
    by_cases opening : c = '{'
    · subst opening
      refine bind_congr fun read => ?_
      dsimp only [numeral]
      split
      · rfl
      · cases codePoint? read.1 <;> rfl
    · simp only [if_neg opening]
      split
      · contradiction
      · next here => exact absurd (List.cons.inj here).1 opening
      · refine bind_congr fun read => ?_
        dsimp only [numeral]
        split
        · rfl
        · cases codePoint? read.1 <;> rfl

theorem steady_numbered (width : Nat) : Steady (flags.numbered (width + 1)) := by
  have digits : Steady fun text =>
      match text with
      | [] => .error .endInEscape
      | c :: rest =>
        if c = '{' then flags.braced (rest.length + 1) rest
        else if isHexDigit c then
          flags.hexDigits width (flags.skip rest) >>= fun read => .ok (c :: read.1, read.2)
        else .error .badCodePoint := by
    refine .of_cons fun c => ?_
    split
    · exact flags.steady_name
    · split
      · exact (steady_skip (flags.steady_hexDigits width) flags).bind fun more => .of_ok (c :: more)
      · exact .of_error .badCodePoint
  have shape : flags.numbered (width + 1) = _ := funext (flags.numbered_eq width)
  rw [shape]
  exact (steady_skip digits flags).bind fun found => steady_numeral (width + 1) found

theorem steady_named (negated : Bool) : Steady (flags.named negated) := by
  have name : Steady fun text =>
      match text with
      | [] => .error .endInEscape
      | c :: rest =>
        if c = '{' then flags.braced (rest.length + 1) rest
        else if c = '\\' then .error (.unknownProperty "\\")
        else .ok ([c], flags.skip rest) := by
    refine .of_cons fun c => ?_
    split
    · exact flags.steady_name
    · split
      · exact .of_error _
      · exact steady_skip (.of_ok [c]) flags
  have shape : flags.named negated = fun text =>
      (match flags.skip text with
        | [] => .error .endInEscape
        | c :: rest =>
          if c = '{' then flags.braced (rest.length + 1) rest
          else if c = '\\' then .error (.unknownProperty "\\")
          else .ok ([c], flags.skip rest)) >>= fun read =>
        if !flags.unicode then .error .splitsCharacters
        else flags.property read.1 >>= fun known =>
          .ok (.set (CharSet.negateIf (negated != known.2) (flags.fold known.1)), read.2) := by
    funext text
    unfold named
    cases flags.skip text with
    | nil => rfl
    | cons c rest =>
      by_cases opening : c = '{'
      · subst opening
        rfl
      · by_cases back : c = '\\'
        · subst back
          rfl
        · simp only [if_neg opening, if_neg back]
  rw [shape]
  refine (steady_skip name flags).bind fun found => ?_
  dsimp only
  split
  · exact .of_error .splitsCharacters
  · cases flags.property found with
    | error fault => exact .of_error fault
    | ok known => exact .of_ok _

theorem borderName_succ (fuel : Nat) (text : List Char) :
    flags.borderName (fuel + 1) text =
      match flags.skip text with
      | [] => .error .unknownWordBorder
      | c :: rest =>
        if c = '}' then .ok ([], rest)
        else if isBorderChar c then
          flags.borderName fuel rest >>= fun read => .ok (c :: read.1, read.2)
        else .error .unknownWordBorder := by
  rw [borderName]
  cases flags.skip text with
  | nil => rfl
  | cons c rest =>
    by_cases same : c = '}'
    · subst same
      rfl
    · simp only [if_neg same]

theorem agrees_borderName {fuel own : Nat} {text : List Char} (enough : text.length < own) :
    Agrees text (flags.borderName fuel (text ++ closing)) (flags.borderName own text) := by
  induction fuel generalizing own text with
  | zero => exact .of_error .unknownWordBorder text
  | succ fuel ih =>
    obtain ⟨own, rfl⟩ := Nat.exists_eq_add_one.mpr (Nat.zero_lt_of_lt enough)
    have short := flags.length_skip_le text
    rw [borderName_succ, borderName_succ]
    rcases flags.skip_append text with same | ⟨_, nothing⟩
    · rw [same]
      cases left : flags.skip text with
      | nil => exact .of_error .unknownWordBorder text
      | cons c rest =>
        rw [left, List.length_cons] at short
        dsimp only [List.cons_append]
        split
        · exact (Agrees.of_ok [] rest).mono (by omega)
        · split
          · refine ((ih (by omega)).bind (fun name left _ => .of_ok (c :: name) left) ?_).mono ?_
            · intro name rest broken result last success
              cases success
              exact broken
            · omega
          · exact .of_error .unknownWordBorder text
    · rw [nothing]
      exact .of_error .unknownWordBorder text

/-- A brace behind a word border that no number and no name can follow but the closing. -/
def Stuck (rest : List Char) : Prop :=
  ∃ behind, rest = '{' :: behind ∧ flags.skip behind = closing

/-- Behind the closing's text an escape is read as without it, unless it is a word border with a brace
behind it that nothing but the closing follows: alone, such a brace begins the name of a border. -/
def AgreesOrSticks (text : List Char) (whole alone : Except PatternFault (Escaped × List Char)) :
    Prop :=
  Agrees text whole alone ∨ ∃ look rest, whole = .ok (.look look, rest) ∧ flags.Stuck rest

theorem wordBorder_brace (rest : List Char) :
    flags.wordBorder ('{' :: rest) =
      match flags.skip rest with
      | [] => .error .unknownWordBorder
      | c :: _ =>
        if isBorderChar c then
          flags.borderName (rest.length + 1) rest >>= fun read =>
            match String.ofList read.1 with
            | "start" => .ok (.look (.wordStart flags.wordRule), read.2)
            | "end" => .ok (.look (.wordEnd flags.wordRule), read.2)
            | "start-half" => .ok (.look (.wordStartHalf flags.wordRule), read.2)
            | "end-half" => .ok (.look (.wordEndHalf flags.wordRule), read.2)
            | _ => .error .unknownWordBorder
        else .ok (.look (.wordBorder flags.wordRule), '{' :: rest) :=
  rfl

theorem wordBorder_plain {text : List Char} (plain : text.head? ≠ some '{') :
    flags.wordBorder text = .ok (.look (.wordBorder flags.wordRule), text) := by
  unfold wordBorder
  split
  · exact absurd rfl plain
  · rfl

theorem wordBorder_closing (text : List Char) :
    flags.AgreesOrSticks text (flags.wordBorder (text ++ closing)) (flags.wordBorder text) := by
  by_cases opening : text.head? = some '{'
  · obtain ⟨rest, rfl⟩ := exists_of_head opening
    rw [List.cons_append, wordBorder_brace, wordBorder_brace]
    rcases flags.skip_append rest with same | ⟨_, nothing⟩
    · cases left : flags.skip rest with
      | nil =>
        rw [left] at same
        rw [same]
        exact .inr ⟨_, _, rfl, rest ++ closing, rfl, same⟩
      | cons c behind =>
        rw [same, left]
        dsimp only [List.cons_append]
        split
        · refine .inl (((flags.agrees_borderName (Nat.lt_succ_self _)).bind ?_ ?_).mono
            (Nat.le_succ _))
          · intro name left _
            dsimp only
            split
            case h_5 => exact .of_error .unknownWordBorder left
            all_goals exact .of_ok _ left
          · intro name rest broken result last success
            dsimp only at success
            split at success <;> cases success <;> exact broken
        · exact .inl (.of_ok _ ('{' :: rest))
    · rw [nothing]
      exact .inl (.of_error .unknownWordBorder _)
  · rw [flags.wordBorder_plain opening,
      flags.wordBorder_plain (head_append_ne (by decide) opening)]
    exact .inl (.of_ok _ text)

/-- A letter that is an escape by itself stands for the same whatever follows. -/
theorem escape_plain {c : Char} (rest : List Char) (plain : c ∉ ['x', 'u', 'U', 'p', 'P', 'b']) :
    flags.escape (c :: rest) = flags.escape [c] >>= fun read => .ok (read.1, rest) := by
  have lettered (negated : Bool) (members : CharSet) :
      (flags.lettered negated members >>= fun set => .ok (set, rest)) =
        ((flags.lettered negated members >>= fun set => .ok (set, ([] : List Char))) >>=
          fun read => .ok (read.1, rest)) := by
    cases flags.lettered negated members <;> rfl
  unfold escape
  dsimp only
  split
  -- The complements of sets may fail; every other letter decides by itself.
  case h_7 | h_9 | h_11 => exact lettered true _
  case h_24 => repeat (first | rfl | split)
  all_goals first
    | rfl
    | exact absurd (by decide) plain

theorem escape_closing (text : List Char) :
    flags.AgreesOrSticks text (flags.escape (text ++ closing)) (flags.escape text) := by
  cases text with
  | nil => exact .inl (.of_broken fun value rest success => by cases success; exact .inl rfl)
  | cons c rest =>
    rw [List.cons_append]
    by_cases special : c ∈ ['x', 'u', 'U', 'p', 'P', 'b']
    · simp only [List.mem_cons, List.not_mem_nil, or_false] at special
      rcases special with rfl | rfl | rfl | rfl | rfl | rfl
      · exact .inl (((flags.steady_numbered 1).agrees rest).mono (Nat.le_succ _))
      · exact .inl (((flags.steady_numbered 3).agrees rest).mono (Nat.le_succ _))
      · exact .inl (((flags.steady_numbered 7).agrees rest).mono (Nat.le_succ _))
      · exact .inl (((flags.steady_named false).agrees rest).mono (Nat.le_succ _))
      · exact .inl (((flags.steady_named true).agrees rest).mono (Nat.le_succ _))
      · rcases flags.wordBorder_closing rest with agrees | sticks
        · exact .inl (agrees.mono (Nat.le_succ _))
        · exact .inr sticks
    · rw [flags.escape_plain (rest ++ closing) special, flags.escape_plain rest special]
      cases flags.escape [c] with
      | error fault => exact .inl (.of_error fault _)
      | ok read => exact .inl ((Agrees.of_ok read.1 rest).mono (Nat.le_succ _))

end PatternFlags

end LayerAtlas
