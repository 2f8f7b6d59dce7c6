import LayerAtlas.Proofs.Pattern.ClosedSet

/-!
# Groups and repetitions in front of the closing

What begins a group and what repeats a part of a pattern are read alike with the closing behind them.
Flags may end at the parenthesis of the closing, which breaks it; a name of a group and a count need
characters that the closing does not have.
-/
namespace LayerAtlas

namespace PatternFlags

variable (flags : PatternFlags)

/-! The heads of groups. -/

/-- The flags at the front of a group, apart from the text behind them. -/
def flagsRead (result : PatternFlags) (seen text : List Char) :
    Except PatternFault ((PatternFlags × List Char × Char) × List Char) :=
  result.readFlags seen text >>= fun read => .ok ((read.1, read.2.1, read.2.2.1), read.2.2.2)

theorem flagsRead_cons (result : PatternFlags) (seen : List Char) (c : Char) (rest : List Char) :
    flagsRead result seen (c :: rest) =
      if c = ':' ∨ c = ')' then
        if seen.head? = some '-' then .error .danglingNegation else .ok ((result, seen, c), rest)
      else if seen.contains c then .error .repeatedFlag
      else if c = '-' then flagsRead result (c :: seen) rest
      else
        match result.set? c (!seen.contains '-') with
        | some result => flagsRead result (c :: seen) rest
        | none => .error (.unknownFlag c) := by
  unfold flagsRead
  rw [readFlags]
  split
  · split <;> rfl
  · split
    · rfl
    · split
      · rfl
      · cases result.set? c (!seen.contains '-') <;> rfl

theorem steady_flagsRead (result : PatternFlags) (seen : List Char) :
    Steady (flagsRead result seen) := by
  constructor
  · intro text
    induction text generalizing result seen with
    | nil =>
      refine .of_broken fun value rest success => ?_
      rw [List.nil_append, closing, flagsRead_cons, if_pos (.inr rfl)] at success
      split at success <;> cases success
      exact .inl rfl
    | cons c rest ih =>
      refine Agrees.mono ?_ (Nat.le_succ _)
      rw [List.cons_append, flagsRead_cons, flagsRead_cons]
      split
      · split
        · exact .of_error .danglingNegation rest
        · exact .of_ok _ rest
      · split
        · exact .of_error .repeatedFlag rest
        · split
          · exact ih result (c :: seen)
          · cases result.set? c (!seen.contains '-') with
            | some result => exact ih result (c :: seen)
            | none => exact .of_error (.unknownFlag c) rest
  · rintro rest (rfl | rfl) value last success
    · rw [flagsRead_cons, if_neg (by decide)] at success
      split at success
      · cases success
      · cases success
    · cases success

/-- Flags are read alike from a character on that begins them. -/
theorem steady_flagsRead_cons (c : Char) : Steady fun rest => flagsRead flags [] (c :: rest) := by
  simp only [flagsRead_cons]
  split
  · exact .of_ok _
  · split
    · exact .of_error .repeatedFlag
    · split
      · exact steady_flagsRead flags [c]
      · cases flags.set? c (!([] : List Char).contains '-') with
        | some result => exact steady_flagsRead result [c]
        | none => exact .of_error (.unknownFlag c)

/-- The name of a group that has been cut off. -/
def checkedName (name : List Char) : Except PatternFault String :=
  match name with
  | first :: more =>
    if isNameStart first && more.all isNameChar then .ok (String.ofList name)
    else .error .badGroupName
  | [] => .error .badGroupName

theorem groupName_eq (text : List Char) :
    groupName text =
      match text.dropWhile (· ≠ '>') with
      | [] => .error .badGroupName
      | _ :: rest => checkedName (text.takeWhile (· ≠ '>')) >>= fun name => .ok (name, rest) := by
  unfold groupName
  dsimp only
  cases behind : text.dropWhile (· ≠ '>') with
  | nil => rfl
  | cons c rest =>
    have angle : c = '>' := by
      have stops := List.head?_dropWhile_not (· ≠ '>') text
      rw [behind] at stops
      simpa using stops
    subst angle
    dsimp only
    cases text.takeWhile (· ≠ '>') with
    | nil => rfl
    | cons first more =>
      change (if isNameStart first && more.all isNameChar then
        Except.ok (String.ofList (first :: more), rest) else .error PatternFault.badGroupName) = _
      unfold checkedName
      dsimp only
      split <;> rfl

theorem steady_groupName : Steady groupName := by
  constructor
  · intro text
    have whole := congrArg List.length (List.takeWhile_append_dropWhile (p := (· ≠ '>')) (l := text))
    rw [List.length_append] at whole
    rw [groupName_eq, groupName_eq, List.dropWhile_append, List.takeWhile_append]
    cases behind : text.dropWhile (· ≠ '>') with
    | nil => exact .of_error .badGroupName text
    | cons c rest =>
      rw [behind, List.length_cons] at whole
      rw [if_neg (by simp), if_neg (by omega), List.cons_append]
      dsimp only
      cases checkedName (text.takeWhile (· ≠ '>')) with
      | error fault => exact .of_error fault text
      | ok name => exact (Agrees.of_ok name rest).mono (by omega)
  · rintro rest (rfl | rfl) value last success
    · cases success
    · cases success

/-- A group with a name, from behind the angle that opens the name. -/
def namedGroup (text : List Char) : Except PatternFault (GroupHead × List Char) :=
  groupName text >>= fun read => .ok (.opened flags (some read.1), read.2)

/-- A group with flags of its own, or flags alone. -/
def flaggedGroup (text : List Char) : Except PatternFault (GroupHead × List Char) :=
  flagsRead flags [] text >>= fun read =>
  if read.1.2.2 = ':' then .ok (.opened read.1.1 none, read.2)
  else if read.1.2.1.isEmpty then .error .nothingToRepeat
  else .ok (.flagsOnly read.1.1, read.2)

/-- What stands behind the question mark of a group. -/
def groupKind (text : List Char) : Except PatternFault (GroupHead × List Char) :=
  match text with
  | [] => .error .unclosedGroup
  | c :: rest =>
    if c = '=' ∨ c = '!' then .error .lookAround
    else if c = '<' then
      if rest.head? = some '=' then .error .lookAround
      else if rest.head? = some '!' then .error .lookAround
      else flags.namedGroup rest
    else if c = 'P' then
      if rest.head? = some '<' then flags.namedGroup rest.tail else flags.flaggedGroup (c :: rest)
    else flags.flaggedGroup (c :: rest)

theorem groupHead_eq (text : List Char) :
    flags.groupHead text =
      if (flags.skip text).head? = some '?' then flags.groupKind (flags.skip text).tail
      else .ok (.opened flags none, flags.skip text) := by
  refine match_head flags.groupKind ?_ fun plain => ?_
  · intro rest here
    unfold groupHead
    rw [here]
    dsimp only
    split
    case h_6 behind equal bang same =>
      cases same
      change flags.namedGroup behind = if behind.head? = some '=' then .error .lookAround
        else if behind.head? = some '!' then .error .lookAround else flags.namedGroup behind
      have notEqual : behind.head? ≠ some '=' := by
        intro same
        obtain ⟨tail, rfl⟩ := exists_of_head same
        exact equal tail rfl
      have notBang : behind.head? ≠ some '!' := by
        intro same
        obtain ⟨tail, rfl⟩ := exists_of_head same
        exact bang tail rfl
      rw [if_neg notEqual, if_neg notBang]
    case h_8 behind equal bang _ _ longNamed named nothing same =>
      cases same
      have flagged : flags.groupKind rest = flags.flaggedGroup rest := by
        cases rest with
        | nil => exact (nothing rfl).elim
        | cons c more =>
          have ahead : ¬(c = '=' ∨ c = '!') := by
            rintro (rfl | rfl)
            · exact equal more rfl
            · exact bang more rfl
          have angle : c ≠ '<' := fun same => named more (same ▸ rfl)
          unfold groupKind
          dsimp only
          rw [if_neg ahead, if_neg angle]
          split
          · next same =>
            rw [if_neg]
            intro here
            obtain ⟨tail, rfl⟩ := exists_of_head here
            exact longNamed tail (same ▸ rfl)
          · rfl
      rw [flagged]
      unfold flaggedGroup flagsRead
      cases flags.readFlags [] rest <;> rfl
    case h_9 other => exact (other rest rfl).elim
    all_goals next same =>
      cases same
      rfl
  · unfold groupHead
    dsimp only
    split
    all_goals first
      | rfl
      | next here =>
        rw [here] at plain
        exact absurd rfl plain

theorem steady_namedGroup : Steady flags.namedGroup :=
  steady_groupName.bind fun name => .of_ok (GroupHead.opened flags (some name))

theorem steady_flaggedGroup (c : Char) : Steady fun rest => flags.flaggedGroup (c :: rest) := by
  have behind (read : PatternFlags × List Char × Char) : Steady fun text =>
      if read.2.2 = ':' then .ok (GroupHead.opened read.1 none, text)
      else if read.2.1.isEmpty then .error .nothingToRepeat
      else .ok (.flagsOnly read.1, text) := by
    split
    · exact .of_ok _
    · split
      · exact .of_error .nothingToRepeat
      · exact .of_ok _
  exact (flags.steady_flagsRead_cons c).bind behind

theorem steady_groupKind : Steady flags.groupKind := by
  refine .of_cons fun c => ?_
  split
  · exact .of_error .lookAround
  · split
    · exact .of_head (by decide) (.of_error .lookAround)
        (.of_head (by decide) (.of_error .lookAround) flags.steady_namedGroup)
    · split
      · exact .of_head (by decide) flags.steady_namedGroup (flags.steady_flaggedGroup c)
      · exact flags.steady_flaggedGroup c

theorem steady_groupHead : Steady flags.groupHead := by
  have shape : flags.groupHead = fun text =>
      (fun text => if text.head? = some '?' then flags.groupKind text.tail
        else .ok (.opened flags none, text)) (flags.skip text) :=
    funext flags.groupHead_eq
  rw [shape]
  exact steady_skip (.of_head (by decide) flags.steady_groupKind (.of_ok _)) flags

/-! Numbers and counts. -/

theorem dropBlank_append (text : List Char) :
    (text ++ closing).dropWhile isBlank = text.dropWhile isBlank ++ closing := by
  rw [List.dropWhile_append]
  split
  · next nothing =>
    rw [List.isEmpty_iff.mp nothing]
    decide
  · rfl

theorem dropBlank_broken {rest : List Char} (broken : Broken rest) :
    rest.dropWhile isBlank = rest := by
  rcases broken with rfl | rfl <;> decide

theorem steady_dropBlank {α : Type} {reader : List Char → Except PatternFault (α × List Char)}
    (steady : Steady reader) : Steady fun text => reader (text.dropWhile isBlank) where
  agrees := by
    intro text
    rw [dropBlank_append]
    exact (steady.agrees _).mono (List.dropWhile_sublist isBlank).length_le
  broken := by
    intro rest broken
    rw [dropBlank_broken broken]
    exact steady.broken rest broken

theorem digits_plain (fuel : Nat) {text : List Char}
    (plain : ∀ c rest, text = c :: rest → c.isDigit = false) :
    decimal.digits flags fuel text = ([], text) := by
  cases fuel with
  | zero => rfl
  | succ fuel =>
    cases text with
    | nil => rfl
    | cons c rest =>
      unfold decimal.digits
      dsimp only
      rw [plain c rest rfl]
      rfl

theorem digits_broken (fuel : Nat) {rest : List Char} (broken : Broken rest) :
    decimal.digits flags fuel rest = ([], rest) := by
  refine flags.digits_plain fuel ?_
  rcases broken with rfl | rfl
  · rintro c rest same
    cases same
    decide
  · exact nofun

theorem digits_cons (fuel : Nat) (c : Char) (rest : List Char) :
    decimal.digits flags (fuel + 1) (c :: rest) =
      if c.isDigit then
        (c :: (decimal.digits flags fuel (flags.skip rest)).1,
          (decimal.digits flags fuel (flags.skip rest)).2)
      else ([], c :: rest) :=
  rfl

theorem agrees_digits {fuel own : Nat} {text : List Char} (enough : (text ++ closing).length ≤ fuel)
    (ownEnough : text.length ≤ own) :
    Agrees text (.ok (decimal.digits flags fuel (text ++ closing)))
      (.ok (decimal.digits flags own text)) := by
  induction fuel generalizing own text with
  | zero => simp [closing] at enough
  | succ fuel ih =>
    cases text with
    | nil =>
      have nothing : decimal.digits flags own [] = ([], []) := flags.digits_broken own (.inr rfl)
      rw [nothing]
      exact .of_ok [] []
    | cons c rest =>
      obtain ⟨own, rfl⟩ := Nat.exists_eq_add_one.mpr
          (Nat.lt_of_lt_of_le (Nat.succ_pos _) ownEnough)
      rw [List.length_cons] at ownEnough
      rw [List.cons_append] at enough ⊢
      rw [List.length_cons, List.length_append] at enough
      rw [digits_cons, digits_cons]
      have short := flags.length_skip_le rest
      split
      · let more (found : List Char × List Char) : Except PatternFault (List Char × List Char) :=
          .ok (c :: found.1, found.2)
        rcases flags.skip_append rest with same | ⟨_, nothing⟩
        · rw [same]
          refine (Agrees.step more more (ih ?_ ?_) (fun found left _ => .of_ok _ left)
            fun found => (Steady.of_ok (c :: found)).broken).mono ?_
          · rw [List.length_append]
            omega
          · omega
          · rw [List.length_cons]
            omega
        · rw [nothing, flags.digits_broken fuel (.inr rfl)]
          exact .of_broken fun found last same => by cases same; exact .inr rfl
      · exact .of_ok [] (c :: rest)

/-- What a number is, by its digits and the text behind them. -/
def numberOf (digits : List Char × List Char) : Option Nat × List Char :=
  let behind := flags.skip (digits.2.dropWhile isBlank)
  if digits.1.isEmpty then (none, behind)
  else (some (digits.1.foldl (fun value c => value * 10 + (c.toNat - '0'.toNat)) 0), behind)

theorem decimal_eq (text : List Char) :
    flags.decimal text =
      flags.numberOf (decimal.digits flags text.length (text.dropWhile isBlank)) :=
  rfl

theorem steady_numberOf (digits : List Char) :
    Steady fun text => .ok (flags.numberOf (digits, text)) := by
  unfold numberOf
  dsimp only
  split
  · exact steady_dropBlank (steady_skip (.of_ok none) flags)
  · exact steady_dropBlank (steady_skip (.of_ok _) flags)

theorem steady_decimal : Steady fun text => .ok (flags.decimal text) := by
  simp only [decimal_eq]
  constructor
  · intro text
    have short := (List.dropWhile_sublist (l := text) isBlank).length_le
    rw [dropBlank_append]
    refine (Agrees.step (fun digits => .ok (flags.numberOf digits))
      (fun digits => .ok (flags.numberOf digits)) (flags.agrees_digits ?_ short)
      (fun digits left _ => (flags.steady_numberOf digits).agrees left)
      fun digits => (flags.steady_numberOf digits).broken).mono short
    rw [List.length_append, List.length_append]
    omega
  · intro rest broken
    rw [dropBlank_broken broken, flags.digits_broken _ broken]
    exact (flags.steady_numberOf []).broken rest broken

end PatternFlags

namespace PatternContext

variable (context : PatternContext)

/-- The end of a count, from behind its closing brace. -/
def countBounds (least : Nat) (most : Option Nat) (rest : List Char) :
    Except PatternFault ((Nat × Option Nat) × List Char) :=
  if maxCount < least ∨ most.any (fun bound => maxCount < bound || bound < least) then
    .error .badCount
  else .ok ((least, most), context.flags.skip rest)

/-- The end of a count. -/
def countEnd (least : Nat) (most : Option Nat) (text : List Char) :
    Except PatternFault ((Nat × Option Nat) × List Char) :=
  if text.head? = some '}' then context.countBounds least most text.tail else .error .unclosedCount

/-- What stands behind the comma of a count. -/
def countBehindComma (least : Nat) (text : List Char) :
    Except PatternFault ((Nat × Option Nat) × List Char) :=
  if text.head? = some '}' then context.countBounds least none text.tail
  else
    .ok (context.flags.decimal text) >>= fun second =>
    second.1.elim (.error .badCount) fun most => context.countEnd least (some most) second.2

theorem counts_eq (text : List Char) :
    context.counts text =
      .ok (context.flags.decimal (context.flags.skip text)) >>= fun first =>
      first.1.elim (.error .badCount) fun least =>
        if first.2.head? = some ',' then
          context.countBehindComma least (context.flags.skip first.2.tail)
        else context.countEnd least (some least) first.2 := by
  have ends {least : Nat} {most : Option Nat} {text : List Char}
      {whole : Except PatternFault ((Nat × Option Nat) × List Char)}
      (onBrace : ∀ rest, text = '}' :: rest → whole = context.countBounds least most rest)
      (onOther : text.head? ≠ some '}' → whole = .error .unclosedCount) :
      whole = context.countEnd least most text :=
    match_head (context.countBounds least most) onBrace onOther
  unfold counts
  dsimp only
  generalize context.flags.decimal (context.flags.skip text) = first
  split
  · rfl
  · next least rest =>
    change _ = context.countBehindComma least (context.flags.skip rest)
    generalize context.flags.skip rest = behind
    refine match_head (context.countBounds least none) ?_ fun plain => ?_
    · rintro rest rfl
      rfl
    · split
      · exact absurd rfl plain
      · generalize context.flags.decimal behind = second
        split
        · next most rest =>
          refine ends ?_ fun plain => ?_
          · rintro rest rfl
            rfl
          · split
            · exact absurd rfl plain
            · rfl
        · rfl
  · next least rest noComma =>
    have plain : rest.head? ≠ some ',' := by
      intro here
      obtain ⟨behind, rfl⟩ := exists_of_head here
      exact noComma behind rfl
    change _ = if rest.head? = some ',' then _ else context.countEnd least (some least) rest
    rw [if_neg plain]
    refine ends ?_ fun plain => ?_
    · rintro rest rfl
      rfl
    · split
      · exact absurd rfl plain
      · rfl

theorem steady_countBounds (least : Nat) (most : Option Nat) :
    Steady (context.countBounds least most) := by
  unfold countBounds
  split
  · exact .of_error .badCount
  · exact PatternFlags.steady_skip (.of_ok (least, most)) context.flags

theorem steady_countEnd (least : Nat) (most : Option Nat) : Steady (context.countEnd least most) :=
  .of_head (by decide) (context.steady_countBounds least most) (.of_error .unclosedCount)

theorem steady_countBehindComma (least : Nat) : Steady (context.countBehindComma least) := by
  refine .of_head (by decide) (context.steady_countBounds least none)
    (context.flags.steady_decimal.bind fun most => ?_)
  cases most with
  | none => exact .of_error .badCount
  | some most => exact context.steady_countEnd least (some most)

theorem steady_counts : Steady context.counts := by
  have shape : context.counts = _ := funext context.counts_eq
  rw [shape]
  refine PatternFlags.steady_skip (context.flags.steady_decimal.bind fun least => ?_) context.flags
  cases least with
  | none => exact .of_error .badCount
  | some least =>
    exact .of_head (by decide)
      (PatternFlags.steady_skip (context.steady_countBehindComma least) context.flags)
      (context.steady_countEnd least (some least))

theorem steady_repeatLast (parts : List PatternPart) (least : Nat) (most : Option Nat) :
    Steady (repeatLast parts least most) := by
  cases parts with
  | nil => exact .of_error .nothingToRepeat
  | cons part before =>
    let again : List PatternPart := ⟨.repeated part.regex least most, part.height + 1, false⟩ :: before
    have shape : repeatLast (part :: before) least most = fun text =>
        if part.isFlags then .error .nothingToRepeat
        else if text.head? = some '?' then .ok (again, text.tail) else .ok (again, text) := by
      funext text
      unfold repeatLast
      dsimp only
      split
      · rfl
      · refine match_head (fun rest => Except.ok (again, rest)) ?_ fun plain => ?_
        · rintro rest rfl
          rfl
        · split
          · exact absurd rfl plain
          · rfl
    rw [shape]
    split
    · exact .of_error .nothingToRepeat
    · exact .of_head (by decide) (.of_ok again) (.of_ok again)

end PatternContext

end LayerAtlas
