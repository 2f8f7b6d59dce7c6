import LayerAtlas.Proofs.Pattern.Closing

/-!
# Bracketed sets in front of the closing

A set that is complete without the closing is read alike with it. A set that needs more text takes the
parenthesis of the closing for a member, and finds no bracket behind it that would end the set.
-/
namespace LayerAtlas.PatternFlags

variable (flags : PatternFlags)

/-! The head of a set. -/

theorem leadingDashes_broken (fuel : Nat) (members : List BracketPart) {rest : List Char}
    (broken : Broken rest) : flags.leadingDashes fuel members rest = (members, rest) := by
  cases fuel with
  | zero => rfl
  | succ fuel => rcases broken with rfl | rfl <;> rfl

theorem leadingDashes_plain (fuel : Nat) (members : List BracketPart) {text : List Char}
    (plain : text.head? ≠ some '-') : flags.leadingDashes fuel members text = (members, text) := by
  cases fuel with
  | zero => rfl
  | succ fuel =>
    unfold leadingDashes
    split
    · exact absurd rfl plain
    · rfl

theorem leadingDashes_dash (fuel : Nat) (members : List BracketPart) (rest : List Char) :
    flags.leadingDashes (fuel + 1) members ('-' :: rest) =
      flags.leadingDashes fuel (⟨.oneOf ['-'], 0⟩ :: members) (flags.skip rest) :=
  rfl

theorem agrees_leadingDashes {fuel own : Nat} {text : List Char} (members : List BracketPart)
    (enough : (text ++ closing).length ≤ fuel) (ownEnough : text.length ≤ own) :
    Agrees text (.ok (flags.leadingDashes fuel members (text ++ closing)))
      (.ok (flags.leadingDashes own members text)) := by
  induction fuel generalizing own text members with
  | zero => simp [closing] at enough
  | succ fuel ih =>
    cases text with
    | nil =>
      rw [flags.leadingDashes_plain own members (by decide),
        flags.leadingDashes_plain (fuel + 1) members (by decide)]
      exact .of_ok members []
    | cons c rest =>
      by_cases dash : c = '-'
      · subst dash
        obtain ⟨own, rfl⟩ := Nat.exists_eq_add_one.mpr
          (Nat.lt_of_lt_of_le (Nat.succ_pos _) ownEnough)
        rw [List.length_cons] at ownEnough
        rw [List.cons_append] at enough ⊢
        rw [List.length_cons] at enough
        rw [leadingDashes_dash, leadingDashes_dash]
        have short := flags.length_skip_le rest
        rcases flags.skip_append rest with same | ⟨_, nothing⟩
        · rw [same]
          refine (ih _ ?_ ?_).mono (by rw [List.length_cons]; omega)
          · rw [List.length_append] at enough ⊢
            omega
          · omega
        · rw [nothing, flags.leadingDashes_broken fuel _ (.inr rfl)]
          exact .of_broken fun value last same => by cases same; exact .inr rfl
      · have plain : (c :: rest).head? ≠ some '-' := fun same => dash (Option.some.inj same)
        have wholePlain : (c :: rest ++ closing).head? ≠ some '-' := plain
        rw [flags.leadingDashes_plain own members plain,
          flags.leadingDashes_plain (fuel + 1) members wholePlain]
        exact .of_ok members (c :: rest)

theorem steady_leadingDashes :
    Steady fun text => .ok (flags.leadingDashes text.length [] text) where
  agrees := fun _ => flags.agrees_leadingDashes [] (Nat.le_refl _) (Nat.le_refl _)
  broken := by
    intro rest broken members last same
    rw [flags.leadingDashes_broken _ _ broken] at same
    cases same
    exact broken

/-- A caret at the front of a text. -/
def caret (text : List Char) : Bool × List Char :=
  match text with
  | '^' :: rest => (true, flags.skip rest)
  | text => (false, text)

/-- A closing bracket is a member when nothing stands before it. -/
def leadingBracket (members : List BracketPart) (text : List Char) : List BracketPart × List Char :=
  match members, text with
  | [], ']' :: rest => ([⟨flags.fold (.oneOf [']']), 0⟩], flags.skip rest)
  | members, text => (members, text)

theorem steady_caret : Steady fun text => .ok (flags.caret text) := by
  have shape (text : List Char) : (.ok (flags.caret text) : Except PatternFault _) =
      if text.head? = some '^' then .ok (true, flags.skip text.tail) else .ok (false, text) := by
    refine match_head (fun rest => Except.ok (true, flags.skip rest)) ?_ fun plain => ?_
    · rintro rest rfl
      rfl
    · unfold caret
      split
      · exact absurd rfl plain
      · rfl
  simp only [shape]
  exact .of_head (by decide : '^' ∉ closing) (steady_skip (.of_ok true) flags) (.of_ok false)

theorem steady_leadingBracket (members : List BracketPart) :
    Steady fun text => .ok (flags.leadingBracket members text) := by
  cases members with
  | cons member members => exact .of_ok (member :: members)
  | nil =>
    have shape (text : List Char) : (.ok (flags.leadingBracket [] text) : Except PatternFault _) =
        if text.head? = some ']' then
          .ok ([⟨flags.fold (.oneOf [']']), 0⟩], flags.skip text.tail)
        else .ok ([], text) := by
      refine match_head
        (fun rest => Except.ok ([(⟨flags.fold (.oneOf [']']), 0⟩ : BracketPart)], flags.skip rest)) ?_
        fun plain => ?_
      · rintro rest rfl
        rfl
      · unfold leadingBracket
        split
        · exact absurd rfl plain
        · rfl
    simp only [shape]
    exact .of_head (by decide : ']' ∉ closing) (steady_skip (.of_ok _) flags) (.of_ok [])

/-- A head is read by passing a caret, dashes and a leading bracket. -/
theorem bracketHead_eq (text : List Char) :
    flags.bracketHead text =
      let sign := flags.caret (flags.skip text)
      let dashes := flags.leadingDashes sign.2.length [] sign.2
      let front := flags.leadingBracket dashes.1 dashes.2
      ⟨sign.1, front.1, front.2⟩ := by
  unfold bracketHead caret
  dsimp only
  generalize flags.leadingDashes _ _ _ = dashes
  obtain ⟨members, rest⟩ := dashes
  dsimp only
  split
  · rfl
  · next other =>
    have plain : flags.leadingBracket members rest = (members, rest) := by
      unfold leadingBracket
      split
      · exact (other _ rfl rfl).elim
      · rfl
    exact congrArg (fun front : List BracketPart × List Char =>
      (⟨(flags.caret (flags.skip text)).1, front.1, front.2⟩ : BracketHead)) plain.symm

theorem steady_bracketHead :
    Steady fun text => .ok (((flags.bracketHead text).negated, (flags.bracketHead text).members),
      (flags.bracketHead text).rest) := by
  have front (negated : Bool) (members : List BracketPart) : Steady fun text =>
      .ok ((negated, (flags.leadingBracket members text).1), (flags.leadingBracket members text).2) :=
    .step (fun front => .ok ((negated, front.1), front.2)) (flags.steady_leadingBracket members)
      fun front => .of_ok (negated, front)
  have dashes (negated : Bool) : Steady fun text =>
      let dashes := flags.leadingDashes text.length [] text
      .ok ((negated, (flags.leadingBracket dashes.1 dashes.2).1),
        (flags.leadingBracket dashes.1 dashes.2).2) :=
    .step (fun dashes => .ok ((negated, (flags.leadingBracket dashes.1 dashes.2).1),
        (flags.leadingBracket dashes.1 dashes.2).2)) flags.steady_leadingDashes (front negated)
  simp only [bracketHead_eq]
  exact steady_skip (.step (fun sign =>
      let dashes := flags.leadingDashes sign.2.length [] sign.2
      .ok ((sign.1, (flags.leadingBracket dashes.1 dashes.2).1),
        (flags.leadingBracket dashes.1 dashes.2).2)) flags.steady_caret dashes) flags

/-! Members of a set. -/

theorem bracketMember_plain {c : Char} (rest : List Char) (plain : c ≠ '\\') :
    flags.bracketMember (c :: rest) = .ok (.letter c false, rest) := by
  unfold bracketMember
  split
  · contradiction
  · next here => exact absurd (List.cons.inj here).1 plain
  · next here =>
    cases here
    rfl

theorem bracketMember_closing (c : Char) (rest : List Char) :
    flags.AgreesOrSticks rest (flags.bracketMember (c :: rest ++ closing))
      (flags.bracketMember (c :: rest)) := by
  by_cases escaped : c = '\\'
  · subst escaped
    exact flags.escape_closing rest
  · rw [List.cons_append, flags.bracketMember_plain _ escaped, flags.bracketMember_plain _ escaped]
    exact .inl (.of_ok _ rest)

/-- A member that is no end of a range. -/
def single (first : Escaped) (text : List Char) : Except PatternFault (BracketPart × List Char) :=
  match first with
  | .look _ => .error .badClassMember
  | .set set => .ok (⟨set, 0⟩, text)
  | member => flags.memberChar member >>= fun c => .ok (⟨.oneOf [c], 0⟩, text)

/-- The range between two members. -/
def rangeOf (first last : Escaped) (text : List Char) :
    Except PatternFault (BracketPart × List Char) :=
  flags.memberChar first >>= fun low =>
  flags.memberChar last >>= fun high =>
  if high < low then .error .badRange else .ok (⟨.range low high, 0⟩, text)

/-- What a member is, by the text behind it. -/
def itemBehind (first : Escaped) (text : List Char) :
    Except PatternFault (BracketPart × List Char) :=
  match text with
  | [] => .error .unclosedClass
  | '-' :: behind =>
    match flags.skip behind with
    | [] => .error .unclosedClass
    | ']' :: _ | '-' :: _ => flags.single first text
    | behind => flags.bracketMember behind >>= fun read => flags.rangeOf first read.1 read.2
  | _ => flags.single first text

theorem bracketItem_eq (text : List Char) :
    flags.bracketItem text =
      flags.bracketMember text >>= fun read => flags.itemBehind read.1 (flags.skip read.2) :=
  rfl

theorem steady_single (first : Escaped) : Steady (flags.single first) := by
  cases first with
  | look look => exact .of_error .badClassMember
  | set set => exact .of_ok _
  | letter c isByte =>
    unfold single
    dsimp only
    cases flags.memberChar (.letter c isByte) with
    | error fault => exact .of_error fault
    | ok c => exact .of_ok _

theorem steady_rangeOf (first last : Escaped) : Steady (flags.rangeOf first last) := by
  unfold rangeOf
  cases flags.memberChar first with
  | error fault => exact .of_error fault
  | ok low =>
    cases flags.memberChar last with
    | error fault => exact .of_error fault
    | ok high =>
      by_cases inverted : high < low
      · simp only [bind, Except.bind, if_pos inverted]
        exact .of_error .badRange
      · simp only [bind, Except.bind, if_neg inverted]
        exact .of_ok _

theorem itemBehind_plain (first : Escaped) {c : Char} (rest : List Char) (plain : c ≠ '-') :
    flags.itemBehind first (c :: rest) = flags.single first (c :: rest) := by
  unfold itemBehind
  split
  · contradiction
  · next here => exact absurd (List.cons.inj here).1 plain
  · rfl

theorem itemBehind_dash (first : Escaped) (behind : List Char) :
    flags.itemBehind first ('-' :: behind) =
      match flags.skip behind with
      | [] => .error .unclosedClass
      | c :: rest =>
        if c = ']' ∨ c = '-' then flags.single first ('-' :: behind)
        else
          flags.bracketMember (c :: rest) >>= fun read => flags.rangeOf first read.1 read.2 := by
  change (match flags.skip behind with
    | [] => Except.error PatternFault.unclosedClass
    | ']' :: _ | '-' :: _ => flags.single first ('-' :: behind)
    | behind => flags.bracketMember behind >>= fun read => flags.rangeOf first read.1 read.2) = _
  cases flags.skip behind with
  | nil => rfl
  | cons c rest =>
    by_cases final : c = ']' ∨ c = '-'
    · rcases final with rfl | rfl <;> rfl
    · simp only [if_neg final]
      split
      · contradiction
      · next here => exact absurd (.inl (List.cons.inj here).1) final
      · next here => exact absurd (.inr (List.cons.inj here).1) final
      · rfl

/-- A range needs a character at its end. -/
theorem rangeOf_look (first : Escaped) (look : Look) (text : List Char) :
    ∃ fault, flags.rangeOf first (.look look) text = .error fault := by
  unfold rangeOf
  cases flags.memberChar first with
  | error fault => exact ⟨fault, rfl⟩
  | ok low => exact ⟨.badRange, rfl⟩

theorem agrees_rangeEnd (first : Escaped) (c : Char) (rest : List Char) :
    Agrees rest
      (flags.bracketMember (c :: rest ++ closing) >>= fun read => flags.rangeOf first read.1 read.2)
      (flags.bracketMember (c :: rest) >>= fun read => flags.rangeOf first read.1 read.2) := by
  rcases flags.bracketMember_closing c rest with agrees | ⟨look, left, whole, _⟩
  · exact agrees.bind (fun last left _ => (flags.steady_rangeOf first last).agrees left)
      fun last => (flags.steady_rangeOf first last).broken
  · obtain ⟨fault, failed⟩ := flags.rangeOf_look first look left
    rw [whole]
    change Agrees rest (flags.rangeOf first (.look look) left) _
    rw [failed]
    exact .of_error fault rest

theorem itemBehind_broken (first : Escaped) {rest : List Char} (broken : Broken rest) :
    ∀ part last, flags.itemBehind first rest = .ok (part, last) → Broken last := by
  rcases broken with rfl | rfl
  · exact (flags.steady_single first).broken ['$'] (.inl rfl)
  · exact fun _ _ => nofun

theorem itemBehind_closing (first : Escaped) (text : List Char) :
    Agrees text (flags.itemBehind first (text ++ closing)) (flags.itemBehind first text) ∨
      ∃ part, flags.itemBehind first (text ++ closing) = .ok (part, closing) := by
  cases text with
  | nil =>
    change Agrees [] (flags.single first closing) _ ∨ ∃ part, flags.single first closing = _
    cases read : flags.single first closing with
    | error fault => exact .inl (.of_error fault [])
    | ok found =>
      rcases (flags.steady_single first).agrees [] found.1 found.2 read with
        ⟨left, same, short, _⟩ | broken
      · rw [List.eq_nil_of_length_eq_zero (Nat.le_zero.mp short)] at same
        exact .inr ⟨found.1, by rw [← List.nil_append closing, ← same]⟩
      · exact .inl (.of_broken fun value rest success => by cases success; exact broken)
  | cons c behind =>
    left
    rw [List.cons_append]
    by_cases dash : c = '-'
    · subst dash
      rw [itemBehind_dash, itemBehind_dash]
      have short := flags.length_skip_le behind
      rcases flags.skip_append behind with same | ⟨_, nothing⟩
      · rw [same]
        cases left : flags.skip behind with
        | nil =>
          -- The parenthesis is the end of the range.
          refine .of_broken fun part rest success => ?_
          exact (flags.steady_rangeOf first (.letter ')' false)).broken ['$'] (.inl rfl) part rest success
        | cons c rest =>
          rw [left, List.length_cons] at short
          dsimp only [List.cons_append]
          split
          · exact (flags.steady_single first).agrees ('-' :: behind)
          · exact (flags.agrees_rangeEnd first c rest).mono (by rw [List.length_cons]; omega)
      · rw [nothing]
        exact .of_error .unclosedClass _
    · rw [flags.itemBehind_plain first _ dash, flags.itemBehind_plain first _ dash]
      exact (flags.steady_single first).agrees (c :: behind)

/-- A member is read alike with the closing behind it, or is all that stands before the closing. -/
theorem bracketItem_closing (c : Char) (rest : List Char) :
    Agrees rest (flags.bracketItem (c :: rest ++ closing)) (flags.bracketItem (c :: rest)) ∨
      ∃ part, flags.bracketItem (c :: rest ++ closing) = .ok (part, closing) := by
  rw [bracketItem_eq, bracketItem_eq]
  rcases flags.bracketMember_closing c rest with agrees | ⟨look, _, whole, behind, rfl, _⟩
  · cases read : flags.bracketMember (c :: rest ++ closing) with
    | error fault => exact .inl (.of_error fault rest)
    | ok found =>
      obtain ⟨first, behind⟩ := found
      change Agrees rest (flags.itemBehind first (flags.skip behind)) _ ∨
        ∃ part, flags.itemBehind first (flags.skip behind) = _
      rcases agrees first behind read with ⟨left, rfl, short, alone⟩ | broken
      · rw [alone]
        rcases flags.skip_append left with same | ⟨_, nothing⟩
        · rw [same]
          rcases flags.itemBehind_closing first (flags.skip left) with alike | ends
          · exact .inl (alike.mono (Nat.le_trans (flags.length_skip_le left) short))
          · exact .inr ends
        · rw [nothing]
          exact .inl (.of_error .unclosedClass rest)
      · rw [flags.skip_broken broken]
        exact .inl (.of_broken (flags.itemBehind_broken first broken))
  · rw [whole]
    change Agrees rest (flags.itemBehind (.look look) (flags.skip ('{' :: behind))) _ ∨ _
    rw [flags.skip_cons (by decide) (by decide), flags.itemBehind_plain _ behind (by decide)]
    exact .inl (.of_error .badClassMember rest)

/-! Named sets. -/

/-- The named set whose name begins here. -/
def posixName? (negated : Bool) (text : List Char) : Option (Bool × CharSet × List Char) :=
  match text.dropWhile (· ≠ ':') with
  | ':' :: ']' :: rest =>
    (CharSet.bracketed? (String.ofList (text.takeWhile (· ≠ ':')))).map fun set => (negated, set, rest)
  | _ => none

theorem posixSet?_colon (rest : List Char) :
    posixSet? (':' :: rest) =
      if rest.head? = some '^' then posixName? true rest.tail else posixName? false rest := by
  have begun : posixSet? (':' :: rest) =
      (fun sign : Bool × List Char => posixName? sign.1 sign.2)
        (match rest with
          | '^' :: rest => (true, rest)
          | rest => (false, rest)) :=
    rfl
  rw [begun]
  refine match_head (posixName? true) ?_ fun plain => ?_
  · rintro rest rfl
    rfl
  · split
    · exact absurd rfl plain
    · rfl

theorem posixSet?_plain {text : List Char} (plain : text.head? ≠ some ':') : posixSet? text = none := by
  unfold posixSet?
  split
  · exact absurd rfl plain
  · rfl

/-- The same named set with the closing behind it. -/
def behindClosing (found : Bool × CharSet × List Char) : Bool × CharSet × List Char :=
  (found.1, found.2.1, found.2.2 ++ closing)

theorem posixName?_append (negated : Bool) (text : List Char) :
    posixName? negated (text ++ closing) = (posixName? negated text).map behindClosing := by
  have whole := congrArg List.length (List.takeWhile_append_dropWhile (p := (· ≠ ':')) (l := text))
  rw [List.length_append] at whole
  unfold posixName?
  rw [List.dropWhile_append, List.takeWhile_append]
  cases behind : text.dropWhile (· ≠ ':') with
  | nil => rfl
  | cons c rest =>
    rw [behind, List.length_cons] at whole
    rw [if_neg (by simp), if_neg (by omega), List.cons_append]
    split
    · next left here =>
      obtain ⟨rfl, here⟩ := List.cons.inj here
      cases rest with
      | nil => cases here
      | cons d rest =>
        cases here
        cases CharSet.bracketed? (String.ofList (text.takeWhile (· ≠ ':'))) <;> rfl
    · next other =>
      split
      · next left here =>
        cases here
        exact absurd rfl (other (left ++ closing))
      · rfl

theorem length_posixName?_le {negated : Bool} {text : List Char} {found : Bool × CharSet × List Char}
    (same : posixName? negated text = some found) : found.2.2.length ≤ text.length := by
  have short := (List.dropWhile_sublist (l := text) (· ≠ ':')).length_le
  unfold posixName? at same
  split at same
  · next rest here =>
    obtain ⟨set, _, rfl⟩ := Option.map_eq_some_iff.mp same
    rw [here] at short
    simp only [List.length_cons] at short
    exact Nat.le_trans (show rest.length ≤ rest.length + 1 + 1 by omega) short
  · cases same

/-- A named set is read alike with the closing behind it. -/
theorem posixSet?_append (text : List Char) :
    posixSet? (text ++ closing) = (posixSet? text).map behindClosing := by
  by_cases colon : text.head? = some ':'
  · obtain ⟨rest, rfl⟩ := exists_of_head colon
    rw [List.cons_append, posixSet?_colon, posixSet?_colon]
    by_cases caret : rest.head? = some '^'
    · obtain ⟨rest, rfl⟩ := exists_of_head caret
      exact posixName?_append true rest
    · rw [if_neg caret, if_neg (head_append_ne (by decide) caret)]
      exact posixName?_append false rest
  · rw [posixSet?_plain colon, posixSet?_plain (head_append_ne (by decide) colon)]
    rfl

theorem length_posixSet?_le {text : List Char} {found : Bool × CharSet × List Char}
    (same : posixSet? text = some found) : found.2.2.length ≤ text.length := by
  by_cases colon : text.head? = some ':'
  · obtain ⟨rest, rfl⟩ := exists_of_head colon
    rw [posixSet?_colon] at same
    refine Nat.le_succ_of_le ?_
    split at same
    · exact Nat.le_trans (length_posixName?_le same) (by rw [List.length_tail]; omega)
    · exact length_posixName?_le same
  · rw [posixSet?_plain colon] at same
    cases same

/-! The body of a set. -/

/-- The operation that two equal characters stand for. -/
def operation? (c : Char) (rest : List Char) : Option SetOperation :=
  if rest.head? = some c then
    if c = '&' then some .inter
    else if c = '-' then some .diff
    else if c = '~' then some .symmDiff
    else none
  else none

theorem operation?_append (c : Char) (rest : List Char) :
    operation? c (rest ++ closing) = operation? c rest := by
  cases rest with
  | nil =>
    unfold operation?
    rw [if_neg (by nofun : ¬([] : List Char).head? = some c)]
    split
    · next same =>
      cases same
      rfl
    · rfl
  | cons d rest => rfl

theorem exists_of_operation? {c : Char} {rest : List Char} {operation : SetOperation}
    (same : operation? c rest = some operation) : ∃ behind, rest = c :: behind := by
  unfold operation? at same
  split at same
  · next here => exact exists_of_head here
  · cases same

/-- The parts of a set that stand behind an opening bracket inside it. -/
def innerSet (fuel : Nat) (pending : Option (SetOperation × BracketPart))
    (members : List BracketPart) (rest : List Char) :
    Except PatternFault (BracketPart × List Char) :=
  match posixSet? rest with
  | some (negated, set, rest) =>
    flags.complementable negated >>= fun _ =>
    flags.bracketBody fuel pending
      (⟨CharSet.negateIf negated (flags.fold set), 0⟩ :: members) rest
  | none =>
    let head := flags.bracketHead rest
    flags.bracketBody fuel none head.members head.rest >>= fun read =>
    flags.complementable head.negated >>= fun _ =>
    flags.bracketBody fuel pending (read.1.close flags head.negated :: members) read.2

theorem bracketBody_succ (fuel : Nat) (pending : Option (SetOperation × BracketPart))
    (members : List BracketPart) (text : List Char) :
    flags.bracketBody (fuel + 1) pending members text =
      match flags.skip text with
      | [] => .error .unclosedClass
      | c :: rest =>
        let soFar := BracketPart.combine flags pending (BracketPart.unite members)
        if c = ']' then .ok (soFar, rest)
        else
          match operation? c rest with
          | some operation => flags.bracketBody fuel (some (operation, soFar)) [] rest.tail
          | none =>
            if c = '[' then flags.innerSet fuel pending members rest
            else
              flags.bracketItem (c :: rest) >>= fun read =>
              flags.bracketBody fuel pending (read.1 :: members) read.2 := by
  rw [bracketBody]
  dsimp only
  cases flags.skip text with
  | nil => rfl
  | cons c rest =>
    dsimp only
    by_cases ends : c = ']'
    · rw [if_pos ends]
      subst ends
      rfl
    · rw [if_neg ends]
      split
      · contradiction
      · next here => exact absurd (List.cons.inj here).1 ends
      · next here =>
        cases here
        rfl
      · next here =>
        cases here
        rfl
      · next here =>
        cases here
        rfl
      · next here =>
        cases here
        have none : operation? '[' rest = none := by
          unfold operation?
          split <;> rfl
        rw [none]
        rfl
      · next noInter noDiff noSymmDiff noBracket =>
        have none : operation? c rest = none := by
          unfold operation?
          split
          · next doubled =>
            obtain ⟨behind, rfl⟩ := exists_of_head doubled
            have inter : c ≠ '&' := fun same => noInter behind (same ▸ rfl)
            have diff : c ≠ '-' := fun same => noDiff behind (same ▸ rfl)
            have symmDiff : c ≠ '~' := fun same => noSymmDiff behind (same ▸ rfl)
            rw [if_neg inter, if_neg diff, if_neg symmDiff]
          · rfl
        have bracket : c ≠ '[' := fun same => noBracket rest (same ▸ rfl)
        rw [none, if_neg bracket]

/-- Text of which too little is left to close a set. -/
def Spent (rest : List Char) : Prop :=
  rest = closing ∨ Broken rest

theorem bracketItem_dollar : flags.bracketItem ['$'] = .error .unclosedClass := by
  rw [bracketItem_eq, flags.bracketMember_plain [] (by decide)]
  change flags.itemBehind _ (flags.skip []) = _
  rw [skip_nil]
  rfl

theorem bracketItem_parenthesis :
    flags.bracketItem closing = flags.single (.letter ')' false) ['$'] := by
  rw [bracketItem_eq, closing, flags.bracketMember_plain ['$'] (by decide)]
  change flags.itemBehind _ (flags.skip ['$']) = _
  rw [flags.skip_broken (.inl rfl)]
  exact flags.itemBehind_plain _ [] (by decide)

theorem bracketBody_spent (fuel : Nat) (pending : Option (SetOperation × BracketPart))
    (members : List BracketPart) {rest : List Char} (spent : Spent rest) :
    ∃ fault, flags.bracketBody fuel pending members rest = .error fault := by
  have nothing (fuel : Nat) (members : List BracketPart) :
      ∃ fault, flags.bracketBody fuel pending members [] = .error fault := by
    cases fuel with
    | zero => exact ⟨_, rfl⟩
    | succ fuel => exact ⟨.unclosedClass, by rw [bracketBody_succ, skip_nil]⟩
  have dollar (fuel : Nat) (members : List BracketPart) :
      ∃ fault, flags.bracketBody fuel pending members ['$'] = .error fault := by
    cases fuel with
    | zero => exact ⟨_, rfl⟩
    | succ fuel =>
      rw [bracketBody_succ, flags.skip_broken (.inl rfl)]
      change ∃ fault, (flags.bracketItem ['$'] >>= fun read =>
        flags.bracketBody fuel pending (read.1 :: members) read.2) = _
      rw [bracketItem_dollar]
      exact ⟨_, rfl⟩
  rcases spent with rfl | rfl | rfl
  · cases fuel with
    | zero => exact ⟨_, rfl⟩
    | succ fuel =>
      rw [bracketBody_succ, closing, flags.skip_cons (by decide) (by decide)]
      change ∃ fault, (flags.bracketItem closing >>= fun read =>
        flags.bracketBody fuel pending (read.1 :: members) read.2) = _
      rw [bracketItem_parenthesis]
      cases read : flags.single (.letter ')' false) ['$'] with
      | error fault => exact ⟨fault, rfl⟩
      | ok found =>
        rcases (flags.steady_single (.letter ')' false)).broken ['$'] (.inl rfl) found.1 found.2 read
          with here | here
        · obtain ⟨fault, failed⟩ := dollar fuel (found.1 :: members)
          exact ⟨fault, by rw [← failed, ← here]; rfl⟩
        · obtain ⟨fault, failed⟩ := nothing fuel (found.1 :: members)
          exact ⟨fault, by rw [← failed, ← here]; rfl⟩
  · exact dollar fuel members
  · exact nothing fuel members

theorem bracketBody_broken (fuel : Nat) (pending : Option (SetOperation × BracketPart))
    (members : List BracketPart) {rest : List Char} (broken : Broken rest) (part : BracketPart)
    (last : List Char) (success : flags.bracketBody fuel pending members rest = .ok (part, last)) :
    Broken last := by
  obtain ⟨fault, failed⟩ := flags.bracketBody_spent fuel pending members (.inr broken)
  rw [failed] at success
  cases success

/-- Where the body of a set is read alike, so are the sets inside it. -/
theorem agrees_innerSet {fuel own : Nat}
    (body : ∀ pending members text, text.length < own →
      Agrees text (flags.bracketBody fuel pending members (text ++ closing))
        (flags.bracketBody own pending members text))
    (pending : Option (SetOperation × BracketPart)) (members : List BracketPart) {rest : List Char}
    (enough : rest.length < own) :
    Agrees rest (flags.innerSet fuel pending members (rest ++ closing))
      (flags.innerSet own pending members rest) := by
  unfold innerSet
  rw [posixSet?_append]
  cases named : posixSet? rest with
  | some found =>
    have short := length_posixSet?_le named
    obtain ⟨negated, set, behind⟩ := found
    dsimp only [Option.map_some, behindClosing] at short ⊢
    cases flags.complementable negated with
    | error fault => exact .of_error fault rest
    | ok _ => exact (body _ _ behind (Nat.lt_of_le_of_lt short enough)).mono short
  | none =>
    -- A head that has broken the closing leaves too little for the body behind it.
    let behindHead (fuel : Nat) (head : (Bool × List BracketPart) × List Char) :=
      flags.bracketBody fuel none head.1.2 head.2 >>= fun read =>
      flags.complementable head.1.1 >>= fun _ =>
      flags.bracketBody fuel pending (read.1.close flags head.1.1 :: members) read.2
    refine Agrees.step (behindHead fuel) (behindHead own) (flags.steady_bracketHead.agrees rest) ?_ ?_
    · intro head left short
      refine (body none head.2 left (Nat.lt_of_le_of_lt short enough)).bind ?_ ?_
      · intro inner last shorter
        dsimp only
        cases flags.complementable head.1 with
        | error fault => exact .of_error fault last
        | ok _ => exact body _ _ last (by omega)
      · intro inner rest broken part last success
        obtain ⟨_, _, success⟩ := exists_of_bind success
        exact flags.bracketBody_broken fuel _ _ broken part last success
    · intro head rest broken part last success
      obtain ⟨fault, failed⟩ := flags.bracketBody_spent fuel none head.2 (.inr broken)
      dsimp only [behindHead] at success
      rw [failed] at success
      cases success

theorem agrees_bracketBody {fuel own : Nat} (pending : Option (SetOperation × BracketPart))
    (members : List BracketPart) {text : List Char} (enough : text.length < own) :
    Agrees text (flags.bracketBody fuel pending members (text ++ closing))
      (flags.bracketBody own pending members text) := by
  induction fuel generalizing own pending members text with
  | zero => exact .of_error .unclosedClass text
  | succ fuel ih =>
    obtain ⟨own, rfl⟩ := Nat.exists_eq_add_one.mpr (Nat.zero_lt_of_lt enough)
    have short := flags.length_skip_le text
    rw [bracketBody_succ, bracketBody_succ]
    rcases flags.skip_append text with same | ⟨_, nothing⟩
    · rw [same]
      cases left : flags.skip text with
      | nil =>
        obtain ⟨fault, failed⟩ := flags.bracketBody_spent (fuel + 1) pending members (.inl rfl)
        rw [bracketBody_succ, closing, flags.skip_cons (by decide) (by decide)] at failed
        rw [List.nil_append, closing, failed]
        exact .of_error fault text
      | cons c rest =>
        rw [left, List.length_cons] at short
        have restShort : rest.length ≤ text.length := by omega
        rw [List.cons_append]
        dsimp only
        split
        · exact (Agrees.of_ok _ rest).mono restShort
        · rw [operation?_append]
          cases doubled : operation? c rest with
          | some operation =>
            obtain ⟨behind, rfl⟩ := exists_of_operation? doubled
            rw [List.length_cons] at short
            exact (ih _ [] (by omega)).mono (by omega)
          | none =>
            dsimp only
            split
            · refine (flags.agrees_innerSet (fun _ _ _ => ih _ _) pending members ?_).mono restShort
              omega
            · rcases flags.bracketItem_closing c rest with agrees | ⟨part, ends⟩
              · refine (agrees.bind (fun part left shorter => ih pending _ ?_) ?_).mono restShort
                · omega
                · exact fun part _ broken => flags.bracketBody_broken fuel pending _ broken
              · obtain ⟨fault, failed⟩ :=
                  flags.bracketBody_spent fuel pending (part :: members) (.inl rfl)
                rw [List.cons_append] at ends
                rw [ends]
                change Agrees text (flags.bracketBody fuel pending (part :: members) closing) _
                rw [failed]
                exact .of_error fault text
    · rw [nothing]
      exact .of_error .unclosedClass text

theorem steady_bracket : Steady flags.bracket := by
  have closes (negated : Bool) (inner : BracketPart) : Steady fun text =>
      flags.complementable negated >>= fun _ => .ok (inner.close flags negated, text) := by
    cases flags.complementable negated with
    | error fault => exact .of_error fault
    | ok _ => exact .of_ok _
  let behindHead (fuel : Nat) (head : (Bool × List BracketPart) × List Char) :=
    flags.bracketBody fuel none head.1.2 head.2 >>= fun read =>
    flags.complementable head.1.1 >>= fun _ =>
    (.ok (read.1.close flags head.1.1, read.2) : Except PatternFault (BracketPart × List Char))
  have breaks (fuel : Nat) (head : Bool × List BracketPart) (rest : List Char)
      (broken : Broken rest) : ∃ fault, behindHead fuel (head, rest) = .error fault := by
    obtain ⟨fault, failed⟩ := flags.bracketBody_spent fuel none head.2 (.inr broken)
    exact ⟨fault, by dsimp only [behindHead]; rw [failed]; rfl⟩
  constructor
  · intro text
    refine Agrees.step (behindHead ((text ++ closing).length + 1)) (behindHead (text.length + 1))
      (flags.steady_bracketHead.agrees text) ?_ ?_
    · intro head left short
      exact (flags.agrees_bracketBody none head.2 (Nat.lt_succ_of_le short)).bind
        (fun inner last _ => (closes head.1 inner).agrees last) fun inner => (closes head.1 inner).broken
    · intro head rest broken part last success
      obtain ⟨fault, failed⟩ := breaks _ head rest broken
      rw [failed] at success
      cases success
  · intro rest broken part last success
    obtain ⟨fault, failed⟩ := breaks (rest.length + 1)
      ((flags.bracketHead rest).negated, (flags.bracketHead rest).members) (flags.bracketHead rest).rest
      (flags.steady_bracketHead.broken rest broken _ _ rfl)
    have read : flags.bracket rest = .error fault := failed
    rw [read] at success
    cases success

end LayerAtlas.PatternFlags
