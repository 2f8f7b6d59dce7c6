import LayerAtlas.Proofs.Pattern.ClosedGroup

/-!
# Sequences in front of the closing

Single characters are read alike with the closing behind them, but for a brace behind a word border. A
whole pattern ends in front of the closing, or at a parenthesis that it has not opened, or it has taken
the closing and reaches the end of the text.
-/
namespace LayerAtlas.PatternContext

variable (context : PatternContext)

/-! Single characters. -/

/-- The part that an escape is. -/
def escapedPart (escaped : Escaped) : Except PatternFault PatternPart :=
  match escaped with
  | .letter c isByte => context.flags.literal c isByte >>= fun set => .ok (.ofRegex (.chars set))
  | .set set => .ok (.ofRegex (.chars set))
  | .look look => .ok (.ofRegex (.look look))

/-- The part that a character is by itself. -/
def plainPart (c : Char) : Except PatternFault PatternPart :=
  if c = '.' then context.flags.dot >>= fun set => .ok (.ofRegex (.chars set))
  else if c = '^' then .ok (.ofRegex (.look context.flags.lineStart))
  else if c = '$' then .ok (.ofRegex (.look context.flags.lineEnd))
  else context.flags.literal c false >>= fun set => .ok (.ofRegex (.chars set))

theorem primitive_escape (rest : List Char) :
    context.primitive '\\' rest =
      context.flags.escape rest >>= fun read =>
      context.escapedPart read.1 >>= fun part => .ok (part, read.2) := by
  unfold primitive
  dsimp only
  cases context.flags.escape rest with
  | error fault => rfl
  | ok read =>
    obtain ⟨escaped, rest⟩ := read
    cases escaped with
    | letter c isByte =>
      change (context.flags.literal c isByte >>= fun set =>
          .ok (PatternPart.ofRegex (.chars set), rest)) =
        (context.flags.literal c isByte >>= fun set => .ok (PatternPart.ofRegex (.chars set))) >>=
          fun part => .ok (part, rest)
      cases context.flags.literal c isByte <;> rfl
    | set set => rfl
    | look look => rfl

theorem primitive_plain {c : Char} (rest : List Char) (plain : c ≠ '\\') :
    context.primitive c rest = context.plainPart c >>= fun part => .ok (part, rest) := by
  unfold primitive plainPart
  dsimp only
  split
  · contradiction
  · cases context.flags.dot <;> rfl
  · rfl
  · rfl
  · next dot start ending =>
    rw [if_neg dot, if_neg start, if_neg ending]
    cases context.flags.literal c false <;> rfl

/-- A reader that minds the closing only by breaking it, or by leaving a brace that nothing but the
closing follows. -/
def AgreesOrStops {α : Type} (text : List Char)
    (whole alone : Except PatternFault (α × List Char)) : Prop :=
  Agrees text whole alone ∨ ∃ value rest, whole = .ok (value, rest) ∧ context.flags.Stuck rest

theorem primitive_closing (c : Char) (rest : List Char) :
    context.AgreesOrStops rest (context.primitive c (rest ++ closing)) (context.primitive c rest) := by
  by_cases escaped : c = '\\'
  · subst escaped
    rw [primitive_escape, primitive_escape]
    rcases context.flags.escape_closing rest with agrees | ⟨look, left, whole, stuck⟩
    · refine .inl (agrees.bind (fun escaped left _ => ?_) fun escaped rest broken part last success => ?_)
      · dsimp only
        cases context.escapedPart escaped with
        | error fault => exact .of_error fault left
        | ok part => exact .of_ok part left
      · obtain ⟨part, _, success⟩ := exists_of_bind success
        cases success
        exact broken
    · rw [whole]
      exact .inr ⟨.ofRegex (.look look), left, rfl, stuck⟩
  · rw [context.primitive_plain _ escaped, context.primitive_plain _ escaped]
    cases context.plainPart c with
    | error fault => exact .inl (.of_error fault rest)
    | ok part => exact .inl (.of_ok part rest)

/-- What one character begins in a sequence: a set, a repetition of the last part, or a part. -/
def element (parts : List PatternPart) (c : Char) (rest : List Char) :
    Except PatternFault (List PatternPart × List Char) :=
  if c = '[' then
    context.flags.bracket rest >>= fun read =>
    .ok (⟨.chars read.1.set, read.1.height, false⟩ :: parts, read.2)
  else if c = '*' then repeatLast parts 0 none rest
  else if c = '+' then repeatLast parts 1 none rest
  else if c = '?' then repeatLast parts 0 (some 1) rest
  else if c = '{' then
    context.counts rest >>= fun read => repeatLast parts read.1.1 read.1.2 read.2
  else context.primitive c rest >>= fun read => .ok (read.1 :: parts, read.2)

theorem element_closing (parts : List PatternPart) (c : Char) (rest : List Char) :
    context.AgreesOrStops rest (context.element parts c (rest ++ closing))
      (context.element parts c rest) := by
  unfold element
  split
  · have set : Steady fun text => context.flags.bracket text >>= fun read =>
        .ok ((⟨.chars read.1.set, read.1.height, false⟩ : PatternPart) :: parts, read.2) :=
      context.flags.steady_bracket.bind fun set =>
        .of_ok (⟨.chars set.set, set.height, false⟩ :: parts)
    exact .inl (set.agrees rest)
  · split
    · exact .inl ((steady_repeatLast parts 0 none).agrees rest)
    · split
      · exact .inl ((steady_repeatLast parts 1 none).agrees rest)
      · split
        · exact .inl ((steady_repeatLast parts 0 (some 1)).agrees rest)
        · split
          · have counted : Steady fun text => context.counts text >>= fun read =>
                repeatLast parts read.1.1 read.1.2 read.2 :=
              context.steady_counts.bind fun bounds => steady_repeatLast parts bounds.1 bounds.2
            exact .inl (counted.agrees rest)
          · rcases context.primitive_closing c rest with agrees | ⟨part, left, whole, stuck⟩
            · refine .inl (agrees.bind (fun part left _ => .of_ok _ left) ?_)
              intro part rest broken result last success
              cases success
              exact broken
            · rw [whole]
              exact .inr ⟨part :: parts, left, rfl, stuck⟩

/-- A group and what follows it in a sequence, from behind its opening parenthesis. -/
def group (fuel : Nat) (branches parts : List PatternPart) (rest : List Char) :
    Except PatternFault (PatternPart × PatternContext × List Char) :=
  context.flags.groupHead rest >>= fun head =>
  match head.1 with
  | .flagsOnly flags =>
    read fuel { context with flags := flags } branches (.flags :: parts) head.2
  | .opened flags name =>
    context.addName name >>= fun inside =>
    read fuel { inside with flags := flags } [] [] head.2 >>= fun inner =>
    match inner.2.2 with
    | ')' :: rest =>
      read fuel { inner.2.1 with flags := context.flags } branches
        (⟨inner.1.regex, inner.1.height + 1, false⟩ :: parts) rest
    | _ => .error .unclosedGroup

theorem read_succ (fuel : Nat) (branches parts : List PatternPart) (text : List Char) :
    context.read (fuel + 1) branches parts text =
      let whole := PatternPart.choice (.sequence parts :: branches)
      match context.skip text with
      | [] => .ok (whole, context, [])
      | c :: rest =>
        if c = ')' then .ok (whole, context, ')' :: rest)
        else if c = '|' then context.read fuel (.sequence parts :: branches) [] rest
        else if c = '(' then context.group fuel branches parts rest
        else
          context.element parts c rest >>= fun found =>
          context.read fuel branches found.1 found.2 := by
  rw [read]
  dsimp only
  cases context.skip text with
  | nil => rfl
  | cons c rest =>
    dsimp only
    by_cases closes : c = ')'
    · subst closes
      rfl
    by_cases bar : c = '|'
    · subst bar
      rfl
    by_cases opens : c = '('
    · subst opens
      change (context.flags.groupHead rest >>= _) = (context.flags.groupHead rest >>= _)
      cases context.flags.groupHead rest with
      | error fault => rfl
      | ok head =>
        obtain ⟨head, behind⟩ := head
        cases head <;> rfl
    rw [if_neg closes, if_neg bar, if_neg opens]
    unfold element
    by_cases bracket : c = '['
    · subst bracket
      change (context.flags.bracket rest >>= _) = ((context.flags.bracket rest >>= _) >>= _)
      cases context.flags.bracket rest <;> rfl
    by_cases star : c = '*'
    · subst star
      rfl
    by_cases plus : c = '+'
    · subst plus
      rfl
    by_cases mark : c = '?'
    · subst mark
      rfl
    by_cases brace : c = '{'
    · subst brace
      change (context.counts rest >>= _) = ((context.counts rest >>= _) >>= _)
      cases context.counts rest <;> rfl
    rw [if_neg bracket, if_neg star, if_neg plus, if_neg mark, if_neg brace]
    split
    case h_10 here =>
      cases here
      cases context.primitive c rest <;> rfl
    case h_1 => contradiction
    all_goals next here =>
      have first := (List.cons.inj here).1
      contradiction

/-! Whole patterns. -/

/-- A pattern is read to the end of the text or up to a closing parenthesis. -/
theorem read_rest {fuel : Nat} {context : PatternContext} {branches parts : List PatternPart}
    {text rest : List Char} {part : PatternPart} {after : PatternContext}
    (success : context.read fuel branches parts text = .ok (part, after, rest)) :
    rest = [] ∨ ∃ behind, rest = ')' :: behind := by
  induction fuel generalizing context branches parts text part after rest with
  | zero => cases success
  | succ fuel ih =>
    rw [read_succ] at success
    dsimp only at success
    split at success
    · cases success
      exact .inl rfl
    · next c behind _ =>
      split at success
      · cases success
        exact .inr ⟨behind, rfl⟩
      · split at success
        · exact ih success
        · split at success
          · obtain ⟨⟨head, behind⟩, _, success⟩ := exists_of_bind success
            cases head with
            | flagsOnly flags => exact ih success
            | opened flags name =>
              obtain ⟨inside, _, success⟩ := exists_of_bind success
              obtain ⟨inner, _, success⟩ := exists_of_bind success
              dsimp only at success
              split at success
              · exact ih success
              · cases success
          · obtain ⟨found, _, success⟩ := exists_of_bind success
            exact ih success

theorem read_nil {fuel : Nat} {branches parts : List PatternPart} {rest : List Char}
    {part : PatternPart} {after : PatternContext}
    (success : context.read fuel branches parts [] = .ok (part, after, rest)) : rest = [] := by
  cases fuel with
  | zero => cases success
  | succ fuel =>
    rw [read_succ, skip, PatternFlags.skip_nil] at success
    cases success
    rfl

/-- From a broken closing on a pattern is read to the end of the text. -/
theorem read_broken {fuel : Nat} {branches parts : List PatternPart} {text rest : List Char}
    {part : PatternPart} {after : PatternContext} (broken : Broken text)
    (success : context.read fuel branches parts text = .ok (part, after, rest)) : rest = [] := by
  rcases broken with rfl | rfl
  · cases fuel with
    | zero => cases success
    | succ fuel =>
      rw [read_succ, skip, context.flags.skip_broken (.inl rfl)] at success
      exact context.read_nil success
  · exact context.read_nil success

/-- A brace that nothing but the closing follows is no count. -/
theorem read_stuck (fuel : Nat) (branches parts : List PatternPart) {text : List Char}
    (stuck : context.flags.Stuck text) :
    ∃ fault, context.read fuel branches parts text = .error fault := by
  obtain ⟨behind, rfl, only⟩ := stuck
  cases fuel with
  | zero => exact ⟨_, rfl⟩
  | succ fuel =>
    have none : (context.flags.decimal closing).1 = none := by
      have solid : closing.dropWhile isBlank = closing := by decide
      have noDigits : PatternFlags.decimal.digits context.flags closing.length closing =
          ([], closing) := by
        refine context.flags.digits_plain _ ?_
        rintro c rest same
        cases same
        decide
      rw [PatternFlags.decimal_eq, solid, noDigits]
      rfl
    have noCount : context.counts behind = .error .badCount := by
      rw [counts_eq, only]
      dsimp only [bind, Except.bind]
      rw [none]
      rfl
    rw [read_succ, skip, context.flags.skip_cons (by decide) (by decide)]
    change ∃ fault, ((context.counts behind >>= _) >>= _) = _
    rw [noCount]
    exact ⟨_, rfl⟩

/-- Behind the closing's text a whole pattern is read as without it, or the text is read to its end. -/
def Ends (text : List Char)
    (whole alone : Except PatternFault (PatternPart × PatternContext × List Char)) : Prop :=
  ∀ part after rest, whole = .ok (part, after, rest) →
    (∃ left, rest = left ++ closing ∧ left.length ≤ text.length ∧ alone = .ok (part, after, left)) ∨
      rest = []

theorem Ends.mono {text shorter : List Char}
    {whole alone : Except PatternFault (PatternPart × PatternContext × List Char)}
    (ends : Ends shorter whole alone) (bound : shorter.length ≤ text.length) :
    Ends text whole alone := by
  intro part after rest success
  rcases ends part after rest success with ⟨left, same, short, read⟩ | all
  · exact .inl ⟨left, same, Nat.le_trans short bound, read⟩
  · exact .inr all

/-- Where patterns are read alike, so are the groups in them. -/
theorem ends_group {fuel own : Nat}
    (reads : ∀ (context : PatternContext) branches parts text, text.length < own →
      Ends text (context.read fuel branches parts (text ++ closing))
        (context.read own branches parts text))
    (branches parts : List PatternPart) {text : List Char} (enough : text.length < own) :
    Ends text (context.group fuel branches parts (text ++ closing))
      (context.group own branches parts text) := by
  intro part after rest success
  obtain ⟨⟨head, behind⟩, opening, success⟩ := exists_of_bind success
  rcases context.flags.steady_groupHead.agrees text head behind opening with
    ⟨left, rfl, short, alone⟩ | broken
  · have enough := Nat.lt_of_le_of_lt short enough
    unfold group
    rw [alone]
    cases head with
    | flagsOnly flags =>
      exact (reads _ branches _ left enough).mono short part after rest success
    | opened flags name =>
      obtain ⟨inside, named, success⟩ := exists_of_bind success
      obtain ⟨⟨inner, innerContext, closed⟩, innerRead, success⟩ := exists_of_bind success
      dsimp only at success
      split at success
      · next behind =>
        rcases reads _ [] [] left enough inner innerContext _ innerRead with
          ⟨last, same, shorter, innerAlone⟩ | nothing
        · cases last with
          | nil =>
            -- The group is ended by the closing itself.
            cases same
            exact .inr (PatternContext.read_broken _ (.inl rfl) success)
          | cons c last =>
            cases same
            rw [List.length_cons] at shorter
            rcases reads _ branches _ last (by omega) part after rest success with
              ⟨final, same, shortest, alone⟩ | all
            · refine .inl ⟨final, same, by omega, ?_⟩
              change (context.addName name >>= _) = _
              rw [named]
              change (read own { inside with flags := flags } [] [] left >>= _) = _
              rw [innerAlone]
              exact alone
            · exact .inr all
        · cases nothing
      · cases success
  · cases head with
    | flagsOnly flags => exact .inr (PatternContext.read_broken _ broken success)
    | opened flags name =>
      obtain ⟨inside, _, success⟩ := exists_of_bind success
      obtain ⟨⟨inner, innerContext, closed⟩, innerRead, success⟩ := exists_of_bind success
      dsimp only at success
      rw [PatternContext.read_broken _ broken innerRead] at success
      cases success

theorem ends_read {fuel own : Nat} (context : PatternContext) (branches parts : List PatternPart)
    {text : List Char} (enough : text.length < own) :
    Ends text (context.read fuel branches parts (text ++ closing))
      (context.read own branches parts text) := by
  induction fuel generalizing own context branches parts text with
  | zero => exact fun _ _ _ => nofun
  | succ fuel ih =>
    obtain ⟨own, rfl⟩ := Nat.exists_eq_add_one.mpr (Nat.zero_lt_of_lt enough)
    have short := context.flags.length_skip_le text
    rw [read_succ, read_succ]
    unfold skip
    rcases context.flags.skip_append text with same | ⟨_, nothing⟩
    · rw [same]
      cases left : context.flags.skip text with
      | nil =>
        intro part after rest success
        cases success
        exact .inl ⟨[], rfl, Nat.zero_le _, rfl⟩
      | cons c rest =>
        rw [left, List.length_cons] at short
        have restShort : rest.length ≤ text.length := by omega
        rw [List.cons_append]
        dsimp only
        split
        · intro part after last success
          cases success
          exact .inl ⟨')' :: rest, rfl, short, rfl⟩
        · split
          · exact (ih context _ [] (by omega)).mono restShort
          · split
            · refine (context.ends_group (fun context branches parts text => ?_) branches parts ?_).mono
                restShort
              · exact ih context branches parts
              · omega
            · intro part after last success
              obtain ⟨⟨found, behind⟩, element, success⟩ := exists_of_bind success
              rcases context.element_closing parts c rest with agrees | ⟨value, stop, whole, stuck⟩
              · rcases agrees found behind element with ⟨left, rfl, shorter, alone⟩ | broken
                · rw [alone]
                  have enough : left.length < own := by omega
                  exact (ih context branches found enough).mono (Nat.le_trans shorter restShort) part
                    after last success
                · exact .inr (context.read_broken broken success)
              · obtain ⟨fault, failed⟩ := context.read_stuck fuel branches value stuck
                rw [whole] at element
                cases element
                rw [failed] at success
                cases success
    · rw [nothing]
      intro part after rest success
      cases success
      exact .inr rfl

end LayerAtlas.PatternContext
