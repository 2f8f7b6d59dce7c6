import LayerAtlas.Pattern.Regex

/-!
# What a pattern matches

A pattern relates the place where a match begins to the places where it can end. The relation follows
the pattern alone and knows nothing of sets of places, of rounds, and of where a search may stop. The
search finds exactly the related places: a repetition needs no more rounds than there are characters,
since a round that moves no further is not needed.
-/
namespace LayerAtlas

namespace Regex

/-- Two places joined by `count` steps of a relation. -/
def Times (step : Spot → Spot → Prop) : Nat → Spot → Spot → Prop
  | 0, first, last => last = first
  | count + 1, first, last => ∃ next, step first next ∧ Times step count next last

/-- A match that begins at the first place can end at the last one. -/
def Leads : Regex → Spot → Spot → Prop
  | empty, first, last => last = first
  | chars set, first, last =>
    ∃ c rest, first.rest = c :: rest ∧ set.contains c = true ∧ last = ⟨some c, rest⟩
  | look assertion, first, last => assertion.holds first = true ∧ last = first
  | seq before behind, first, last => ∃ middle, before.Leads first middle ∧ behind.Leads middle last
  | alt left right, first, last => left.Leads first last ∨ right.Leads first last
  | repeated body least most, first, last =>
    ∃ more, (∀ bound, most = some bound → more ≤ bound - least) ∧
      Times body.Leads (least + more) first last

/-- The pattern matches the whole token. -/
def Covers (regex : Regex) (token : String) : Prop :=
  ∃ last, regex.Leads (Spot.start token.toList) last ∧ last.rest = []

variable {step : Spot → Spot → Prop}

theorem times_add {first last : Spot} (left right : Nat) :
    Times step (left + right) first last ↔
      ∃ middle, Times step left first middle ∧ Times step right middle last := by
  induction left generalizing first with
  | zero => simp [Times]
  | succ left ih =>
    rw [Nat.succ_add]
    simp only [Times, ih]
    constructor
    · rintro ⟨next, here, middle, before, behind⟩
      exact ⟨middle, ⟨next, here, before⟩, behind⟩
    · rintro ⟨middle, ⟨next, here, before⟩, behind⟩
      exact ⟨next, here, middle, before, behind⟩

/-- Steps that stay or move on stay or move on together. -/
theorem Times.forward
    (moves : ∀ first last, step first last → last = first ∨ last.rest.length < first.rest.length)
    {count : Nat} {first last : Spot} (steps : Times step count first last) :
    last = first ∨ last.rest.length < first.rest.length := by
  induction count generalizing first with
  | zero => exact .inl steps
  | succ count ih =>
    obtain ⟨next, here, behind⟩ := steps
    rcases moves first next here with rfl | shorter
    · exact ih behind
    · rcases ih behind with rfl | further
      · exact .inr shorter
      · exact .inr (Nat.lt_trans further shorter)

/-- What many steps reach, no more steps reach than there are characters left. -/
theorem Times.shorten
    (moves : ∀ first last, step first last → last = first ∨ last.rest.length < first.rest.length)
    {count : Nat} {first last : Spot} (steps : Times step count first last) :
    ∃ fewer ≤ first.rest.length, Times step fewer first last := by
  induction count generalizing first with
  | zero => exact ⟨0, Nat.zero_le _, steps⟩
  | succ count ih =>
    obtain ⟨next, here, behind⟩ := steps
    obtain ⟨fewer, bound, rest⟩ := ih behind
    rcases moves first next here with rfl | shorter
    · exact ⟨fewer, bound, rest⟩
    · exact ⟨fewer + 1, by omega, next, here, rest⟩

/-- A match ends where it begins or further on. -/
theorem Leads.forward {regex : Regex} {first last : Spot} (leads : regex.Leads first last) :
    last = first ∨ last.rest.length < first.rest.length := by
  induction regex generalizing first last with
  | empty => exact .inl leads
  | chars set =>
    obtain ⟨c, rest, here, _, rfl⟩ := leads
    rw [here, List.length_cons]
    exact .inr (Nat.lt_succ_self _)
  | look assertion => exact .inl leads.2
  | seq before behind beforeForward behindForward =>
    obtain ⟨middle, left, right⟩ := leads
    rcases behindForward right with rfl | further
    · exact beforeForward left
    · rcases beforeForward left with rfl | shorter
      · exact .inr further
      · exact .inr (Nat.lt_trans further shorter)
  | alt left right leftForward rightForward =>
    rcases leads with leads | leads
    · exact leftForward leads
    · exact rightForward leads
  | repeated body least most bodyForward =>
    obtain ⟨more, _, steps⟩ := leads
    exact steps.forward fun _ _ => bodyForward

/-! The search for a set of places, against the steps of one match. -/

variable {search : Spot → List Spot}

/-- The steps that a search takes. -/
abbrev Found (search : Spot → List Spot) (first last : Spot) : Prop :=
  last ∈ search first

/-- A set of places that a search does not leave holds all that it comes to. -/
theorem Times.mem_of_closed {places : List Spot}
    (closed : ∀ first ∈ places, ∀ last ∈ search first, last ∈ places) {count : Nat}
    {first last : Spot} (begun : first ∈ places) (steps : Times (Found search) count first last) :
    last ∈ places := by
  induction count generalizing first with
  | zero => exact steps ▸ begun
  | succ count ih =>
    obtain ⟨next, here, behind⟩ := steps
    exact ih (closed first begun next here) behind

/-- Where every place of a set comes from one of them, it does so by any number of steps. -/
theorem exists_times_of_onto {places : List Spot}
    (onto : ∀ last ∈ places, ∃ first ∈ places, last ∈ search first) (count : Nat) {last : Spot}
    (member : last ∈ places) : ∃ first ∈ places, Times (Found search) count first last := by
  induction count generalizing last with
  | zero => exact ⟨last, member, rfl⟩
  | succ count ih =>
    obtain ⟨middle, inside, found⟩ := onto last member
    obtain ⟨first, begun, steps⟩ := ih inside
    have joined : Times (Found search) (count + 1) first last :=
      (times_add count 1).2 ⟨middle, steps, last, found, rfl⟩
    exact ⟨first, begun, joined⟩

theorem mem_exactly_iff {count : Nat} {places : List Spot} {last : Spot} :
    last ∈ exactly search count places ↔ ∃ first ∈ places, Times (Found search) count first last := by
  induction count generalizing places with
  | zero => simp [exactly, Times]
  | succ count ih =>
    have once : ∀ middle, middle ∈ (places.flatMap search).eraseDups ↔
        ∃ first ∈ places, middle ∈ search first := by
      intro middle
      rw [List.mem_eraseDups, List.mem_flatMap]
    unfold exactly
    dsimp only
    split
    · -- The search stops early: another step would change nothing.
      next settled =>
      rw [settled] at once
      constructor
      · exact exists_times_of_onto (fun middle inside => (once middle).1 inside) (count + 1)
      · rintro ⟨first, member, steps⟩
        exact steps.mem_of_closed (fun first inside next found => (once next).2 ⟨first, inside, found⟩)
          member
    · rw [ih]
      simp only [once, Times]
      constructor
      · rintro ⟨middle, ⟨first, member, found⟩, steps⟩
        exact ⟨first, member, middle, found, steps⟩
      · rintro ⟨first, member, middle, found, steps⟩
        exact ⟨middle, ⟨first, member, found⟩, steps⟩

/-- The places still to be tried are among those found, and the steps from all others are done. -/
structure Frontier (search : Spot → List Spot) (fresh found : List Spot) : Prop where
  inside : ∀ place ∈ fresh, place ∈ found
  done : ∀ place ∈ found, place ∉ fresh → ∀ next ∈ search place, next ∈ found

/-- The places that a step from the fresh ones comes to for the first time. -/
def unseen (search : Spot → List Spot) (fresh found : List Spot) : List Spot :=
  ((fresh.flatMap search).eraseDups).filter fun place => !found.contains place

theorem mem_unseen {fresh found : List Spot} {place : Spot} :
    place ∈ unseen search fresh found ↔ (∃ first ∈ fresh, place ∈ search first) ∧ place ∉ found := by
  rw [unseen, List.mem_filter, List.mem_eraseDups, List.mem_flatMap]
  simp

theorem reach_succ (rounds : Nat) (fresh found : List Spot) :
    reach search (rounds + 1) fresh found =
      if unseen search fresh found = [] then found
      else reach search rounds (unseen search fresh found) (found ++ unseen search fresh found) :=
  rfl

/-- A step from a place that was found comes to a place that was, or that is now. -/
theorem Frontier.closed {fresh found : List Spot} (frontier : Frontier search fresh found) :
    ∀ first ∈ found, ∀ next ∈ search first, next ∈ found ++ unseen search fresh found := by
  intro first member next step
  by_cases old : next ∈ found
  · exact List.mem_append_left _ old
  · refine List.mem_append_right _ (mem_unseen.2 ⟨⟨first, ?_, step⟩, old⟩)
    refine Classical.byContradiction fun tried => old ?_
    exact frontier.done first member tried next step

theorem Frontier.advance {fresh found : List Spot} (frontier : Frontier search fresh found) :
    Frontier search (unseen search fresh found) (found ++ unseen search fresh found) where
  inside := fun _ member => List.mem_append_right _ member
  done := by
    intro place member tried
    rcases List.mem_append.1 member with old | new
    · exact frontier.closed place old
    · exact absurd new tried

theorem mem_reach_iff {rounds : Nat} {fresh found : List Spot} {last : Spot}
    (frontier : Frontier search fresh found) :
    last ∈ reach search rounds fresh found ↔
      ∃ first ∈ found, ∃ count ≤ rounds, Times (Found search) count first last := by
  induction rounds generalizing fresh found with
  | zero =>
    constructor
    · intro member
      exact ⟨last, member, 0, Nat.le_refl 0, rfl⟩
    · rintro ⟨first, member, count, bound, steps⟩
      obtain rfl := Nat.le_zero.1 bound
      exact (show last = first from steps) ▸ member
  | succ rounds ih =>
    rw [reach_succ]
    split
    · -- Nothing new is found, so the places found are closed under steps.
      next nothing =>
      have closed := frontier.closed
      rw [nothing, List.append_nil] at closed
      constructor
      · intro member
        exact ⟨last, member, 0, Nat.zero_le _, rfl⟩
      · rintro ⟨first, member, count, _, steps⟩
        exact steps.mem_of_closed closed member
    · rw [ih frontier.advance]
      constructor
      · rintro ⟨first, member, count, bound, steps⟩
        rcases List.mem_append.1 member with old | new
        · exact ⟨first, old, count, Nat.le_succ_of_le bound, steps⟩
        · obtain ⟨⟨before, begun, step⟩, _⟩ := mem_unseen.1 new
          exact ⟨before, frontier.inside before begun, count + 1, Nat.succ_le_succ bound,
            first, step, steps⟩
      · rintro ⟨first, member, count, bound, steps⟩
        cases count with
        | zero => exact ⟨first, List.mem_append_left _ member, 0, Nat.zero_le _, steps⟩
        | succ count =>
          obtain ⟨middle, step, behind⟩ := steps
          exact ⟨middle, frontier.closed first member middle step, count,
            Nat.le_of_succ_le_succ bound, behind⟩

/-- The search finds exactly the places at which a match can end. -/
theorem mem_ends_iff {regex : Regex} {first last : Spot} :
    last ∈ regex.ends first ↔ regex.Leads first last := by
  induction regex generalizing first last with
  | empty => simp [ends, Leads]
  | chars set =>
    unfold ends Leads
    cases first.rest with
    | nil => simp
    | cons c rest =>
      simp only [List.cons.injEq]
      by_cases member : set.contains c = true
      · rw [if_pos member, List.mem_singleton]
        constructor
        · intro same
          exact ⟨c, rest, ⟨rfl, rfl⟩, member, same⟩
        · rintro ⟨_, _, ⟨rfl, rfl⟩, _, same⟩
          exact same
      · rw [if_neg member]
        constructor
        · exact nofun
        · rintro ⟨_, _, ⟨rfl, rfl⟩, matched, _⟩
          exact absurd matched member
  | look assertion =>
    by_cases holds : assertion.holds first = true <;> simp [ends, Leads, holds]
  | seq before behind beforeEnds behindEnds =>
    simp only [ends, Leads, List.mem_eraseDups, List.mem_flatMap, beforeEnds, behindEnds]
  | alt left right leftEnds rightEnds =>
    simp only [ends, Leads, List.mem_eraseDups, List.mem_append, leftEnds, rightEnds]
  | repeated body least most bodyEnds =>
    have steps : Found body.ends = body.Leads := by
      funext first last
      exact propext bodyEnds
    have moves : ∀ first last, body.Leads first last →
        last = first ∨ last.rest.length < first.rest.length := fun _ _ => Leads.forward
    have base : ∀ place, place ∈ exactly body.ends least [first] ↔
        Times body.Leads least first place := by
      intro place
      rw [mem_exactly_iff, steps]
      simp
    unfold ends Leads
    dsimp only
    rw [mem_reach_iff ⟨fun _ member => member, fun _ member new => absurd member new⟩, steps]
    simp only [base, times_add]
    cases most with
    | some bound =>
      dsimp only
      constructor
      · rintro ⟨middle, before, more, bounded, behind⟩
        exact ⟨more, fun other same => Option.some.inj same ▸ bounded, middle, before, behind⟩
      · rintro ⟨more, bounded, middle, before, behind⟩
        exact ⟨middle, before, more, bounded bound rfl, behind⟩
    | none =>
      dsimp only
      constructor
      · rintro ⟨middle, before, more, _, behind⟩
        exact ⟨more, nofun, middle, before, behind⟩
      · rintro ⟨more, _, middle, before, behind⟩
        obtain ⟨fewer, bounded, again⟩ := behind.shorten moves
        refine ⟨middle, before, fewer, ?_, again⟩
        rcases before.forward moves with rfl | shorter
        · exact Nat.le_succ_of_le bounded
        · omega

/-- Only the first place of a text has nothing before it. -/
theorem eq_of_mem_from {before : Option Char} {text : List Char} {place : Spot}
    (member : place ∈ Spot.from? before text) (first : place.before = none) :
    place = ⟨before, text⟩ := by
  induction text generalizing before with
  | nil => exact List.mem_singleton.1 member
  | cons c rest ih =>
    rcases List.mem_cons.1 member with same | later
    · exact same
    · have impossible := ih later
      rw [impossible] at first
      cases first

theorem mem_from_self (before : Option Char) (text : List Char) :
    (⟨before, text⟩ : Spot) ∈ Spot.from? before text := by
  cases text with
  | nil => exact List.mem_singleton.2 rfl
  | cons c rest => exact List.mem_cons_self

theorem isMatch_iff {regex : Regex} {token : String} :
    regex.isMatch token = true ↔
      ∃ first ∈ Spot.all token.toList, ∃ last, regex.Leads first last := by
  unfold isMatch
  rw [List.any_eq_true]
  refine exists_congr fun first => and_congr_right fun _ => ?_
  rw [Bool.not_eq_true', List.isEmpty_eq_false_iff_exists_mem]
  exact exists_congr fun last => mem_ends_iff

/-- Between the two anchors a pattern matches whole tokens only. -/
theorem isMatch_anchored_iff {regex : Regex} {token : String} :
    (seq empty (seq (look .textStart) (seq regex (look .textEnd)))).isMatch token = true ↔
      regex.Covers token := by
  rw [isMatch_iff]
  constructor
  · rintro ⟨_, member, last, _, rfl, first, ⟨starts, rfl⟩, _, leads, ends, rfl⟩
    have begins : first.before = none := by simpa [Look.holds] using starts
    rw [eq_of_mem_from member begins] at leads
    exact ⟨last, leads, by simpa [Look.holds] using ends⟩
  · rintro ⟨last, leads, ends⟩
    refine ⟨Spot.start token.toList, mem_from_self none token.toList, last, _, rfl, _, ⟨rfl, rfl⟩,
      last, leads, ?_, rfl⟩
    simp [Look.holds, ends]

end Regex

end LayerAtlas
