import Mathlib.Logic.Relation
import Orthography.Pattern.Search
import Orthography.Proofs.Pattern.Matches

/-!
# The search finds what matches

The search moves sets of positions through a text.  Each pattern moves them along a relation between
positions: it matches the part of the text from one to the other (`Pattern.Spans`).  A move is right
if a position is marked after it exactly when the relation leads there from a position that was marked
before (`Pattern.MovesAlong`).

This is shown constructor by constructor.  A sequence composes relations, an alternative unites them,
and a repetition goes along the reflexive and transitive closure of the relation of its body.  The last
one needs that the rounds suffice: every round but the last marks a position that was not marked
(`Pattern.Positions.count_union_lt`), so there are never more rounds than positions without a mark
(`Pattern.Positions.marked_close_of_step`).

It follows that a pattern is found in a text exactly when it matches some part of the text
(`Pattern.occursIn_iff`).
-/

namespace Orthography.Pattern

set_option autoImplicit false

variable {text : List Char} {start middle stop : Nat}

/-! ## Matches between two positions -/

/-- A pattern matches the part of a text between two positions. -/
def Spans (pattern : Expr) (text : List Char) (start stop : Nat) : Prop :=
  ∃ before matched after, text = before ++ matched ++ after ∧ before.length = start ∧
    (before ++ matched).length = stop ∧ Matches pattern before matched after

/-- The two positions are in the text, in their order. -/
theorem Spans.bounds {pattern : Expr} (spans : Spans pattern text start stop) :
    start ≤ stop ∧ stop ≤ text.length := by
  obtain ⟨before, matched, after, rfl, rfl, rfl, -⟩ := spans
  simp

theorem spans_empty_iff : Spans .empty text start stop ↔ start = stop ∧ start ≤ text.length := by
  constructor
  · rintro ⟨before, matched, after, rfl, rfl, rfl, found⟩
    simp [matches_empty_iff.mp found]
  · rintro ⟨rfl, inside⟩
    exact ⟨text.take start, [], text.drop start, by simp, by simp [inside], by simp [inside],
      .empty _ _⟩

theorem spans_one_iff {set : CharSet} :
    Spans (.one set) text start stop ↔
      stop = start + 1 ∧ ∃ c, text[start]? = some c ∧ set.contains c.toNat = true := by
  constructor
  · rintro ⟨before, matched, after, rfl, rfl, rfl, found⟩
    obtain ⟨c, rfl, member⟩ := matches_one_iff.mp found
    exact ⟨by simp, c, by simp, member⟩
  · rintro ⟨rfl, c, here, member⟩
    obtain ⟨inside, rfl⟩ := List.getElem?_eq_some_iff.mp here
    refine ⟨text.take start, [text[start]], text.drop (start + 1), ?_, ?_, ?_,
      .one _ _ member⟩
    · rw [List.append_assoc, List.singleton_append, List.getElem_cons_drop, List.take_append_drop]
    · simp [Nat.le_of_lt inside]
    · rw [List.length_append, List.length_take_of_le (Nat.le_of_lt inside), List.length_singleton]

theorem spans_at_iff {place : Place} :
    Spans (.at place) text start stop ↔
      start = stop ∧ start ≤ text.length ∧
        place.holds (text.take start).getLast? (text.drop start).head? = true := by
  constructor
  · rintro ⟨before, matched, after, rfl, rfl, rfl, found⟩
    obtain ⟨rfl, here⟩ := matches_at_iff.mp found
    simpa using here
  · rintro ⟨rfl, inside, here⟩
    exact ⟨text.take start, [], text.drop start, by simp, by simp [inside], by simp [inside],
      .at _ _ here⟩

theorem spans_alt_iff {first second : Expr} :
    Spans (.alt first second) text start stop ↔
      Spans first text start stop ∨ Spans second text start stop := by
  simp only [Spans, matches_alt_iff, and_or_left, exists_or]

/-- A match that starts where another one stops continues it. -/
theorem Spans.exists_parts {first second : Expr} (left : Spans first text start middle)
    (right : Spans second text middle stop) :
    ∃ before one two after, text = before ++ (one ++ two) ++ after ∧ before.length = start ∧
      (before ++ (one ++ two)).length = stop ∧ Matches first before one (two ++ after) ∧
        Matches second (before ++ one) two after := by
  obtain ⟨before, one, rest, whole, rfl, rfl, leftMatch⟩ := left
  obtain ⟨front, two, after, again, length, rfl, rightMatch⟩ := right
  rw [whole, List.append_assoc front] at again
  obtain ⟨rfl, rfl⟩ := List.append_inj again length.symm
  exact ⟨before, one, two, after, by simp [whole], rfl, by simp, leftMatch, rightMatch⟩

theorem spans_seq_iff {first second : Expr} :
    Spans (.seq first second) text start stop ↔
      ∃ middle, Spans first text start middle ∧ Spans second text middle stop := by
  constructor
  · rintro ⟨before, matched, after, rfl, rfl, rfl, found⟩
    obtain ⟨one, two, rfl, leftMatch, rightMatch⟩ := matches_seq_iff.mp found
    exact ⟨(before ++ one).length, ⟨before, one, two ++ after, by simp, rfl, rfl, leftMatch⟩,
      ⟨before ++ one, two, after, by simp, rfl, by simp, rightMatch⟩⟩
  · rintro ⟨middle, left, right⟩
    obtain ⟨before, one, two, after, whole, opens, closes, leftMatch, rightMatch⟩ :=
      left.exists_parts right
    exact ⟨before, one ++ two, after, whole, opens, closes, .seq leftMatch rightMatch⟩

/-- The parts of a repetition lead from its first position to its last one. -/
theorem reflTransGen_of_matches {body : Expr} {before matched after : List Char}
    (found : Matches (.star body) before matched after) :
    Relation.ReflTransGen (Spans body (before ++ matched ++ after)) before.length
      (before ++ matched).length := by
  -- the induction is on the match, whose pattern has to be a variable
  generalize repetition : Expr.star body = pattern at found
  induction found with
  | starNone before after => simpa using Relation.ReflTransGen.refl
  | @starMore _ before left right after leftMatch _ _ ih =>
    obtain rfl := Expr.star.inj repetition
    have first : Spans body (before ++ (left ++ right) ++ after) before.length
        (before ++ left).length := ⟨before, left, right ++ after, by simp, rfl, rfl, leftMatch⟩
    have others := ih rfl
    simp only [List.append_assoc] at first others ⊢
    exact Relation.ReflTransGen.head first others
  | empty => cases repetition
  | one => cases repetition
  | «at» => cases repetition
  | seq => cases repetition
  | altLeft => cases repetition
  | altRight => cases repetition

theorem spans_star_iff {body : Expr} :
    Spans (.star body) text start stop ↔
      start ≤ text.length ∧ Relation.ReflTransGen (Spans body text) start stop := by
  constructor
  · rintro ⟨before, matched, after, rfl, rfl, rfl, found⟩
    exact ⟨by simp, reflTransGen_of_matches found⟩
  · rintro ⟨inside, chain⟩
    -- from the end of the chain, so that every step stands in front of a repetition
    induction chain using Relation.ReflTransGen.head_induction_on with
    | refl =>
      exact ⟨text.take stop, [], text.drop stop, by simp, by simp [inside], by simp [inside],
        .starNone _ _⟩
    | head step _ ih =>
      obtain ⟨before, one, two, after, whole, opens, closes, leftMatch, rightMatch⟩ :=
        step.exists_parts (ih step.bounds.2)
      exact ⟨before, one ++ two, after, whole, opens, closes, .starMore leftMatch rightMatch⟩

/-! ## Marks -/

namespace Positions

/-- A position is in the set. -/
def Marked (marks : Positions) (position : Nat) : Prop :=
  marks[position]? = some true

/-- The set is one of positions of the text. -/
def Fits (text : List Char) (marks : Positions) : Prop :=
  marks.length = text.length + 1

variable {marks others : Positions} {position : Nat}

/-- A marked position is in the text. -/
theorem Marked.le_length (marked : Marked marks position) (fits : Fits text marks) :
    position ≤ text.length := by
  obtain ⟨inside, -⟩ := List.getElem?_eq_some_iff.mp marked
  unfold Fits at fits
  omega

theorem fits_union (fits : Fits text marks) (fit : Fits text others) :
    Fits text (union marks others) := by
  simp_all [Fits, union]

theorem fits_inter (fits : Fits text marks) (fit : Fits text others) :
    Fits text (inter marks others) := by
  simp_all [Fits, inter]

theorem fits_all (text : List Char) : Fits text (all text) := by
  simp [Fits, all]

theorem fits_shift (set : CharSet) (fits : Fits text marks) : Fits text (shift set text marks) := by
  simp_all [Fits, shift]

theorem length_ofPlace (place : Place) (before : Option Char) (text : List Char) :
    (ofPlace place before text).length = text.length + 1 := by
  induction text generalizing before with
  | nil => rfl
  | cons c rest ih => simp [ofPlace, ih]

theorem marked_union (fits : Fits text marks) (fit : Fits text others) :
    Marked (union marks others) position ↔ Marked marks position ∨ Marked others position := by
  have lengths : marks.length = others.length := fits.trans fit.symm
  rw [Marked, Marked, Marked, union, List.getElem?_zipWith]
  by_cases inside : position < marks.length
  · have there : position < others.length := lengths ▸ inside
    simp [List.getElem?_eq_getElem inside, List.getElem?_eq_getElem there]
  · have beyond : ¬ position < others.length := lengths ▸ inside
    simp [inside, beyond]

theorem marked_inter :
    Marked (inter marks others) position ↔ Marked marks position ∧ Marked others position := by
  simp only [Marked, inter, List.getElem?_zipWith]
  cases marks[position]? <;> cases others[position]? <;> simp

theorem marked_all : Marked (all text) position ↔ position ≤ text.length := by
  cases position with
  | zero => simp [Marked, all]
  | succ position =>
    rw [Nat.succ_le_iff]
    by_cases inside : position < text.length <;> simp [Marked, all, inside]

/-- The places of a text that stands behind another one. -/
theorem marked_ofPlace {place : Place} (front : List Char) :
    Marked (ofPlace place front.getLast? text) position ↔
      position ≤ text.length ∧
        place.holds (front ++ text.take position).getLast? (text.drop position).head? = true := by
  induction text generalizing front position with
  | nil => cases position <;> simp [Marked, ofPlace]
  | cons c rest ih =>
    cases position with
    | zero => simp [Marked, ofPlace]
    | succ position =>
      have further : Marked (ofPlace place (front ++ [c]).getLast? rest) position ↔ _ :=
        ih (front ++ [c])
      rw [List.getLast?_concat] at further
      simpa [Marked, ofPlace] using further

theorem marked_shift {set : CharSet} :
    Marked (shift set text marks) stop ↔
      ∃ start, Marked marks start ∧ stop = start + 1 ∧
        ∃ c, text[start]? = some c ∧ set.contains c.toNat = true := by
  cases stop with
  | zero => simp [Marked, shift]
  | succ start =>
    have here : Marked (shift set text marks) (start + 1) ↔
        Marked marks start ∧ ∃ c, text[start]? = some c ∧ set.contains c.toNat = true := by
      simp only [Marked, shift, List.getElem?_cons_succ, List.getElem?_zipWith]
      cases marks[start]? <;> cases text[start]? <;> simp
    rw [here]
    constructor
    · rintro ⟨marked, member⟩
      exact ⟨start, marked, rfl, member⟩
    · rintro ⟨other, marked, same, member⟩
      obtain rfl := Nat.succ.inj same
      exact ⟨marked, member⟩

/-- A set that gains positions from another one has fewer positions without a mark. -/
theorem count_union_lt (lengths : marks.length = others.length)
    (more : union marks others ≠ marks) :
    (union marks others).count false < marks.count false := by
  induction marks generalizing others with
  | nil => exact absurd rfl more
  | cons mark rest ih =>
    obtain ⟨other, further, rfl⟩ := List.exists_cons_of_length_eq_add_one lengths.symm
    have lengths' : rest.length = further.length := Nat.succ.inj lengths
    have tail : (union rest further).count false ≤ rest.count false := by
      by_cases same : union rest further = rest
      · exact Nat.le_of_eq (congrArg (List.count false) same)
      · exact Nat.le_of_lt (ih lengths' same)
    have whole : union (mark :: rest) (other :: further) = (mark || other) :: union rest further :=
      rfl
    rw [whole] at more ⊢
    -- only a position that gets its mark here may leave the rest as it is
    cases mark with
    | true =>
      have gained : union rest further ≠ rest := by simpa using more
      simpa using ih lengths' gained
    | false =>
      cases other with
      | true => simpa using Nat.lt_succ_of_le tail
      | false =>
        have gained : union rest further ≠ rest := by simpa using more
        simpa using ih lengths' gained

end Positions

open Positions

/-! ## Moves along a relation -/

/-- A move leads from the positions of a set to those that are related to one of them. -/
structure MovesAlong (text : List Char) (move : Positions → Positions)
    (step : Nat → Nat → Prop) : Prop where
  fits : ∀ {marks}, Fits text marks → Fits text (move marks)
  marked_iff : ∀ {marks stop}, Fits text marks →
    (Marked (move marks) stop ↔ ∃ start, Marked marks start ∧ step start stop)

namespace MovesAlong

variable {move : Positions → Positions} {step : Nat → Nat → Prop} {marks : Positions}

/-- Only what the relation says about positions of the text matters. -/
theorem congr {other : Nat → Nat → Prop} (along : MovesAlong text move step)
    (same : ∀ start stop, start ≤ text.length → (other start stop ↔ step start stop)) :
    MovesAlong text move other := by
  refine ⟨along.fits, fun {marks stop} fits => (along.marked_iff fits).trans ?_⟩
  constructor
  · rintro ⟨start, marked, related⟩
    exact ⟨start, marked, (same start stop (marked.le_length fits)).mpr related⟩
  · rintro ⟨start, marked, related⟩
    exact ⟨start, marked, (same start stop (marked.le_length fits)).mp related⟩

/-- One move after the other goes along one relation and then the other. -/
theorem comp {next : Positions → Positions} {further : Nat → Nat → Prop}
    (along : MovesAlong text move step) (onward : MovesAlong text next further) :
    MovesAlong text (fun marks => next (move marks))
      (fun start stop => ∃ middle, step start middle ∧ further middle stop) := by
  refine ⟨fun fits => onward.fits (along.fits fits), fun {marks stop} fits => ?_⟩
  rw [onward.marked_iff (along.fits fits)]
  constructor
  · rintro ⟨middle, marked, second⟩
    obtain ⟨start, origin, first⟩ := (along.marked_iff fits).mp marked
    exact ⟨start, origin, middle, first, second⟩
  · rintro ⟨start, origin, middle, first, second⟩
    exact ⟨middle, (along.marked_iff fits).mpr ⟨start, origin, first⟩, second⟩

/-- The results of two moves together go along either relation. -/
theorem union {next : Positions → Positions} {further : Nat → Nat → Prop}
    (along : MovesAlong text move step) (onward : MovesAlong text next further) :
    MovesAlong text (fun marks => Positions.union (move marks) (next marks))
      (fun start stop => step start stop ∨ further start stop) := by
  refine ⟨fun fits => fits_union (along.fits fits) (onward.fits fits), fun {marks stop} fits => ?_⟩
  rw [marked_union (along.fits fits) (onward.fits fits), along.marked_iff fits,
    onward.marked_iff fits]
  simp only [and_or_left, exists_or]

/-- To stay is to move along equality. -/
theorem stay : MovesAlong text id (fun start stop => start = stop) :=
  ⟨fun fits => fits, fun _ => by simp⟩

/-! ### Repetitions -/

/-- One round of a repetition stays or goes along the relation. -/
theorem round (along : MovesAlong text move step) :
    MovesAlong text (fun marks => Positions.union marks (move marks))
      (fun start stop => start = stop ∨ step start stop) :=
  stay.union along

theorem fits_close (along : MovesAlong text move step) (fits : Fits text marks) (fuel : Nat) :
    Fits text (close move fuel marks) := by
  induction fuel generalizing marks with
  | zero => exact fits
  | succ fuel ih =>
    rw [close]
    split
    · exact fits
    · exact ih (along.round.fits fits)

/-- What is marked stays marked. -/
theorem marked_close (along : MovesAlong text move step) (fits : Fits text marks) (fuel : Nat)
    (marked : Marked marks start) : Marked (close move fuel marks) start := by
  induction fuel generalizing marks with
  | zero => exact marked
  | succ fuel ih =>
    rw [close]
    split
    · exact marked
    · exact ih (along.round.fits fits)
        ((along.round.marked_iff fits).mpr ⟨start, marked, Or.inl rfl⟩)

/-- What comes to be marked is reached by steps. -/
theorem exists_of_marked_close (along : MovesAlong text move step) (fits : Fits text marks)
    (fuel : Nat) (marked : Marked (close move fuel marks) stop) :
    ∃ start, Marked marks start ∧ Relation.ReflTransGen step start stop := by
  induction fuel generalizing marks with
  | zero => exact ⟨stop, marked, .refl⟩
  | succ fuel ih =>
    rw [close] at marked
    split at marked
    · exact ⟨stop, marked, .refl⟩
    · obtain ⟨middle, found, chain⟩ := ih (along.round.fits fits) marked
      obtain ⟨start, origin, stays | moves⟩ := (along.round.marked_iff fits).mp found
      · exact ⟨start, origin, stays ▸ chain⟩
      · exact ⟨start, origin, .head moves chain⟩

/-- With fuel for every position that is not marked, a step from a marked position leads to a marked
one in the end. -/
theorem marked_close_of_step (along : MovesAlong text move step) (fits : Fits text marks)
    {fuel : Nat} (enough : marks.count false ≤ fuel)
    (marked : Marked (close move fuel marks) start) (further : step start stop) :
    Marked (close move fuel marks) stop := by
  induction fuel generalizing marks with
  | zero =>
    -- every position is marked already
    have moved : Marked (move marks) stop :=
      (along.marked_iff fits).mpr ⟨start, marked, further⟩
    have inside : stop < marks.length := by
      rw [fits]
      exact Nat.lt_succ_of_le (moved.le_length (along.fits fits))
    have full : false ∉ marks := List.count_eq_zero.mp (Nat.le_zero.mp enough)
    have member : marks[stop] ∈ marks := List.getElem_mem inside
    show marks[stop]? = some true
    rw [List.getElem?_eq_getElem inside]
    cases value : marks[stop] with
    | true => rfl
    | false => exact absurd (value ▸ member) full
  | succ fuel ih =>
    rw [close] at marked ⊢
    split at marked
    · next same =>
      -- the rounds are over: the set is closed under steps already
      rw [if_pos same, ← same]
      exact (along.round.marked_iff fits).mpr ⟨start, marked, Or.inr further⟩
    · next more =>
      rw [if_neg more]
      have lengths : marks.length = (move marks).length := fits.trans (along.fits fits).symm
      have fewer := count_union_lt lengths more
      exact ih (along.round.fits fits) (by omega) marked

/-- **A repetition goes along the reflexive and transitive closure.** -/
theorem close (along : MovesAlong text move step) :
    MovesAlong text (Positions.close move (text.length + 1)) (Relation.ReflTransGen step) := by
  refine ⟨fun fits => along.fits_close fits _, fun {marks stop} fits => ?_⟩
  constructor
  · exact along.exists_of_marked_close fits _
  · rintro ⟨start, marked, chain⟩
    have enough : marks.count false ≤ text.length + 1 := by
      rw [← fits]
      exact List.count_le_length
    induction chain with
    | refl => exact along.marked_close fits _ marked
    | tail _ further ih => exact along.marked_close_of_step fits enough ih further

end MovesAlong

/-! ## Patterns -/

/-- **A pattern moves positions along the parts of the text that it matches.** -/
theorem movesAlong (pattern : Expr) (text : List Char) :
    MovesAlong text (pattern.move text) (Spans pattern text) := by
  induction pattern with
  | empty => exact MovesAlong.stay.congr fun start stop inside => by simp [spans_empty_iff, inside]
  | one set =>
    refine ⟨fun fits => fits_shift set fits, fun fits => ?_⟩
    simp only [Expr.move, marked_shift, spans_one_iff]
  | «at» place =>
    have places : Fits text (ofPlace place none text) := length_ofPlace place none text
    refine ⟨fun fits => fits_inter fits places, fun {marks stop} fits => ?_⟩
    have here : Marked (ofPlace place none text) stop ↔
        stop ≤ text.length ∧
          place.holds (text.take stop).getLast? (text.drop stop).head? = true := marked_ofPlace []
    rw [Expr.move, marked_inter, here]
    constructor
    · rintro ⟨marked, placed⟩
      exact ⟨stop, marked, spans_at_iff.mpr ⟨rfl, placed⟩⟩
    · rintro ⟨start, marked, spans⟩
      obtain ⟨rfl, placed⟩ := spans_at_iff.mp spans
      exact ⟨marked, placed⟩
  | seq first second one two =>
    exact (one.comp two).congr fun start stop _ => spans_seq_iff
  | alt first second one two =>
    exact (one.union two).congr fun start stop _ => spans_alt_iff
  | star body ih =>
    exact ih.close.congr fun start stop inside => by rw [spans_star_iff, and_iff_right inside]

/-- **A pattern is found in a text exactly when it matches some part of it.** -/
theorem occursIn_iff (pattern : Expr) (text : List Char) :
    pattern.occursIn text = true ↔ Occurs pattern text := by
  have marked (stop : Nat) : Marked (pattern.move text (all text)) stop ↔
      ∃ start, Marked (all text) start ∧ Spans pattern text start stop :=
    (movesAlong pattern text).marked_iff (fits_all text)
  have found : pattern.occursIn text = true ↔
      ∃ stop, Marked (pattern.move text (all text)) stop := by
    simp [Expr.occursIn, Marked, List.mem_iff_getElem?]
  rw [found]
  constructor
  · rintro ⟨stop, here⟩
    obtain ⟨start, -, before, matched, after, whole, -, -, fits⟩ := (marked stop).mp here
    exact ⟨before, matched, after, whole, fits⟩
  · rintro ⟨before, matched, after, whole, fits⟩
    have spans : Spans pattern text before.length (before ++ matched).length :=
      ⟨before, matched, after, whole, rfl, rfl, fits⟩
    have inside : before.length ≤ text.length := Nat.le_trans spans.bounds.1 spans.bounds.2
    exact ⟨_, (marked _).mpr ⟨before.length, marked_all.mpr inside, spans⟩⟩

end Orthography.Pattern
