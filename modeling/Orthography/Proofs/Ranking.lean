import Orthography.Proofs.Checker
import Orthography.Proofs.Lexicon.Reachable

/-!
# The order of corrections

Ranking sorts elements by their numbers and leaves those with the same number in their order
(`Checker.filter_ranking`).  So elements that come in some order are ranked by number first and by that
order second (`Checker.pairwise_ranking`).

The entries of a lexicon come in ascending order of their keys, so entries are ranked by number first
and by key second (`Checker.pairwise_outranks`).  Therefore the corrections for a word are the first
ones of its near entries in the order of distance and key (`Checker.Precedes`), up to the greatest
number of suggestions; and when nothing is near, the entry with the smallest key is
offered, an accepted one if there is any (`Checker.check_ranks`).
-/

namespace Orthography.Checker

set_option autoImplicit false

/-! ## Ranking is stable -/

section Ranking

variable {α : Type} (scored : List (Nat × α))

/-- Elements with their numbers, in the order in which they are ranked. -/
def ranking : List (Nat × α) :=
  scored.mergeSort fun first second => first.1 ≤ second.1

theorem ranked_eq_map_ranking : ranked scored = (ranking scored).map Prod.snd :=
  rfl

theorem perm_ranking : (ranking scored).Perm scored :=
  List.mergeSort_perm scored _

theorem ranking_trans (first second third : Nat × α) :
    decide (first.1 ≤ second.1) = true → decide (second.1 ≤ third.1) = true →
      decide (first.1 ≤ third.1) = true := by
  simp only [decide_eq_true_eq]
  exact Nat.le_trans

theorem ranking_total (first second : Nat × α) :
    (decide (first.1 ≤ second.1) || decide (second.1 ≤ first.1)) = true := by
  simp only [Bool.or_eq_true, decide_eq_true_eq]
  exact Nat.le_total first.1 second.1

/-- Ranked elements are in ascending order of their numbers. -/
theorem pairwise_le_ranking :
    (ranking scored).Pairwise fun first second => first.1 ≤ second.1 := by
  have sorted := List.pairwise_mergeSort ranking_trans ranking_total scored
  exact sorted.imp of_decide_eq_true

/-- **Elements with the same number stay in their order.** -/
theorem filter_ranking (score : Nat) :
    (ranking scored).filter (fun pair => pair.1 = score)
      = scored.filter fun pair => pair.1 = score := by
  -- The elements with the number are in order among themselves, so sorting keeps them as they are.
  have alike : (scored.filter fun pair => pair.1 = score).Pairwise
      fun first second => decide (first.1 ≤ second.1) = true := by
    refine List.pairwise_of_forall_mem_list fun first here second there => ?_
    have left := (List.mem_filter.mp here).2
    have right := (List.mem_filter.mp there).2
    simp only [decide_eq_true_eq] at left right ⊢
    rw [left, right]
  have kept : (scored.filter fun pair => pair.1 = score).Sublist (ranking scored) :=
    List.sublist_mergeSort ranking_trans ranking_total alike List.filter_sublist
  have inside := kept.filter fun pair => pair.1 = score
  rw [List.filter_filter] at inside
  simp only [Bool.and_self] at inside
  exact (inside.eq_of_length ((perm_ranking scored).filter _).length_eq.symm).symm

/-- **Elements that come in some order are ranked by number, and by that order where numbers are the
same.** -/
theorem pairwise_ranking (before : α → α → Prop)
    (ordered : scored.Pairwise fun first second => before first.2 second.2) :
    (ranking scored).Pairwise fun first second =>
      first.1 < second.1 ∨ first.1 = second.1 ∧ before first.2 second.2 := by
  refine List.pairwise_iff_forall_sublist.mpr fun {first second} inside => ?_
  have le := List.pairwise_iff_forall_sublist.mp (pairwise_le_ranking scored) inside
  rcases Nat.lt_or_eq_of_le le with less | same
  · exact .inl less
  · have both := inside.filter fun pair => pair.1 = second.1
    rw [filter_ranking] at both
    simp only [same, List.filter_cons, decide_true, if_true, List.filter_nil] at both
    have order := List.pairwise_iff_forall_sublist.mp ordered (both.trans List.filter_sublist)
    exact .inr ⟨same, order⟩

/-- What is done to ranked elements can be done before ranking them. -/
theorem ranked_map {β : Type} (change : α → β) :
    ranked (scored.map fun pair => (pair.1, change pair.2)) = (ranked scored).map change := by
  have sorted := List.map_mergeSort (l := scored) (f := fun pair => (pair.1, change pair.2))
    (r := fun first second => first.1 ≤ second.1) (s := fun first second => first.1 ≤ second.1)
    fun _ _ _ _ => rfl
  rw [ranked, ranked, ← sorted, List.map_map, List.map_map]
  rfl

/-- Of elements in some order, the first ones come before those that are left out. -/
theorem before_of_not_mem_take {before : α → α → Prop} {ordered : List α}
    (sorted : ordered.Pairwise before) {count : Nat} {first last : α}
    (taken : first ∈ ordered.take count) (member : last ∈ ordered)
    (left : last ∉ ordered.take count) : before first last := by
  have split := List.take_append_drop count ordered
  have later : last ∈ ordered.drop count := by
    rw [← split] at member
    exact (List.mem_append.mp member).resolve_left left
  rw [← split] at sorted
  exact (List.pairwise_append.mp sorted).2.2 first taken last later

end Ranking

/-! ## Entries with numbers -/

section Numbered

variable {number : Entry → Nat} {entries : List Entry}

/-- One entry outranks another one: its number is smaller, or it is the same and its key is smaller. -/
def Outranks (number : Entry → Nat) (first second : Entry) : Prop :=
  number first < number second ∨ number first = number second ∧ first.key < second.key

instance (number : Entry → Nat) (first second : Entry) : Decidable (Outranks number first second) :=
  inferInstanceAs (Decidable (_ ∨ _ ∧ _))

/-- Of two entries at most one outranks the other. -/
theorem Outranks.asymm {first second : Entry} (outranks : Outranks number first second) :
    ¬ Outranks number second first := by
  rintro (less | ⟨same, greater⟩)
  · rcases outranks with other | ⟨same, -⟩ <;> omega
  · rcases outranks with other | ⟨-, less⟩
    · omega
    · exact String.lt_irrefl _ (String.lt_trans less greater)

/-- An entry that outranks another one has no greater number. -/
theorem Outranks.le {first second : Entry} (outranks : Outranks number first second) :
    number first ≤ number second := by
  rcases outranks with less | ⟨same, -⟩
  · exact Nat.le_of_lt less
  · exact Nat.le_of_eq same

/-- Ranking leaves out no entry and adds none. -/
theorem perm_ranked_map (number : Entry → Nat) (entries : List Entry) :
    (ranked (entries.map fun entry => (number entry, entry))).Perm entries := by
  have perm := (perm_ranking (entries.map fun entry => (number entry, entry))).map Prod.snd
  rw [List.map_map] at perm
  exact perm.trans (.of_eq (List.map_id _))

/-- **Entries in ascending order of their keys are ranked by number and key.** -/
theorem pairwise_outranks
    (ascending : entries.Pairwise fun first second => first.key < second.key) :
    (ranked (entries.map fun entry => (number entry, entry))).Pairwise (Outranks number) := by
  have ordered : (entries.map fun entry => (number entry, entry)).Pairwise
      fun first second => first.2.key < second.2.key := List.pairwise_map.mpr ascending
  have sorted := pairwise_ranking _ (fun first second : Entry => first.key < second.key) ordered
  rw [ranked_eq_map_ranking, List.pairwise_map]
  refine sorted.imp_of_mem fun {first second} here there order => ?_
  -- The number of a ranked entry is that of the entry.
  have numbered {pair : Nat × Entry}
      (member : pair ∈ ranking (entries.map fun entry => (number entry, entry))) :
      number pair.2 = pair.1 := by
    rw [(perm_ranking _).mem_iff] at member
    obtain ⟨entry, -, rfl⟩ := List.mem_map.mp member
    rfl
  rw [Outranks, numbered here, numbered there]
  exact order

/-- Entries in ascending order of their keys have different keys. -/
theorem nodup_of_ascending
    (ascending : entries.Pairwise fun first second => first.key < second.key) :
    (entries.map Entry.key).Nodup := by
  refine List.pairwise_map.mpr (ascending.imp fun {first second} less same => ?_)
  rw [same] at less
  exact String.lt_irrefl _ less

end Numbered

/-! ## The near entries -/

variable {checker : Checker} {word : String}

/-- The distance of an entry from a word. -/
def distanceFrom (word : String) (entry : Entry) : Binary64 :=
  Word.relativeDistance entry.key (Word.key word)

/-- The accepted entries that are near enough to a word to correct it, in the order of their keys. -/
def near (checker : Checker) (word : String) : List Entry :=
  checker.accepted.filter fun entry =>
    (distanceFrom word entry).le checker.settings.maxDistance

/-- One entry comes before another one among the corrections for a word: it is nearer, or it is as near
and its key is smaller. -/
def Precedes (word : String) (first second : Entry) : Prop :=
  (distanceFrom word first).magnitude < (distanceFrom word second).magnitude ∨
    (distanceFrom word first).magnitude = (distanceFrom word second).magnitude ∧
      first.key < second.key

instance (word : String) (first second : Entry) : Decidable (Precedes word first second) :=
  inferInstanceAs (Decidable (_ ∨ _ ∧ _))

theorem precedes_eq_outranks (word : String) :
    Precedes word = Outranks fun entry => (distanceFrom word entry).magnitude :=
  rfl

/-- Of two entries at most one comes before the other. -/
theorem Precedes.asymm {first second : Entry} (precedes : Precedes word first second) :
    ¬ Precedes word second first := by
  rw [precedes_eq_outranks] at precedes ⊢
  exact precedes.asymm

/-- The candidates are the near entries with their distances. -/
theorem candidates_eq_map_near (checker : Checker) (word : String) :
    checker.candidates (Word.key word)
      = (checker.near word).map fun entry => ((distanceFrom word entry).magnitude, entry) := by
  rw [candidates, near]
  induction checker.accepted with
  | nil => rfl
  | cons entry rest ih =>
    rw [List.filterMap_cons, ih, List.filter_cons]
    unfold distanceFrom
    split <;> simp_all

/-- The near entries in the order of distance and key. -/
def nearest (checker : Checker) (word : String) : List Entry :=
  ranked (checker.candidates (Word.key word))

theorem perm_nearest (checker : Checker) (word : String) :
    (checker.nearest word).Perm (checker.near word) := by
  rw [nearest, candidates_eq_map_near]
  exact perm_ranked_map _ _

/-- The entries of a well-formed lexicon of an accepted level are in ascending order of their keys. -/
theorem ascending_accepted (wellFormed : checker.lexicon.WellFormed) :
    checker.accepted.Pairwise fun first second => first.key < second.key :=
  wellFormed.ascending.filter _

/-- The near entries of a well-formed lexicon are ranked by distance and key. -/
theorem pairwise_nearest (wellFormed : checker.lexicon.WellFormed) (word : String) :
    (checker.nearest word).Pairwise (Precedes word) := by
  rw [nearest, candidates_eq_map_near, precedes_eq_outranks]
  exact pairwise_outranks ((ascending_accepted wellFormed).filter _)

/-! ## What is offered -/

/-- The best of the near entries are offered for a word, as many as there may be. -/
structure OffersBest (checker : Checker) (word : String) (ordered best : List Entry) : Prop where
  /-- The near entries are put in the order of distance and key. -/
  perm : ordered.Perm (checker.near word)
  sorted : ordered.Pairwise (Precedes word)
  /-- The best are the first of them. -/
  best_eq : best = ordered.take checker.settings.maxSuggestions
  length : best.length = min checker.settings.maxSuggestions (checker.near word).length
  /-- No entry comes twice, and no two with the same key do. -/
  once : (best.map Entry.key).Nodup
  /-- Every near entry that is left out comes after all that are offered. -/
  omitted : ∀ entry ∈ checker.near word, entry ∉ best → ∀ offered ∈ best,
    Precedes word offered entry ∧ ¬ Precedes word entry offered
  /-- Their head words are what is offered. -/
  offered : checker.check word = best.map Entry.headWord

/-- Of some entries, the one with the smallest key is offered for a word, and nothing else. -/
def OffersFirst (checker : Checker) (word : String) (entries : List Entry) : Prop :=
  ∃ first ∈ entries, checker.check word = [first.headWord] ∧
    ∀ other ∈ entries, other ≠ first → first.key < other.key

/-- What is offered for a word that has to be corrected. -/
structure OffersInOrder (checker : Checker) (word : String) : Prop where
  /-- When some entries are near, the best of them. -/
  near : checker.near word ≠ [] → ∃ ordered best, OffersBest checker word ordered best
  /-- When none is near, the first accepted one. -/
  accepted : checker.near word = [] → checker.accepted ≠ [] →
    OffersFirst checker word checker.accepted
  /-- When none is accepted, the first one of any level. -/
  fallback : checker.near word = [] → checker.accepted = [] → checker.lexicon.entries ≠ [] →
    OffersFirst checker word checker.lexicon.entries
  /-- When none is near, nothing is offered exactly if there are no entries. -/
  nothing : checker.near word = [] → (checker.check word = [] ↔ checker.lexicon.entries = [])

/-- The first of some entries in ascending order of their keys has the smallest key. -/
theorem key_lt_of_ascending {first : Entry} {rest : List Entry}
    (ascending : (first :: rest).Pairwise fun one other => one.key < other.key) :
    ∀ other ∈ first :: rest, other ≠ first → first.key < other.key := by
  intro other member different
  rcases List.mem_cons.mp member with same | later
  · exact absurd same different
  · exact (List.pairwise_cons.mp ascending).1 other later

/-- A word that has to be corrected is offered the nearest entries or, when none is near, the
fallback. -/
theorem check_eq_of_needs (needs : checker.needsCorrection word = true) :
    checker.check word =
      if checker.near word = [] then checker.fallback
      else ((checker.nearest word).take checker.settings.maxSuggestions).map Entry.headWord := by
  simp only [check, needs, Bool.not_true, Bool.false_eq_true, if_false, nearest]
  rw [candidates_eq_map_near]
  cases checker.near word with
  | nil => rfl
  | cons entry rest => rfl

/-- The nearest entries come first, each of them once. -/
theorem offersBest (wellFormed : checker.lexicon.WellFormed)
    (needs : checker.needsCorrection word = true) (some : checker.near word ≠ []) :
    OffersBest checker word (checker.nearest word)
      ((checker.nearest word).take checker.settings.maxSuggestions) := by
  have perm := checker.perm_nearest word
  have sorted := pairwise_nearest wellFormed word
  refine ⟨perm, sorted, rfl, ?length, ?once, ?omitted, ?offered⟩
  case offered => rw [check_eq_of_needs needs, if_neg some]
  case length => rw [List.length_take, perm.length_eq]
  case once =>
    have near := nodup_of_ascending ((ascending_accepted wellFormed).filter fun entry =>
      (distanceFrom word entry).le checker.settings.maxDistance)
    exact ((perm.map Entry.key).nodup_iff.mpr near).sublist ((List.take_sublist _ _).map Entry.key)
  case omitted =>
    intro entry member left offered chosen
    have precedes := before_of_not_mem_take sorted chosen (perm.mem_iff.mpr member) left
    exact ⟨precedes, precedes.asymm⟩

/-- **What is offered, and in which order**, by a lexicon that comes about.  A word that needs no
correction is returned as its key.  Any other word is offered the near entries in the order of distance
and key, up to the greatest number of suggestions; when none is near, the accepted entry with the
smallest key; and when none is accepted, the entry with the smallest key. -/
theorem check_ranks (reachable : checker.lexicon.Reachable) (word : String) :
    (checker.needsCorrection word = false → checker.check word = [Word.key word]) ∧
      (checker.needsCorrection word = true → OffersInOrder checker word) := by
  have wellFormed := reachable.wellFormed
  constructor
  · intro fine
    simp only [check, fine, Bool.not_false, if_true]
  · intro needs
    have far (none : checker.near word = []) : checker.check word = checker.fallback := by
      rw [check_eq_of_needs needs, if_pos none]
    refine ⟨?near, ?accepted, ?fallback, ?nothing⟩
    case near => exact fun some => ⟨_, _, offersBest wellFormed needs some⟩
    case accepted =>
      intro none filled
      obtain ⟨first, rest, all⟩ := List.exists_cons_of_ne_nil filled
      have ascending := ascending_accepted wellFormed
      rw [OffersFirst, far none, Checker.fallback, all]
      rw [all] at ascending
      exact ⟨first, List.mem_cons_self, rfl, key_lt_of_ascending ascending⟩
    case fallback =>
      intro none unaccepted filled
      obtain ⟨first, rest, all⟩ := List.exists_cons_of_ne_nil filled
      have ascending := wellFormed.ascending
      rw [OffersFirst, far none, Checker.fallback, unaccepted, all]
      rw [all] at ascending
      exact ⟨first, List.mem_cons_self, rfl, key_lt_of_ascending ascending⟩
    case nothing =>
      intro none
      rw [far none, Checker.fallback]
      cases accepted : checker.accepted with
      | cons entry others =>
        have inside : entry ∈ checker.lexicon.entries :=
          (mem_accepted.mp (accepted ▸ List.mem_cons_self)).1
        have filled : checker.lexicon.entries ≠ [] := List.ne_nil_of_mem inside
        simp [filled]
      | nil => cases checker.lexicon.entries <;> simp

/-- A checker that knows four words and offers two. -/
def rhymes : Checker where
  lexicon :=
    Lexicon.inMemory.afterCalls <|
      ["mat", "bat", "hat", "Rat"].map fun word => (⟨{}, ⟨0⟩⟩, .define word .verified)
  settings := { maxSuggestions := 2, maxDistance := Binary64.ofRatio 40 100 }

/-- A word is as near to one of them as to any other: those with the smallest keys are offered. -/
theorem check_ranks_rhymes :
    rhymes.lexicon.Reachable ∧ rhymes.needsCorrection "cat" = true ∧
      (rhymes.near "cat").map Entry.headWord = ["bat", "hat", "mat", "Rat"] ∧
      OffersInOrder rhymes "cat" ∧ rhymes.check "cat" = ["bat", "hat"] := by
  have reachable : rhymes.lexicon.Reachable := Lexicon.Reachable.inMemory.afterCalls _
  have needs : rhymes.needsCorrection "cat" = true := by decide +kernel
  have words : (rhymes.near "cat").map Entry.headWord = ["bat", "hat", "mat", "Rat"] := by
    decide +kernel
  have sorted : (rhymes.near "cat").Pairwise (Precedes "cat") := by decide +kernel
  have offers := (check_ranks reachable "cat").2 needs
  have some : rhymes.near "cat" ≠ [] := fun none => by simp [none] at words
  obtain ⟨ordered, best, offered⟩ := offers.near some
  have same : ordered = rhymes.near "cat" :=
    offered.perm.eq_of_pairwise (fun _ _ _ _ here there => absurd there here.asymm)
      offered.sorted sorted
  refine ⟨reachable, needs, words, offers, ?_⟩
  rw [offered.offered, offered.best_eq, same, List.map_take, words]
  rfl

end Orthography.Checker
