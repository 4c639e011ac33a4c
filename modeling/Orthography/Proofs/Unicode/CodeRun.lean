import Orthography.Unicode.CodeRun

/-!
# Comparing classes of code points

Two classes of code points are compared by going through the code points of one of them and looking
each up in the other one (`CodeRun.allAgree`).  Both classes are in ascending order, so that runs of the
second one that were passed need not be looked at again (`CodeRun.covers_past`).  If every lookup has
the same answer, one class is a part of the other, or the two have nothing in common
(`CodeRun.covers_of_allAgree`).
-/

namespace Orthography.Unicode.CodeRun

set_option autoImplicit false

/-- The code points of a run, in ascending order. -/
def members (run : CodeRun) : List Nat :=
  List.range' run.first ((run.last - run.first) / run.step + 1) run.step

/-- The runs that do not end before a code point. -/
def past (n : Nat) (runs : List CodeRun) : List CodeRun :=
  runs.dropWhile fun run => run.first ≤ n && run.last < n

/-- Whether every code point of a run is covered by others, or every one is not. -/
def agrees (verdict : Bool) (run : CodeRun) (others : List CodeRun) : Bool :=
  run.members.all fun n => covers (past run.first others) n == verdict

/-- Whether runs in ascending order, of which the first does not start before some code point, all
agree with others. -/
def allAgree (verdict : Bool) : Nat → List CodeRun → List CodeRun → Bool
  | _, [], _ => true
  | least, run :: rest, others =>
    least ≤ run.first && run.agrees verdict others
      && allAgree verdict run.first rest (past run.first others)

variable {n : Nat} {verdict : Bool}

/-- A run without gaps holds the code points from its first to its last. -/
theorem contains_dense_iff {first last : Nat} :
    (CodeRun.mk first last 1).contains n = true ↔ first ≤ n ∧ n ≤ last := by
  simp [contains, Nat.mod_one]

/-- A code point of a run is one of its members. -/
theorem mem_members {run : CodeRun} (inside : run.contains n = true) : n ∈ run.members := by
  simp only [contains, Bool.and_eq_true, decide_eq_true_eq, beq_iff_eq] at inside
  obtain ⟨⟨first, last⟩, step⟩ := inside
  refine List.mem_range'.mpr ⟨(n - run.first) / run.step, ?_, ?_⟩
  · exact Nat.lt_succ_of_le (Nat.div_le_div_right (Nat.sub_le_sub_right last run.first))
  · rw [Nat.mul_div_cancel' (Nat.dvd_of_mod_eq_zero step)]
    omega

/-- What is covered is in one of the runs. -/
theorem exists_contains_of_covers {runs : List CodeRun} (covered : covers runs n = true) :
    ∃ run ∈ runs, run.contains n = true := by
  induction runs with
  | nil => cases covered
  | cons run rest ih =>
    rw [covers] at covered
    split at covered
    · cases covered
    · rcases Bool.or_eq_true_iff.mp covered with here | later
      · exact ⟨run, List.mem_cons_self, here⟩
      · obtain ⟨other, member, there⟩ := ih later
        exact ⟨other, List.mem_cons_of_mem run member, there⟩

/-- Runs that were passed cover no code point from there on. -/
theorem covers_past {least : Nat} (from_here : least ≤ n) (runs : List CodeRun) :
    covers (past least runs) n = covers runs n := by
  induction runs with
  | nil => rfl
  | cons run rest ih =>
    rw [past, List.dropWhile_cons]
    split
    · next passed =>
      simp only [Bool.and_eq_true, decide_eq_true_eq] at passed
      have outside : run.contains n = false := by
        simp only [contains, Bool.and_eq_false_iff, decide_eq_false_iff_not]
        omega
      rw [← past, ih, covers, if_neg (by omega), outside, Bool.false_or]
    · rfl

/-- A code point of a run that agrees with others is looked up with that answer. -/
theorem covers_of_agrees {run : CodeRun} {others : List CodeRun}
    (agree : run.agrees verdict others = true) (inside : run.contains n = true) :
    covers others n = verdict := by
  have start : run.first ≤ n := by
    simp only [contains, Bool.and_eq_true, decide_eq_true_eq] at inside
    exact inside.1.1
  have answer := List.all_eq_true.mp agree n (mem_members inside)
  rwa [beq_iff_eq, covers_past start] at answer

/-- A code point of one of several runs that all agree with others is looked up with that answer. -/
theorem covers_of_mem_of_allAgree {least : Nat} {runs others : List CodeRun} {run : CodeRun}
    (agree : allAgree verdict least runs others = true) (member : run ∈ runs)
    (inside : run.contains n = true) : covers others n = verdict := by
  suffices least ≤ n ∧ covers others n = verdict from this.2
  induction runs generalizing least others with
  | nil => cases member
  | cons first rest ih =>
    simp only [allAgree, Bool.and_eq_true, decide_eq_true_eq] at agree
    obtain ⟨⟨ordered, here⟩, later⟩ := agree
    rcases List.mem_cons.mp member with rfl | there
    · have start : run.first ≤ n := by
        simp only [contains, Bool.and_eq_true, decide_eq_true_eq] at inside
        exact inside.1.1
      exact ⟨Nat.le_trans ordered start, covers_of_agrees here inside⟩
    · obtain ⟨start, answer⟩ := ih later there
      rw [covers_past start] at answer
      exact ⟨Nat.le_trans ordered start, answer⟩

/-- **A code point that is covered by runs that all agree with others is looked up with that
answer.** -/
theorem covers_of_allAgree {least : Nat} {runs others : List CodeRun}
    (agree : allAgree verdict least runs others = true) (covered : covers runs n = true) :
    covers others n = verdict := by
  obtain ⟨run, member, inside⟩ := exists_contains_of_covers covered
  exact covers_of_mem_of_allAgree agree member inside

end Orthography.Unicode.CodeRun
