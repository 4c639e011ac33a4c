import Orthography.Proofs.Lexicon.Reachable
import Orthography.Proofs.Recheck
import Orthography.Proofs.Unicode.CaseMapping

/-!
# Taking over a capital

A correction takes over the capital of the word that it replaces, and only then is it written into
the text.  Its key nearly always stays that of the candidate that it came from.  The exception are
letters that do not return from their capital form: the sharp s comes back as two letters, and the long
s as another one.

A small letter is neither white space nor punctuation, and neither is the first letter of its capital
form (`Word.isEdge_of_isLowercase`, `Word.isEdge_of_toUppercase`).  So the letter is the first one of the
surface form and of the key, with the capital and without it.  What becomes of the key is thus what
capitalising does to the small form of a text, and that depends on the first letter only
(`Word.keyChars_of_returns`, `Word.keyChars_of_not_returns`).

It follows which corrections keep their key (`Word.key_matchCase_iff`), and that these and no others
are found under the entry that was offered (`Checker.corrections_keep_identity`).
-/

namespace Orthography

set_option autoImplicit false

open Unicode (CodeRun isLowercase toUppercase lowercaseText Returns)

namespace Word

/-! ## Letters are no edges -/

/-- The code points of white space and punctuation, in ascending order. -/
def edges : List CodeRun := [
  ⟨0x9, 0xD, 1⟩, ⟨0x20, 0x2F, 1⟩, ⟨0x3A, 0x40, 1⟩, ⟨0x5B, 0x60, 1⟩, ⟨0x7B, 0x7E, 1⟩, ⟨0x85, 0x85, 1⟩,
  ⟨0xA0, 0xA1, 1⟩, ⟨0xAB, 0xAB, 1⟩, ⟨0xB7, 0xB7, 1⟩, ⟨0xBB, 0xBB, 1⟩, ⟨0xBF, 0xBF, 1⟩,
  ⟨0x60C, 0x60C, 1⟩, ⟨0x61F, 0x61F, 1⟩, ⟨0x964, 0x965, 1⟩, ⟨0x1680, 0x1680, 1⟩, ⟨0x2000, 0x200A, 1⟩,
  ⟨0x2010, 0x2015, 1⟩, ⟨0x2018, 0x201F, 1⟩, ⟨0x2026, 0x2026, 1⟩, ⟨0x2028, 0x2029, 1⟩,
  ⟨0x202F, 0x202F, 1⟩, ⟨0x205F, 0x205F, 1⟩, ⟨0x3000, 0x3002, 1⟩]

/-- The signs of punctuation that are not in a span of several. -/
def singleSigns : List Char :=
  ['\u2026', '\u00a1', '\u00bf', '\u00ab', '\u00bb', '\u00b7', '\u0964', '\u0965', '\u060c',
    '\u061f', '\u3001', '\u3002']

/-- What the edges have to do with the tables of white space, letters and case mappings. -/
structure EdgesAgree : Prop where
  blanks : CodeRun.allAgree true 0 Unicode.whiteSpace edges = true
  signs : (singleSigns.all fun sign => CodeRun.covers edges sign.toNat) = true
  /-- No small letter is among the edges, -/
  small : CodeRun.allAgree false 0 Unicode.lowercase edges = true
  /-- and no letter of a capital form is. -/
  shifted : Unicode.uppercaseShifts.all (Unicode.CaseShift.imageAgrees false edges) = true
  expanded :
    (Unicode.uppercaseExpansions.all fun pair => pair.2.all fun n => !CodeRun.covers edges n) = true

/-- The edges are what they have to be. -/
theorem edgesAgree : EdgesAgree := by
  constructor <;> decide +kernel

variable {c : Char}

/-- A span of characters is among the edges if all its code points are. -/
theorem covers_edges_of_span {first last : Char}
    (all : CodeRun.agrees true ⟨first.toNat, last.toNat, 1⟩ edges = true)
    (inside : (first ≤ c && c ≤ last) = true) : CodeRun.covers edges c.toNat = true := by
  refine CodeRun.covers_of_agrees all (CodeRun.contains_dense_iff.mpr ?_)
  simp only [Bool.and_eq_true, decide_eq_true_eq, Char.le_def, UInt32.le_iff_toNat_le] at inside
  exact inside

/-- White space and punctuation are among the edges. -/
theorem covers_edges_of_isEdge (edge : isEdge c = true) : CodeRun.covers edges c.toNat = true := by
  simp only [isEdge, isPunctuation, isAsciiSign, Bool.or_eq_true] at edge
  rcases edge with blank | ((((((inside | inside) | inside) | inside) | inside) | inside) | sign)
  any_goals exact covers_edges_of_span (by decide) inside
  · exact CodeRun.covers_of_allAgree edgesAgree.blanks blank
  · exact List.all_eq_true.mp edgesAgree.signs c (List.contains_iff_mem.mp sign)

/-- A character that is not among the edges is no edge. -/
theorem isEdge_of_not_covered (inner : CodeRun.covers edges c.toNat = false) : isEdge c = false := by
  apply Bool.eq_false_iff.mpr
  intro edge
  rw [covers_edges_of_isEdge edge] at inner
  cases inner

/-- A code point that is not among the edges is that of no edge, valid or not. -/
theorem isEdge_ofNat {n : Nat} (inner : CodeRun.covers edges n = false) :
    isEdge (Char.ofNat n) = false := by
  rw [Char.ofNat]
  by_cases valid : n.isValidChar
  · rw [dif_pos valid]
    exact isEdge_of_not_covered inner
  · rw [dif_neg valid]
    rfl

/-- A small letter is neither white space nor punctuation. -/
theorem isEdge_of_isLowercase (small : isLowercase c = true) : isEdge c = false :=
  isEdge_of_not_covered (CodeRun.covers_of_allAgree edgesAgree.small small)

/-- The capital form of a small letter does not start with white space or punctuation either. -/
theorem isEdge_of_toUppercase (small : isLowercase c = true) {capital : Char} {more : List Char}
    (upper : toUppercase c = capital :: more) : isEdge capital = false := by
  rcases Unicode.toUppercase_cases c with single | ⟨codes, member, several⟩
  · obtain ⟨rfl, -⟩ := List.cons.inj (upper.symm.trans single)
    by_cases stays : Unicode.CaseShift.apply Unicode.uppercaseShifts c.toNat = c.toNat
    · rw [stays, Char.ofNat_toNat]
      exact isEdge_of_isLowercase small
    · exact isEdge_ofNat (Unicode.CaseShift.covers_apply edgesAgree.shifted stays)
  · obtain ⟨n, rest, rfl, rfl, -⟩ := List.map_eq_cons_iff.mp (several.symm.trans upper)
    have codes := List.all_eq_true.mp edgesAgree.expanded _ member
    exact isEdge_ofNat (by simpa using List.all_eq_true.mp codes n List.mem_cons_self)

/-! ## Keys -/

/-- The key of a word that starts with no edge. -/
theorem keyChars_cons (inner : isEdge c = false) (rest : List Char) :
    keyChars (c :: rest) = lowercaseText (c :: rest.rdropWhile isEdge) := by
  rw [keyChars, surfaceChars, trimBy_cons isEdge inner]

/-- A word has the same key after its first letter was capitalised, if this letter returns. -/
theorem keyChars_of_returns (small : isLowercase c = true) (returns : Returns c)
    (rest : List Char) : keyChars (toUppercase c ++ rest) = keyChars (c :: rest) := by
  obtain ⟨capital, single, same⟩ := Unicode.lowercaseText_of_returns small returns
  rw [single, List.singleton_append, keyChars_cons (isEdge_of_toUppercase small single),
    keyChars_cons (isEdge_of_isLowercase small), same]

/-- A word has another key after its first letter was capitalised, if this letter does not return. -/
theorem keyChars_of_not_returns (small : isLowercase c = true) (lost : ¬Returns c)
    (rest : List Char) : keyChars (toUppercase c ++ rest) ≠ keyChars (c :: rest) := by
  obtain ⟨capital, more, several, changed⟩ := Unicode.head_ne_of_not_returns lost
  intro same
  rw [several, List.cons_append, keyChars_cons (isEdge_of_toUppercase small several),
    keyChars_cons (isEdge_of_isLowercase small)] at same
  apply changed ((more ++ rest).rdropWhile isEdge)
  rw [same, Unicode.head?_lowercaseText, Unicode.smallAtStart_of_isLowercase small, List.head?_cons]

/-- Taking over the capital of a word costs a replacement its first letter: it is a small letter that
does not return. -/
def LosesLetter (model replacement : String) : Prop :=
  startsWithCapital model.toList = true ∧
    ∃ c rest, replacement.toList = c :: rest ∧ isLowercase c = true ∧ ¬Returns c

/-- **A replacement keeps its key** when it takes over a capital, unless that costs it its first
letter. -/
theorem key_matchCase_iff (model replacement : String) :
    key (matchCase model replacement) = key replacement ↔ ¬LosesLetter model replacement := by
  rw [key, key, String.ofList_inj, matchCase, String.toList_ofList]
  cases letters : replacement.toList with
  | nil =>
    refine iff_of_true rfl ?_
    rintro ⟨-, c, rest, cons, -⟩
    rw [letters] at cons
    cases cons
  | cons c rest =>
    rw [matchCaseChars]
    split
    · next taken =>
      obtain ⟨capital, small⟩ := Bool.and_eq_true_iff.mp taken
      by_cases returns : Returns c
      · refine iff_of_true (keyChars_of_returns small returns rest) ?_
        rintro ⟨-, other, more, cons, -, lost⟩
        obtain ⟨rfl, -⟩ := List.cons.inj (letters.symm.trans cons)
        exact lost returns
      · refine iff_of_false (keyChars_of_not_returns small returns rest) (not_not_intro ?_)
        exact ⟨capital, c, rest, letters, small, returns⟩
    · next kept =>
      refine iff_of_true rfl ?_
      rintro ⟨capital, other, more, cons, small, -⟩
      obtain ⟨rfl, -⟩ := List.cons.inj (letters.symm.trans cons)
      exact kept (by rw [capital, small]; rfl)

end Word

/-! ## Corrections -/

namespace Checker

/-- What it means that a correction for a word, made from a candidate, denotes an entry. -/
structure Denotes (checker : Checker) (word candidate : String) (entry : Entry) : Prop where
  /-- The candidate is the head word of the entry, and found under it. -/
  offered : candidate = entry.headWord ∧ checker.lexicon.get? candidate = some entry
  /-- So is the correction, unless it loses its first letter. -/
  found : checker.lexicon.get? (Word.matchCase word candidate) = some entry
    ↔ ¬Word.LosesLetter word candidate
  /-- Then it is accepted whenever the entry is. -/
  accepted : ¬Word.LosesLetter word candidate → checker.settings.accepts entry.level = true →
    checker.needsCorrection (Word.matchCase word candidate) = false

/-- The head word of an entry is found under it, and a correction made from it is, unless it loses
its first letter. -/
theorem denotes_headWord {checker : Checker} (wellFormed : checker.lexicon.WellFormed)
    {entry : Entry} (member : entry ∈ checker.lexicon.entries) (word : String) :
    checker.Denotes word entry.headWord entry := by
  have found := (wellFormed.get?_eq_some_iff member (Word.matchCase word entry.headWord)).trans
    (Word.key_matchCase_iff word entry.headWord)
  exact ⟨⟨rfl, (wellFormed.get?_eq_some_iff member entry.headWord).mpr rfl⟩, found,
    fun kept accepted => needsCorrection_of_accepted (found.mpr kept) accepted⟩

/-- **Taking over a capital keeps the identity of a replacement**, except for a first letter that
does not return from its capital form.  So every correction for a word, by a lexicon that comes about,
is found under the entry that the candidate came from, and accepted whenever this is; when it loses
its first letter, it is not found there. -/
theorem corrections_keep_identity :
    (∀ model replacement,
        Word.key (Word.matchCase model replacement) = Word.key replacement
          ↔ ¬Word.LosesLetter model replacement) ∧
      ∀ checker : Checker, checker.lexicon.Reachable →
        ∀ word, checker.needsCorrection word = true → ∀ candidate ∈ checker.check word,
          ∃ entry ∈ checker.lexicon.entries, checker.Denotes word candidate entry := by
  refine ⟨Word.key_matchCase_iff, ?_⟩
  intro checker reachable word needs candidate offered
  obtain ⟨entry, rfl, source⟩ := exists_entry_of_mem_check needs offered
  have member : entry ∈ checker.lexicon.entries := by
    rcases source with accepted | ⟨-, rest, all⟩
    · exact (mem_accepted.mp accepted).1
    · rw [all]
      exact List.mem_cons_self
  exact ⟨entry, member, denotes_headWord reachable.wellFormed member word⟩

/-- A checker that knows two words, one of which starts with a sharp s. -/
def saalChecker : Checker where
  lexicon :=
    Lexicon.inMemory.afterCalls <|
      ["grace", "ßaal"].map fun word => (⟨{}, ⟨0⟩⟩, .define word .verified)
  settings := { maxDistance := Binary64.ofRatio 30 100 }

/-- The one word keeps its identity as a correction. -/
theorem corrections_keep_identity_grace :
    saalChecker.lexicon.Reachable ∧ saalChecker.needsCorrection "“Grac" = true ∧
      "grace" ∈ saalChecker.check "“Grac" ∧ Word.matchCase "“Grac" "grace" = "Grace" ∧
      Word.key "Grace" = Word.key "grace" ∧
      saalChecker.lexicon.get? "Grace" = saalChecker.lexicon.get? "grace" := by
  have reachable : saalChecker.lexicon.Reachable := Lexicon.Reachable.inMemory.afterCalls _
  have needs : saalChecker.needsCorrection "“Grac" = true := by decide +kernel
  have offered : "grace" ∈ saalChecker.check "“Grac" := by decide +kernel
  have kept : ¬Word.LosesLetter "“Grac" "grace" := by
    rintro ⟨-, c, rest, cons, -, lost⟩
    obtain ⟨rfl, -⟩ := List.cons.inj cons
    exact lost (by decide +kernel)
  have capital : Word.matchCase "“Grac" "grace" = "Grace" := by decide +kernel
  obtain ⟨keys, corrections⟩ := corrections_keep_identity
  obtain ⟨entry, -, denotes⟩ := corrections saalChecker reachable _ needs _ offered
  have same := (keys "“Grac" "grace").mpr kept
  have found := denotes.found.mpr kept
  rw [capital] at same found
  exact ⟨reachable, needs, offered, capital, same, found.trans denotes.offered.2.symm⟩

/-- The other one does not: the sharp s becomes two letters, which do not become one again, and the
correction is another word that has to be corrected in its turn. -/
theorem sharp_s_loses_identity :
    saalChecker.needsCorrection "Saal" = true ∧ saalChecker.check "Saal" = ["ßaal"] ∧
      Word.matchCase "Saal" "ßaal" = "SSaal" ∧ Word.key "SSaal" = "ssaal" ∧
      Word.key "ßaal" = "ßaal" ∧
      Word.key (Word.matchCase "Saal" "ßaal") ≠ Word.key "ßaal" ∧
      saalChecker.lexicon.get? "SSaal" = none ∧ saalChecker.needsCorrection "ßaal" = false ∧
      saalChecker.needsCorrection "SSaal" = true := by
  decide +kernel

end Checker

end Orthography
