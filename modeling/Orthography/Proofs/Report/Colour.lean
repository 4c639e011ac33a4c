import Orthography.Proofs.Json.Spelling
import Orthography.Proofs.Report.EscapeSequence

/-!
# Colour is decoration

A style is switched on and off by escape sequences, so that everything painted reads as what was painted
(`Report.reads_paint`).  In the context of a finding the word is picked out wherever it occurs.  The
replacement holds the word again, but is not searched again, and it reads as the word: the context reads
as it is (`Report.reads_contextText`).  What is printed about findings, and the summaries, are put
together from such parts and from plain texts (`Report.colour_only_decorates`).
-/

namespace Orthography.Report

set_option autoImplicit false

/-! ## Styles -/

/-- The numbers of a style and the separators between them are parameters. -/
theorem all_isParameter_codes (style : Style) :
    (";".intercalate style.codes).toList.all isParameter = true := by
  obtain ⟨bold, dimmed, underlined, colour⟩ := style
  cases bold <;> cases dimmed <;> cases underlined <;>
    rcases colour with _ | (_ | _ | _ | _ | _) <;> decide

/-- Nothing is shown of a style that is switched on. -/
theorem showsAs_on (style : Style) : ShowsAs style.on [] := by
  intro rest
  have shows := shown_sequence (all_isParameter_codes style) rest
  simpa [Style.on] using shows

/-- Nothing is shown of styles that are switched off. -/
theorem showsAs_off : ShowsAs Style.off [] := by
  intro rest
  have digit : ['0'].all isParameter = true := by decide
  exact shown_sequence digit rest

/-- A part that starts with a character that a text does not hold is not replaced in it. -/
theorem replaceAll_of_not_mem {first : Char} {text : List Char} (absent : first ∉ text)
    (part replacement : List Char) (fuel : Nat) :
    replaceAll (first :: part) replacement fuel text = text := by
  induction fuel generalizing text with
  | zero => rfl
  | succ fuel ih =>
    cases text with
    | nil => rfl
    | cons c rest =>
      obtain ⟨different, others⟩ := not_or.mp (mt List.mem_cons.mpr absent)
      have elsewhere : ¬ (first :: part).isPrefixOf (c :: rest) = true := by
        simp [different]
      rw [replaceAll, if_neg elsewhere, ih others]

/-- A painted text without escape characters stands as it is between two sequences. -/
theorem toList_paint {text : String} (plain : Unescaped text) (style : Style) :
    (paint true style text).toList = style.on ++ text.toList ++ Style.off := by
  have body : replaceAll Style.off (Style.off ++ style.on) text.length text.toList = text.toList :=
    replaceAll_of_not_mem plain _ _ _
  rw [paint, if_pos rfl, String.toList_ofList, body]

/-- **Painting a text does not change what is read.** -/
theorem reads_paint {text : String} (plain : Unescaped text) (style : Style) :
    Reads (paint true style text) (paint false style text) := by
  have shows := ((showsAs_on style).append (ShowsAs.self plain)).append showsAs_off
  unfold Reads
  rw [toList_paint plain]
  simpa [paint] using shows

/-- **Picking out a word in its context does not change what is read**, however often the word
occurs. -/
theorem reads_contextText {context word : String} (plain : Unescaped context)
    (plainWord : Unescaped word) :
    Reads (contextText true context word) (contextText false context word) := by
  rw [contextText, contextText]
  split
  · have picked : Reads (strong true .red word) word := reads_paint plainWord _
    unfold Reads
    rw [String.toList_ofList]
    exact picked.replaceAll plain _
  · exact Reads.self plain

/-! ## Plain parts -/

/-- A number is written without escape characters. -/
theorem unescaped_ofNat (n : Nat) : Unescaped (Decimal.ofNat n) := by
  rw [Unescaped, Decimal.ofNat, String.toList_ofList]
  exact Decimal.not_mem_digits (by decide) n

theorem unescaped_append_iff {first second : String} :
    Unescaped (first ++ second) ↔ Unescaped first ∧ Unescaped second := by
  rw [Unescaped, String.toList_append, List.mem_append, not_or]
  rfl

/-- A word for a number of things holds no other characters than its two forms. -/
theorem not_mem_plural {c : Char} {one many : String} (first : c ∉ one.toList)
    (second : c ∉ many.toList) (count : Nat) : c ∉ (plural count one many).toList := by
  rw [plural]
  split
  · exact first
  · exact second

theorem unescaped_plural {one many : String} (first : Unescaped one) (second : Unescaped many)
    (count : Nat) : Unescaped (plural count one many) :=
  not_mem_plural first second count

/-! ## Findings -/

/-- The texts that are printed about a finding hold no escape character. -/
structure UnescapedFinding (finding : Finding) : Prop where
  word : Unescaped finding.word
  message : Unescaped finding.message
  context : Unescaped finding.context
  suggestions : ∀ suggestion ∈ finding.suggestions, Unescaped suggestion

/-- The line that places a finding and shows it in its context. -/
def placeLine (colour : Bool) (finding : Finding) : String :=
  let place := Decimal.ofNat finding.line ++ ":" ++ Decimal.ofNat finding.column
  let label := if finding.word.isEmpty then finding.message else finding.word
  let tone := if finding.severity = .error then Colour.red else Colour.yellow
  line ("  " ++ strong colour .blue place ++ " " ++ strong colour tone label ++ " "
    ++ contextText colour finding.context finding.word)

/-- The line of suggestions, if there are any. -/
def suggestionLine (colour : Bool) (suggestions : List String) : String :=
  if suggestions.isEmpty then ""
  else
    line ("    " ++ dim colour "→" ++ " "
      ++ (dim colour ", ").intercalate (suggestions.map (tint colour .green)))

theorem findingText_eq (colour : Bool) (finding : Finding) :
    findingText colour finding
      = placeLine colour finding ++ suggestionLine colour finding.suggestions := by
  rw [findingText, suggestionLine]
  split
  · exact (String.append_empty).symm
  · rfl

theorem reads_placeLine {finding : Finding} (plain : UnescapedFinding finding) :
    Reads (placeLine true finding) (placeLine false finding) := by
  have place : Unescaped (Decimal.ofNat finding.line ++ ":" ++ Decimal.ofNat finding.column) := by
    simp only [unescaped_append_iff]
    exact ⟨⟨unescaped_ofNat _, by decide⟩, unescaped_ofNat _⟩
  have label : Unescaped (if finding.word.isEmpty then finding.message else finding.word) := by
    split
    · exact plain.message
    · exact plain.word
  have indent : Reads "  " "  " := .self (by decide)
  have placed := indent.append (reads_paint place { bold := true, colour := some .blue })
  have context := reads_contextText plain.context plain.word
  exact .line (.append (.concat (.append (.concat placed (by decide)) (reads_paint label _))
    (by decide)) context)

theorem reads_suggestionLine {suggestions : List String}
    (plain : ∀ suggestion ∈ suggestions, Unescaped suggestion) :
    Reads (suggestionLine true suggestions) (suggestionLine false suggestions) := by
  rw [suggestionLine, suggestionLine]
  split
  · exact .self (by decide)
  · have listed : Reads ((dim true ", ").intercalate (suggestions.map (tint true .green)))
        ((dim false ", ").intercalate (suggestions.map (tint false .green))) :=
      .intercalate (fun suggestion member => reads_paint (plain suggestion member) _)
        (reads_paint (by decide) _)
    have arrow : Reads (dim true "→") (dim false "→") := reads_paint (by decide) _
    exact .line (.append (.concat (.append (.self (by decide)) arrow) (by decide)) listed)

/-- What is printed about a finding reads the same in colour. -/
theorem reads_findingText {finding : Finding} (plain : UnescapedFinding finding) :
    Reads (findingText true finding) (findingText false finding) := by
  rw [findingText_eq, findingText_eq]
  exact (reads_placeLine plain).append (reads_suggestionLine plain.suggestions)

/-- What is printed about the findings of a file reads the same in colour. -/
theorem reads_findingsText {path : String} {findings : List Finding} (plainPath : Unescaped path)
    (plain : ∀ finding ∈ findings, UnescapedFinding finding) :
    Reads (findingsText true path findings) (findingsText false path findings) := by
  rw [findingsText, findingsText]
  split
  · exact .self (by decide)
  · have heading := (reads_paint plainPath { bold := true, underlined := true }).line
    have each := Reads.join fun finding member => reads_findingText (plain finding member)
    exact .append (.append (.self (by decide)) heading) each

/-! ## Summaries -/

/-- A sign and a count in colour, with a sentence about files behind them, read as without colour. -/
theorem reads_tally (tone : Colour) {sign what link : String} (plainSign : Unescaped sign)
    (plainWhat : Unescaped what) (plainLink : Unescaped link) (count files : Nat) :
    Reads
      (strong true tone sign ++ " " ++ strong true tone (Decimal.ofNat count) ++ " " ++ what ++ link
        ++ Decimal.ofNat files ++ " " ++ plural files "file" "files")
      (strong false tone sign ++ " " ++ strong false tone (Decimal.ofNat count) ++ " " ++ what ++ link
        ++ Decimal.ofNat files ++ " " ++ plural files "file" "files") := by
  have blank : Unescaped " " := by decide
  have signed : Reads (strong true tone sign ++ " ") (strong false tone sign ++ " ") :=
    (reads_paint plainSign _).concat blank
  have counted := signed.append
    (reads_paint (unescaped_ofNat count) { bold := true, colour := some tone })
  have places : Unescaped (plural files "file" "files") :=
    unescaped_plural (by decide) (by decide) files
  exact (((((counted.concat blank).concat plainWhat).concat plainLink).concat
    (unescaped_ofNat files)).concat blank).concat places

/-- The summary of a check reads the same in colour. -/
theorem reads_checkSummary (errors files : Nat) :
    Reads (checkSummary true errors files) (checkSummary false errors files) := by
  have newline : Reads "\n" "\n" := .self (by decide)
  rw [checkSummary, checkSummary]
  split
  · exact newline.append (reads_paint (by decide) _).line
  · have things : Unescaped (plural errors "error" "errors") :=
      unescaped_plural (by decide) (by decide) errors
    exact newline.append (reads_tally .red (by decide) things (by decide) errors files).line

/-- The summary of a run that fixes files reads the same in colour. -/
theorem reads_fixSummary (fixed added files : Nat) :
    Reads (fixSummary true fixed added files) (fixSummary false fixed added files) := by
  have newline : Reads "\n" "\n" := .self (by decide)
  rw [fixSummary, fixSummary]
  split
  · exact newline.append (reads_paint (by decide) _).line
  · have things : Unescaped (plural fixed "correction" "corrections") :=
      unescaped_plural (by decide) (by decide) fixed
    have words : Unescaped (plural added "word" "words") :=
      unescaped_plural (by decide) (by decide) added
    refine (newline.append
      (reads_tally .green (by decide) things (by decide) fixed files).line).concat ?_
    split
    · simp only [line, unescaped_append_iff]
      exact ⟨⟨⟨⟨⟨by decide, unescaped_ofNat added⟩, by decide⟩, words⟩, by decide⟩, by decide⟩
    · decide

/-- **Colour changes only the appearance.**  Without their escape sequences, findings whose texts hold no
escape character and summaries are printed in colour as they are printed without it. -/
theorem colour_only_decorates {path : String} {findings : List Finding}
    (plainPath : Unescaped path) (plain : ∀ finding ∈ findings, UnescapedFinding finding)
    (errors fixed added files : Nat) :
    shownText (findingsText true path findings) = findingsText false path findings ∧
      shownText (checkSummary true errors files) = checkSummary false errors files ∧
      shownText (fixSummary true fixed added files) = fixSummary false fixed added files :=
  ⟨(reads_findingsText plainPath plain).shownText_eq, (reads_checkSummary errors files).shownText_eq,
    (reads_fixSummary fixed added files).shownText_eq⟩

/-- A word that overlaps with itself in its context, and one that is empty, as in its message. -/
def overlappingFindings : List Finding :=
  [{ word := "aa", message := "Unknown word: 'aa'", source := "spell-check", severity := .warning
     line := 3, column := 1, context := "aaa aa", suggestions := ["a", "as"] },
    { word := "", message := "", source := "todo", severity := .error
      line := 4, column := 1, context := "[0m", suggestions := [] }]

/-- In colour there is more to print, and all of it is taken out again. -/
theorem colour_only_decorates_overlapping :
    (Unescaped "draft.txt" ∧ ∀ finding ∈ overlappingFindings, UnescapedFinding finding) ∧
      findingsText true "draft.txt" overlappingFindings
        ≠ findingsText false "draft.txt" overlappingFindings ∧
      shownText (findingsText true "draft.txt" overlappingFindings)
        = findingsText false "draft.txt" overlappingFindings ∧
      shownText (checkSummary true 2 1) = checkSummary false 2 1 ∧
      shownText (fixSummary true 1 2 1) = fixSummary false 1 2 1 := by
  have path : Unescaped "draft.txt" := by decide
  have plain : ∀ finding ∈ overlappingFindings, UnescapedFinding finding := by
    intro finding member
    simp only [overlappingFindings, List.mem_cons, List.not_mem_nil, or_false] at member
    rcases member with rfl | rfl <;> constructor <;> decide
  exact ⟨⟨path, plain⟩, by decide +kernel, colour_only_decorates path plain 2 1 2 1⟩

end Orthography.Report
