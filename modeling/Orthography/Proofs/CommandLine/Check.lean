import Orthography.CommandLine.Run
import Orthography.Proofs.Lexicon.Outcome
import Orthography.Proofs.Report.Figures

/-!
# Checks in text and in JSON

A check goes through the files that are asked for.  One that is not there is complained about and
passed over; any other one is checked, its findings are counted, and its result is kept.  In text its
findings are printed at once.  This is what one file comes to (`FileRun.proceed_missing`,
`FileRun.proceed_checked`); by induction, the run has all of it for all files at its end
(`FileRun.proceed_eq`).

The count and the results do not depend on the format.  Therefore the reports of one check in text and
in JSON say the same, but for one number (`CommandLine.reports_agree_iff`).  The summary of the text
counts the files that were asked for, and the JSON document those that were there: both numbers of files
are the same exactly if there is nothing to report or no file is missing.
-/

namespace Orthography

set_option autoImplicit false

/-! ## Files that are there -/

namespace Files

variable {session : Session} {disk : Disk} {path : String} {files : List String}

/-- Every file that is there can be read. -/
def Legible (disk : Disk) (files : List String) : Prop :=
  ∀ path ∈ files, disk.exists? path = true → (disk.readText? path).isSome = true

instance (disk : Disk) (files : List String) : Decidable (Legible disk files) :=
  inferInstanceAs (Decidable (∀ path ∈ files, _))

/-- The files that are there, with what comes of checking each of them. -/
def readings (session : Session) (disk : Disk) (files : List String) : List (String × CheckResult) :=
  (files.filter disk.exists?).filterMap fun path =>
    (check session disk path).1.toOption.map fun result => (path, result)

/-- A file that can be read is checked, and its findings are counted. -/
theorem exists_check (session : Session) (legible : (disk.readText? path).isSome = true) :
    ∃ result, (check session disk path).1 = .ok result ∧
      result.errorCount = result.findings.length := by
  obtain ⟨text, found⟩ := Option.isSome_iff_exists.mp legible
  have opened : readDocument disk path = .ok (text, Document.ofText path text) := by
    rw [readDocument, found]
  refine ⟨_, by simp only [check, opened]; rfl, rfl⟩

theorem readings_cons_of_missing (missing : disk.exists? path = false) (rest : List String) :
    readings session disk (path :: rest) = readings session disk rest := by
  rw [readings, List.filter_cons, missing]
  rfl

theorem readings_cons_of_check {result : CheckResult} (there : disk.exists? path = true)
    (checked : (check session disk path).1 = .ok result) (rest : List String) :
    readings session disk (path :: rest) = (path, result) :: readings session disk rest := by
  rw [readings, List.filter_cons, there, if_pos rfl, List.filterMap_cons, checked]
  rfl

/-- All files that are there have been read. -/
theorem map_fst_readings (session : Session) (legible : Legible disk files) :
    (readings session disk files).map Prod.fst = files.filter disk.exists? := by
  induction files with
  | nil => rfl
  | cons path rest ih =>
    obtain ⟨here, others⟩ := List.forall_mem_cons.mp legible
    cases there : disk.exists? path with
    | false => rw [readings_cons_of_missing there, ih others, List.filter_cons, there, if_neg nofun]
    | true =>
      obtain ⟨result, checked, -⟩ := exists_check session (here there)
      rw [readings_cons_of_check there checked, List.map_cons, ih others, List.filter_cons, there,
        if_pos rfl]

/-- What has been read is what comes of checking. -/
theorem check_of_mem_readings {entry : String × CheckResult}
    (member : entry ∈ readings session disk files) :
    (check session disk entry.1).1 = .ok entry.2 := by
  obtain ⟨path, -, read⟩ := List.mem_filterMap.mp member
  obtain ⟨result, checked, rfl⟩ := Option.map_eq_some_iff.mp read
  exact eq_ok_of_toOption checked

end Files

namespace Report

/-- The findings of all files, one after the other. -/
def findings (results : List (String × CheckResult)) : List Finding :=
  results.flatMap fun entry => entry.2.findings

/-- The lines about the findings of all files. -/
def listing (colour : Bool) (results : List (String × CheckResult)) : String :=
  String.join (results.map fun entry => findingsText colour entry.1 entry.2.findings)

/-- What is printed about files while they are checked: nothing, if there will be a document. -/
def told (format : OutputFormat) (colour : Bool) (results : List (String × CheckResult)) : String :=
  if format = .text then listing colour results else ""

theorem told_nil (format : OutputFormat) (colour : Bool) : told format colour [] = "" := by
  rw [told]
  split <;> rfl

theorem told_cons (format : OutputFormat) (colour : Bool) (entry : String × CheckResult)
    (results : List (String × CheckResult)) :
    told format colour (entry :: results)
      = told format colour [entry] ++ told format colour results := by
  rw [told, told, told]
  split
  · simp [listing]
  · rfl

/-- A document lists every finding once. -/
theorem length_allFindings (results : List (String × CheckResult)) :
    (allFindings results).length = (findings results).length := by
  rw [allFindings, findings, List.length_flatMap, List.length_flatMap]
  congr 1
  apply List.map_congr_left
  intro entry _
  exact List.length_map _

end Report

namespace CommandLine

open Files (Legible readings)
open Report (listing told told_nil told_cons findings allFindings checkSummary jsonText
  Figures)

/-! ## Checking one file after the other -/

namespace FileRun

variable {run : FileRun} {path : String} {files : List String}

/-- The run after a file that is not there. -/
def complain (run : FileRun) (path : String) : FileRun :=
  { run with complaints := run.complaints ++ ["File not found: " ++ path] }

/-- The run after a file that was checked. -/
def keep (run : FileRun) (path : String) (result : CheckResult) : FileRun :=
  { run with
    results := run.results ++ [(path, result)]
    errors := run.errors + result.findings.length
    printed := run.printed ++ told run.format run.colour [(path, result)] }

/-- The run after some files, in a check. -/
def afterFiles (run : FileRun) (files : List String) : FileRun :=
  let results := readings run.session run.world.disk files
  { run with
    results := run.results ++ results
    errors := run.errors + (findings results).length
    printed := run.printed ++ told run.format run.colour results
    complaints := run.complaints ++
      (files.filter fun path => !run.world.disk.exists? path).map ("File not found: " ++ ·) }

/-- A file that is not there is passed over. -/
theorem proceed_missing (missing : run.world.disk.exists? path = false) (rest : List String) :
    proceed (path :: rest) run = proceed rest (run.complain path) := by
  rw [proceed, missing]
  rfl

/-- A file that can be read is checked. -/
theorem proceed_checked (checks : run.treatment = .check) {result : CheckResult}
    (there : run.world.disk.exists? path = true)
    (checked : (Files.check run.session run.world.disk path).1 = .ok result)
    (counted : result.errorCount = result.findings.length) (rest : List String) :
    proceed (path :: rest) run = proceed rest (run.keep path result) := by
  have kept : run.check path = .ok (run.keep path result) := by
    rw [check, checked, keep, ← counted, told, listing, List.map_cons, List.map_nil, String.join_cons,
      String.join_nil, String.append_empty]
    rfl
  rw [proceed, there, checks]
  simp only [kept, Bool.not_true, Bool.false_eq_true, if_false]

theorem afterFiles_nil (run : FileRun) : run.afterFiles [] = run := by
  simp [afterFiles, readings, findings, told_nil]

theorem afterFiles_missing (missing : run.world.disk.exists? path = false) (rest : List String) :
    (run.complain path).afterFiles rest = run.afterFiles (path :: rest) := by
  simp [afterFiles, complain, Files.readings_cons_of_missing missing, missing]

theorem afterFiles_checked {result : CheckResult} (there : run.world.disk.exists? path = true)
    (checked : (Files.check run.session run.world.disk path).1 = .ok result) (rest : List String) :
    (run.keep path result).afterFiles rest = run.afterFiles (path :: rest) := by
  have cons := told_cons run.format run.colour (path, result)
    (readings run.session run.world.disk rest)
  simp [afterFiles, cons, keep, Files.readings_cons_of_check there checked, there, findings,
    Nat.add_assoc, String.append_assoc]

/-- **A check goes through all files**, if those that are there can be read.  The induction is on the
files; what was counted, kept and printed before them is the state of the run. -/
theorem proceed_eq (checks : run.treatment = .check) (legible : Legible run.world.disk files) :
    proceed files run = (run.afterFiles files).finish := by
  induction files generalizing run with
  | nil => rw [afterFiles_nil, proceed]
  | cons path rest ih =>
    obtain ⟨here, others⟩ := List.forall_mem_cons.mp legible
    cases there : run.world.disk.exists? path with
    | false =>
      rw [proceed_missing there, ← afterFiles_missing there]
      exact ih checks others
    | true =>
      obtain ⟨result, checked, counted⟩ := Files.exists_check run.session (here there)
      rw [proceed_checked checks there checked counted, ← afterFiles_checked there checked]
      exact ih checks others

/-- A run that is over asks nothing. -/
theorem converse_over (fuel : Nat) (keys : Option (List Char)) (run : FileRun)
    (failure : Option Failure) : converse fuel keys (run, .over failure) = (run, failure) := by
  cases fuel <;> cases keys <;> rfl

end FileRun

/-! ## Runs that check files -/

/-- A check that can be asked for in either format. -/
structure CheckRequest where
  paths : List String
  noFail : Bool
  project : String
  language : Option String
  relative : Bool
  colour : Bool

namespace CheckRequest

/-- What a command line for the check asks for. -/
def arguments (request : CheckRequest) (format : OutputFormat) : Arguments where
  task := .files request.paths .check format request.noFail
  project := request.project
  language := request.language
  relative := request.relative
  colour := request.colour

/-- A check that is carried out: it is asked for by a command line in each format, its project is
opened, and the files that are there can be read. -/
structure CarriedOut (request : CheckRequest) (surroundings : Surroundings) (world : World)
    (commandLine : OutputFormat → List String) (session : Session) (opened : World) : Prop where
  asked : ∀ format, Arguments.read (commandLine format) = .ok (request.arguments format)
  opens : (request.arguments .text).openProject surroundings world = (.ok session, opened)
  legible : Legible opened.disk (Files.collect session.configuration opened.disk request.paths)

/-- How the check of some files ends. -/
def ending (request : CheckRequest) (session : Session) (world : World) (colour : Bool)
    (files : List String) (format : OutputFormat) : Ending :=
  let results := readings session world.disk files
  { code := if 0 < (findings results).length && !request.noFail then 1 else 0
    printed := told format colour results ++
      if format = .json then jsonText results
      else checkSummary colour (findings results).length files.length
    complaints :=
      (files.filter fun path => !world.disk.exists? path).map ("File not found: " ++ ·)
    world := world }

variable {request : CheckRequest} {surroundings : Surroundings} {world opened : World}
  {commandLine : OutputFormat → List String} {session : Session}

/-- The project is opened in the same way for both formats, and the files are checked in it. -/
theorem CarriedOut.run_eq_perform
    (carried : request.CarriedOut surroundings world commandLine session opened)
    (format : OutputFormat) :
    run surroundings world (commandLine format)
      = perform session opened (surroundings.colour && request.colour) surroundings.keys
          (request.arguments format).task := by
  have opens : (request.arguments format).openProject surroundings world = (.ok session, opened) :=
    carried.opens
  rw [run, carried.asked format]
  simp only [arguments] at opens ⊢
  rw [opens]

/-- A run without paths ends at once. -/
theorem CarriedOut.run_of_no_paths
    (carried : request.CarriedOut surroundings world commandLine session opened)
    (none : request.paths = []) (format : OutputFormat) :
    run surroundings world (commandLine format) = ⟨1, "", [Failure.noPaths.message], opened⟩ := by
  rw [carried.run_eq_perform, arguments, none]
  rfl

/-- **A run with paths goes through all files.** -/
theorem CarriedOut.run_eq
    (carried : request.CarriedOut surroundings world commandLine session opened)
    (some : request.paths ≠ []) (format : OutputFormat) :
    run surroundings world (commandLine format)
      = request.ending session opened (surroundings.colour && request.colour)
          (Files.collect session.configuration opened.disk request.paths) format := by
  have filled : request.paths.isEmpty = false := by simpa using some
  rw [carried.run_eq_perform, arguments, perform, filled, startFiles,
    FileRun.proceed_eq rfl carried.legible, FileRun.finish, FileRun.converse_over]
  simp [Ending.ofFileRun, Ending.ofFailure, ending, FileRun.print, FileRun.closing, FileRun.afterFiles]

end CheckRequest

/-! ## The reports of one check -/

/-- How the runs of one check in text and in JSON tell the results for the files that were there. -/
structure SameReports (noFail colour : Bool) (files : List String)
    (results : List (String × CheckResult)) (text json : Ending) : Prop where
  /-- Both runs end with the same code, -/
  code : text.code = json.code
  /-- which is one if there is a finding that counts, and zero if not. -/
  failed : json.code = if findings results ≠ [] ∧ noFail = false then 1 else 0
  /-- They complain about the same files. -/
  complaints : text.complaints = json.complaints
  /-- The text lists the findings of all files, with a summary behind them, -/
  listed : text.printed =
    listing colour results ++ checkSummary colour (findings results).length files.length
  /-- which has the numbers of findings and of all files, if there are findings. -/
  summary : Figures.ofText? text.printed =
    if findings results = [] then none else some ⟨(findings results).length, files.length⟩
  /-- The document has the numbers of findings and of the files that were there, and a list of all
  findings, -/
  document : Figures.ofJson? json.printed =
    some (⟨(findings results).length, results.length⟩, (allFindings results).map Json.toForm)
  /-- each of them once. -/
  entries : (allFindings results).length = (findings results).length

/-- The summary of a text has no other figures than a document. -/
def SameFigures (text json : Ending) : Prop :=
  ∀ figures, Figures.ofText? text.printed = some figures →
    (Figures.ofJson? json.printed).map Prod.fst = some figures

/-- The two ways in which a check can end tell the same results. -/
theorem CheckRequest.sameReports (request : CheckRequest) (session : Session) (world : World)
    (colour : Bool) (files : List String) :
    SameReports request.noFail colour files (readings session world.disk files)
      (request.ending session world colour files .text)
      (request.ending session world colour files .json) where
  code := rfl
  failed := by
    simp [ending, List.length_pos_iff]
  complaints := rfl
  listed := rfl
  summary := by
    have figures := Figures.ofText?_checkSummary colour
      (listing colour (readings session world.disk files))
      (findings (readings session world.disk files)).length files.length
    simp only [List.length_eq_zero_iff] at figures
    exact figures
  document := by
    have figures := Figures.ofJson?_jsonText (readings session world.disk files)
    rw [Report.length_allFindings] at figures
    simpa [ending, told] using figures
  entries := Report.length_allFindings _

/-- The figures are the same exactly if there are none in the summary, or all files were there. -/
theorem SameReports.sameFigures_iff {noFail colour : Bool} {files : List String}
    {results : List (String × CheckResult)} {text json : Ending}
    (same : SameReports noFail colour files results text json) :
    SameFigures text json ↔ findings results = [] ∨ results.length = files.length := by
  rw [SameFigures, same.summary, same.document, Option.map_some]
  by_cases found : findings results = []
  · simp [found]
  · rw [if_neg found]
    simp [found]

/-- **The reports of a check in text and in JSON agree, but for the files that are missing.**  For every
check that is carried out, the runs in both formats end with the same code, which tells whether there
are findings that count; both list all findings of the files that are there, and give their number.
The document gives the number of the files that are there, and the summary that of all files that were
asked for: so their figures are the same exactly if there are no findings or no file is missing.
Without paths there is no check, and both runs end in the same way. -/
theorem reports_agree_iff {request : CheckRequest} {surroundings : Surroundings}
    {world opened : World} {commandLine : OutputFormat → List String} {session : Session}
    (carried : request.CarriedOut surroundings world commandLine session opened) :
    let files := Files.collect session.configuration opened.disk request.paths
    let results := readings session opened.disk files
    let text := run surroundings world (commandLine .text)
    let json := run surroundings world (commandLine .json)
    (request.paths = [] → text = json ∧ json = ⟨1, "", [Failure.noPaths.message], opened⟩) ∧
      (request.paths ≠ [] →
        results.map Prod.fst = files.filter opened.disk.exists? ∧
          (∀ entry ∈ results, (Files.check session opened.disk entry.1).1 = .ok entry.2) ∧
          SameReports request.noFail (surroundings.colour && request.colour) files results text json ∧
          (SameFigures text json ↔
            findings results = [] ∨ ∀ path ∈ files, opened.disk.exists? path = true)) := by
  intro files results text json
  constructor
  · intro none
    have ends := carried.run_of_no_paths none
    exact ⟨(ends .text).trans (ends .json).symm, ends .json⟩
  · intro some
    have read := Files.map_fst_readings session carried.legible
    have same := request.sameReports session opened (surroundings.colour && request.colour) files
    rw [← carried.run_eq some, ← carried.run_eq some] at same
    refine ⟨read, fun entry => Files.check_of_mem_readings, same, ?_⟩
    rw [same.sameFigures_iff, ← List.length_map Prod.fst, read, List.length_filter_eq_length_iff]

/-- A check of a draft and of a file that is missing. -/
def draftRequest : CheckRequest where
  paths := ["draft.txt", "missing.txt"]
  noFail := false
  project := "."
  language := none
  relative := false
  colour := true

/-- The draft, with a mistake in it. -/
def draftWorld : World :=
  ⟨{ nodes := [(["draft.txt"], .file "helo\n".toUTF8)] }, ⟨0⟩⟩

/-- A terminal without colours, and nobody at it. -/
def plainTerminal : Surroundings :=
  ⟨"/home/reader/.config", false, none⟩

/-- One mistake is found in one file; the summary counts two of them. -/
theorem reports_agree_iff_missing :
    ∃ session opened,
      let commandLine (format : OutputFormat) : List String :=
        ["draft.txt", "missing.txt", "--format", format.name]
      let text := run plainTerminal draftWorld (commandLine .text)
      let json := run plainTerminal draftWorld (commandLine .json)
      draftRequest.CarriedOut plainTerminal draftWorld commandLine session opened ∧
        text.code = 1 ∧ json.code = 1 ∧
        Figures.ofText? text.printed = some ⟨1, 2⟩ ∧
        (Figures.ofJson? json.printed).map Prod.fst = some ⟨1, 1⟩ ∧ ¬ SameFigures text json := by
  have checked :
      let project := (draftRequest.arguments .text).openProject plainTerminal draftWorld
      (project.1.toOption.map fun session =>
        let files := Files.collect session.configuration project.2.disk draftRequest.paths
        let results := readings session project.2.disk files
        (files, files.all project.2.disk.exists?, decide (Legible project.2.disk files),
          results.length, (findings results).length))
        = some (["draft.txt", "missing.txt"], false, true, 1, 1) := by
    decide +kernel
  have asked : ∀ format : OutputFormat,
      Arguments.read ["draft.txt", "missing.txt", "--format", format.name]
        = .ok (draftRequest.arguments format) := by
    intro format
    cases format <;> rfl
  cases opens : (draftRequest.arguments .text).openProject plainTerminal draftWorld with
  | mk result opened =>
    rw [opens] at checked
    cases result with
    | error failure => cases checked
    | ok session =>
      have known := Option.some.inj checked
      simp only [Prod.mk.injEq, decide_eq_true_eq] at known
      obtain ⟨files, missing, legible, length, found⟩ := known
      have carried : draftRequest.CarriedOut plainTerminal draftWorld _ session opened :=
        ⟨asked, opens, legible⟩
      obtain ⟨-, -, same, figures⟩ := (reports_agree_iff carried).2 (by decide)
      have faulty : findings (readings session opened.disk
          (Files.collect session.configuration opened.disk draftRequest.paths)) ≠ [] := by
        intro clean
        rw [clean] at found
        cases found
      have code := same.failed
      rw [if_pos ⟨faulty, rfl⟩] at code
      have summary := same.summary
      rw [if_neg faulty, found, files] at summary
      refine ⟨session, opened, carried, same.code.trans code, code, summary, ?_, ?_⟩
      · rw [same.document, found, length]
        rfl
      · rw [figures, ← List.all_eq_true, missing]
        simp [faulty]

end CommandLine

end Orthography
