import MessageTemplate.Command.Directory
import MessageTemplate.Command.Run
import MessageTemplate.Proofs.Template.RoundTrip
import MessageTemplate.Proofs.Template.Concatenation
import MessageTemplate.Proofs.Text.Lines

/-!
# What `check` reports

The files are read in order, and their lines are numbered from one, each file anew.  A line
counts when it is not blank, and it is reported when it counts and cannot be read on its own.
A file that cannot be read makes the whole run fail, but what was found in the files in front of
it has been shown by then.

The place of an error is in the line that was read.  A line holds no line feed, so the place is
on the first line of what was read, and the column alone tells where it is.
-/

namespace MessageTemplate

open Text

namespace Command

variable {read : String → Option String} {file : String} {files : List String}

/-! ## The lines of files -/

/-- A line of a file, with its number. -/
structure FileLine where
  file : String
  number : Nat
  text : List Char
  deriving DecidableEq, Repr

/-- The lines of a file, counted from `number` on. -/
def numbered (file : String) (number : Nat) (lines : List (List Char)) : List FileLine :=
  (lines.zipIdx number).map fun (text, number) => ⟨file, number, text⟩

/-- The files can be read, and hold these lines. -/
inductive Holds (read : String → Option String) : List String → List FileLine → Prop where
  | nil : Holds read [] []
  | cons {file content : String} {files : List String} {lines : List (List Char)}
      {others : List FileLine} (hread : read file = some content)
      (hlines : HasLines content.toList lines) (hothers : Holds read files others) :
      Holds read (file :: files) (numbered file 1 lines ++ others)

/-- Whether the line holds something other than white space. -/
def FileLine.counts (line : FileLine) : Bool :=
  line.text.any fun c => !isBlank c

/-- The failure to read the line on its own. -/
def FileLine.failure? (line : FileLine) : Option CheckFailure :=
  match Template.parse (String.ofList line.text) with
  | .ok _ => none
  | .error error => some ⟨line.file, line.number, String.ofList line.text, error⟩

/-- The number of lines that count, and the failures to read them. -/
def reportOf (lines : List FileLine) : CheckReport :=
  let counted := lines.filter FileLine.counts
  ⟨counted.length, counted.filterMap FileLine.failure?⟩

/-! ## Checking is reporting -/

theorem reportOf_append (a b : List FileLine) :
    reportOf (a ++ b) = (reportOf a).append (reportOf b) := by
  simp [reportOf, CheckReport.append]

theorem isBlankLine_eq (line : FileLine) : isBlankLine line.text = !line.counts := by
  simp [isBlankLine, FileLine.counts, List.not_any_eq_all_not]

theorem checkLine_eq (line : FileLine) :
    checkLine line.file line.number line.text = reportOf [line] := by
  rw [checkLine, isBlankLine_eq]
  cases hcounts : line.counts with
  | true =>
    simp only [reportOf, List.filter_cons_of_pos hcounts, List.filter_nil,
      List.length_singleton, List.filterMap_cons, List.filterMap_nil, FileLine.failure?]
    cases Template.parse (String.ofList line.text) <;> rfl
  | false => simp [reportOf, hcounts]

theorem checkLines_eq (file : String) (number : Nat) (lines : List (List Char)) :
    checkLines file number lines = reportOf (numbered file number lines) := by
  induction lines generalizing number with
  | nil => rfl
  | cons line lines ih =>
    have hcons : numbered file number (line :: lines) =
        [⟨file, number, line⟩] ++ numbered file (number + 1) lines := by
      simp [numbered, List.zipIdx_cons]
    rw [hcons, reportOf_append, checkLines, ih, ← checkLine_eq]

theorem CheckReport.empty_append (report : CheckReport) :
    CheckReport.append {} report = report := by
  simp [append]

theorem CheckReport.append_empty (report : CheckReport) : report.append {} = report := by
  simp [append]

theorem CheckReport.append_assoc (a b c : CheckReport) :
    (a.append b).append c = a.append (b.append c) := by
  simp [append, Nat.add_assoc]

/-- Whatever files come behind, the lines of readable files in front are reported. -/
theorem checkUpTo_append {lines : List FileLine} (h : Holds read files lines)
    (others : List String) :
    checkUpTo read (files ++ others) = (reportOf lines).append (checkUpTo read others) := by
  induction h with
  | nil => exact (CheckReport.empty_append _).symm
  | cons hread hlines _ ih =>
    rw [List.cons_append, checkUpTo, hread]
    dsimp only
    rw [ih, checkContent, ← hlines.eq_lines, checkLines_eq, reportOf_append,
      CheckReport.append_assoc]

theorem checkUpTo_of_holds {lines : List FileLine} (h : Holds read files lines) :
    checkUpTo read files = reportOf lines := by
  have happend := checkUpTo_append h []
  rw [List.append_nil] at happend
  rw [happend]
  exact CheckReport.append_empty _

theorem checkUpTo_of_unreadable {lines : List FileLine} (h : Holds read files lines)
    (hread : read file = none) (others : List String) :
    checkUpTo read (files ++ file :: others) = reportOf lines := by
  rw [checkUpTo_append h, checkUpTo, hread]
  exact CheckReport.append_empty _

theorem Holds.isSome {lines : List FileLine} (h : Holds read files lines) :
    ∀ file ∈ files, (read file).isSome = true := by
  induction h with
  | nil => nofun
  | cons hread _ _ ih =>
    exact List.forall_mem_cons.mpr ⟨Option.isSome_iff_exists.mpr ⟨_, hread⟩, ih⟩

theorem checkFiles_of_holds {lines : List FileLine} (h : Holds read files lines) :
    checkFiles read files = some (reportOf lines) := by
  rw [checkFiles, if_pos (List.all_eq_true.mpr h.isSome), checkUpTo_of_holds h]

theorem checkFiles_of_unreadable (hfile : file ∈ files) (hread : read file = none) :
    checkFiles read files = none := by
  refine if_neg fun hall => ?_
  have hsome := List.all_eq_true.mp hall file hfile
  rw [hread] at hsome
  contradiction

theorem exists_holds (h : ∀ file ∈ files, read file ≠ none) : ∃ lines, Holds read files lines := by
  induction files with
  | nil => exact ⟨[], .nil⟩
  | cons file files ih =>
    obtain ⟨hfile, hfiles⟩ := List.forall_mem_cons.mp h
    obtain ⟨content, hread⟩ := Option.ne_none_iff_exists'.mp hfile
    obtain ⟨others, hothers⟩ := ih hfiles
    exact ⟨_, .cons hread (hasLines_lines _) hothers⟩

/-! ## Failures -/

theorem Holds.not_mem {lines : List FileLine} (h : Holds read files lines) :
    ∀ line ∈ lines, '\n' ∉ line.text := by
  induction h with
  | nil => nofun
  | @cons file content files lines others _ hlines _ ih =>
    intro line hline
    rcases List.mem_append.mp hline with hline | hline
    · obtain ⟨⟨text, number⟩, htext, rfl⟩ := List.mem_map.mp hline
      exact hlines.not_mem text (List.fst_mem_of_mem_zipIdx htext)
    · exact ih line hline

/-- The error of a text without line feeds is on the first line. -/
theorem line_eq_one_of_parse {source : String} {error : ParseError} (hsource : '\n' ∉ source.toList)
    (h : Template.parse source = .error error) : error.position.line = 1 := by
  obtain ⟨failure, hrun, rfl⟩ := Template.read_eq_error.mp h
  obtain ⟨before, hbefore⟩ := Reader.failure_suffix hrun
  rw [← hbefore] at hsource ⊢
  have hcount : before.count '\n' = 0 :=
    List.count_eq_zero.mpr fun hmem => hsource (List.mem_append_left _ hmem)
  rw [Reader.Failure.toError, Reader.placeOf_append_self, Position.after_eq_moved, Position.moved,
    hcount]
  rfl

theorem FileLine.failure?_eq_some {line : FileLine} {failure : CheckFailure} :
    line.failure? = some failure ↔
      ∃ error, Template.parse (String.ofList line.text) = .error error ∧
        failure = ⟨line.file, line.number, String.ofList line.text, error⟩ := by
  unfold failure?
  cases Template.parse (String.ofList line.text) with
  | ok template => simp
  | error error => simp [eq_comm]

/-- Every failure of a report is on the first line of what was read. -/
theorem Holds.line_eq_one {lines : List FileLine} (h : Holds read files lines) :
    ∀ failure ∈ (reportOf lines).failures, failure.error.position.line = 1 := by
  intro failure hfailure
  obtain ⟨line, hline, hfound⟩ := List.mem_filterMap.mp hfailure
  obtain ⟨error, herror, rfl⟩ := FileLine.failure?_eq_some.mp hfound
  have hmem := h.not_mem line (List.mem_filter.mp hline).1
  exact line_eq_one_of_parse (by rwa [String.toList_ofList]) herror

/-! ## Summaries -/

theorem colored_ok (isOn : Bool) :
    colored isOn "32" "ok" = if isOn then "\x1b[32mok\x1b[39m" else "ok" := by
  cases isOn <;> decide

theorem colored_error (isOn : Bool) :
    colored isOn "31" "error" = if isOn then "\x1b[31merror\x1b[39m" else "error" := by
  cases isOn <;> decide

theorem CheckReport.summary_of_nil {report : CheckReport} (h : report.failures = [])
    (isOn : Bool) :
    report.summary isOn ++ "\n" =
      (if isOn then "\x1b[32mok\x1b[39m" else "ok") ++ " " ++ report.checked.repr ++
        " template(s) checked\n" := by
  have hend : " template(s) checked" ++ "\n" = " template(s) checked\n" := by decide
  rw [summary, if_pos (List.isEmpty_iff.mpr h), colored_ok, String.append_assoc, hend]

theorem CheckReport.summary_of_ne_nil {report : CheckReport} (h : report.failures ≠ [])
    (isOn : Bool) :
    report.summary isOn ++ "\n" =
      (if isOn then "\x1b[31merror\x1b[39m" else "error") ++ " " ++
        report.failures.length.repr ++ " of " ++ report.checked.repr ++
        " template(s) failed to parse\n" := by
  have hend : " template(s) failed to parse" ++ "\n" = " template(s) failed to parse\n" := by
    decide
  rw [summary, if_neg (mt List.isEmpty_iff.mp h), colored_error, String.append_assoc, hend]

/-! ## Command lines -/

variable {libraries : Libraries} {env : Environment} {args : List String} {invocation : Invocation}
  {json isOn : Bool}

theorem run_of_check (hread : Invocation.read libraries env args = .ok invocation)
    (haction : invocation.action = .check files json) :
    runWith libraries env read args = runCheck read files json (invocation.color.isOn env) := by
  rw [runWith_of_read hread, Invocation.run, haction]

theorem runCheck_of_unreadable (hfile : file ∈ files) (hread : read file = none) :
    runCheck read files json isOn =
      { code := exitFailure
        diagnostics :=
          if json then [] else (checkUpTo read files).failures.map CheckFailure.diagnostic } := by
  rw [runCheck, checkFiles_of_unreadable hfile hread]

theorem runCheck_of_holds {lines : List FileLine} (h : Holds read files lines) :
    runCheck read files json isOn =
      { code := if (reportOf lines).failures.isEmpty then exitOk else exitData
        output :=
          (if json then (Json.array ((reportOf lines).failures.map CheckFailure.toJson)).pretty 0
            else (reportOf lines).summary isOn) ++ "\n"
        diagnostics :=
          if json then [] else (reportOf lines).failures.map CheckFailure.diagnostic } := by
  rw [runCheck, checkFiles_of_holds h, checkUpTo_of_holds h]

/-- What `check` reports, for every command line that is read as one of `check`, by whatever
library.  When a file cannot be read the code is 70 and nothing is printed; the failures in the
files in front of the first such file have been shown by then.  Otherwise the files hold lines.
The report counts those that are not blank, and has one failure for each of them that cannot be
read on its own, in order, with its file and its number and the error.  The code is 0 when there
is no failure and else 65.  Every error is on the first line of what was read, so the JSON form,
which gives the column alone, loses nothing.  Without `--json` every failure is shown with its
file and its number, the line and the place in it, and the counts are printed. -/
theorem run_check_reports (libraries : Libraries) (env : Environment)
    (read : String → Option String) (args : List String) (invocation : Invocation)
    (files : List String) (json : Bool)
    (hread : Invocation.read libraries env args = .ok invocation)
    (haction : invocation.action = .check files json) :
    let outcome := runWith libraries env read args
    let isOn := invocation.color.isOn env
    let shown := fun failure : CheckFailure =>
      ({ source := ⟨failure.file ++ ":" ++ failure.line.repr, failure.content⟩
         message := failure.error.message
         code := "xmsg::syntax"
         help := Diagnostic.help? failure.error.cause
         labels :=
          [⟨Diagnostic.offset failure.content.toList failure.error.position, 1, "error here"⟩] } :
        Diagnostic)
    ((∃ file ∈ files, read file = none) → outcome.code = 70 ∧ outcome.output = "") ∧
    (∀ before file after lines, files = before ++ file :: after → Holds read before lines →
      read file = none → outcome.diagnostics = if json then [] else
        ((lines.filter FileLine.counts).filterMap FileLine.failure?).map shown) ∧
    ((∀ file ∈ files, read file ≠ none) → ∃ lines, Holds read files lines) ∧
    ∀ lines, Holds read files lines →
      let counted := lines.filter FileLine.counts
      let failures := counted.filterMap FileLine.failure?
      checkFiles read files = some ⟨counted.length, failures⟩ ∧
      (failures = [] → outcome.code = 0) ∧
      (failures ≠ [] → outcome.code = 65) ∧
      (∀ failure ∈ failures, failure.error.position.line = 1) ∧
      (json = true → outcome.diagnostics = [] ∧
        outcome.output =
          (Json.array (failures.map fun failure => .object
            [("file", .string failure.file), ("line", .integer failure.line),
             ("column", .integer failure.error.position.column),
             ("message", .string failure.error.message)])).pretty 0 ++ "\n") ∧
      (json = false → outcome.diagnostics = failures.map shown ∧
        (failures = [] → outcome.output =
          (if isOn then "\x1b[32mok\x1b[39m" else "ok") ++ " " ++ counted.length.repr ++
            " template(s) checked\n") ∧
        (failures ≠ [] → outcome.output =
          (if isOn then "\x1b[31merror\x1b[39m" else "error") ++ " " ++ failures.length.repr ++
            " of " ++ counted.length.repr ++ " template(s) failed to parse\n")) := by
  intro outcome isOn shown
  have hrun : outcome = runCheck read files json isOn := run_of_check hread haction
  refine ⟨?_, ?_, exists_holds, fun lines hlines => ?_⟩
  · rintro ⟨file, hfile, hnone⟩
    rw [hrun, runCheck_of_unreadable hfile hnone]
    exact ⟨rfl, rfl⟩
  · rintro before file after lines rfl hlines hnone
    rw [hrun, runCheck_of_unreadable (List.mem_append_right _ List.mem_cons_self) hnone,
      checkUpTo_of_unreadable hlines hnone]
    rfl
  · intro counted failures
    rw [hrun, runCheck_of_holds hlines]
    refine ⟨checkFiles_of_holds hlines, fun hnone => ?_, fun hsome => ?_, hlines.line_eq_one,
      ?_, ?_⟩
    · exact if_pos (List.isEmpty_iff.mpr hnone)
    · exact if_neg (mt List.isEmpty_iff.mp hsome)
    · rintro rfl
      exact ⟨rfl, rfl⟩
    · rintro rfl
      refine ⟨rfl, fun hnone => ?_, fun hsome => ?_⟩
      · exact CheckReport.summary_of_nil hnone isOn
      · exact CheckReport.summary_of_ne_nil hsome isOn

/-- A file with two line ends, a blank line and a fault on its third line, and another file. -/
def twoFiles : Directory :=
  [("a", "\x7b0\x7d\r\n \n\x7b\n"), ("b", "x")]

/-- The file with the fault is given twice, for JSON; once, for text; and in front of a file that
is not there, when its fault has been shown already. -/
theorem run_check_reports_repeated :
    let read := twoFiles.read?
    let fault := CheckFailure.mk "a" 3 "\x7b" ⟨.unterminatedToken, ⟨1, 1⟩⟩
    let shown : Diagnostic :=
      { source := ⟨"a:3", "\x7b"⟩
        message := "unterminated token starting at 1:1"
        code := "xmsg::syntax"
        help := some "'\x7b' and '\x7d' always delimit tokens and cannot be escaped"
        labels := [⟨0, 1, "error here"⟩] }
    let run := run {} read
    let twice := ["check", "a", "b", "a", "--json"]
    let once := ["check", "a", "b"]
    let missing := ["check", "a", "c"]
    Invocation.read .standard {} twice = .ok ⟨.auto, false, .check ["a", "b", "a"] true⟩ ∧
      checkFiles read ["a", "b", "a"] = some ⟨5, [fault, fault]⟩ ∧ (run twice).code = 65 ∧
      Invocation.read .standard {} once = .ok ⟨.auto, false, .check ["a", "b"] false⟩ ∧
      (run once).diagnostics = [shown] ∧
      (run once).output = "error 1 of 3 template(s) failed to parse\n" ∧
      Invocation.read .standard {} missing = .ok ⟨.auto, false, .check ["a", "c"] false⟩ ∧
      (run missing).code = 70 ∧ (run missing).output = "" ∧
      (run missing).diagnostics = [shown] := by
  intro read fault shown run twice once missing
  have htwice : Invocation.read .standard {} twice =
      .ok ⟨.auto, false, .check ["a", "b", "a"] true⟩ := rfl
  have honce : Invocation.read .standard {} once =
      .ok ⟨.auto, false, .check ["a", "b"] false⟩ := rfl
  have hmissing : Invocation.read .standard {} missing =
      .ok ⟨.auto, false, .check ["a", "c"] false⟩ := rfl
  have hparam : Template.parse "\x7b0\x7d" = .ok [.param (.position 0)] :=
    @Template.read_print (some Template.maxNesting) [.param (.position 0)] (by decide)
      (allows_some.mpr (by decide))
  have htext : Template.parse "x" = .ok [.text "x"] :=
    @Template.read_print (some Template.maxNesting) [.text "x"] (by decide)
      (allows_some.mpr (by decide))
  have hfault : Template.parse "\x7b" = .error ⟨.unterminatedToken, ⟨1, 1⟩⟩ :=
    Template.read_eq_error.mpr
      ⟨⟨.unterminatedToken, ['\x7b']⟩, Reader.run_of_failure rfl, by decide⟩
  have ha : twoFiles.read? "a" = some "\x7b0\x7d\r\n \n\x7b\n" := by decide
  have hb : twoFiles.read? "b" = some "x" := by decide
  have hc : twoFiles.read? "c" = none := by decide
  -- The lines of the two files, and what becomes of those that count.
  let first := numbered "a" 1 ["\x7b0\x7d".toList, " ".toList, "\x7b".toList]
  let second := numbered "b" 1 ["x".toList]
  have hsplit : Text.lines "\x7b0\x7d\r\n \n\x7b\n".toList =
      ["\x7b0\x7d".toList, " ".toList, "\x7b".toList] := by decide
  have hfirst : HasLines "\x7b0\x7d\r\n \n\x7b\n".toList
      ["\x7b0\x7d".toList, " ".toList, "\x7b".toList] := hsplit ▸ hasLines_lines _
  have hsecond : HasLines "x".toList ["x".toList] := .last (by decide) (by decide)
  let good : FileLine := ⟨"a", 1, "\x7b0\x7d".toList⟩
  let bad : FileLine := ⟨"a", 3, "\x7b".toList⟩
  let other : FileLine := ⟨"b", 1, "x".toList⟩
  have hgood : good.failure? = none := by
    rw [FileLine.failure?, String.ofList_toList, hparam]
  have hother : other.failure? = none := by
    rw [FileLine.failure?, String.ofList_toList, htext]
  have hbad : bad.failure? = some fault := FileLine.failure?_eq_some.mpr ⟨_, hfault, rfl⟩
  have hcountedTwice : List.filter FileLine.counts (first ++ (second ++ (first ++ []))) =
      [good, bad, other, good, bad] := by decide
  have hcountedOnce : List.filter FileLine.counts (first ++ (second ++ [])) =
      [good, bad, other] := by decide
  have hcountedFirst : List.filter FileLine.counts (first ++ []) = [good, bad] := by decide
  have hlinesFirst : Holds read ["a"] (first ++ []) := .cons ha hfirst .nil
  have hlinesOnce : Holds read ["a", "b"] (first ++ (second ++ [])) :=
    .cons ha hfirst (.cons hb hsecond .nil)
  have hlinesTwice : Holds read ["a", "b", "a"] (first ++ (second ++ (first ++ []))) :=
    .cons ha hfirst (.cons hb hsecond hlinesFirst)
  obtain ⟨-, -, -, hreportTwice⟩ := run_check_reports .standard {} read twice _ _ _ htwice rfl
  obtain ⟨-, -, -, hreportOnce⟩ := run_check_reports .standard {} read once _ _ _ honce rfl
  obtain ⟨hcheck, -, hcode, -⟩ := hreportTwice _ hlinesTwice
  obtain ⟨-, -, -, -, -, htextMode⟩ := hreportOnce _ hlinesOnce
  obtain ⟨hdiagnostics, -, houtput⟩ := htextMode rfl
  obtain ⟨hunreadable, hbefore, -⟩ :=
    run_check_reports .standard {} read missing _ _ _ hmissing rfl
  have hearlier := hbefore ["a"] "c" [] _ rfl hlinesFirst hc
  simp only [hcountedTwice, hcountedOnce, hcountedFirst, List.filterMap_cons, hgood, hother, hbad,
    List.filterMap_nil] at hcheck hcode hdiagnostics houtput hearlier
  obtain ⟨hfailed, hsilent⟩ := hunreadable ⟨"c", by decide, hc⟩
  exact ⟨htwice, hcheck, hcode (List.cons_ne_nil _ _), honce, hdiagnostics.trans (by decide),
    (houtput (List.cons_ne_nil _ _)).trans (by decide), hmissing, hfailed, hsilent,
    hearlier.trans (by decide)⟩

end Command

end MessageTemplate
