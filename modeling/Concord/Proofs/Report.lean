import Concord.Proofs.Outcome
import Concord.Proofs.Text.SingleLine
import Concord.Report
import Mathlib.Algebra.GroupWithZero.Nat

/-!
# The layout and the counts of a text report

Whatever a backend prints, its outcome is shown on a single line. So the lines
of a report are those that its layout gives it: one for each case, the passages
about the cases that need attention, and four that close the text. The counters
of a summary split the cases by their outcomes, and the last line says whether
the run succeeded.
-/

namespace Concord

open Text (SingleLine)

/-! ## Outcomes on a single line -/

namespace Outcome

variable {report : List Char} {t : Transcript}

theorem newline_notMem_lastReport? {stdout : List Char}
    (h : lastReport? stdout = some report) : '\n' ∉ report := by
  obtain ⟨line, ⟨before, after, hlines, -, -⟩, hdropped⟩ :=
    lastReport?_eq_some_iff.mp h
  have hline : '\n' ∉ line :=
    Text.newline_notMem_of_mem_lines (by rw [hlines]; simp)
  obtain ⟨blanks, -, hwhole⟩ := Text.exists_dropTrailingBlanks_append line
  intro hmem
  apply hline
  rw [← hwhole, hdropped]
  simp [hmem]

theorem singleLine_text_failure {kind : FailureKind} {message : String}
    (hkind : SingleLine kind.text) (hmessage : SingleLine message) :
    SingleLine (failure kind message).text := by
  rw [text]
  split_ifs
  · exact hkind
  · have hcolon : SingleLine ": " := by decide
    simp [hkind, hcolon, hmessage]

/-- The tag, the name and the payload of a report stand on its line. -/
theorem singleLine_text_ofReport (h : '\n' ∉ report) :
    SingleLine (ofReport report).text := by
  obtain ⟨tag, rest, hreport⟩ :
      ∃ tag rest, Text.cutAt ' ' report = (tag, rest) := ⟨_, _, rfl⟩
  obtain ⟨name, payload, hrest⟩ :
      ∃ name payload, Text.cutAt ' ' rest = (name, payload) :=
    ⟨_, _, rfl⟩
  have hparts : ∀ c, c ∈ name ∨ c ∈ payload → c ∈ report := by
    intro c hc
    exact Text.mem_of_mem_cutAt hreport
      (Or.inr (Text.mem_of_mem_cutAt hrest hc))
  have hname : SingleLine (String.ofList name) :=
    Text.singleLine_ofList.mpr fun hmem => h (hparts _ (Or.inl hmem))
  have hpayload : SingleLine (String.ofList payload) :=
    Text.singleLine_ofList.mpr fun hmem => h (hparts _ (Or.inr hmem))
  rw [ofReport_of_cutAt hreport hrest]
  split_ifs
  · have hspace : SingleLine " " := by decide
    simp only [text, Text.singleLine_append]
    exact ⟨⟨hname, hspace⟩, hpayload⟩
  · have hraised : SingleLine "raised " := by decide
    apply singleLine_text_failure
    · exact Text.singleLine_append.mpr ⟨hraised, hname⟩
    · exact hpayload
  · have hmalformed : SingleLine ("malformed outcome line: " ++ marker) := by
      decide
    apply singleLine_text_failure (by decide)
    exact Text.singleLine_append.mpr ⟨hmalformed, Text.singleLine_ofList.mpr h⟩

/-- Lines of error output are joined by bars. -/
theorem singleLine_errorTail (stderr : String) :
    SingleLine (errorTail stderr) := by
  apply Text.singleLine_intercalate (by decide)
  intro s hs
  obtain ⟨line, hline, rfl⟩ := List.mem_map.mp hs
  have hkept := List.mem_of_mem_drop hline
  exact Text.singleLine_ofList.mpr
    (Text.newline_notMem_of_mem_lines (List.mem_of_mem_filter hkept))

theorem singleLine_text_unreported (h : SingleLine t.status) :
    SingleLine (unreported t).text := by
  have htail := singleLine_errorTail t.stderr
  have hdetail : SingleLine
      (if t.exitCode = some 0 then "exited without reporting an outcome"
        else t.status) := by
    split_ifs
    · decide
    · exact h
  rw [unreported]
  dsimp only
  by_cases hsyntax : Text.contains t.stderr "SyntaxError" = true
  · rw [if_pos hsyntax]
    exact singleLine_text_failure (by decide) htail
  · rw [if_neg hsyntax]
    apply singleLine_text_failure (by decide)
    by_cases hempty : (errorTail t.stderr).isEmpty = true
    · rw [if_pos hempty]
      exact hdetail
    · have hcolon : SingleLine ": " := by decide
      rw [if_neg hempty]
      simp only [Text.singleLine_append]
      exact ⟨⟨hdetail, hcolon⟩, htail⟩

/-- Every outcome is shown on a single line, whatever was printed. -/
theorem singleLine_text_ofTranscript (h : SingleLine t.status) :
    SingleLine (ofTranscript t).text := by
  rw [ofTranscript]
  split_ifs with htime
  · have hbefore : SingleLine "no result after " := by decide
    have hafter : SingleLine "ms" := by decide
    apply singleLine_text_failure (by decide)
    simp [hbefore, hafter]
  · split
    · rename_i report hreport
      exact singleLine_text_ofReport (newline_notMem_lastReport? hreport)
    · exact singleLine_text_unreported h

/-- The outcome was read from a transcript whose status is a single line. -/
def IsObserved (o : Outcome) : Prop :=
  ∃ t : Transcript, SingleLine t.status ∧ o = ofTranscript t

theorem IsObserved.singleLine_text {o : Outcome} (h : o.IsObserved) :
    SingleLine o.text := by
  obtain ⟨t, hstatus, rfl⟩ := h
  exact singleLine_text_ofTranscript hstatus

end Outcome

/-! ## Counts -/

namespace Summary

/-- The counter of an outcome. -/
def counter (s : Summary) : CaseOutcome → Nat
  | .pass => s.passed
  | .fail => s.failed
  | .expectedFailure => s.expectedFailures
  | .unexpectedSuccess => s.unexpectedSuccesses

/-- The counts are those of the results, and the counters split them. -/
structure Counts (s : Summary) (results : List CaseResult) : Prop where
  total : s.total = results.length
  counter : ∀ o, s.counter o = (results.filter fun r => r.outcome = o).length
  split : s.passed + s.failed + s.expectedFailures + s.unexpectedSuccesses =
    s.total

theorem counter_add (s : Summary) (outcome o : CaseOutcome) :
    (s.add outcome).counter o =
      s.counter o + if outcome = o then 1 else 0 := by
  cases outcome <;> cases o <;> rfl

theorem Counts.add {s : Summary} {results : List CaseResult}
    (h : s.Counts results) (r : CaseResult) :
    (s.add r.outcome).Counts (results ++ [r]) := by
  refine ⟨?_, ?_, ?_⟩
  · have htotal : (s.add r.outcome).total = s.total + 1 := by
      cases r.outcome <;> rfl
    rw [htotal, h.total, List.length_append, List.length_singleton]
  · intro o
    rw [counter_add, h.counter, List.filter_append, List.length_append]
    by_cases ho : r.outcome = o
    · simp [ho]
    · simp [ho]
  · have hsplit := h.split
    cases r.outcome <;> simp only [Summary.add] <;> omega

theorem counts_foldl {s : Summary} {seen : List CaseResult}
    (h : s.Counts seen) (results : List CaseResult) :
    (results.foldl (fun s r => s.add r.outcome) s).Counts
      (seen ++ results) := by
  induction results generalizing s seen with
  | nil => simpa using h
  | cons r results ih =>
      have hnext := ih (h.add r)
      rwa [List.append_assoc, List.singleton_append] at hnext

theorem counts_ofResults (results : List CaseResult) :
    (ofResults results).Counts results := by
  have hempty : Counts {} [] := ⟨rfl, fun o => by cases o <;> rfl, rfl⟩
  exact counts_foldl hempty results

theorem counter_ofResults_eq_zero_iff {results : List CaseResult}
    {o : CaseOutcome} :
    (ofResults results).counter o = 0 ↔ ∀ c ∈ results, c.outcome ≠ o := by
  rw [(counts_ofResults results).counter, List.length_eq_zero_iff,
    List.filter_eq_nil_iff]
  simp

/-- The run succeeded if no case failed and, where that is asked for, none
succeeded unexpectedly. -/
theorem isSuccess_ofResults_iff {results : List CaseResult} {strict : Bool} :
    (ofResults results).isSuccess strict = true ↔
      (∀ c ∈ results, c.outcome ≠ .fail) ∧
        (strict = true →
          ∀ c ∈ results, c.outcome ≠ .unexpectedSuccess) := by
  rw [← counter_ofResults_eq_zero_iff, ← counter_ofResults_eq_zero_iff]
  cases strict <;> simp [isSuccess, counter]

end Summary

/-! ## Layout -/

/-- The names and the calls of a result are single lines, and its outcomes were
observed. -/
structure CaseResult.Printable (c : CaseResult) : Prop where
  suite : SingleLine c.suite
  function : SingleLine c.function
  name : SingleLine c.name
  types : ∀ t ∈ c.types, SingleLine t
  calls : ∀ s ∈ c.samples, SingleLine s.call
  reference : ∀ s ∈ c.samples, s.reference.IsObserved
  target : ∀ s ∈ c.samples, s.target.IsObserved

namespace Report

/-- The names of the backends are single lines, and every result can be
printed. -/
structure Printable (r : Report) : Prop where
  reference : SingleLine r.reference
  target : SingleLine r.target
  cases : ∀ c ∈ r.cases, c.Printable

/-- The number of lines about a case that needs attention: four that open the
passage, one more about an unexpected success, and three for each
disagreement. -/
def passageLength (c : CaseResult) : Nat :=
  if c.outcome = .fail ∨ c.outcome = .unexpectedSuccess then
    4 + (if c.outcome = .unexpectedSuccess then 1 else 0) +
      3 * c.disagreements.length
  else 0

variable {r : Report} {c : CaseResult}

theorem length_passage (r : Report) (c : CaseResult) :
    (r.passage c).length = passageLength c := by
  have hsamples : (c.disagreements.flatMap r.sampleLines).length =
      3 * c.disagreements.length := by
    rw [List.length_flatMap]
    simp [sampleLines, Nat.mul_comm]
  rw [passage, passageLength]
  cases c.outcome <;> simp [passageHead, hsamples] <;> omega

theorem length_textLines (r : Report) (strict : Bool) :
    (r.textLines strict).length =
      r.cases.length + (r.cases.map passageLength).sum + 4 := by
  have hpassages : (r.cases.flatMap r.passage).length =
      (r.cases.map passageLength).sum := by
    rw [List.length_flatMap]
    exact congrArg List.sum (List.map_congr_left fun c _ => r.length_passage c)
  rw [textLines, List.length_append, List.length_append, List.length_map,
    hpassages]
  rfl

theorem singleLine_rule {c : Char} (hc : c ≠ '\n') : SingleLine (rule c) := by
  rw [rule, Text.singleLine_ofList]
  intro hmem
  exact hc (List.eq_of_mem_replicate hmem).symm

theorem singleLine_heading (h : c.Printable) : SingleLine (heading c) := by
  have hopen : SingleLine " (" := by decide
  have hmiddle : SingleLine ") [" := by decide
  have hclose : SingleLine "]" := by decide
  simp [heading, h.name, h.suite, h.function, hopen, hmiddle, hclose]

theorem singleLine_caseLine (h : c.Printable) : SingleLine (caseLine c) := by
  have hdots : SingleLine " ... " := by decide
  have houtcome : SingleLine c.outcome.text := by
    cases c.outcome <;> decide
  simp [caseLine, singleLine_heading h, hdots, houtcome]

theorem singleLine_sampleLines (hr : r.Printable) (hc : c.Printable)
    {s : SampleResult} (hs : s ∈ c.samples) :
    ∀ line ∈ r.sampleLines s, SingleLine line := by
  have hindent : SingleLine "  " := by decide
  have hcolon : SingleLine ": " := by decide
  have hreference : SingleLine "    reference (" := by decide
  have htarget : SingleLine "    target (" := by decide
  have hclose : SingleLine "): " := by decide
  have hverdict : SingleLine s.verdict.text := by
    cases s.verdict <;> decide
  simp [sampleLines, hc.calls s hs, (hc.reference s hs).singleLine_text,
    (hc.target s hs).singleLine_text, hr.reference, hr.target, hindent, hcolon,
    hreference, htarget, hclose, hverdict]

theorem singleLine_passageHead (h : c.Printable) {label : String}
    (hlabel : SingleLine label) :
    ∀ line ∈ passageHead label c, SingleLine line := by
  have hempty : SingleLine "" := by decide
  have hcolon : SingleLine ": " := by decide
  simp [passageHead, singleLine_heading h, hlabel, hempty, hcolon,
    singleLine_rule]

theorem singleLine_passage (hr : r.Printable) (hc : c.Printable) :
    ∀ line ∈ r.passage c, SingleLine line := by
  have hsamples : ∀ line ∈ c.disagreements.flatMap r.sampleLines,
      SingleLine line := by
    intro line hline
    obtain ⟨s, hs, hmem⟩ := List.mem_flatMap.mp hline
    exact singleLine_sampleLines hr hc (List.mem_of_mem_filter hs) line hmem
  have htypes : SingleLine ("_".intercalate c.types) :=
    Text.singleLine_intercalate (by decide) hc.types
  have hindent : SingleLine "  " := by decide
  have hnote : SingleLine successNote := by simp [SingleLine, successNote]
  rw [passage]
  cases c.outcome with
  | pass => simp
  | expectedFailure => simp
  | fail =>
      refine List.forall_mem_append.mpr ⟨?_, hsamples⟩
      exact singleLine_passageHead hc (by decide)
  | unexpectedSuccess =>
      refine List.forall_mem_append.mpr
        ⟨List.forall_mem_append.mpr ⟨?_, ?_⟩, hsamples⟩
      · exact singleLine_passageHead hc (by decide)
      · simp [hindent, htypes, hnote]

theorem singleLine_details (s : Summary) :
    ∀ detail ∈ details s, SingleLine detail := by
  have hfailed : SingleLine "failures=" := by decide
  have hexpected : SingleLine "expected failures=" := by decide
  have hunexpected : SingleLine "unexpected successes=" := by decide
  intro detail hdetail
  simp only [details, List.mem_append] at hdetail
  rcases hdetail with (hmem | hmem) | hmem <;> split_ifs at hmem <;> simp_all

/-- The last line starts with the status. -/
theorem exists_closingLine_eq (s : Summary) (strict : Bool) :
    ∃ rest, SingleLine rest ∧
      closingLine s strict =
        (if s.isSuccess strict then "OK" else "FAILED") ++ rest := by
  rw [closingLine]
  cases hdetails : details s with
  | nil => exact ⟨"", by decide, by simp⟩
  | cons d ds =>
      have hjoined : SingleLine (", ".intercalate (d :: ds)) := by
        rw [← hdetails]
        exact Text.singleLine_intercalate (by decide) (singleLine_details s)
      have hopen : SingleLine " (" := by decide
      have hclose : SingleLine ")" := by decide
      refine ⟨" (" ++ ", ".intercalate (d :: ds) ++ ")", ?_,
        by simp [String.append_assoc]⟩
      simp [hjoined, hopen, hclose]

theorem singleLine_closingLine (s : Summary) (strict : Bool) :
    SingleLine (closingLine s strict) := by
  obtain ⟨rest, hrest, hline⟩ := exists_closingLine_eq s strict
  rw [hline, Text.singleLine_append]
  refine ⟨?_, hrest⟩
  split_ifs <;> decide

theorem closingLine_starts_iff (s : Summary) (strict : Bool) :
    ((∃ rest, closingLine s strict = "OK" ++ rest) ↔
      s.isSuccess strict = true) ∧
      ((∃ rest, closingLine s strict = "FAILED" ++ rest) ↔
        ¬s.isSuccess strict = true) := by
  have hdiffer : ∀ a b : String, "OK" ++ a ≠ "FAILED" ++ b := by
    intro a b h
    have hchars := congrArg String.toList h
    simp at hchars
  obtain ⟨rest, -, hline⟩ := exists_closingLine_eq s strict
  by_cases hsuccess : s.isSuccess strict = true
  · rw [if_pos hsuccess] at hline
    refine ⟨iff_of_true ⟨rest, hline⟩ hsuccess,
      iff_of_false ?_ (not_not_intro hsuccess)⟩
    rintro ⟨other, hother⟩
    exact hdiffer rest other (hline.symm.trans hother)
  · rw [if_neg hsuccess] at hline
    refine ⟨iff_of_false ?_ hsuccess, iff_of_true ⟨rest, hline⟩ hsuccess⟩
    rintro ⟨other, hother⟩
    exact hdiffer other rest (hother.symm.trans hline)

theorem singleLine_textLines (hr : r.Printable) (strict : Bool) :
    ∀ line ∈ r.textLines strict, SingleLine line := by
  refine List.forall_mem_append.mpr ⟨List.forall_mem_append.mpr ⟨?_, ?_⟩, ?_⟩
  · intro line hline
    obtain ⟨c, hc, rfl⟩ := List.mem_map.mp hline
    exact singleLine_caseLine (hr.cases c hc)
  · intro line hline
    obtain ⟨c, hc, hmem⟩ := List.mem_flatMap.mp hline
    exact singleLine_passage hr (hr.cases c hc) line hmem
  · have hran : SingleLine "Ran " := by decide
    have hcases : SingleLine " cases (" := by decide
    have hversus : SingleLine " vs " := by decide
    have hclose : SingleLine ")" := by decide
    have hempty : SingleLine "" := by decide
    simp [singleLine_rule, singleLine_closingLine, hr.reference, hr.target,
      hran, hcases, hversus, hclose, hempty]

/-- No output of a backend adds a line to the text. The cases come first, in
their order; the counters split the cases; and the last line says whether the
run succeeded. -/
theorem text_lines_and_counts (r : Report) (strict : Bool) (hr : r.Printable) :
    (∀ t : Transcript, SingleLine t.status →
      SingleLine (Outcome.ofTranscript t).text) ∧
    (∃ (lines : List String) (last : String),
      (r.text strict).toList.splitOn '\n' = lines.map String.toList ++ [[]] ∧
      lines.length = r.cases.length + (r.cases.map passageLength).sum + 4 ∧
      lines.take r.cases.length =
        r.cases.map (fun c => heading c ++ " ... " ++ c.outcome.text) ∧
      lines.getLast? = some last ∧
      ((∃ rest, last = "OK" ++ rest) ↔
        (∀ c ∈ r.cases, c.outcome ≠ .fail) ∧
          (strict = true → ∀ c ∈ r.cases, c.outcome ≠ .unexpectedSuccess)) ∧
      ((∃ rest, last = "FAILED" ++ rest) ↔
        ¬((∀ c ∈ r.cases, c.outcome ≠ .fail) ∧
          (strict = true → ∀ c ∈ r.cases, c.outcome ≠ .unexpectedSuccess)))) ∧
    r.summary.total = r.cases.length ∧
    r.summary.passed = (r.cases.filter fun c => c.outcome = .pass).length ∧
    r.summary.failed = (r.cases.filter fun c => c.outcome = .fail).length ∧
    r.summary.expectedFailures =
      (r.cases.filter fun c => c.outcome = .expectedFailure).length ∧
    r.summary.unexpectedSuccesses =
      (r.cases.filter fun c => c.outcome = .unexpectedSuccess).length ∧
    r.summary.passed + r.summary.failed + r.summary.expectedFailures +
      r.summary.unexpectedSuccesses = r.summary.total := by
  have hcounts := Summary.counts_ofResults r.cases
  refine ⟨fun t => Outcome.singleLine_text_ofTranscript, ?_, hcounts.total,
    hcounts.counter .pass, hcounts.counter .fail,
    hcounts.counter .expectedFailure, hcounts.counter .unexpectedSuccess,
    hcounts.split⟩
  obtain ⟨hok, hfailed⟩ := closingLine_starts_iff r.summary strict
  rw [summary, Summary.isSuccess_ofResults_iff] at hok hfailed
  refine ⟨r.textLines strict, closingLine r.summary strict, ?_,
    r.length_textLines strict, ?_, ?_, hok, hfailed⟩
  · exact Text.splitOn_join_ended (singleLine_textLines hr strict)
  · rw [textLines, List.append_assoc, List.take_left' (List.length_map _)]
    rfl
  · simp [textLines]

/-- A run that prints on its error output what looks like the end of a
report. -/
def forgery : Transcript where
  exitCode := some 1
  status := "exit status: 1"
  stderr := "Ran 0 cases (cpython vs batavia)\n\nOK\n"

/-- A run that prints other text before its value. -/
def noisyValue : Transcript :=
  .completed "noise\n@@parity:ok str '0b11'\r\n"

/-- A case on whose sample the target prints a forgery, and one that is
registered and succeeds. -/
def underForgery : Report where
  reference := "cpython"
  target := "batavia"
  cases :=
    [{ suite := "Text"
       function := "bin"
       name := "test_int"
       id := "Text.test_int[bin]"
       types := ["int"]
       expectedFailure := false
       verdict := .different
       outcome := .fail
       samples :=
         [{ call := "bin(3)"
            verdict := .different
            reference := .ofTranscript noisyValue
            target := .ofTranscript forgery }] },
     { suite := "Text"
       function := "bin"
       name := "test_bool"
       id := "Text.test_bool[bin]"
       types := ["bool"]
       expectedFailure := true
       verdict := .same
       outcome := .unexpectedSuccess
       samples := [] }]

theorem text_lines_and_counts_underForgery :
    underForgery.Printable ∧
    ∃ (lines : List String) (last : String),
      (underForgery.text false).toList.splitOn '\n' =
        lines.map String.toList ++ [[]] ∧
      lines.length = 18 ∧ lines.getLast? = some last ∧
      ∃ rest, last = "FAILED" ++ rest := by
  have hprintable : underForgery.Printable := by
    refine ⟨by decide, by decide, ?_⟩
    simp only [underForgery, List.forall_mem_cons]
    refine ⟨⟨by decide, by decide, by decide, by decide, by decide, ?_, ?_⟩,
      ⟨by decide, by decide, by decide, by decide, by simp, by simp, by simp⟩,
        by simp⟩
    · intro s hs
      rw [List.mem_singleton.mp hs]
      exact ⟨noisyValue, by decide, rfl⟩
    · intro s hs
      rw [List.mem_singleton.mp hs]
      exact ⟨forgery, by decide, rfl⟩
  obtain ⟨-, ⟨lines, last, hsplit, hlength, -, hlast, -, hfailed⟩, -⟩ :=
    text_lines_and_counts underForgery false hprintable
  refine ⟨hprintable, lines, last, hsplit, hlength, hlast, hfailed.mpr ?_⟩
  rintro ⟨hnone, -⟩
  exact hnone _ List.mem_cons_self rfl

end Report
end Concord
