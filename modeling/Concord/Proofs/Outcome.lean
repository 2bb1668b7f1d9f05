import Concord.Outcome
import Concord.Proofs.Text.Lines

/-!
# Reading a transcript

The last line that starts with the marker decides the outcome of a transcript
that did not time out. A report is read back as the name and the payload that it
was printed with, whatever stands before and after it.
-/

namespace Concord
namespace Outcome

/-! ## The last report -/

/-- The line is the last one of a text that starts with the marker. -/
def IsLastReport (stdout line : List Char) : Prop :=
  ∃ before after, Text.lines stdout = before ++ line :: after ∧
    marker.toList <+: line ∧ ∀ later ∈ after, ¬marker.toList <+: later

theorem marker_prefix_dropTrailingBlanks_iff {line : List Char} :
    marker.toList <+: Text.dropTrailingBlanks line ↔
      marker.toList <+: line := by
  have hmarker : marker.toList = "@@parity".toList ++ [':'] := by decide
  rw [hmarker]
  exact Text.prefix_dropTrailingBlanks_iff (by decide)

theorem lastReport?_eq_some_iff {stdout report : List Char} :
    lastReport? stdout = some report ↔
      ∃ line, IsLastReport stdout line ∧
        Text.dropTrailingBlanks line = marker.toList ++ report := by
  rw [lastReport?, List.findSome?_eq_some_iff]
  simp only [Text.after?_eq_some_iff, Text.after?_eq_none_iff,
    marker_prefix_dropTrailingBlanks_iff]
  constructor
  · rintro ⟨after, line, before, hlines, hreport, hafter⟩
    refine ⟨line, ⟨before.reverse, after.reverse, ?_, ?_,
      by simpa using hafter⟩, hreport.symm⟩
    · simpa using congrArg List.reverse hlines
    · exact marker_prefix_dropTrailingBlanks_iff.mp ⟨report, hreport⟩
  · rintro ⟨line, ⟨before, after, hlines, -, hafter⟩, hreport⟩
    refine ⟨after.reverse, line, before.reverse, ?_, hreport.symm,
      by simpa using hafter⟩
    simp [hlines]

theorem lastReport?_eq_none_iff {stdout : List Char} :
    lastReport? stdout = none ↔
      ∀ line ∈ Text.lines stdout, ¬marker.toList <+: line := by
  rw [lastReport?, List.findSome?_eq_none_iff]
  simp only [Text.after?_eq_none_iff, marker_prefix_dropTrailingBlanks_iff,
    List.mem_reverse]

/-- A line of its own is the last report if no later line starts with the
marker. -/
theorem lastReport?_append {before line after report : List Char}
    (hbefore : before = [] ∨ ∃ cs, before = cs ++ ['\n']) (hline : '\n' ∉ line)
    (hreport : Text.dropTrailingBlanks line = marker.toList ++ report)
    (hafter : ∀ later ∈ Text.lines after, ¬marker.toList <+: later) :
    lastReport? (before ++ (line ++ '\n' :: after)) = some report := by
  have hdropped : Text.dropTrailingBlanks (Text.dropCarriageReturn line) =
      marker.toList ++ report :=
    (Text.dropTrailingBlanks_dropCarriageReturn line).trans hreport
  have hlines : Text.lines (before ++ (line ++ '\n' :: after)) =
      Text.lines before ++ Text.dropCarriageReturn line ::
        Text.lines after := by
    rw [Text.lines_append hbefore, Text.lines_append_cons hline]
  refine lastReport?_eq_some_iff.mpr ⟨Text.dropCarriageReturn line,
    ?_, hdropped⟩
  refine ⟨Text.lines before, Text.lines after, hlines, ?_, hafter⟩
  apply marker_prefix_dropTrailingBlanks_iff.mp
  exact ⟨report, hdropped.symm⟩

/-! ## What a report says -/

/-- The report consists of a tag, a name without spaces and a payload. Without a
payload there may be no space after the name. -/
def IsReport (tag name payload report : List Char) : Prop :=
  name ≠ [] ∧ ' ' ∉ name ∧
    (report = tag ++ ' ' :: name ∧ payload = [] ∨
      report = tag ++ ' ' :: (name ++ ' ' :: payload))

variable {tag name payload report : List Char}

theorem isReport_iff_cutAt (htag : ' ' ∉ tag) :
    IsReport tag name payload report ↔
      name ≠ [] ∧ ∃ rest, Text.cutAt ' ' report = (tag, rest) ∧
        Text.cutAt ' ' rest = (name, payload) := by
  refine and_congr_right fun hname => ?_
  simp only [Text.cutAt_eq_iff]
  constructor
  · rintro ⟨hspace, ⟨rfl, rfl⟩ | rfl⟩
    · exact ⟨name, ⟨htag, Or.inr rfl⟩, hspace, Or.inl ⟨rfl, rfl⟩⟩
    · exact ⟨name ++ ' ' :: payload, ⟨htag, Or.inr rfl⟩, hspace, Or.inr rfl⟩
  · rintro ⟨rest, ⟨-, ⟨-, rfl⟩ | rfl⟩, hspace, hrest⟩
    · -- Without a space after the tag there is no name.
      rcases hrest with ⟨hnil, -⟩ | hnil
      · exact absurd hnil.symm hname
      · simp at hnil
    · refine ⟨hspace, ?_⟩
      rcases hrest with ⟨rfl, rfl⟩ | rfl
      · exact Or.inl ⟨rfl, rfl⟩
      · exact Or.inr rfl

/-- More text at the end of a report leaves it one, with the same tag. -/
theorem IsReport.append (h : IsReport tag name payload report)
    (more : List Char) :
    ∃ name' payload', IsReport tag name' payload' (report ++ more) := by
  obtain ⟨hname, hspace, ⟨rfl, -⟩ | rfl⟩ := h
  · by_cases hmore : ' ' ∈ more
    · obtain ⟨first, rest, rfl, hfirst⟩ := List.eq_append_cons_of_mem hmore
      refine ⟨name ++ first, rest, by simp [hname], by simp [hspace, hfirst],
        Or.inr ?_⟩
      simp
    · refine ⟨name ++ more, [], by simp [hname], by simp [hspace, hmore],
        Or.inl ⟨?_, rfl⟩⟩
      simp
  · exact ⟨name, payload ++ more, hname, hspace, Or.inr (by simp)⟩

theorem ofReport_of_cutAt {rest : List Char}
    (hreport : Text.cutAt ' ' report = (tag, rest))
    (hrest : Text.cutAt ' ' rest = (name, payload)) :
    ofReport report =
      if tag = "ok".toList ∧ name ≠ [] then
        .value (String.ofList name) (String.ofList payload)
      else if tag = "err".toList ∧ name ≠ [] then
        .failure (.raised (String.ofList name)) (String.ofList payload)
      else .failure .crash
        ("malformed outcome line: " ++ marker ++ String.ofList report) := by
  simp [ofReport, hreport, hrest]

theorem ofReport_of_ok {n p : String}
    (h : IsReport "ok".toList n.toList p.toList report) :
    ofReport report = .value n p := by
  obtain ⟨hname, rest, hreport, hrest⟩ := (isReport_iff_cutAt (by decide)).mp h
  rw [ofReport_of_cutAt hreport hrest, if_pos ⟨rfl, hname⟩,
    String.ofList_toList, String.ofList_toList]

theorem ofReport_of_err {n p : String}
    (h : IsReport "err".toList n.toList p.toList report) :
    ofReport report = .failure (.raised n) p := by
  obtain ⟨hname, rest, hreport, hrest⟩ := (isReport_iff_cutAt (by decide)).mp h
  have hok : ¬("err".toList = "ok".toList ∧ n.toList ≠ []) :=
    fun h => absurd h.1 (by decide)
  rw [ofReport_of_cutAt hreport hrest, if_neg hok, if_pos ⟨rfl, hname⟩,
    String.ofList_toList, String.ofList_toList]

/-- A report of a value, a report of an exception, or a crash. -/
theorem ofReport_cases (report : List Char) :
    (∃ n p, ofReport report = .value n p ∧
      IsReport "ok".toList n.toList p.toList report) ∨
    (∃ n p, ofReport report = .failure (.raised n) p ∧
      IsReport "err".toList n.toList p.toList report) ∨
    ∃ message, ofReport report = .failure .crash message := by
  obtain ⟨tag, rest, hreport⟩ :
      ∃ tag rest, Text.cutAt ' ' report = (tag, rest) := ⟨_, _, rfl⟩
  obtain ⟨name, payload, hrest⟩ :
      ∃ name payload, Text.cutAt ' ' rest = (name, payload) :=
    ⟨_, _, rfl⟩
  have hread := ofReport_of_cutAt hreport hrest
  split_ifs at hread with hok herr
  · obtain ⟨rfl, hname⟩ := hok
    refine Or.inl ⟨_, _, hread, (isReport_iff_cutAt (by decide)).mpr ?_⟩
    simpa only [String.toList_ofList] using ⟨hname, rest, hreport, hrest⟩
  · obtain ⟨rfl, hname⟩ := herr
    refine Or.inr
      (Or.inl ⟨_, _, hread, (isReport_iff_cutAt (by decide)).mpr ?_⟩)
    simpa only [String.toList_ofList] using ⟨hname, rest, hreport, hrest⟩
  · exact Or.inr (Or.inr ⟨_, hread⟩)

theorem ofReport_eq_value_iff {n p : String} :
    ofReport report = .value n p ↔
      IsReport "ok".toList n.toList p.toList report := by
  constructor
  · intro h
    obtain ⟨n', p', hvalue, hok⟩ | ⟨n', p', hraised, -⟩ | ⟨message, hcrash⟩ :=
      ofReport_cases report
    · cases hvalue.symm.trans h
      exact hok
    · exact nomatch hraised.symm.trans h
    · exact nomatch hcrash.symm.trans h
  · exact ofReport_of_ok

theorem ofReport_ne_syntaxError (report : List Char) (message : String) :
    ofReport report ≠ .failure .syntaxError message := by
  intro h
  obtain ⟨n, p, hvalue, -⟩ | ⟨n, p, hraised, -⟩ | ⟨crash, hcrash⟩ :=
    ofReport_cases report
  · exact nomatch hvalue.symm.trans h
  · exact nomatch hraised.symm.trans h
  · exact nomatch hcrash.symm.trans h

/-! ## Transcripts -/

variable {t : Transcript}

theorem unreported_ne_value (t : Transcript) (n p : String) :
    unreported t ≠ .value n p := by
  unfold unreported
  split_ifs <;> exact nofun

theorem ofTranscript_of_lastReport? (htime : t.timedOut = false)
    (h : lastReport? t.stdout.toList = some report) :
    ofTranscript t = ofReport report := by
  simp [ofTranscript, htime, h]

/-- Where an outcome comes from: the clock, the last report, or the absence of
one. -/
theorem ofTranscript_cases (t : Transcript) :
    (t.timedOut = true ∧
      ∃ message, ofTranscript t = .failure .timeout message) ∨
    (t.timedOut = false ∧ ∃ report, lastReport? t.stdout.toList = some report ∧
      ofTranscript t = ofReport report) ∨
    (t.timedOut = false ∧ lastReport? t.stdout.toList = none ∧
      ofTranscript t = unreported t) := by
  cases htime : t.timedOut with
  | true => exact Or.inl ⟨rfl, _, by rw [ofTranscript, if_pos htime]⟩
  | false =>
      refine Or.inr ?_
      cases hreport : lastReport? t.stdout.toList with
      | some report =>
          exact Or.inl
            ⟨rfl, report, rfl, ofTranscript_of_lastReport? htime hreport⟩
      | none => exact Or.inr ⟨rfl, rfl, by simp [ofTranscript, htime, hreport]⟩

theorem isTimeout_ofTranscript (t : Transcript) :
    (ofTranscript t).isTimeout = t.timedOut := by
  rcases ofTranscript_cases t with
    ⟨htime, message, h⟩ | ⟨htime, report, -, h⟩ | ⟨htime, -, h⟩
  · rw [h, htime]
    rfl
  · rw [h, htime, ofReport]
    dsimp only
    split_ifs <;> rfl
  · rw [h, htime, unreported]
    dsimp only
    split_ifs <;> rfl

theorem ofTranscript_eq_value_iff {n p : String} :
    ofTranscript t = .value n p ↔
      t.timedOut = false ∧ ∃ line report, IsLastReport t.stdout.toList line ∧
        Text.dropTrailingBlanks line = marker.toList ++ report ∧
        IsReport "ok".toList n.toList p.toList report := by
  constructor
  · intro h
    obtain ⟨-, message, htimeout⟩ | ⟨htime, report, hlast, hread⟩ | ⟨-,
        -, hread⟩ :=
      ofTranscript_cases t
    · exact nomatch htimeout.symm.trans h
    · obtain ⟨line, hline, hreport⟩ := lastReport?_eq_some_iff.mp hlast
      have hok := ofReport_eq_value_iff.mp (hread.symm.trans h)
      exact ⟨htime, line, report, hline, hreport, hok⟩
    · exact absurd (hread.symm.trans h) (unreported_ne_value t n p)
  · rintro ⟨htime, line, report, hline, hreport, hok⟩
    have hlast := lastReport?_eq_some_iff.mpr ⟨line, hline, hreport⟩
    rw [ofTranscript_of_lastReport? htime hlast, ofReport_of_ok hok]

theorem not_marked_of_syntaxError {message : String}
    (h : ofTranscript t = .failure .syntaxError message) :
    ∀ line ∈ Text.lines t.stdout.toList, ¬marker.toList <+: line := by
  obtain ⟨-, _, htimeout⟩ | ⟨-, report, -, hread⟩ | ⟨-, hlast, -⟩ :=
    ofTranscript_cases t
  · exact nomatch htimeout.symm.trans h
  · exact absurd (hread.symm.trans h) (ofReport_ne_syntaxError report message)
  · exact lastReport?_eq_none_iff.mp hlast

/-! ## Printed reports -/

/-- The line that reports a name and a payload under a tag. -/
def printedReport (tag name payload : String) : String :=
  marker ++ tag ++ " " ++ name ++ " " ++ payload ++ "\n"

/-- Without the blanks at its end, a printed report is still one of the same
name and payload. -/
theorem exists_isReport_of_printed (tag : List Char) (hname : name ≠ [])
    (hsolid : ∀ c ∈ name, Text.isBlank c = false)
    (hpayload : ∀ c, payload.getLast? = some c → Text.isBlank c = false) :
    ∃ report, Text.dropTrailingBlanks
        (marker.toList ++ (tag ++ ' ' :: (name ++ ' ' :: payload))) =
          marker.toList ++ report ∧
      IsReport tag name payload report := by
  have hspace : ' ' ∉ name := fun h => absurd (hsolid _ h) (by decide)
  rcases List.eq_nil_or_concat' payload with rfl | ⟨first, d, rfl⟩
  · -- The space after the name is dropped together with the blanks.
    refine ⟨tag ++ ' ' :: name, ?_, hname, hspace, Or.inl ⟨rfl, rfl⟩⟩
    rcases List.eq_nil_or_concat' name with rfl | ⟨first, d, rfl⟩
    · exact absurd rfl hname
    · have hd : Text.isBlank d = false := hsolid d (by simp)
      have hdropped := Text.dropTrailingBlanks_append_cons hd
        (marker.toList ++ (tag ++ ' ' :: first)) [' ']
      have hblank : Text.dropTrailingBlanks [' '] = [] := by decide
      simpa [hblank] using hdropped
  · refine ⟨tag ++ ' ' :: (name ++ ' ' :: (first ++ [d])), ?_, hname, hspace,
      Or.inr rfl⟩
    have hd : Text.isBlank d = false := hpayload d (by simp)
    have hdropped := Text.dropTrailingBlanks_append_cons hd
      (marker.toList ++ (tag ++ ' ' :: (name ++ ' ' :: first))) []
    have hblank : Text.dropTrailingBlanks [] = [] := rfl
    simpa [hblank] using hdropped

/-- A printed report with nothing reported after it is the last one. -/
theorem exists_lastReport?_of_printed {name payload before after : String}
    (tag : String) (htag : '\n' ∉ tag.toList)
    (hbefore : before = "" ∨ ∃ text, before = text ++ "\n") (hname : name ≠ "")
    (hsolid : ∀ c ∈ name.toList, Text.isBlank c = false)
    (hline : '\n' ∉ payload.toList)
    (hpayload : ∀ c, payload.toList.getLast? = some c → Text.isBlank c = false)
    (hafter : ∀ line ∈ Text.lines after.toList, ¬marker.toList <+: line) :
    ∃ report,
      lastReport? (before ++ printedReport tag name payload ++ after).toList =
        some report ∧
      IsReport tag.toList name.toList payload.toList report := by
  obtain ⟨report, hdropped, hreport⟩ := exists_isReport_of_printed tag.toList
    (by simpa using hname) hsolid hpayload
  refine ⟨report, ?_, hreport⟩
  have hbefore' : before.toList = [] ∨ ∃ cs, before.toList = cs ++ ['\n'] := by
    rcases hbefore with rfl | ⟨text, rfl⟩
    · exact Or.inl rfl
    · exact Or.inr ⟨text.toList, by simp⟩
  have hnewline : '\n' ∉ name.toList := fun h => absurd (hsolid _ h) (by decide)
  have hmarker : '\n' ∉ marker.toList := by decide
  have hwhole : '\n' ∉ marker.toList ++
      (tag.toList ++ ' ' :: (name.toList ++ ' ' :: payload.toList)) := by
    simp [hmarker, htag, hnewline, hline]
  have hlast := lastReport?_append hbefore' hwhole hdropped hafter
  simpa [printedReport] using hlast

/-- A printed report with nothing reported after it is read back, whatever else
the transcript holds. A value is always the last report of a run that did not
time out, and a syntax error only shows where nothing was reported. -/
theorem ofTranscript_reads_last_report :
    (∀ (t : Transcript) (before name payload after : String),
      t.timedOut = false →
      (before = "" ∨ ∃ text, before = text ++ "\n") →
      name ≠ "" → (∀ c ∈ name.toList, Text.isBlank c = false) →
      '\n' ∉ payload.toList →
      (∀ c, payload.toList.getLast? = some c → Text.isBlank c = false) →
      (∀ line ∈ Text.lines after.toList, ¬marker.toList <+: line) →
      (t.stdout = before ++ printedReport "ok" name payload ++ after →
        ofTranscript t = .value name payload ∧
          (ofTranscript t).value? = some (Value.read payload)) ∧
      (t.stdout = before ++ printedReport "err" name payload ++ after →
        ofTranscript t = .failure (.raised name) payload)) ∧
    (∀ (t : Transcript) (n p : String), ofTranscript t = .value n p ↔
      t.timedOut = false ∧ ∃ line report, IsLastReport t.stdout.toList line ∧
        Text.dropTrailingBlanks line = marker.toList ++ report ∧
        IsReport "ok".toList n.toList p.toList report) ∧
    (∀ (t : Transcript) (n p : String), ofTranscript t = .value n p →
      t.timedOut = false ∧ ∃ line, IsLastReport t.stdout.toList line ∧
        ∃ name payload report, line = marker.toList ++ report ∧
          IsReport "ok".toList name payload report) ∧
    (∀ (t : Transcript) (message : String), ofTranscript t =
      .failure .syntaxError message →
      ∀ line ∈ Text.lines t.stdout.toList, ¬marker.toList <+: line) := by
  refine ⟨?_, fun t n p => ofTranscript_eq_value_iff, ?_, fun t message =>
    not_marked_of_syntaxError⟩
  · intro t before name payload after htime hbefore hname hsolid hline
      hpayload hafter
    constructor
    · intro hstdout
      obtain ⟨report, hlast, hreport⟩ :=
        exists_lastReport?_of_printed "ok" (by decide) hbefore
        hname hsolid hline hpayload hafter
      rw [← hstdout] at hlast
      have hvalue : ofTranscript t = .value name payload :=
        (ofTranscript_of_lastReport? htime hlast).trans (ofReport_of_ok hreport)
      exact ⟨hvalue, by rw [hvalue]; rfl⟩
    · intro hstdout
      obtain ⟨report, hlast, hreport⟩ :=
        exists_lastReport?_of_printed "err" (by decide) hbefore
        hname hsolid hline hpayload hafter
      rw [← hstdout] at hlast
      exact (ofTranscript_of_lastReport? htime hlast).trans
        (ofReport_of_err hreport)
  · intro t n p h
    obtain ⟨htime, line, report, hlast, hdropped, hreport⟩ :=
      ofTranscript_eq_value_iff.mp h
    obtain ⟨blanks, -, hline⟩ := Text.exists_dropTrailingBlanks_append line
    obtain ⟨name, payload, hname⟩ := hreport.append blanks
    refine ⟨htime, line, hlast, name, payload, report ++ blanks, ?_, hname⟩
    rw [← hline, hdropped, List.append_assoc]

/-- Between an earlier report and noise a value is read, with what looks like a
report inside its text and a warning on the error output. -/
theorem ofTranscript_reads_last_report_amid_noise :
    ofTranscript
        { exitCode := some 1
          status := "exit status: 1"
          stderr := "SyntaxError: stale"
          stdout := "@@parity:err TypeError first\r\n" ++
            "@@parity:ok list ['@@parity:ok  1']\n" ++ " ok\n\n" }
      = .value "list" "['@@parity:ok  1']" := by
  obtain ⟨hread, -⟩ := ofTranscript_reads_last_report
  have hsolid : ∀ c ∈ "list".toList, Text.isBlank c = false :=
    fun c hc => Text.eq_false_of_mem (by decide) hc
  have hlast : ∀ c, "['@@parity:ok  1']".toList.getLast? = some c →
      Text.isBlank c = false := by
    intro c hc
    obtain rfl : ']' = c := Option.some.inj hc
    decide
  refine ((hread _ "@@parity:err TypeError first\r\n" "list"
    "['@@parity:ok  1']" " ok\n\n" rfl
    (Or.inr ⟨"@@parity:err TypeError first\r", by decide⟩) (by decide) hsolid
      (by decide)
    hlast ?_).1 (by decide)).1
  decide

end Outcome
end Concord
