import Concord.Proofs.Execution
import Concord.Proofs.Value.Literal

/-!
# Building snippets

A snippet can be built unless the literal of one of its samples is asked for and
missing; the first such sample is reported. Literals hold no control character,
so nothing in a string or in bytes leaves the line of the call.
-/

namespace Concord

/-! ## Texts of samples -/

theorem Sample.render_eq_error_iff {s : Sample} {e : SnippetError} :
    s.render = .error e ↔ ∃ v, s.form = .literal v ∧ v.literal? = none ∧
      e = .unsupportedSample s.typeName v.describe := by
  unfold Sample.render
  cases s.form with
  | expression source => simp
  | literal v => cases hv : v.literal? <;> simp [hv, eq_comm]

/-- The sample is written by its literal, and some value inside it has none. -/
def Sample.Unsupported (s : Sample) : Prop :=
  ∃ v, s.form = .literal v ∧ ∃ w, Value.Inside w v ∧ w.LacksLiteral

namespace Sample

variable {s : Sample}

theorem exists_render_eq_ok_iff :
    (∃ text, s.render = .ok text) ↔ ¬s.Unsupported := by
  constructor
  · rintro ⟨text, htext⟩ ⟨v, hform, hlacks⟩
    have herror := render_eq_error_iff.mpr
      ⟨v, hform, Value.literal?_eq_none_iff.mpr hlacks, rfl⟩
    rw [htext] at herror
    cases herror
  · intro hsupported
    cases hrender : s.render with
    | ok text => exact ⟨text, rfl⟩
    | error e =>
        obtain ⟨v, hform, hnone, -⟩ := render_eq_error_iff.mp hrender
        exact absurd ⟨v, hform, Value.literal?_eq_none_iff.mp hnone⟩ hsupported

theorem controlFree_of_render {v : Value} (hform : s.form = .literal v)
    {text : String} (h : s.render = .ok text) :
    Text.ControlFree text.toList := by
  unfold Sample.render at h
  rw [hform] at h
  dsimp only at h
  cases hliteral : v.literal? with
  | none =>
      rw [hliteral] at h
      cases h
  | some t =>
      rw [hliteral] at h
      obtain ⟨cs, hcs, rfl⟩ := Option.map_eq_some_iff.mp hliteral
      cases h
      rw [String.toList_ofList]
      exact Value.controlFree_of_literalText? hcs

end Sample

/-! ## Sources -/

namespace Snippet

theorem controlFree_of_toList_any {s : String}
    (h : s.toList.any Text.isControl = false) : Text.ControlFree s.toList :=
  Text.controlFree_of_any h

theorem controlFree_toList_append {s t : String}
    (hs : Text.ControlFree s.toList) (ht : Text.ControlFree t.toList) :
    Text.ControlFree (s ++ t).toList := by
  rw [String.toList_append, Text.controlFree_append]
  exact ⟨hs, ht⟩

theorem controlFree_reportLine {tag object text : String}
    (htag : Text.ControlFree tag.toList)
    (hobject : Text.ControlFree object.toList)
    (htext : Text.ControlFree text.toList) :
    Text.ControlFree (reportLine tag object text).toList := by
  have happend {s t u : String} (hs : Text.ControlFree s.toList)
      (ht : Text.ControlFree t.toList)
      (hu : u.toList.any Text.isControl = false) :
        Text.ControlFree (s ++ t ++ u).toList :=
    controlFree_toList_append (controlFree_toList_append hs ht)
      (controlFree_of_toList_any hu)
  have hmark : Text.ControlFree ("    print('" ++ Outcome.marker).toList :=
    controlFree_of_toList_any (by decide)
  exact happend (happend
    (happend (happend hmark htag (by decide)) hobject (by decide)) htext
    (by decide)) hobject (by decide)

/-- The lines of the source of a call without control characters have none
either. -/
theorem controlFree_sourceLines {call : String}
    (h : Text.ControlFree call.toList) :
    ∀ line ∈ sourceLines call, Text.ControlFree line.toList := by
  have hresult : Text.ControlFree resultName.toList :=
    controlFree_of_toList_any (by decide)
  have herror : Text.ControlFree errorName.toList :=
    controlFree_of_toList_any (by decide)
  simp only [sourceLines, List.forall_mem_cons]
  refine ⟨?_, ?_, ?_, ?_, ?_, ?_, List.forall_mem_nil _⟩
  · exact controlFree_of_toList_any (by decide)
  · exact controlFree_toList_append (controlFree_of_toList_any (by decide)) h
  · exact controlFree_of_toList_any (by decide)
  · exact controlFree_reportLine (controlFree_of_toList_any (by decide)) herror
      (controlFree_of_toList_any (by decide))
  · exact controlFree_of_toList_any (by decide)
  · exact controlFree_reportLine (controlFree_of_toList_any (by decide)) hresult
      (controlFree_of_toList_any (by decide))

theorem controlFree_of_mem_source {call : String}
    (h : Text.ControlFree call.toList) {c : Char}
    (hc : c ∈ (sourceOf call).toList) (hcontrol : Text.isControl c = true) :
    c = '\n' := by
  rcases Text.mem_of_mem_join_ended hc with rfl | ⟨line, hline, hmem⟩
  · rfl
  · exact absurd hmem ((controlFree_sourceLines h line hline).notMem hcontrol)

theorem lines_sourceOf {call : String} (h : Text.ControlFree call.toList) :
    Text.lines (sourceOf call).toList = (sourceLines call).map String.toList :=
  Text.lines_join_ended (controlFree_sourceLines h)

end Snippet

namespace SnippetBuilder

variable {b : SnippetBuilder} {function : String} {samples : List Sample}

theorem exists_render_of_build_eq_ok {snippet : Snippet}
    (h : b.build function samples = .ok snippet) :
    ∀ s ∈ samples, ∃ text, s.render = .ok text := by
  obtain ⟨texts, htexts, -⟩ := bind_eq_ok_iff.mp h
  intro s hs
  have hmem : s.render ∈ texts.map Except.ok := by
    rw [← mapM_eq_ok_iff.mp htexts]
    exact List.mem_map_of_mem hs
  obtain ⟨text, -, htext⟩ := List.mem_map.mp hmem
  exact ⟨text, htext.symm⟩

theorem build_error_cases {e : SnippetError}
    (h : b.build function samples = .error e) :
    (∃ s ∈ samples, s.render = .error e) ∨
      (∃ args, e = .invalidSource function args) ∧
        ∃ source, b.check source = false := by
  rcases bind_eq_error_iff.mp h with hrender | ⟨texts, -, hcheck⟩
  · exact .inl (exists_of_mapM_eq_error hrender)
  · right
    dsimp only at hcheck
    split at hcheck
    · exact nomatch hcheck
    · rename_i hfalse
      exact ⟨⟨_, (Except.error.inj hcheck).symm⟩, _,
        Bool.eq_false_iff.mpr hfalse⟩

/-- A probe reports that its sample has no literal exactly when it has none. -/
theorem build_singleton_eq_unsupported_iff {s : Sample} {t d : String} :
    b.build function [s] = .error (.unsupportedSample t d) ↔
      ∃ v, s.form = .literal v ∧ v.literal? = none ∧ t = s.typeName ∧
        d = v.describe := by
  constructor
  · intro h
    rcases build_error_cases h with ⟨x, hx, herror⟩ | ⟨⟨args, hinvalid⟩, -⟩
    · obtain rfl := List.mem_singleton.mp hx
      obtain ⟨v, hform, hnone, herror'⟩ := Sample.render_eq_error_iff.mp herror
      obtain ⟨rfl, rfl⟩ := SnippetError.unsupportedSample.inj herror'
      exact ⟨v, hform, hnone, rfl, rfl⟩
    · exact nomatch hinvalid
  · rintro ⟨v, hform, hnone, rfl, rfl⟩
    have hrender :
        s.render = .error (.unsupportedSample s.typeName v.describe) :=
      Sample.render_eq_error_iff.mpr ⟨v, hform, hnone, rfl⟩
    rw [build, List.mapM_cons, hrender]
    rfl

/-! ## Building without a check -/

theorem unchecked_build_eq_ok_iff {snippet : Snippet} :
    unchecked.build function samples = .ok snippet ↔
      ∃ texts, samples.mapM Sample.render = .ok texts ∧
        snippet = ⟨function, samples,
          function ++ "(" ++ ", ".intercalate texts ++ ")",
          Snippet.sourceOf (function ++ "(" ++ ", ".intercalate texts ++
            ")")⟩ := by
  rw [build, bind_eq_ok_iff]
  simp [unchecked, eq_comm]

theorem unchecked_build_eq_error_iff {e : SnippetError} :
    unchecked.build function samples = .error e ↔
      samples.mapM Sample.render = .error e := by
  rw [build, bind_eq_error_iff]
  simp [unchecked]

theorem exists_unchecked_build_iff :
    (∃ snippet, unchecked.build function samples = .ok snippet) ↔
      ∀ s ∈ samples, ¬s.Unsupported := by
  constructor
  · rintro ⟨snippet, hsnippet⟩ s hs
    exact Sample.exists_render_eq_ok_iff.mp
      (exists_render_of_build_eq_ok hsnippet s hs)
  · intro hsupported
    cases hbuild : unchecked.build function samples with
    | ok snippet => exact ⟨snippet, rfl⟩
    | error e =>
        obtain ⟨s, hs, herror⟩ :=
          exists_of_mapM_eq_error (unchecked_build_eq_error_iff.mp hbuild)
        obtain ⟨text, htext⟩ :=
          Sample.exists_render_eq_ok_iff.mpr (hsupported s hs)
        rw [htext] at herror
        cases herror

/-- The call is on one line if its function is and all samples are literals. -/
theorem controlFree_call_of_build {snippet : Snippet}
    (h : unchecked.build function samples = .ok snippet)
    (hliteral : ∀ s ∈ samples, ∃ v, s.form = .literal v)
    (hfunction : Text.ControlFree function.toList) :
    Text.ControlFree snippet.call.toList := by
  obtain ⟨texts, htexts, rfl⟩ := unchecked_build_eq_ok_iff.mp h
  have hrendered : ∀ text ∈ texts, Text.ControlFree text.toList := by
    intro text htext
    have hmem : Except.ok text ∈ samples.map Sample.render := by
      rw [mapM_eq_ok_iff.mp htexts]
      exact List.mem_map_of_mem htext
    obtain ⟨s, hs, hrender⟩ := List.mem_map.mp hmem
    obtain ⟨v, hform⟩ := hliteral s hs
    exact Sample.controlFree_of_render hform hrender
  have hargs : Text.ControlFree (", ".intercalate texts).toList := by
    rw [String.toList_intercalate]
    refine Text.controlFree_intercalate
      (Snippet.controlFree_of_toList_any (by decide)) ?_
    intro t ht
    obtain ⟨text, htext, rfl⟩ := List.mem_map.mp ht
    exact hrendered text htext
  refine Snippet.controlFree_toList_append (Snippet.controlFree_toList_append
    (Snippet.controlFree_toList_append hfunction ?_) hargs) ?_
  · exact Snippet.controlFree_of_toList_any (by decide)
  · exact Snippet.controlFree_of_toList_any (by decide)

theorem source_eq_of_build {snippet : Snippet}
    (h : unchecked.build function samples = .ok snippet) :
    snippet.source = Snippet.sourceOf snippet.call := by
  obtain ⟨texts, -, rfl⟩ := unchecked_build_eq_ok_iff.mp h
  rfl

/-- Without a check a snippet is built unless a value without a literal stands
inside a literal sample, and the first such sample is reported. Where all
samples are literals and the name of the function has no control character, the
call has none either: the source has six lines, and the call stands on the
second one. -/
theorem build_unchecked_or_first_unsupported (function : String)
    (samples : List Sample) :
    ((∃ snippet, unchecked.build function samples = .ok snippet) ↔
      ∀ s ∈ samples, ¬s.Unsupported) ∧
    (∀ e, unchecked.build function samples = .error e ↔
      ∃ before s after v, samples = before ++ s :: after ∧
        (∀ r ∈ before, ¬r.Unsupported) ∧
        s.Unsupported ∧ s.form = .literal v ∧
          e = .unsupportedSample s.typeName v.describe) ∧
    (∀ snippet, unchecked.build function samples = .ok snippet →
      (∀ s ∈ samples, ∃ v, s.form = .literal v) →
      (∀ c ∈ function.toList, Text.isControl c = false) →
        (∀ c ∈ snippet.call.toList, Text.isControl c = false) ∧
        (∀ c ∈ snippet.source.toList, Text.isControl c = true → c = '\n') ∧
        (Text.lines snippet.source.toList).length = 6 ∧
        (Text.lines snippet.source.toList)[1]? =
          some ("    __parity_result = " ++ snippet.call).toList) := by
  refine ⟨exists_unchecked_build_iff, ?_, ?_⟩
  · intro e
    rw [unchecked_build_eq_error_iff, mapM_eq_error_iff]
    constructor
    · rintro ⟨before, s, after, heq, hbefore, herror⟩
      obtain ⟨v, hform, hnone, he⟩ := Sample.render_eq_error_iff.mp herror
      refine ⟨before, s, after, v, heq, ?_, ?_, hform, he⟩
      · intro r hr
        exact Sample.exists_render_eq_ok_iff.mp (hbefore r hr)
      · exact ⟨v, hform, Value.literal?_eq_none_iff.mp hnone⟩
    · rintro ⟨before, s, after, v, heq, hbefore, ⟨v', hform', hlacks⟩,
        hform, he⟩
      obtain rfl : v' = v := SampleForm.literal.inj (hform'.symm.trans hform)
      refine ⟨before, s, after, heq, ?_, ?_⟩
      · intro r hr
        exact Sample.exists_render_eq_ok_iff.mpr (hbefore r hr)
      · exact Sample.render_eq_error_iff.mpr
          ⟨v', hform, Value.literal?_eq_none_iff.mpr hlacks, he⟩
  · intro snippet hbuild hliteral hfunction
    have hcall := controlFree_call_of_build hbuild hliteral hfunction
    rw [source_eq_of_build hbuild, Snippet.lines_sourceOf hcall]
    exact ⟨hcall, fun c hc => Snippet.controlFree_of_mem_source hcall hc, rfl,
      rfl⟩

/-- A string and bytes that hold line breaks. -/
def samplesWithLineBreaks : List Sample :=
  [.ofValue "str" (.str "a\nb\r"), .ofValue "bytes" (.bytes [10])]

/-- An expression, and a frozen set in a list in a dictionary. -/
def samplesWithFrozenSet : List Sample :=
  [.ofExpression "int" "1",
    .ofValue "dict" (.dict [(.null, .list [.frozenSet []])])]

theorem build_unchecked_or_first_unsupported_line_breaks :
    (∃ snippet, unchecked.build "f" samplesWithLineBreaks = .ok snippet ∧
      (Text.lines snippet.source.toList).length = 6) ∧
    unchecked.build "f" samplesWithFrozenSet = .error (.unsupportedSample "dict"
      (Value.dict [(.null, .list [.frozenSet []])]).describe) := by
  obtain ⟨hok, -, hlines⟩ :=
    build_unchecked_or_first_unsupported "f" samplesWithLineBreaks
  obtain ⟨-, herror, -⟩ :=
    build_unchecked_or_first_unsupported "f" samplesWithFrozenSet
  constructor
  · have hsupported : ∀ s ∈ samplesWithLineBreaks, ¬s.Unsupported := by
      simp only [samplesWithLineBreaks, List.forall_mem_cons]
      exact ⟨Sample.exists_render_eq_ok_iff.mp ⟨_, rfl⟩,
        Sample.exists_render_eq_ok_iff.mp ⟨_, rfl⟩, List.forall_mem_nil _⟩
    obtain ⟨snippet, hsnippet⟩ := hok.mpr hsupported
    refine ⟨snippet, hsnippet, (hlines snippet hsnippet ?_ ?_).2.2.1⟩
    · simp [samplesWithLineBreaks, Sample.ofValue]
    · exact Text.controlFree_of_any (by decide)
  · have hlist : Value.Inside (.frozenSet []) (.list [.frozenSet []]) :=
      .child (by simp [Value.children]) (.self _)
    have hdict :
        Value.Inside (.frozenSet []) (.dict [(.null, .list [.frozenSet []])]) :=
      .child (by simp [Value.children]) hlist
    refine (herror _).mpr ⟨[.ofExpression "int" "1"], _, [], _, rfl, ?_,
      ?_, rfl, rfl⟩
    · simp [Sample.Unsupported, Sample.ofExpression]
    · exact ⟨_, rfl, _, hdict, trivial⟩

end SnippetBuilder
end Concord
