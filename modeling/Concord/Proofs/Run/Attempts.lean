import Concord.Proofs.Outcome
import Concord.Proofs.Run.Case

/-!
# Attempts

Backends may be run with a log that notes each of their executions. The log
changes neither the outcome of a run nor its state. In the log of a case every
call stands with one attempt on each backend, or with two where the first one
timed out and is tried again, and the log ends where an attempt stops the run.
-/

namespace Concord

variable {σ α β ε : Type}

/-! ## Recording -/

/-- One of the two backends. -/
inductive Side where
  | reference
  | target
  deriving DecidableEq

/-- An execution of a backend: what it was given, and how it ended. -/
structure Attempt where
  side : Side
  source : String
  timeoutMs : Nat
  result : Except Stop Transcript

/-- The backend that notes each execution at the end of a log. -/
def Backend.recorded (b : Backend σ) (side : Side) :
    Backend (σ × List Attempt) where
  name := b.name
  execute source timeoutMs := fun (s, log) =>
    let (result, t) := (b.execute source timeoutMs).runOn s
    (result, t, log ++ [⟨side, source, timeoutMs, result⟩])

/-- The backends with a common log. -/
def BackendPair.recorded (p : BackendPair σ) :
    BackendPair (σ × List Attempt) where
  reference := p.reference.recorded .reference
  target := p.target.recorded .target
  timeoutMs := p.timeoutMs
  retryTimeouts := p.retryTimeouts

namespace Execution

/-- The second execution runs as the first one and adds attempts to the log,
which `R` relates to the outcome. -/
def Traced (x : Execution σ α) (y : Execution (σ × List Attempt) α)
    (R : List Attempt → Except Stop α → Prop) : Prop :=
  ∀ s log, ∃ added, R added (x.runOn s).1 ∧
    y.runOn (s, log) = ((x.runOn s).1, (x.runOn s).2, log ++ added)

/-- The attempts that run through a list of executions to its end. -/
inductive Sequence (R : α → List Attempt → Except Stop β → Prop) :
    List α → List Attempt → List β → Prop
  | nil : Sequence R [] [] []
  | cons {a : α} {as : List α} {first rest : List Attempt} {b : β}
      {bs : List β} :
      R a first (.ok b) → Sequence R as rest bs →
        Sequence R (a :: as) (first ++ rest) (b :: bs)

/-- The attempts of a list of executions: of all of them, or of those before the
one that stops and of that one. -/
def Sequential (R : α → List Attempt → Except Stop β → Prop) (as : List α)
    (added : List Attempt) : Except Stop (List β) → Prop
  | .ok bs => Sequence R as added bs
  | .error stop => ∃ before a after first last bs, as = before ++ a :: after ∧
      Sequence R before first bs ∧ R a last (.error stop) ∧
      added = first ++ last

theorem Sequential.cons {R : α → List Attempt → Except Stop β → Prop} {a : α}
    {as : List α} {first rest : List Attempt} {b : β} {r : Except Stop (List β)}
    (ha : R a first (.ok b)) (has : Sequential R as rest r) :
    Sequential R (a :: as) (first ++ rest) (r.map (b :: ·)) := by
  cases r with
  | ok bs => exact Sequence.cons ha has
  | error stop =>
      obtain ⟨before, a', after, early, last, bs, rfl, hbefore, hlast, rfl⟩ :=
        has
      refine ⟨a :: before, a', after, first ++ early, last, b :: bs, rfl, ?_,
        hlast, ?_⟩
      · exact Sequence.cons ha hbefore
      · rw [List.append_assoc]

namespace Traced

variable {R : List Attempt → Except Stop α → Prop}
  {T : List Attempt → Except Stop β → Prop}

theorem pure {a : α} (h : R [] (.ok a)) :
    Traced (σ := σ) (pure a) (pure a) R := by
  intro s log
  refine ⟨[], h, ?_⟩
  rw [List.append_nil]
  rfl

theorem bind {x : Execution σ α} {y : Execution (σ × List Attempt) α}
    {f : α → Execution σ β} {g : α → Execution (σ × List Attempt) β}
    {S : α → List Attempt → Except Stop β → Prop} (hx : Traced x y R)
    (hf : ∀ a, Traced (f a) (g a) (S a))
    (hstop : ∀ added stop, R added (.error stop) → T added (.error stop))
    (hnext : ∀ first rest a r, R first (.ok a) → S a rest r →
      T (first ++ rest) r) :
    Traced (x >>= f) (y >>= g) T := by
  intro s log
  obtain ⟨first, hfirst, hy⟩ := hx s log
  rw [runOn_bind, runOn_bind, hy]
  cases hrun : x.runOn s with
  | mk r t =>
      rw [hrun] at hfirst
      cases r with
      | error stop => exact ⟨first, hstop first stop hfirst, rfl⟩
      | ok a =>
          obtain ⟨rest, hrest, hg⟩ := hf a t (log ++ first)
          refine ⟨first ++ rest, hnext first rest a _ hfirst hrest, ?_⟩
          rw [← List.append_assoc]
          exact hg

theorem map {x : Execution σ α} {y : Execution (σ × List Attempt) α} {f : α → β}
    (hx : Traced x y R) (h : ∀ added r, R added r → T added (r.map f)) :
    Traced (x >>= fun a => Pure.pure (f a))
      (y >>= fun a => Pure.pure (f a)) T := by
  refine hx.bind (S := fun a added r => added = [] ∧ r = .ok (f a)) ?_ ?_ ?_
  · intro a
    exact .pure ⟨rfl, rfl⟩
  · intro added stop hstop
    exact h added (.error stop) hstop
  · rintro first rest a r hfirst ⟨rfl, rfl⟩
    rw [List.append_nil]
    exact h first (.ok a) hfirst

theorem ofExcept_bind {toFault : ε → Fault} {x : Except ε α}
    {f : α → Execution σ β} {g : α → Execution (σ × List Attempt) β}
    (herror : ∀ e, x = .error e → T [] (.error (.fault (toFault e))))
    (hok : ∀ a, x = .ok a → Traced (f a) (g a) T) :
    Traced (ofExcept toFault x >>= f) (ofExcept toFault x >>= g) T := by
  intro s log
  rw [runOn_bind, runOn_bind, runOn_ofExcept, runOn_ofExcept]
  cases x with
  | error e =>
      refine ⟨[], herror e rfl, ?_⟩
      rw [List.append_nil]
      rfl
  | ok a => exact hok a rfl s log

theorem mapM {f : α → Execution σ β} {g : α → Execution (σ × List Attempt) β}
    {S : α → List Attempt → Except Stop β → Prop}
    (hf : ∀ a, Traced (f a) (g a) (S a)) (as : List α) :
    Traced (as.mapM f) (as.mapM g) (Sequential S as) := by
  induction as with
  | nil => exact Traced.pure .nil
  | cons a as ih =>
      rw [List.mapM_cons, List.mapM_cons]
      refine (hf a).bind (S := fun b added r => ∃ r', Sequential S as added r' ∧
        r = r'.map (b :: ·)) ?_ ?_ ?_
      · intro b
        exact ih.map fun added r hr => ⟨r, hr, rfl⟩
      · intro added stop hstop
        exact ⟨[], a, as, [], added, [], rfl, .nil, hstop, rfl⟩
      · rintro first rest b r hfirst ⟨r', hrest, rfl⟩
        exact Sequential.cons hfirst hrest

end Traced
end Execution

/-! ## Calls -/

/-- The transcripts of all the attempts on a call: one, or two where the first
one timed out and timeouts are tried again. -/
inductive Tried (retry : Bool) : List Transcript → Prop
  | once {t : Transcript} : ¬(retry = true ∧ t.timedOut = true) →
      Tried retry [t]
  | again {t t' : Transcript} : retry = true → t.timedOut = true →
      Tried retry [t, t']

/-- The transcripts of some attempts on a call, after which another attempt
follows. -/
inductive Untried (retry : Bool) : List Transcript → Prop
  | first : Untried retry []
  | second {t : Transcript} : retry = true → t.timedOut = true →
      Untried retry [t]

theorem Tried.length_eq {retry : Bool} {ts : List Transcript}
    (h : Tried retry ts) :
    ts.length = 1 +
      if retry = true ∧ ts.head?.any Transcript.timedOut = true then 1
      else 0 := by
  rcases h with @⟨t, honce⟩ | ⟨hretry, htime⟩
  · have hnot : ¬(retry = true ∧ [t].head?.any Transcript.timedOut = true) :=
      honce
    rw [if_neg hnot]
    rfl
  · rw [if_pos ⟨hretry, htime⟩]
    rfl

/-- The attempts on a source that left the transcripts. -/
def attemptsOn (side : Side) (source : String) (timeoutMs : Nat)
    (ts : List Transcript) : List Attempt :=
  ts.map fun t => ⟨side, source, timeoutMs, .ok t⟩

theorem exists_ok_of_mem_attemptsOn {side : Side} {source : String}
    {timeoutMs : Nat} {ts : List Transcript} {a : Attempt}
    (h : a ∈ attemptsOn side source timeoutMs ts) : ∃ t, a.result = .ok t := by
  obtain ⟨t, -, rfl⟩ := List.mem_map.mp h
  exact ⟨t, rfl⟩

namespace BackendPair

variable {p : BackendPair σ}

/-- The attempts of one backend on a source, and the outcome they have. -/
inductive Trial (p : BackendPair σ) (side : Side) (source : String) :
    List Attempt → Except Stop Outcome → Prop
  | settled {ts : List Transcript} {o : Outcome} : Tried p.retryTimeouts ts →
      ts.getLast?.map Outcome.ofTranscript = some o →
      Trial p side source (attemptsOn side source p.timeoutMs ts) (.ok o)
  | stopped {ts : List Transcript} {stop : Stop} : Untried p.retryTimeouts ts →
      Trial p side source
        (attemptsOn side source p.timeoutMs ts ++
          [⟨side, source, p.timeoutMs, .error stop⟩])
        (.error stop)

theorem traced_execute (b : Backend σ) (side : Side) (source : String)
    (timeoutMs : Nat) :
    Execution.Traced (b.execute source timeoutMs)
      ((b.recorded side).execute source timeoutMs)
      fun added r => added = [⟨side, source, timeoutMs, r⟩] := by
  intro s log
  exact ⟨_, rfl, rfl⟩

theorem traced_outcomeOn (p : BackendPair σ) (b : Backend σ) (side : Side)
    (source : String) :
    Execution.Traced (p.outcomeOn b source)
      (p.recorded.outcomeOn (b.recorded side) source)
      (p.Trial side source) := by
  have hexecute := traced_execute b side source p.timeoutMs
  -- What is left to do after the first transcript.
  refine hexecute.bind (S := fun t added r => p.Trial side source
    (⟨side, source, p.timeoutMs, .ok t⟩ :: added) r) ?_ ?_ ?_
  · intro t
    by_cases hretry :
      (p.retryTimeouts && (Outcome.ofTranscript t).isTimeout) = true
    · have hretry' := hretry
      rw [Outcome.isTimeout_ofTranscript, Bool.and_eq_true] at hretry'
      obtain ⟨hon, htime⟩ := hretry'
      have hrecorded : (p.recorded.retryTimeouts &&
          (Outcome.ofTranscript t).isTimeout) = true := hretry
      simp only [hretry, hrecorded, if_true]
      refine hexecute.map ?_
      rintro added (stop | t') rfl
      · exact .stopped (.second hon htime)
      · exact .settled (.again hon htime) rfl
    · have hrecorded : ¬(p.recorded.retryTimeouts &&
          (Outcome.ofTranscript t).isTimeout) = true := hretry
      simp only [hretry, hrecorded]
      have honce : Tried p.retryTimeouts [t] := by
        rw [Outcome.isTimeout_ofTranscript, Bool.and_eq_true] at hretry
        exact .once hretry
      exact .pure (.settled honce rfl)
  · rintro added stop rfl
    exact .stopped .first
  · rintro first rest t r rfl hrest
    exact hrest

/-- The attempts on a source up to one that stops. -/
inductive Interrupted (p : BackendPair σ) (source : String) :
    List Attempt → Attempt → Prop
  | onReference {ts : List Transcript} {stop : Stop} :
      Untried p.retryTimeouts ts →
      Interrupted p source (attemptsOn .reference source p.timeoutMs ts)
        ⟨.reference, source, p.timeoutMs, .error stop⟩
  | onTarget {rs ts : List Transcript} {stop : Stop} :
      Tried p.retryTimeouts rs →
      Untried p.retryTimeouts ts →
      Interrupted p source
        (attemptsOn .reference source p.timeoutMs rs ++
          attemptsOn .target source p.timeoutMs ts)
        ⟨.target, source, p.timeoutMs, .error stop⟩

theorem Interrupted.exists_ok_of_mem {source : String} {earlier : List Attempt}
    {last a : Attempt} (h : p.Interrupted source earlier last)
    (ha : a ∈ earlier) : ∃ t, a.result = .ok t := by
  cases h with
  | onReference _ => exact exists_ok_of_mem_attemptsOn ha
  | onTarget _ _ =>
      rcases List.mem_append.mp ha with ha | ha
      · exact exists_ok_of_mem_attemptsOn ha
      · exact exists_ok_of_mem_attemptsOn ha

end BackendPair

/-- The transcripts of the attempts on one call. -/
structure CallLog where
  source : String
  reference : List Transcript
  target : List Transcript

namespace CallLog

/-- The transcripts of one of the backends. -/
def on (call : CallLog) : Side → List Transcript
  | .reference => call.reference
  | .target => call.target

/-- The attempts on the reference and then those on the target. -/
def attempts (call : CallLog) (timeoutMs : Nat) : List Attempt :=
  attemptsOn .reference call.source timeoutMs call.reference ++
    attemptsOn .target call.source timeoutMs call.target

theorem exists_ok_of_mem_attempts {calls : List CallLog} {timeoutMs : Nat}
    {a : Attempt} (h : a ∈ calls.flatMap (CallLog.attempts · timeoutMs)) :
    ∃ t, a.result = .ok t := by
  obtain ⟨call, -, ha⟩ := List.mem_flatMap.mp h
  rcases List.mem_append.mp ha with ha | ha
  · exact exists_ok_of_mem_attemptsOn ha
  · exact exists_ok_of_mem_attemptsOn ha

/-- The first attempt on the backend timed out. -/
def timesOut (call : CallLog) (side : Side) : Bool :=
  (call.on side).head?.any Transcript.timedOut

theorem countP_attempts (call : CallLog) (timeoutMs : Nat) (side : Side) :
    (call.attempts timeoutMs).countP (fun a => a.side = side) =
      (call.on side).length := by
  cases side <;>
    simp [attempts, attemptsOn, on, List.countP_map, Function.comp_def]

/-- One attempt on each call, and one more for each first attempt that timed
out. -/
theorem countP_flatMap_attempts {retry : Bool} {calls : List CallLog}
    {side : Side} (h : ∀ call ∈ calls, Tried retry (call.on side))
    (timeoutMs : Nat) :
    (calls.flatMap (CallLog.attempts · timeoutMs)).countP
      (fun a => a.side = side) =
      calls.length +
        if retry = true then calls.countP (CallLog.timesOut · side) else 0 := by
  induction calls with
  | nil => simp
  | cons call calls ih =>
      obtain ⟨hcall, hcalls⟩ := List.forall_mem_cons.mp h
      rw [List.flatMap_cons, List.countP_append, ih hcalls, countP_attempts,
        hcall.length_eq, List.length_cons, List.countP_cons]
      change
        _ + (if retry = true ∧ call.timesOut side = true then 1 else 0) + _ = _
      by_cases hretry : retry = true <;>
        by_cases htime : call.timesOut side = true <;>
        simp [hretry, htime] <;> omega

/-- The last attempts have the outcomes. -/
def EndsIn (call : CallLog) (reference target : Outcome) : Prop :=
  call.reference.getLast?.map Outcome.ofTranscript = some reference ∧
    call.target.getLast?.map Outcome.ofTranscript = some target

end CallLog

/-- The attempts on a source, and the outcomes they have. -/
inductive BackendPair.CallTrace (p : BackendPair σ) (source : String) :
    List Attempt → Except Stop (Outcome × Outcome) → Prop
  | settled {call : CallLog} {reference target : Outcome} :
      call.source = source →
      (∀ side, Tried p.retryTimeouts (call.on side)) →
      call.EndsIn reference target →
      CallTrace p source (call.attempts p.timeoutMs) (.ok (reference, target))
  | stopped {earlier : List Attempt} {last : Attempt} {stop : Stop} :
      p.Interrupted source earlier last → last.result = .error stop →
      CallTrace p source (earlier ++ [last]) (.error stop)

theorem BackendPair.traced_outcomes (p : BackendPair σ) (source : String) :
    Execution.Traced (p.outcomes source) (p.recorded.outcomes source)
      (p.CallTrace source) := by
  refine (p.traced_outcomeOn p.reference .reference source).bind
    (S := fun reference added r => ∃ r', p.Trial .target source added r' ∧
      r = r'.map (reference, ·)) ?_ ?_ ?_
  · intro reference
    exact (p.traced_outcomeOn p.target .target source).map fun added r hr =>
      ⟨r, hr, rfl⟩
  · rintro added stop (_ | huntried)
    exact .stopped (.onReference huntried) rfl
  · rintro first rest reference r (@⟨rs, _, hrs, hreference⟩) ⟨r', hrest, rfl⟩
    rcases hrest with @⟨ts, target, hts, htarget⟩ | @⟨ts, stop, hts⟩
    · let call : CallLog := ⟨source, rs, ts⟩
      have htried : ∀ side, Tried p.retryTimeouts (call.on side) := by
        rintro (_ | _)
        · exact hrs
        · exact hts
      exact .settled rfl htried ⟨hreference, htarget⟩
    · rw [← List.append_assoc]
      exact .stopped (.onTarget hrs hts) rfl

/-! ## Cases -/

namespace Case

variable {c : Case} {m : TypeMatrix} {b : SnippetBuilder} {p : BackendPair σ}

/-- The call on the samples was tried on both backends as often as it should
be. -/
def Logs (c : Case) (b : SnippetBuilder) (p : BackendPair σ)
    (samples : List Sample) (call : CallLog) : Prop :=
  ∃ snippet, b.build c.function samples = .ok snippet ∧
    call.source = snippet.source ∧
    ∀ side, Tried p.retryTimeouts (call.on side)

/-- The attempts on one combination of samples. -/
inductive SampleTrace (c : Case) (b : SnippetBuilder) (p : BackendPair σ)
    (samples : List Sample) : List Attempt → Except Stop SampleResult → Prop
  | unbuilt {e : SnippetError} : b.build c.function samples = .error e →
      SampleTrace c b p samples [] (.error (.fault (.snippet e)))
  | settled {call : CallLog} {entry : SampleResult} : c.Logs b p samples call →
      call.EndsIn entry.reference entry.target →
      SampleTrace c b p samples (call.attempts p.timeoutMs) (.ok entry)
  | stopped {snippet : Snippet} {earlier : List Attempt} {last : Attempt}
      {stop : Stop} :
      b.build c.function samples = .ok snippet →
      p.Interrupted snippet.source earlier last →
      last.result = .error stop →
      SampleTrace c b p samples (earlier ++ [last]) (.error stop)

theorem traced_runSample (c : Case) (b : SnippetBuilder) (p : BackendPair σ)
    (samples : List Sample) :
    Execution.Traced (c.runSample b p samples)
      (c.runSample b p.recorded samples)
      (c.SampleTrace b p samples) := by
  refine .ofExcept_bind (fun e hbuild => .unbuilt hbuild)
    fun snippet hbuild => ?_
  refine (p.traced_outcomes snippet.source).map ?_
  rintro added _ (⟨hsource, htried, hends⟩ | ⟨hinterrupted, hlast⟩)
  · exact .settled ⟨snippet, hbuild, hsource, htried⟩ hends
  · exact .stopped hbuild hinterrupted hlast

/-- The calls on the samples of a case, in their order. -/
theorem exists_calls_of_sequence {combos : List (List Sample)}
    {added : List Attempt} {entries : List SampleResult}
    (h : Execution.Sequence (c.SampleTrace b p) combos added entries) :
    ∃ calls, List.Forall₂ (c.Logs b p) combos calls ∧
      List.Forall₂ (fun call entry => call.EndsIn entry.reference entry.target)
        calls entries ∧
      added = calls.flatMap (CallLog.attempts · p.timeoutMs) := by
  induction h with
  | nil => exact ⟨[], .nil, .nil, rfl⟩
  | cons hfirst _ ih =>
      obtain ⟨calls, hlogs, hends, rfl⟩ := ih
      rcases hfirst with _ | ⟨hlog, hend⟩ | _
      exact ⟨_ :: calls, .cons hlog hlogs, .cons hend hends, rfl⟩

/-- The case comes to the combination after the calls on all the combinations
before it. -/
def Reaches (c : Case) (m : TypeMatrix) (b : SnippetBuilder) (p : BackendPair σ)
    (calls : List CallLog) (samples : List Sample) : Prop :=
  ∃ pools before after, c.pools m = .ok pools ∧
    combinations pools = before ++ samples :: after ∧
    List.Forall₂ (c.Logs b p) before calls

/-- The attempts of a case: on all its calls; or on those before a combination
for which no snippet can be built, or before one whose call is interrupted. -/
inductive Trace (c : Case) (m : TypeMatrix) (b : SnippetBuilder)
    (p : BackendPair σ) : List Attempt → Except Stop CaseResult → Prop
  | unknown {f : Fault} : c.pools m = .error f →
      Trace c m b p [] (.error (.fault f))
  | settled {pools : List (List Sample)} {calls : List CallLog}
      {entries : List SampleResult} :
      c.pools m = .ok pools →
      List.Forall₂ (c.Logs b p) (combinations pools) calls →
      List.Forall₂ (fun call entry => call.EndsIn entry.reference entry.target)
        calls entries →
      Trace c m b p (calls.flatMap (CallLog.attempts · p.timeoutMs))
        (.ok (c.conclude entries))
  | unbuilt {calls : List CallLog} {samples : List Sample} {e : SnippetError} :
      c.Reaches m b p calls samples → b.build c.function samples = .error e →
      Trace c m b p (calls.flatMap (CallLog.attempts · p.timeoutMs))
        (.error (.fault (.snippet e)))
  | stopped {calls : List CallLog} {samples : List Sample} {snippet : Snippet}
      {earlier : List Attempt} {last : Attempt} {stop : Stop} :
      c.Reaches m b p calls samples → b.build c.function samples = .ok snippet →
      p.Interrupted snippet.source earlier last → last.result = .error stop →
      Trace c m b p
        (calls.flatMap (CallLog.attempts · p.timeoutMs) ++ (earlier ++ [last]))
        (.error stop)

theorem traced_run (c : Case) (m : TypeMatrix) (b : SnippetBuilder)
    (p : BackendPair σ) :
    Execution.Traced (c.run m b p) (c.run m b p.recorded) (c.Trace m b p) := by
  refine .ofExcept_bind (fun f hpools => .unknown hpools) fun pools hpools => ?_
  refine (Execution.Traced.mapM (c.traced_runSample b p)
    (combinations pools)).map ?_
  rintro added (stop | entries) hsamples
  · obtain ⟨before, samples, after, first, last, entries, hcombos, hbefore,
        hlast, rfl⟩ :=
      hsamples
    obtain ⟨calls, hlogs, -, rfl⟩ := exists_calls_of_sequence hbefore
    have hreaches : c.Reaches m b p calls samples :=
      ⟨pools, before, after, hpools, hcombos, hlogs⟩
    rcases hlast with hbuild | _ | ⟨hbuild, hinterrupted, hresult⟩
    · rw [List.append_nil]
      exact .unbuilt hreaches hbuild
    · exact .stopped hreaches hbuild hinterrupted hresult
  · obtain ⟨calls, hlogs, hends, rfl⟩ := exists_calls_of_sequence hsamples
    exact .settled hpools hlogs hends

theorem Logs.tried_of_forall₂ {combos : List (List Sample)}
    {calls : List CallLog} (h : List.Forall₂ (c.Logs b p) combos calls)
    (side : Side) : ∀ call ∈ calls, Tried p.retryTimeouts (call.on side) := by
  induction h with
  | nil => simp
  | cons hlog _ ih =>
      obtain ⟨-, -, -, htried⟩ := hlog
      exact List.forall_mem_cons.mpr ⟨htried side, ih⟩

theorem Trace.exists_calls_of_ok {log : List Attempt} {r : CaseResult}
    (h : c.Trace m b p log (.ok r)) :
    ∃ pools calls, c.pools m = .ok pools ∧
      log = calls.flatMap (CallLog.attempts · p.timeoutMs) ∧
      List.Forall₂ (c.Logs b p) (combinations pools) calls ∧
      List.Forall₂ (fun call entry => call.EndsIn entry.reference entry.target)
        calls r.samples ∧
      ∀ side, log.countP (fun a => a.side = side) =
        (combinations pools).length +
        if p.retryTimeouts = true then calls.countP (CallLog.timesOut · side)
        else 0 := by
  cases h with
  | @settled pools calls _ hpools hlogs hends =>
      refine ⟨pools, calls, hpools, rfl, hlogs, hends, fun side => ?_⟩
      rw [hlogs.length_eq]
      exact CallLog.countP_flatMap_attempts (Logs.tried_of_forall₂ hlogs side)
        p.timeoutMs

theorem Trace.exists_interrupted_of_mem {log : List Attempt}
    {r : Except Stop CaseResult} (h : c.Trace m b p log r) {a : Attempt}
    {stop : Stop} (ha : a ∈ log) (hstop : a.result = .error stop) :
    r = .error stop ∧
    ∃ calls samples snippet earlier, c.Reaches m b p calls samples ∧
      b.build c.function samples = .ok snippet ∧
      p.Interrupted snippet.source earlier a ∧
      log =
        calls.flatMap (CallLog.attempts · p.timeoutMs) ++ (earlier ++ [a]) := by
  have hnot : ¬∃ t, a.result = .ok t := by
    rintro ⟨t, ht⟩
    rw [ht] at hstop
    exact nomatch hstop
  cases h with
  | unknown _ => exact absurd ha List.not_mem_nil
  | settled _ _ _ => exact absurd (CallLog.exists_ok_of_mem_attempts ha) hnot
  | unbuilt _ _ => exact absurd (CallLog.exists_ok_of_mem_attempts ha) hnot
  | stopped hreaches hbuild hinterrupted hresult =>
      rcases List.mem_append.mp ha with ha | ha
      · exact absurd (CallLog.exists_ok_of_mem_attempts ha) hnot
      · rcases List.mem_append.mp ha with ha | ha
        · exact absurd (hinterrupted.exists_ok_of_mem ha) hnot
        · obtain rfl := List.mem_singleton.mp ha
          rw [hstop] at hresult
          cases hresult
          exact ⟨rfl, _, _, _, _, hreaches, hbuild, hinterrupted, rfl⟩

theorem Trace.cause_of_error {log : List Attempt} {stop : Stop}
    (h : c.Trace m b p log (.error stop)) :
    (∃ a ∈ log, a.result = .error stop) ∨
    (∃ f, c.pools m = .error f ∧ stop = .fault f ∧ log = []) ∨
    ∃ calls samples e, c.Reaches m b p calls samples ∧
      b.build c.function samples = .error e ∧ stop = .fault (.snippet e) ∧
      log = calls.flatMap (CallLog.attempts · p.timeoutMs) := by
  cases h with
  | unknown hpools => exact .inr (.inl ⟨_, hpools, rfl, rfl⟩)
  | unbuilt hreaches hbuild =>
      exact .inr (.inr ⟨_, _, _, hreaches, hbuild, rfl, rfl⟩)
  | stopped _ _ _ hresult => exact .inl ⟨_, by simp, hresult⟩

/-- How often and in which order a case executes the backends, whatever these
are: recording them changes nothing; a case that ends has tried each of its
calls on both backends, once more after a timeout if timeouts are retried, and
recorded the last attempts; an attempt that stops is the last one and stops the
case; and nothing else stops it but a type without samples or a combination
without a snippet. -/
theorem run_attempts (c : Case) (m : TypeMatrix) (b : SnippetBuilder)
    (p : BackendPair σ) (s : σ) :
    let run := (c.run m b p.recorded).runOn (s, [])
    let log := run.2.2
    (c.run m b p).runOn s = (run.1, run.2.1) ∧
    (∀ r, run.1 = .ok r → ∃ pools calls, c.pools m = .ok pools ∧
      log = calls.flatMap (CallLog.attempts · p.timeoutMs) ∧
      List.Forall₂ (c.Logs b p) (combinations pools) calls ∧
      List.Forall₂ (fun call entry => call.EndsIn entry.reference entry.target)
        calls r.samples ∧
      ∀ side, log.countP (fun a => a.side = side) =
        (combinations pools).length +
        if p.retryTimeouts = true then calls.countP (CallLog.timesOut · side)
        else 0) ∧
    (∀ a ∈ log, ∀ stop, a.result = .error stop → run.1 = .error stop ∧
      ∃ calls samples snippet earlier, c.Reaches m b p calls samples ∧
        b.build c.function samples = .ok snippet ∧
        p.Interrupted snippet.source earlier a ∧
        log = calls.flatMap (CallLog.attempts · p.timeoutMs) ++
          (earlier ++ [a])) ∧
    (∀ stop, run.1 = .error stop →
      (∃ a ∈ log, a.result = .error stop) ∨
      (∃ f, c.pools m = .error f ∧ stop = .fault f ∧ log = []) ∨
      ∃ calls samples e, c.Reaches m b p calls samples ∧
        b.build c.function samples = .error e ∧ stop = .fault (.snippet e) ∧
        log = calls.flatMap (CallLog.attempts · p.timeoutMs)) := by
  intro run log
  obtain ⟨added, htrace, hrun⟩ := c.traced_run m b p s []
  have hresult : run.1 = ((c.run m b p).runOn s).1 := congrArg Prod.fst hrun
  have hstate : run.2.1 = ((c.run m b p).runOn s).2 :=
    congrArg (fun t => t.2.1) hrun
  have hlog : log = added := congrArg (fun t => t.2.2) hrun
  rw [← hresult, ← hlog] at htrace
  refine ⟨Prod.ext hresult.symm hstate.symm, ?_, ?_, ?_⟩
  · intro r hr
    rw [hr] at htrace
    exact htrace.exists_calls_of_ok
  · intro a ha stop hstop
    exact htrace.exists_interrupted_of_mem ha hstop
  · intro stop hstop
    rw [hstop] at htrace
    exact htrace.cause_of_error

/-- Both backends answer from one list of answers. -/
def scriptedBackends : BackendPair (List (Except Stop Transcript)) :=
  let scripted (name : String) : Backend (List (Except Stop Transcript)) :=
    ⟨name, fun _ _ answers =>
      match answers with
      | [] => (.error .panicked, [])
      | answer :: rest => (answer, rest)⟩
  { reference := scripted "reference", target := scripted "target" }

/-- Of two calls, the first times out once on the reference and the second twice
on the target; with other answers, the target panics when the first call is
tried again. -/
theorem run_attempts_of_scriptedBackends :
    let m := TypeMatrix.ofDeclarations
      [("int", [.ofValue "int" (.int 3), .ofValue "int" (.int (-5))]),
       ("None", [.ofValue "None" .null])]
    let late : Except Stop Transcript := .ok { timedOut := true }
    let prompt : Except Stop Transcript :=
      .ok (.completed "@@parity:ok int 9\n")
    let run answers :=
      (registeredPow.run m .unchecked scriptedBackends.recorded).runOn
        (answers, [])
    let ended := run [late, prompt, prompt, prompt, late, late, prompt]
    let stopped := run [prompt, late, .error .panicked, prompt]
    (ended.2.2.map Attempt.side =
        [.reference, .reference, .target, .reference, .target, .target] ∧
      ∃ calls : List CallLog, calls.length = 2 ∧
        ended.2.2 = calls.flatMap (CallLog.attempts · defaultTimeoutMs) ∧
        ∀ side, ended.2.2.countP (fun a => a.side = side) =
          2 + calls.countP (CallLog.timesOut · side)) ∧
    stopped.2.2.map Attempt.side = [.reference, .target, .target] ∧
    stopped.1 = .error .panicked ∧
    ∃ calls samples snippet earlier a,
      registeredPow.Reaches m .unchecked scriptedBackends calls samples ∧
      SnippetBuilder.unchecked.build "pow" samples = .ok snippet ∧
      scriptedBackends.Interrupted snippet.source earlier a ∧
      stopped.2.2 = calls.flatMap (CallLog.attempts · defaultTimeoutMs) ++
        (earlier ++ [a]) := by
  intro m late prompt run ended stopped
  refine ⟨⟨rfl, ?_⟩, rfl, ?_⟩
  · obtain ⟨-, hended, -⟩ :=
      run_attempts registeredPow m .unchecked scriptedBackends
      [late, prompt, prompt, prompt, late, late, prompt]
    obtain ⟨pools, calls, hpools, hlog, hlogs, -, hcount⟩ := hended _ rfl
    have hcombos : (combinations pools).length = 2 := by
      cases hpools
      rfl
    refine ⟨calls, hlogs.length_eq.symm.trans hcombos, hlog, fun side => ?_⟩
    rw [← hcombos]
    exact hcount side
  · obtain ⟨-, -, hstopped, -⟩ :=
      run_attempts registeredPow m .unchecked scriptedBackends
      [prompt, late, .error .panicked, prompt]
    have hlast : ∃ a ∈ stopped.2.2, a.result = .error .panicked :=
      ⟨_, List.mem_cons_of_mem _ (List.mem_cons_of_mem _ List.mem_cons_self),
        rfl⟩
    obtain ⟨a, ha, hresult⟩ := hlast
    obtain ⟨herror, calls, samples, snippet, earlier, hcause⟩ :=
      hstopped a ha _ hresult
    exact ⟨herror, calls, samples, snippet, earlier, a, hcause⟩

end Case
end Concord
