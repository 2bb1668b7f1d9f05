import Concord.Proofs.Value.Depth
import Concord.Proofs.Value.Simulation

/-!
# Safety of the reader

On every text the positional reader ends: no loop takes more turns than there
are characters, and one for its end. Every step that it takes is safe: it stays
within the text and within the levels of nesting, leaves a value at the depth at
which it entered it, and behind where it entered it if it read one. It gives the
value that `Value.read` gives, whose height therefore bounds the comparison with
any other value.
-/

namespace Concord
namespace Value

variable {text : List Char} {fuel turns depth : Nat}
  {inside : Tracer (Option Value)}
  {item : Scan Value} {s t : Record}

/-- Inside `depth` values, the computation reads values as `item` does, which
takes something whenever it succeeds. -/
structure ReadsAt (text : List Char) (depth : Nat)
    (inside : Tracer (Option Value)) (item : Scan Value) : Prop where
  runs {s : Record} (hdepth : s.place.depth = depth) :
    Runs text s inside (item (s.rest text))
  nil : item [] = none
  shorter {cs rest : List Char} {v : Value} (h : item cs = some (v, rest)) :
    rest.length < cs.length

theorem startsWithSign_eq (cs : List Char) :
    startsWithSign cs = cs.head?.any isSign := by
  cases cs with
  | nil => rfl
  | cons c cs => rfl

theorem runs_imaginary (re : Binary64) (hturns : (s.rest text).length < turns) :
    Runs text s (Tracer.imaginary text turns re)
      (readImaginary re (s.rest text)) := by
  rw [Tracer.imaginary, readImaginary_eq]
  refine Runs.bind (runs_number hturns) ?_
  intro v t _ hv
  have hlt := (takes_readNumber _ hv).2
  dsimp only
  cases imaginaryPart? v with
  | none => exact Runs.of_none
  | some im =>
      dsimp only
      rw [Option.bind_some]
      apply Ends.skipBlanks_bind (by omega)
      intro u _ hu
      rw [← hu]
      apply Runs.ite_eat
      · intro v _ _
        exact Runs.of_some (Value.complex re im)
      · exact Runs.of_none

theorem runs_bytes (hquoted : (s.rest text).head?.any isQuote = true)
    (hturns : (s.rest text).length < turns) :
    Runs text s (Tracer.bytesLiteral text turns) (readBytes (s.rest text)) := by
  rw [Tracer.bytesLiteral]
  apply Ends.bump_bind
  · intro hrest
    rw [hrest]
    exact Runs.of_none
  · intro quote t _ hrest _
    rw [hrest, List.head?_cons, Option.any_some] at hquoted
    rw [hrest, List.length_cons] at hturns
    rw [hrest, readBytes]
    exact Runs.map
      (runs_quoted (by decide) (readsQuoted_readQuotedBytes hquoted) (by omega))

/-! ## Containers -/

/-- Goes over an opening bracket and blanks, and reads something empty if the
closing one is next. -/
theorem runs_opened {bracket close : Char} {cs : List Char} {empty : Value}
    {m : Tracer (Option Value)} {read? : Option (Value × List Char)}
    (hs : s.rest text = bracket :: cs) (hturns : (s.rest text).length < turns)
    (h : ∀ t, s.Reaches text t → t.rest text = Text.skipBlanks cs →
      (t.rest text).length < (s.rest text).length → Runs text t m read?) :
    Runs text s
      (Tracer.advance 1 >>= fun _ => Tracer.skipBlanks text turns >>= fun _ =>
        Tracer.eat text close >>= fun b =>
          if b = true then pure (some empty) else m)
      (ifNext close (Text.skipBlanks cs)
        (fun rest => some (empty, rest)) read?) := by
  rw [hs, List.length_cons] at hturns h
  have hskip := length_skipBlanks_le cs
  apply Ends.advance_one_bind hs
  intro t hst ht _
  rw [← ht] at hturns hskip h ⊢
  apply Ends.skipBlanks_bind (by omega)
  intro u htu hu
  rw [← hu] at hskip ⊢
  apply Runs.ite_eat
  · intro v _ _
    exact Runs.of_some empty
  · exact h u (hst.trans htu) hu (by omega)

section Containers

variable (hitem : ReadsAt text depth inside item)
include hitem

theorem runs_items (close : Char) (hdepth : s.place.depth = depth)
    (hbound : (s.rest text).length < min fuel turns) :
    Runs text s (Tracer.items text inside close turns)
      (readItems item close fuel (s.rest text)) := by
  induction fuel generalizing s turns with
  | zero => omega
  | succ fuel ih =>
      obtain ⟨turns, rfl⟩ : ∃ n, turns = n + 1 :=
        Nat.exists_eq_add_one.mpr (by omega)
      have hskip := length_skipBlanks_le (s.rest text)
      rw [Tracer.items, readItems_succ hitem.nil]
      apply Ends.skipBlanks_bind (by omega)
      intro t hst ht
      rw [← ht] at hskip ⊢
      apply Runs.ite_eat
      · intro u _ _
        exact Runs.of_some []
      refine Runs.bind (hitem.runs (hst.depth_eq.trans hdepth)) ?_
      intro v u htu hv
      have hlt := hitem.shorter hv
      have hskip' := length_skipBlanks_le (u.rest text)
      dsimp only
      apply Ends.skipBlanks_bind (by omega)
      intro w huw hw
      rw [← hw] at hskip' ⊢
      apply Runs.ite_eat
      · intro x _ _
        exact Runs.of_some [v]
      apply Runs.ite_eat
      · intro x hwx hx
        rw [hx, List.length_cons] at hskip'
        have hsx := ((hst.trans htu).trans huw).trans hwx
        exact Runs.map (ih (hsx.depth_eq.trans hdepth) (by omega))
      · exact Runs.of_none

theorem runs_entries (hdepth : s.place.depth = depth)
    (hbound : (s.rest text).length < min fuel turns) :
    Runs text s (Tracer.entries text inside turns)
      (readMoreEntries item fuel (s.rest text)) := by
  induction fuel generalizing s turns with
  | zero => omega
  | succ fuel ih =>
      obtain ⟨turns, rfl⟩ : ∃ n, turns = n + 1 :=
        Nat.exists_eq_add_one.mpr (by omega)
      have hskip := length_skipBlanks_le (s.rest text)
      rw [Tracer.entries, readMoreEntries_succ]
      apply Ends.skipBlanks_bind (by omega)
      intro t hst ht
      rw [← ht] at hskip ⊢
      apply Runs.ite_eat
      · intro u _ _
        exact Runs.of_some []
      apply Runs.ite_eat
      · intro u htu hu
        rw [hu, List.length_cons] at hskip
        have hskip' := length_skipBlanks_le (u.rest text)
        apply Ends.skipBlanks_bind (by omega)
        intro v huv hv
        rw [← hv] at hskip' ⊢
        apply Runs.ite_eat
        · intro w _ _
          exact Runs.of_some []
        have hsv := (hst.trans htu).trans huv
        refine Runs.bind (hitem.runs (hsv.depth_eq.trans hdepth)) ?_
        intro key w hvw hkey
        have hlt := hitem.shorter hkey
        have hskip'' := length_skipBlanks_le (w.rest text)
        dsimp only
        apply Ends.skipBlanks_bind (by omega)
        intro x hwx hx
        rw [← hx] at hskip'' ⊢
        apply Runs.ite_eat
        · intro y hxy hy
          rw [hy, List.length_cons] at hskip''
          have hsy := ((hsv.trans hvw).trans hwx).trans hxy
          refine Runs.bind (hitem.runs (hsy.depth_eq.trans hdepth)) ?_
          intro value z hyz hvalue
          have hlt' := hitem.shorter hvalue
          exact Runs.map (ih ((hsy.trans hyz).depth_eq.trans hdepth) (by omega))
        · exact Runs.of_none
      · exact Runs.of_none

theorem runs_afterFirst (first : Value) (hdepth : s.place.depth = depth)
    (hbound : (s.rest text).length < min fuel turns) :
    Runs text s (Tracer.afterFirst text inside turns first)
      (readAfterFirst fuel item first (s.rest text)) := by
  rw [Tracer.afterFirst, readAfterFirst_eq]
  apply Runs.ite_eat
  · intro t _ _
    exact Runs.of_some first
  apply Runs.ite_eat
  · intro t hst ht
    rw [ht, List.length_cons] at hbound
    exact Runs.map (runs_items hitem ')' (hst.depth_eq.trans hdepth) (by omega))
  · exact Runs.of_none

theorem runs_paren {cs : List Char} (hs : s.rest text = '(' :: cs)
    (hdepth : s.place.depth = depth)
    (hbound : (s.rest text).length < min fuel turns) :
    Runs text s (Tracer.paren text inside turns) (readParen fuel item cs) := by
  rw [Tracer.paren, readParen_eq]
  apply runs_opened hs (by omega)
  intro u hsu hu hlength
  rw [← hu]
  apply Ends.peek_bind
  dsimp only
  refine Runs.bind (hitem.runs (hsu.depth_eq.trans hdepth)) ?_
  intro first v huv hfirst
  have hlt := hitem.shorter hfirst
  have hskip' := length_skipBlanks_le (v.rest text)
  dsimp only
  apply Ends.skipBlanks_bind (by omega)
  intro w hvw hw
  rw [← hw] at hskip' ⊢
  apply Ends.peek_bind
  have hsw := (hsu.trans huv).trans hvw
  have hafter : Runs text w (Tracer.afterFirst text inside turns first)
      (readAfterFirst fuel item first (w.rest text)) :=
    runs_afterFirst hitem first (hsw.depth_eq.trans hdepth) (by omega)
  cases realPart? ((u.rest text).head? == some '-') first with
  | none => exact hafter
  | some re =>
      dsimp only
      rw [startsWithSign_eq]
      by_cases hsign : (w.rest text).head?.any isSign = true
      · rw [if_pos hsign, hsign]
        exact runs_imaginary re (by omega)
      · rw [if_neg hsign, eq_false_of_ne_true hsign]
        exact hafter

theorem runs_brace {cs : List Char} (hs : s.rest text = '{' :: cs)
    (hdepth : s.place.depth = depth)
    (hbound : (s.rest text).length < min fuel turns) :
    Runs text s (Tracer.brace text inside turns) (readBrace fuel item cs) := by
  rw [Tracer.brace, readBrace_eq]
  apply runs_opened hs (by omega)
  intro u hsu hu hlength
  rw [← hu]
  refine Runs.bind (hitem.runs (hsu.depth_eq.trans hdepth)) ?_
  intro first v huv hfirst
  have hlt := hitem.shorter hfirst
  have hskip' := length_skipBlanks_le (v.rest text)
  dsimp only
  apply Ends.skipBlanks_bind (by omega)
  intro w hvw hw
  rw [← hw] at hskip' ⊢
  have hsw := (hsu.trans huv).trans hvw
  apply Runs.ite_eat
  · intro x hwx hx
    rw [hx, List.length_cons] at hskip'
    have hsx := hsw.trans hwx
    refine Runs.bind (hitem.runs (hsx.depth_eq.trans hdepth)) ?_
    intro value y hxy hvalue
    have hlt' := hitem.shorter hvalue
    dsimp only
    exact Runs.map
      (runs_entries hitem ((hsx.trans hxy).depth_eq.trans hdepth) (by omega))
  apply Runs.ite_eat
  · intro x _ _
    exact Runs.of_some (Value.set [first])
  apply Runs.ite_eat
  · intro x hwx hx
    rw [hx, List.length_cons] at hskip'
    exact Runs.map
      (runs_items hitem '}' ((hsw.trans hwx).depth_eq.trans hdepth) (by omega))
  · exact Runs.of_none

theorem runs_name (hdepth : s.place.depth = depth)
    (hbound : (s.rest text).length < min fuel turns) :
    Runs text s (Tracer.name text inside turns)
      (readName fuel item (s.rest text)) := by
  rw [Tracer.name, readName_eq]
  apply Ends.place_bind
  apply Ends.bind (Ends.skipWhile continuesName (by omega))
  intro _ t hst ht
  have hname :
      s.rest text = (s.rest text).takeWhile continuesName ++ t.rest text := by
    rw [ht, List.takeWhile_append_dropWhile]
  have hlength := congrArg List.length hname
  rw [List.length_append] at hlength
  apply Ends.place_bind
  apply Ends.cut_bind hst hname
  intro u htu hplace
  rw [← ht, ← Record.rest_eq hplace]
  apply Runs.ite_eat
  · intro v huv hv
    rw [← Record.rest_eq hplace, hv, List.length_cons] at hlength
    have hsv := (hst.trans htu).trans huv
    exact Runs.map (runs_items hitem ')' (hsv.depth_eq.trans hdepth) (by omega))
  · exact Ends.pure rfl

theorem runs_nested (hdepth : s.place.depth = depth)
    (hbound : (s.rest text).length < min fuel turns) :
    Runs text s (Tracer.nested text inside turns)
      (readNested fuel item (s.rest text)) := by
  have hskip := length_skipBlanks_le (s.rest text)
  rw [Tracer.nested]
  apply Ends.skipBlanks_bind (by omega)
  intro t hst ht
  rw [← ht] at hskip
  replace hdepth : t.place.depth = depth := hst.depth_eq.trans hdepth
  replace hbound : (t.rest text).length < min fuel turns :=
    Nat.lt_of_le_of_lt hskip hbound
  apply Ends.peek_bind
  cases hrest : t.rest text with
  | nil =>
      rw [hrest] at ht
      rw [readNested, ← ht]
      exact Runs.of_none
  | cons c rest =>
      have hlength : (t.rest text).length = rest.length + 1 := by
        rw [hrest, List.length_cons]
      rw [hrest] at ht
      rw [readNested_of_skipBlanks ht.symm, List.head?_cons]
      dsimp only
      apply Runs.ite
      · intro _
        apply Ends.advance_one_bind hrest
        intro u htu hu _
        rw [← hu] at hlength ⊢
        exact Runs.map
          (runs_items hitem ']' (htu.depth_eq.trans hdepth) (by omega))
      intro _
      apply Runs.ite
      · intro hc
        rw [hc] at hrest
        exact runs_paren hitem hrest hdepth hbound
      intro _
      apply Runs.ite
      · intro hc
        rw [hc] at hrest
        exact runs_brace hitem hrest hdepth hbound
      intro _
      apply Runs.ite
      · intro hc
        have hopen : (t.rest text).head? = some '<' := by
          rw [hrest, hc, List.head?_cons]
        rw [← hrest]
        exact runs_bracketed hopen (by omega)
      intro _
      apply Runs.ite
      · intro hc
        apply Ends.advance_one_bind hrest
        intro u htu hu _
        rw [← hu] at hlength ⊢
        exact Runs.map
          (runs_quoted (by decide) (readsQuoted_readQuoted hc) (by omega))
      intro _
      apply Ends.peekAt_bind
      rw [hrest, List.getElem?_cons_succ, ← List.head?_eq_getElem?]
      apply Runs.ite
      · intro hc
        have hquoted : rest.head?.any isQuote = true :=
          (Bool.and_eq_true_iff.mp hc).2
        apply Ends.advance_one_bind hrest
        intro u _ hu _
        rw [← hu] at hlength hquoted ⊢
        exact runs_bytes hquoted (by omega)
      intro _
      apply Ends.startsWith_bind
      rw [hrest]
      apply Runs.ite
      · intro hdots
        have hcount := (List.isPrefixOf_iff_prefix.mp hdots).length_le
        rw [← hrest] at hcount
        apply Ends.advance_bind hcount
        intro u _ hu _
        apply Ends.pure
        rw [hu, hrest]
        rfl
      intro _
      apply Runs.ite
      · intro _
        rw [← hrest]
        exact runs_number (by omega)
      intro _
      apply Runs.ite
      · intro _
        rw [← hrest]
        exact runs_name hitem hdepth hbound
      · intro _
        exact Runs.of_none

end Containers

/-! ## Values -/

/-- A value is left at the depth at which it was entered. -/
theorem reaches_of_entered {success : Bool} (hdepth : s.place.depth < 512)
    (hpos : s.place.pos ≤ text.length)
    (h : (s.moved { s.place with depth := s.place.depth + 1 }).Reaches text t)
    (hprogress : success = true → s.place.pos < t.place.pos) :
    s.Reaches text
      (((t.noted (.decrements t.place.depth)).moved
        { t.place with depth := t.place.depth - 1 }).noted
          (.returns s.place { t.place with depth := t.place.depth - 1 }
            success)) := by
  have hinner : t.place.depth = s.place.depth + 1 := h.depth_eq
  have hleft : t.place.depth - 1 = s.place.depth := by omega
  have hentered :
      s.SafeTo text (s.moved { s.place with depth := s.place.depth + 1 }) :=
    (Record.SafeTo.refl s).moved hpos hdepth
  refine ⟨hleft, h.le_pos, h.pos_le, ?_⟩
  apply Record.SafeTo.noted
  · apply Record.SafeTo.moved
    · apply (hentered.trans h.safeTo).noted
      exact Nat.lt_of_lt_of_eq (Nat.succ_pos _) hinner.symm
    · exact h.pos_le
    · exact Nat.le_trans (Nat.le_of_eq hleft) (Nat.le_of_lt hdepth)
  · exact ⟨hleft, hprogress⟩

theorem runs_value {calls : Nat} (levels : Nat)
    (hdepth : s.place.depth + levels = 512) (hcalls : levels < calls)
    (hbound : text.length < min fuel turns) :
    Runs text s (Tracer.value text turns calls)
      (readValue fuel levels (s.rest text)) := by
  -- The levels that are left go down as the depth goes up, so that at the last
  -- one the depth is at its limit and nothing is entered.
  induction levels generalizing s calls with
  | zero =>
      obtain ⟨calls, rfl⟩ : ∃ n, calls = n + 1 :=
        Nat.exists_eq_add_one.mpr hcalls
      have hlimit : s.place.depth ≥ nestingLimit := Nat.le_of_eq hdepth.symm
      rw [Tracer.value]
      apply Ends.place_bind
      rw [if_pos hlimit]
      apply Ends.record_bind
      · exact ⟨rfl, nofun⟩
      · intro t _ _
        exact Runs.of_none
  | succ levels ih =>
      obtain ⟨calls, rfl⟩ : ∃ n, calls = n + 1 :=
        Nat.exists_eq_add_one.mpr (by omega)
      have hlimit : ¬ s.place.depth ≥ nestingLimit := by
        rw [nestingLimit]
        omega
      have hitem :
          ReadsAt text (s.place.depth + 1) (Tracer.value text turns calls)
          (readValue fuel levels) :=
        ⟨fun ht => ih (by omega) (by omega), readValue_nil fuel levels,
          fun h => (takes_readValue fuel levels _ h).2⟩
      rw [Tracer.value]
      apply Ends.place_bind
      rw [if_neg hlimit]
      intro hs
      let inner := s.moved { s.place with depth := s.place.depth + 1 }
      have hwithin : inner.Within text :=
        ⟨hs.pos_le, show s.place.depth + 1 ≤ 512 by omega⟩
      have hrest : (inner.rest text).length < min fuel turns := by
        rw [Record.length_rest]
        omega
      obtain ⟨v?, t, hrun, hreach, hv⟩ := runs_nested hitem rfl hrest hwithin
      -- What was read is shorter than what was there before, and positions
      -- count from the front.
      have hprogress : v?.isSome = true → s.place.pos < t.place.pos := by
        intro hsome
        obtain ⟨v, rfl⟩ := Option.isSome_iff_exists.mp hsome
        have hlt := (takes_readValue fuel (levels + 1) _ hv).2
        rw [Record.length_rest, Record.length_rest] at hlt
        have hle := hreach.pos_le
        dsimp only [inner, Record.moved] at hlt
        omega
      refine ⟨v?, _, ?_,
        reaches_of_entered (by omega) hs.pos_le hreach hprogress, hv⟩
      change (Tracer.nested text (Tracer.value text turns calls) turns
        inner).bind _ = _
      rw [hrun]
      rfl

theorem ends_whole {cs : List Char} {calls : Nat} (hturns : cs.length < turns)
    (hcalls : 512 < calls) :
    Ends cs Record.start (Tracer.whole cs turns calls) fun v _ =>
      v = readTrimmed cs := by
  have hbound : cs.length < min (cs.length + 1) turns := by omega
  rw [Tracer.whole]
  apply Ends.bind (runs_value 512 rfl hcalls hbound)
  intro v? t _ hv
  have hread : readValue (cs.length + 1) nestingLimit cs =
      v?.map fun v => (v, t.rest cs) := hv
  rw [readTrimmed, hread]
  cases v? with
  | none => exact Ends.pure rfl
  | some v =>
      apply Ends.skipBlanks_bind
      · rw [Record.length_rest]
        omega
      intro u _ hu
      have hend : u.place.pos ≥ cs.length ↔
          (Text.skipBlanks (t.rest cs)).isEmpty = true := by
        rw [← hu, List.isEmpty_iff, Record.rest, List.drop_eq_nil_iff]
      apply Ends.place_bind
      apply Ends.pure
      exact if_congr hend rfl rfl

theorem height_readTrimmed_le (cs : List Char) :
    (readTrimmed cs).height ≤ 512 := by
  have hverbatim : (Value.verbatim (String.ofList cs)).height ≤ 512 := by
    simp [height]
  rw [readTrimmed]
  cases hread : readValue (cs.length + 1) nestingLimit cs with
  | none => exact hverbatim
  | some p =>
      dsimp only
      split_ifs
      · exact (takes_readValue _ _ _ hread).1
      · exact hverbatim

/-- On every text the reader ends after safe steps, if its loops may take one
turn for each character and one more, and if it may go one call deeper than 512.
Whatever is read takes a character, and the value is no higher than 512. So the
comparison with another value, on either side, goes no deeper than 512
levels. -/
theorem read_ends_safely (text : String) :
    (∀ turns > (Text.trimBlanks text.toList).length, ∀ calls > 512, ∃ r,
      Tracer.whole (Text.trimBlanks text.toList) turns calls Record.start =
        some (read text, r) ∧
      ∀ e ∈ r.events, e.Safe (Text.trimBlanks text.toList).length) ∧
    (∀ fuel levels,
      Takes (fun v => v.height ≤ levels) (readValue fuel levels)) ∧
    (read text).height ≤ 512 ∧
    ∀ cutOff other,
      equivalentWithin cutOff 512 (read text) other =
        (read text).equivalent other ∧
      equivalentWithin cutOff 512 other (read text) =
        other.equivalent (read text) := by
  have hheight : (read text).height ≤ 512 := height_readTrimmed_le _
  refine ⟨?_, takes_readValue, hheight, ?_⟩
  · intro turns hturns calls hcalls
    have hstart : Record.start.Within (Text.trimBlanks text.toList) :=
      ⟨Nat.zero_le _, Nat.zero_le _⟩
    obtain ⟨v, r, hrun, hreach, rfl⟩ := ends_whole hturns hcalls hstart
    refine ⟨r, hrun, ?_⟩
    obtain ⟨es, hes, hsafe⟩ := hreach.safeTo
    rw [hes]
    intro e he
    rcases List.mem_append.mp he with he | he
    · rw [List.mem_singleton.mp he]
      exact ⟨Nat.zero_le _, Nat.zero_le _⟩
    · exact hsafe e he
  · intro cutOff other
    exact ⟨equivalentWithin_eq cutOff (by omega),
      equivalentWithin_eq cutOff (by omega)⟩

/-- The steps of a run: the counter of open brackets and the depth are both one
when they go down. -/
example :
    (Tracer.whole "<>".toList 3 513 Record.start).map (·.2.events) =
      some [.moves ⟨0, 0⟩, .moves ⟨0, 1⟩, .moves ⟨1, 1⟩, .moves ⟨2, 1⟩,
        .decrements 1, .cuts 0 2,
        .decrements 1, .moves ⟨2, 0⟩, .returns ⟨0, 0⟩ ⟨2, 0⟩ true] := by
  rfl

end Value
end Concord
