import Concord.Proofs.Value.Progress
import Concord.Proofs.Value.Trace

/-!
# Runs of the positional reader

`Ends` says that a computation ends, takes only safe steps and gives a result
that satisfies a condition. `Runs` says that the result is the one that reading
the remaining characters gives. The leaves of values are read so, wherever the
reader stands.
-/

namespace Concord
namespace Value

variable {α β : Type} {text : List Char} {turns : Nat} {s t u : Record}

/-! ## Ends of computations -/

namespace Record

/-- The characters that remain. -/
def rest (text : List Char) (r : Record) : List Char :=
  text.drop r.place.pos

/-- The reader stands in the text, and not inside too many values. -/
structure Within (text : List Char) (r : Record) : Prop where
  pos_le : r.place.pos ≤ text.length
  depth_le : r.place.depth ≤ 512

/-- The steps from one record to the other are safe. -/
def SafeTo (text : List Char) (s t : Record) : Prop :=
  ∃ es, t.events = s.events ++ es ∧ ∀ e ∈ es, e.Safe text.length

theorem SafeTo.refl (s : Record) : s.SafeTo text s :=
  ⟨[], (List.append_nil _).symm, fun _ he => absurd he List.not_mem_nil⟩

theorem SafeTo.trans (h : s.SafeTo text t) (h' : t.SafeTo text u) :
    s.SafeTo text u := by
  obtain ⟨es, ht, hes⟩ := h
  obtain ⟨es', hu, hes'⟩ := h'
  refine ⟨es ++ es', by rw [hu, ht, List.append_assoc], ?_⟩
  intro e he
  rcases List.mem_append.mp he with he | he
  · exact hes e he
  · exact hes' e he

theorem SafeTo.noted (h : s.SafeTo text t) {e : Event}
    (he : e.Safe text.length) : s.SafeTo text (t.noted e) := by
  refine h.trans ⟨[e], rfl, ?_⟩
  intro e' he'
  rwa [List.mem_singleton.mp he']

theorem SafeTo.moved (h : s.SafeTo text t) {p : Place}
    (hpos : p.pos ≤ text.length) (hdepth : p.depth ≤ 512) :
    s.SafeTo text (t.moved p) := by
  refine h.trans ⟨[.moves p], rfl, ?_⟩
  intro e he
  rw [List.mem_singleton.mp he]
  exact ⟨hpos, hdepth⟩

/-- The reader comes from one record to the other by safe steps, never back, and
to the same depth. -/
structure Reaches (text : List Char) (s t : Record) : Prop where
  depth_eq : t.place.depth = s.place.depth
  le_pos : s.place.pos ≤ t.place.pos
  pos_le : t.place.pos ≤ text.length
  safeTo : s.SafeTo text t

theorem Within.reaches_self (h : s.Within text) : s.Reaches text s where
  depth_eq := rfl
  le_pos := Nat.le_refl _
  pos_le := h.pos_le
  safeTo := SafeTo.refl s

theorem Reaches.within (h : s.Reaches text t) (hs : s.Within text) :
    t.Within text where
  pos_le := h.pos_le
  depth_le := h.depth_eq ▸ hs.depth_le

theorem Reaches.trans (h : s.Reaches text t) (h' : t.Reaches text u) :
    s.Reaches text u where
  depth_eq := h'.depth_eq.trans h.depth_eq
  le_pos := Nat.le_trans h.le_pos h'.le_pos
  pos_le := h'.pos_le
  safeTo := h.safeTo.trans h'.safeTo

theorem rest_eq (h : t.place = s.place) : t.rest text = s.rest text := by
  rw [rest, rest, h]

theorem length_rest (r : Record) :
    (r.rest text).length = text.length - r.place.pos :=
  List.length_drop

end Record

/-- Run from a record, the computation ends, by safe steps, with a result and a
record that satisfy `Q`. -/
def Ends (text : List Char) (s : Record) (m : Tracer α)
    (Q : α → Record → Prop) : Prop :=
  s.Within text → ∃ a t, m s = some (a, t) ∧ s.Reaches text t ∧ Q a t

namespace Ends

variable {m : Tracer α} {k : α → Tracer β} {Q : α → Record → Prop}
  {R : β → Record → Prop}

theorem pure {a : α} (h : Q a s) : Ends text s (Pure.pure a) Q := by
  intro hs
  exact ⟨a, s, rfl, hs.reaches_self, h⟩

theorem bind (hm : Ends text s m Q)
    (hk : ∀ a t, s.Reaches text t → Q a t → Ends text t (k a) R) :
    Ends text s (m >>= k) R := by
  intro hs
  obtain ⟨a, t, hrun, hreach, ha⟩ := hm hs
  obtain ⟨b, u, hrun', hreach', hb⟩ := hk a t hreach ha (hreach.within hs)
  refine ⟨b, u, ?_, hreach.trans hreach', hb⟩
  have hstep : (m >>= k) s = (m s).bind fun p => k p.1 p.2 := rfl
  rw [hstep, hrun]
  exact hrun'

theorem imp {Q' : α → Record → Prop} (h : Ends text s m Q)
    (hQ : ∀ a t, Q a t → Q' a t) : Ends text s m Q' := by
  intro hs
  obtain ⟨a, t, hrun, hreach, ha⟩ := h hs
  exact ⟨a, t, hrun, hreach, hQ a t ha⟩

/-- A computation that starts with a safe step. -/
theorem step {n : Tracer α} (hstep : n s = m t)
    (hreach : s.Within text → s.Reaches text t)
    (h : s.Reaches text t → Ends text t m Q) : Ends text s n Q := by
  intro hs
  have hreach := hreach hs
  obtain ⟨a, u, hrun, hreach', ha⟩ := h hreach (hreach.within hs)
  exact ⟨a, u, hstep.trans hrun, hreach.trans hreach', ha⟩

theorem ite {p : Prop} [Decidable p] {n : Tracer α} (hyes : p → Ends text s m Q)
    (hno : ¬ p → Ends text s n Q) : Ends text s (if p then m else n) Q := by
  by_cases hp : p
  · rw [if_pos hp]
    exact hyes hp
  · rw [if_neg hp]
    exact hno hp

theorem place_bind {k : Place → Tracer β} (h : Ends text s (k s.place) R) :
    Ends text s (Tracer.place >>= k) R :=
  h

theorem peekAt_bind {k : Option Char → Tracer β} {offset : Nat}
    (h : Ends text s (k (s.rest text)[offset]?) R) :
    Ends text s (Tracer.peekAt text offset >>= k) R := by
  rw [Record.rest, List.getElem?_drop] at h
  exact h

theorem peek_bind {k : Option Char → Tracer β}
    (h : Ends text s (k (s.rest text).head?) R) :
    Ends text s (Tracer.peekAt text 0 >>= k) R := by
  rw [List.head?_eq_getElem?] at h
  exact h.peekAt_bind

theorem startsWith_bind {k : Bool → Tracer β} {word : List Char}
    (h : Ends text s (k (word.isPrefixOf (s.rest text))) R) :
    Ends text s (Tracer.startsWith text word >>= k) R :=
  h

theorem record_bind {k : Unit → Tracer β} {e : Event} (he : e.Safe text.length)
    (h : ∀ t, s.Reaches text t → t.place = s.place → Ends text t (k ()) R) :
    Ends text s (Tracer.record e >>= k) R := by
  refine step (m := k ()) (t := s.noted e) rfl ?_ ?_
  · intro hs
    exact ⟨rfl, Nat.le_refl _, hs.pos_le, (Record.SafeTo.refl s).noted he⟩
  · intro hreach
    exact h _ hreach rfl

theorem advance_bind {k : Unit → Tracer β} {count : Nat}
    (hcount : count ≤ (s.rest text).length)
    (h : ∀ t, s.Reaches text t → t.rest text = (s.rest text).drop count →
      t.place.pos = s.place.pos + count → Ends text t (k ()) R) :
    Ends text s (Tracer.advance count >>= k) R := by
  rw [Record.length_rest] at hcount
  refine step (m := k ())
    (t := s.moved { s.place with pos := s.place.pos + count }) rfl ?_ ?_
  · intro hs
    have hpos := hs.pos_le
    have hle : s.place.pos + count ≤ text.length := by omega
    exact ⟨rfl, Nat.le_add_right _ _, hle,
      (Record.SafeTo.refl s).moved hle hs.depth_le⟩
  · intro hreach
    refine h _ hreach ?_ rfl
    rw [Record.rest, Record.rest, List.drop_drop]
    rfl

theorem advance_one_bind {k : Unit → Tracer β} {c : Char} {rest : List Char}
    (hs : s.rest text = c :: rest)
    (h : ∀ t, s.Reaches text t → t.rest text = rest →
      t.place.pos = s.place.pos + 1 → Ends text t (k ()) R) :
    Ends text s (Tracer.advance 1 >>= k) R := by
  apply advance_bind
  · rw [hs]
    exact Nat.succ_pos _
  · intro t hreach ht hpos
    rw [hs, List.drop_succ_cons, List.drop_zero] at ht
    exact h t hreach ht hpos

theorem bump_bind {k : Option Char → Tracer β}
    (hnone : s.rest text = [] → Ends text s (k none) R)
    (hsome : ∀ c t, s.Reaches text t → s.rest text = c :: t.rest text →
      t.place.pos = s.place.pos + 1 → Ends text t (k (some c)) R) :
    Ends text s (Tracer.bump text >>= k) R := by
  rw [Tracer.bump, bind_assoc]
  apply peek_bind
  cases hrest : s.rest text with
  | nil =>
      rw [List.head?_nil]
      exact hnone hrest
  | cons c rest =>
      rw [List.head?_cons]
      dsimp only
      rw [bind_assoc]
      apply advance_one_bind hrest
      intro t hreach ht hpos
      exact hsome c t hreach (by rw [hrest, ht]) hpos

theorem eatIf_bind {p : Char → Bool} {k : Bool → Tracer β}
    (hyes : ∀ c t, s.Reaches text t → s.rest text = c :: t.rest text →
      p c = true → t.place.pos = s.place.pos + 1 → Ends text t (k true) R)
    (hno : (s.rest text).head?.any p = false → Ends text s (k false) R) :
    Ends text s (Tracer.eatIf text p >>= k) R := by
  rw [Tracer.eatIf, bind_assoc]
  apply peek_bind
  by_cases hp : (s.rest text).head?.any p = true
  · obtain ⟨c, hc, hpc⟩ := (Option.any_eq_true _ _).mp hp
    obtain ⟨rest, hrest⟩ := exists_of_head? hc
    rw [if_pos hp, bind_assoc]
    apply advance_one_bind hrest
    intro t hreach ht hpos
    exact hyes c t hreach (by rw [hrest, ht]) hpc hpos
  · rw [if_neg hp]
    exact hno (eq_false_of_ne_true hp)

theorem skipWhile (p : Char → Bool) (hturns : (s.rest text).length < turns) :
    Ends text s (Tracer.skipWhile text p turns) fun _ t =>
      t.rest text = (s.rest text).dropWhile p := by
  induction turns generalizing s with
  | zero => exact absurd hturns (Nat.not_lt_zero _)
  | succ turns ih =>
      rw [Tracer.skipWhile]
      apply eatIf_bind
      · intro c t hreach hrest hc _
        rw [hrest, List.length_cons] at hturns
        rw [if_pos rfl, hrest, List.dropWhile_cons_of_pos hc]
        exact ih (by omega)
      · intro hnone
        rw [if_neg Bool.false_ne_true]
        apply Ends.pure
        cases hrest : s.rest text with
        | nil => rfl
        | cons c rest =>
            rw [hrest] at hnone
            rw [List.dropWhile_cons_of_neg (by simpa using hnone)]

theorem skipBlanks_bind {k : Unit → Tracer β}
    (hturns : (s.rest text).length < turns)
    (h : ∀ t, s.Reaches text t → t.rest text = Text.skipBlanks (s.rest text) →
      Ends text t (k ()) R) :
    Ends text s (Tracer.skipBlanks text turns >>= k) R := by
  apply Ends.bind (skipWhile Text.isBlank hturns)
  intro _ t hreach ht
  exact h t hreach ht

theorem cut_bind {k : List Char → Tracer β} {start : Record} {cs : List Char}
    (hstart : start.Reaches text s) (hcs : start.rest text = cs ++ s.rest text)
    (h : ∀ t, s.Reaches text t → t.place = s.place → Ends text t (k cs) R) :
    Ends text s (Tracer.cut text start.place.pos s.place.pos >>= k) R := by
  have hcut : (text.drop start.place.pos).take (s.place.pos - start.place.pos) =
      cs := by
    have hlength := congrArg List.length hcs
    rw [List.length_append, Record.length_rest, Record.length_rest] at hlength
    have hle := hstart.le_pos
    have hpos := hstart.pos_le
    have hcount : s.place.pos - start.place.pos = cs.length := by omega
    rw [Record.rest] at hcs
    rw [hcount, hcs, List.take_left]
  rw [Tracer.cut, bind_assoc]
  apply record_bind
  · exact ⟨hstart.le_pos, hstart.pos_le⟩
  · intro t hreach hplace
    rw [hcut]
    exact h t hreach hplace

end Ends

/-! ## Runs -/

/-- Run from a record, the computation ends by safe steps and gives what was
read, after which the same characters remain. -/
abbrev Runs (text : List Char) (s : Record) (m : Tracer (Option α))
    (read? : Option (α × List Char)) : Prop :=
  Ends text s m fun a? t => read? = a?.map fun a => (a, t.rest text)

namespace Runs

variable {m : Tracer (Option α)} {k : Option α → Tracer (Option β)}
  {read? : Option (α × List Char)}

theorem of_none : Runs text s (pure none : Tracer (Option α)) none :=
  Ends.pure rfl

theorem of_some (a : α) : Runs text s (pure (some a)) (some (a, s.rest text)) :=
  Ends.pure rfl

theorem bind {g : α × List Char → Option (β × List Char)}
    (hm : Runs text s m read?)
    (hsome : ∀ a t, s.Reaches text t → read? = some (a, t.rest text) →
      Runs text t (k (some a)) (g (a, t.rest text)))
    (hnone : k none = pure none := by rfl) :
    Runs text s (m >>= k) (read?.bind g) := by
  apply Ends.bind hm
  intro a? t hreach ha
  cases a? with
  | none =>
      rw [hnone, ha]
      exact of_none
  | some a =>
      have hread : read? = some (a, t.rest text) := ha
      rw [hread]
      exact hsome a t hreach hread

theorem map {f : α → β} (hm : Runs text s m read?)
    (hsome : ∀ a, k (some a) = pure (some (f a)) := by intro _; rfl)
    (hnone : k none = pure none := by rfl) :
    Runs text s (m >>= k) (read?.map (Prod.map f id)) := by
  rw [Option.map_eq_bind]
  refine bind hm ?_ hnone
  intro a t _ _
  rw [hsome]
  exact of_some (f a)

theorem ite {p : Prop} [Decidable p] {n : Tracer (Option α)}
    {other? : Option (α × List Char)} (hyes : p → Runs text s m read?)
    (hno : ¬ p → Runs text s n other?) :
    Runs text s (if p then m else n) (if p then read? else other?) := by
  by_cases hp : p
  · rw [if_pos hp, if_pos hp]
    exact hyes hp
  · rw [if_neg hp, if_neg hp]
    exact hno hp

theorem ite_eat {c : Char} {n : Tracer (Option α)}
    {yes : List Char → Option (α × List Char)}
    (hyes : ∀ t, s.Reaches text t → s.rest text = c :: t.rest text →
      Runs text t m (yes (t.rest text)))
    (hno : Runs text s n read?) :
    Runs text s (Tracer.eat text c >>= fun b => if b = true then m else n)
      (ifNext c (s.rest text) yes read?) := by
  apply Ends.eatIf_bind
  · intro d t hreach hrest hd _
    obtain rfl : d = c := of_decide_eq_true hd
    rw [if_pos rfl, hrest, ifNext_self]
    exact hyes t hreach hrest
  · intro hhead
    have hne : (s.rest text).head? ≠ some c := by
      intro hhead'
      rw [hhead'] at hhead
      simp at hhead
    rw [if_neg Bool.false_ne_true, ifNext_of_ne hne]
    exact hno

end Runs

/-! ## Quoted text -/

/-- The digits that are left are few enough for the number to stay below
`2 ^ 32`. -/
theorem runs_hexNumber {digits number taken : Nat}
    (hnumber : number < 16 ^ taken) (hdigits : taken + digits ≤ 8) :
    Runs text s (Tracer.hexNumber text digits number)
      (readHex digits number (s.rest text)) := by
  induction digits generalizing number taken s with
  | zero => exact Runs.of_some number
  | succ digits ih =>
      rw [Tracer.hexNumber]
      apply Ends.bump_bind
      · intro hrest
        rw [hrest]
        exact Runs.of_none
      · intro c t hreach hrest _
        rw [hrest, readHex, List.length_cons, List.take_succ_cons,
          List.foldlM_cons, List.drop_succ_cons]
        dsimp only
        cases hd : Text.hexValue? c with
        | none =>
            simp only [Option.map_none, Option.bind_eq_bind,
              Option.bind_none, ite_self]
            exact Runs.of_none
        | some d =>
            have hlt := hexValue?_lt hd
            have hnext : 16 * number + d < 16 ^ (taken + 1) := by
              rw [Nat.pow_succ]
              omega
            have hbound : 16 ^ (taken + 1) ≤ 16 ^ 8 :=
              Nat.pow_le_pow_right (by decide) (by omega)
            simp only [Option.map_some, Option.bind_eq_bind, Option.bind_some,
              Nat.add_le_add_iff_right]
            apply Ends.record_bind
            · exact Nat.lt_of_lt_of_le hnext hbound
            · intro t' hreach' hplace
              rw [← Record.rest_eq hplace]
              exact ih hnext (by omega)

section

variable {A : Alphabet α} (hmarks : ∀ mark ∈ A.marks, mark.2 ≤ 8)
include hmarks

theorem runs_escaped :
    Runs text s (Tracer.escaped text A) (A.readEscaped (s.rest text)) := by
  rw [Tracer.escaped]
  apply Ends.bump_bind
  · intro hrest
    rw [hrest]
    exact Runs.of_none
  · intro e t hreach hrest _
    rw [hrest, Alphabet.readEscaped]
    dsimp only
    cases hmark : A.marks.lookup e with
    | none => exact Ends.pure rfl
    | some digits =>
        have hdigits : 0 + digits ≤ 8 := by
          rw [Nat.zero_add]
          exact hmarks _ (mem_of_lookup_eq_some hmark)
        dsimp only
        refine Runs.bind (runs_hexNumber Nat.one_pos hdigits) ?_
        intro n t' _ _
        exact Ends.pure rfl

theorem runs_letter (c : Char) :
    Runs text s (Tracer.letter text A c) (A.readLetter c (s.rest text)) := by
  rw [Tracer.letter, Alphabet.readLetter]
  by_cases hslash : c = '\\'
  · rw [if_pos hslash, if_pos hslash]
    exact runs_escaped hmarks
  · rw [if_neg hslash, if_neg hslash]
    exact Ends.pure rfl

theorem runs_quoted {quote : Char} {f : Scan (List α)}
    (hf : ReadsQuoted A quote f) (hturns : (s.rest text).length < turns) :
    Runs text s (Tracer.quoted text A quote turns) (f (s.rest text)) := by
  induction turns generalizing s with
  | zero => exact absurd hturns (Nat.not_lt_zero _)
  | succ turns ih =>
      rw [Tracer.quoted]
      apply Ends.bump_bind
      · intro hrest
        rw [hrest, hf.nil]
        exact Runs.of_none
      · intro c t hreach hrest _
        rw [hrest, List.length_cons] at hturns
        rw [hrest]
        dsimp only
        by_cases hclose : c = quote
        · rw [if_pos hclose, hclose, hf.close]
          exact Runs.of_some []
        · rw [if_neg hclose, hf.cons hclose]
          refine Runs.bind (runs_letter hmarks c) ?_
          intro a t' hreach' hread
          have hlt := (leaves_readLetter A c _ hread).2
          exact Runs.map (ih (by omega))

end

/-! ## Text in angle brackets -/

/-- The counter is zero only before the first bracket, which is an opening
one. -/
theorem ends_angle {opened : Nat}
    (hopened : opened = 0 → (s.rest text).head? = some '<')
    (hturns : (s.rest text).length < turns) :
    Ends text s (Tracer.angle text turns opened) fun b t =>
      ∃ cs, s.rest text = cs ++ t.rest text ∧
        readAngle opened (s.rest text) =
          if b then some (cs, t.rest text) else none := by
  induction turns generalizing s opened with
  | zero => exact absurd hturns (Nat.not_lt_zero _)
  | succ turns ih =>
      rw [Tracer.angle]
      apply Ends.bump_bind
      · intro hrest
        apply Ends.pure
        exact ⟨[], rfl, by rw [hrest]; rfl⟩
      · intro c t hreach hrest _
        rw [hrest, List.length_cons] at hturns
        rw [hrest, List.head?_cons] at hopened
        -- Wherever the reader goes on, a bracket is open.
        have hmore {u : Record} (hu : u.rest text = t.rest text) {opened' : Nat}
            (hpos : 0 < opened')
            (hread : readAngle opened (c :: t.rest text) =
              prepend (some c) (readAngle opened' (t.rest text))) :
            Ends text u (Tracer.angle text turns opened') fun b v =>
              ∃ cs, c :: t.rest text = cs ++ v.rest text ∧
                readAngle opened (c :: t.rest text) =
                  if b then some (cs, v.rest text) else none := by
          have hzero : opened' = 0 → (u.rest text).head? = some '<' := by omega
          apply (ih hzero (by rw [hu]; omega)).imp
          rintro b v ⟨cs, hcs, hangle⟩
          rw [hu] at hcs hangle
          refine ⟨c :: cs, by rw [hcs]; rfl, ?_⟩
          rw [hread, hangle]
          cases b <;> rfl
        rw [hrest]
        apply Ends.ite
        · intro hc
          exact hmore rfl (Nat.succ_pos _) (if_pos hc)
        intro hopen
        have hpos : 0 < opened := by
          apply Nat.pos_of_ne_zero
          intro hzero
          exact hopen (Option.some.inj (hopened hzero))
        apply Ends.ite
        · intro hclose
          apply Ends.record_bind
          · exact hpos
          intro u hreach' hplace
          have hu : u.rest text = t.rest text := Record.rest_eq hplace
          apply Ends.ite
          · intro hlast
            apply Ends.pure
            refine ⟨[c], by rw [hu]; rfl, ?_⟩
            rw [readAngle, if_neg hopen, if_pos hclose, if_pos (by omega), hu]
            rfl
          · intro hlast
            apply hmore hu (by omega)
            rw [readAngle, if_neg hopen, if_pos hclose, if_neg (by omega)]
        · intro hclose
          apply hmore rfl hpos
          rw [readAngle, if_neg hopen, if_neg hclose]

theorem runs_bracketed (hopen : (s.rest text).head? = some '<')
    (hturns : (s.rest text).length < turns) :
    Runs text s (Tracer.bracketed text turns)
      ((readAngle 0 (s.rest text)).map
        (Prod.map (.verbatim <| String.ofList ·) id)) := by
  rw [Tracer.bracketed]
  apply Ends.place_bind
  apply Ends.bind (ends_angle (fun _ => hopen) hturns)
  rintro closed t hst ⟨cs, hcs, hread⟩
  rw [hread]
  cases closed with
  | false => exact Runs.of_none
  | true =>
      rw [if_pos rfl]
      apply Ends.place_bind
      apply Ends.cut_bind hst hcs
      intro u _ hplace
      apply Ends.pure
      rw [Record.rest_eq hplace]
      rfl

/-! ## Numbers -/

/-- If the next character is a sign, there is a character before it, and that is
the mark of an exponent or not. -/
def AfterMark (text : List Char) (s : Record) (afterMark : Bool) : Prop :=
  ∀ c, (s.rest text).head? = some c → isSign c = true →
    0 < s.place.pos ∧ text[s.place.pos - 1]?.any isExponentMark = afterMark

theorem afterMark_of_rest {c : Char} (hrest : s.rest text = c :: t.rest text)
    (hpos : t.place.pos = s.place.pos + 1) :
    AfterMark text t (isExponentMark c) := by
  intro _ _ _
  have hget : text[s.place.pos]? = some c := by
    rw [← List.head?_drop]
    exact congrArg List.head? hrest
  rw [hpos, Nat.add_sub_cancel, hget]
  exact ⟨Nat.succ_pos _, rfl⟩

theorem ends_isExponentSign {c : Char} {afterMark : Bool}
    (hmark : AfterMark text s afterMark) (hc : (s.rest text).head? = some c) :
    Ends text s (Tracer.isExponentSign text c) fun b t =>
      t.place = s.place ∧ b = (afterMark && isSign c) := by
  rw [Tracer.isExponentSign]
  apply Ends.ite
  · intro hsign
    obtain ⟨hpos, hback⟩ := hmark c hc hsign
    apply Ends.place_bind
    apply Ends.record_bind
    · exact hpos
    · intro t _ hplace
      apply Ends.pure
      exact ⟨hplace, by rw [hback, hsign, Bool.and_true]⟩
  · intro hsign
    apply Ends.pure
    exact ⟨rfl, by rw [eq_false_of_ne_true hsign, Bool.and_false]⟩

theorem ends_numberRun {afterMark : Bool} (hmark : AfterMark text s afterMark)
    (hturns : (s.rest text).length < turns) :
    Ends text s (Tracer.numberRun text turns) fun _ t =>
      (numberRun afterMark (s.rest text)).2 = t.rest text := by
  induction turns generalizing s afterMark with
  | zero => exact absurd hturns (Nat.not_lt_zero _)
  | succ turns ih =>
      rw [Tracer.numberRun]
      apply Ends.peek_bind
      cases hrest : s.rest text with
      | nil =>
          apply Ends.pure
          rw [hrest]
          rfl
      | cons c rest =>
          have hhead : (s.rest text).head? = some c := by
            rw [hrest, List.head?_cons]
          apply Ends.bind (ends_isExponentSign hmark hhead)
          rintro _ t hreach ⟨hplace, rfl⟩
          have ht : t.rest text = s.rest text := Record.rest_eq hplace
          rw [numberRun]
          apply Ends.ite
          · intro hc
            rw [if_pos hc]
            apply Ends.advance_one_bind (ht.trans hrest)
            intro u hreach' hu hpos
            rw [hrest, List.length_cons, ← hu] at hturns
            rw [← hu]
            apply ih
            · apply afterMark_of_rest (s := s)
              · rw [hrest, hu]
              · rw [hpos, hplace]
            · omega
          · intro hc
            rw [if_neg hc]
            apply Ends.pure
            exact hrest.symm.trans ht.symm

theorem ends_numberBody (hmark : AfterMark text s false)
    (hturns : (s.rest text).length < turns) :
    Ends text s (Tracer.numberBody text turns) fun _ t =>
      (numberBody (s.rest text)).2 = t.rest text := by
  have hlength {word : List Char} (h : word.isPrefixOf (s.rest text) = true) :
      word.length ≤ (s.rest text).length :=
    (List.isPrefixOf_iff_prefix.mp h).length_le
  rw [Tracer.numberBody, numberBody_eq]
  apply Ends.startsWith_bind
  apply Ends.startsWith_bind
  apply Ends.ite
  · intro hword
    rw [if_pos hword]
    have hcount : 3 ≤ (s.rest text).length := by
      rcases Bool.or_eq_true_iff.mp hword with hinf | hnan
      · exact hlength hinf
      · exact hlength hnan
    have hmove := Ends.advance_bind (k := pure) (R := fun _ t =>
      (s.rest text).drop 3 = t.rest text) hcount fun t _ ht _ =>
        Ends.pure ht.symm
    rwa [bind_pure] at hmove
  · intro hword
    rw [if_neg hword]
    exact ends_numberRun hmark hturns

theorem runs_unsignedNumber {sign : List Char} (hreach : s.Reaches text t)
    (hsign : signOf (s.rest text) = (sign, t.rest text))
    (hmark : AfterMark text t false) (hturns : (t.rest text).length < turns) :
    Runs text t (Tracer.unsignedNumber text turns s.place.pos)
      (readNumber (s.rest text)) := by
  rw [Tracer.unsignedNumber]
  apply Ends.place_bind
  apply Ends.bind (ends_numberBody hmark hturns)
  intro _ u hreach' hu
  obtain ⟨body, hbody⟩ :
      ∃ body, numberBody (t.rest text) = (body, u.rest text) :=
    ⟨_, Prod.ext rfl hu⟩
  have hunsigned : t.rest text = body ++ u.rest text := by
    rw [← numberBody_append (t.rest text), hbody]
  rw [readNumber_eq hsign hbody]
  apply Ends.place_bind
  have hlength := congrArg List.length hunsigned
  rw [List.length_append, Record.length_rest, Record.length_rest] at hlength
  have hle := hreach'.le_pos
  have hpos := hreach'.pos_le
  by_cases hempty : body = []
  · have hsame : u.place.pos = t.place.pos := by
      rw [hempty, List.length_nil] at hlength
      omega
    rw [if_pos hempty, if_pos hsame]
    exact Runs.of_none
  · have hmoved : u.place.pos ≠ t.place.pos := by
      have := List.length_pos_iff.mpr hempty
      omega
    rw [if_neg hempty, if_neg hmoved]
    have htoken : s.rest text = (sign ++ body) ++ u.rest text := by
      rw [← signOf_append (s.rest text), hsign, hunsigned, List.append_assoc]
    apply Ends.cut_bind (hreach.trans hreach') htoken
    · intro v _ hplace
      rw [signOf_append_body hsign hunsigned hempty, ← Record.rest_eq hplace]
      apply Ends.eatIf_bind
      · intro c w _ hrest hc _
        have himaginary : startsImaginary (v.rest text) = true := by
          rw [hrest]
          exact hc
        apply Ends.pure
        rw [himaginary, if_pos rfl, hrest, List.tail_cons]
      · intro hc
        have himaginary : startsImaginary (v.rest text) = false := hc
        apply Ends.pure
        rw [himaginary, if_neg Bool.false_ne_true]

theorem runs_number (hturns : (s.rest text).length < turns) :
    Runs text s (Tracer.number text turns) (readNumber (s.rest text)) := by
  rw [Tracer.number]
  apply Ends.place_bind
  apply Ends.eatIf_bind
  · intro c t hreach hrest hc hpos
    apply runs_unsignedNumber hreach
    · rw [hrest]
      exact if_pos hc
    · have hmark := afterMark_of_rest hrest hpos
      have hc' : isExponentMark c = false := by
        rw [isSign, Bool.or_eq_true, beq_iff_eq, beq_iff_eq] at hc
        rcases hc with rfl | rfl <;> rfl
      rwa [hc'] at hmark
    · rw [hrest, List.length_cons] at hturns
      omega
  · intro hc hs
    -- Without a sign there is nothing to look back for, even at the start of
    -- the text.
    have hsign : signOf (s.rest text) = ([], s.rest text) := by
      cases hrest : s.rest text with
      | nil => rfl
      | cons c rest =>
          rw [hrest, List.head?_cons, Option.any_some] at hc
          rw [signOf, hc, if_neg Bool.false_ne_true]
    have hmark : AfterMark text s false := by
      intro c hhead hsign
      rw [hhead, Option.any_some, hsign] at hc
      cases hc
    exact runs_unsignedNumber hs.reaches_self hsign hmark hturns hs

end Value
end Concord
