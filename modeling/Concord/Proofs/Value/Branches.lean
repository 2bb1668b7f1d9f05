import Concord.Proofs.Value.Alphabet

/-!
# Branches of the reader

Each reader goes by the next character. The equations here say so in one form,
so that what holds of every branch holds of the reader.
-/

namespace Concord
namespace Value

variable {fuel : Nat} {item : Scan Value}

/-! ## Numbers -/

theorem signOf_append (cs : List Char) :
    (signOf cs).1 ++ (signOf cs).2 = cs := by
  unfold signOf
  split
  · rfl
  · split <;> rfl

theorem numberRun_append (afterMark : Bool) (cs : List Char) :
    (numberRun afterMark cs).1 ++ (numberRun afterMark cs).2 = cs := by
  fun_induction numberRun afterMark cs with
  | case1 => rfl
  | case2 _ c cs _ run rest hrun ih =>
      rw [hrun] at ih
      exact congrArg (c :: ·) ih
  | case3 => rfl

theorem numberBody_append (cs : List Char) :
    (numberBody cs).1 ++ (numberBody cs).2 = cs := by
  unfold numberBody
  split
  · rfl
  · rfl
  · exact numberRun_append false cs

theorem numberBody_eq (cs : List Char) :
    numberBody cs =
      if "inf".toList.isPrefixOf cs || "nan".toList.isPrefixOf cs then
        (cs.take 3, cs.drop 3)
      else numberRun false cs := by
  unfold numberBody
  split
  · rfl
  · rfl
  · rename_i hinf hnan
    have hword {word : List Char} (h : ∀ rest, cs ≠ word ++ rest) :
        word.isPrefixOf cs = false := by
      apply eq_false_of_ne_true
      intro hprefix
      obtain ⟨rest, hrest⟩ := List.isPrefixOf_iff_prefix.mp hprefix
      exact h rest hrest.symm
    have hfalse :
        ("inf".toList.isPrefixOf cs || "nan".toList.isPrefixOf cs) = false :=
      Bool.or_eq_false_iff.mpr ⟨hword hinf, hword hnan⟩
    rw [hfalse, if_neg Bool.false_ne_true]

theorem signOf_append_body {cs sign unsigned body rest : List Char}
    (hsign : signOf cs = (sign, unsigned)) (hunsigned : unsigned = body ++ rest)
    (hbody : body ≠ []) : signOf (sign ++ body) = (sign, body) := by
  obtain ⟨b, body, rfl⟩ := List.exists_cons_of_ne_nil hbody
  cases cs with
  | nil =>
      obtain ⟨rfl, rfl⟩ := Prod.mk.inj hsign
      cases hunsigned
  | cons c cs =>
      rw [signOf] at hsign
      by_cases hc : isSign c = true
      · rw [if_pos hc] at hsign
        obtain ⟨rfl, rfl⟩ := Prod.mk.inj hsign
        exact if_pos hc
      · rw [if_neg hc] at hsign
        obtain ⟨rfl, rfl⟩ := Prod.mk.inj hsign
        obtain ⟨rfl, -⟩ := List.cons.inj hunsigned
        exact if_neg hc

/-- The text starts with the mark of an imaginary number. -/
def startsImaginary (cs : List Char) : Bool :=
  cs.head?.any fun c => c = 'j' || c = 'J'

/-- The number that a sign and a body denote. -/
def ofNumeral? (imaginary : Bool) (sign body : List Char) : Option Value :=
  if imaginary then
    (Binary64.read? (sign ++ body)).map fun im => .complex Binary64.zero im
  else if isFloatBody body then (Binary64.read? (sign ++ body)).map .float
  else some (wholeNumber sign body)

theorem readNumber_eq {cs sign unsigned body rest : List Char}
    (hsign : signOf cs = (sign, unsigned))
    (hbody : numberBody unsigned = (body, rest)) :
    readNumber cs =
      if body = [] then none
      else (ofNumeral? (startsImaginary rest) sign body).map fun v =>
        (v, if startsImaginary rest then rest.tail else rest) := by
  rw [readNumber, hsign]
  dsimp only
  rw [hbody]
  by_cases hempty : body = []
  · rw [if_pos hempty, hempty]
    rfl
  · have hne : ¬ body.isEmpty = true := by rwa [List.isEmpty_iff]
    rw [if_neg hempty, if_neg hne]
    have hplain : (ofNumeral? false sign body).map (fun v => (v, rest)) =
        if isFloatBody body then
          (Binary64.read? (sign ++ body)).map fun x => (.float x, rest)
        else some (wholeNumber sign body, rest) := by
      rw [ofNumeral?, if_neg Bool.false_ne_true]
      by_cases hfloat : isFloatBody body = true
      · rw [if_pos hfloat, if_pos hfloat, Option.map_map]
        rfl
      · rw [if_neg hfloat, if_neg hfloat, Option.map_some]
    cases rest with
    | nil => exact hplain.symm
    | cons c after =>
        dsimp only
        by_cases hmark : (decide (c = 'j') || decide (c = 'J')) = true
        · rw [if_pos hmark, startsImaginary, List.head?_cons, Option.any_some,
            hmark, ofNumeral?, if_pos rfl, if_pos rfl, Option.map_map]
          rfl
        · rw [if_neg hmark, startsImaginary, List.head?_cons, Option.any_some,
            eq_false_of_ne_true hmark]
          exact hplain.symm

/-! ## Containers -/

/-- Goes on with what follows the character if the text starts with it. -/
def ifNext {β : Type} (c : Char) (cs : List Char) (yes : List Char → β)
    (no : β) : β :=
  match cs with
  | [] => no
  | d :: rest => if d = c then yes rest else no

theorem ifNext_self {β : Type} (c : Char) (rest : List Char)
    (yes : List Char → β) (no : β) : ifNext c (c :: rest) yes no = yes rest :=
  if_pos rfl

theorem ifNext_of_ne {β : Type} {c : Char} {cs : List Char}
    (h : cs.head? ≠ some c) (yes : List Char → β) (no : β) :
    ifNext c cs yes no = no := by
  cases cs with
  | nil => rfl
  | cons d rest => exact if_neg (by simpa using h)

theorem exists_of_head? {c : Char} {cs : List Char} (h : cs.head? = some c) :
    ∃ rest, cs = c :: rest :=
  ⟨cs.tail, (List.cons_head?_tail h).symm⟩

theorem ifNext_bind {α β : Type} (c : Char) (cs : List Char)
    (yes : List Char → Option α) (g : α → Option β) :
    (ifNext c cs yes none).bind g =
      ifNext c cs (fun rest => (yes rest).bind g) none := by
  by_cases hnext : cs.head? = some c
  · obtain ⟨rest, rfl⟩ := exists_of_head? hnext
    rw [ifNext_self, ifNext_self]
  · rw [ifNext_of_ne hnext, ifNext_of_ne hnext]
    rfl

theorem readItems_succ (hitem : item [] = none) (close : Char)
    (cs : List Char) :
    readItems item close (fuel + 1) cs =
      ifNext close (Text.skipBlanks cs) (fun rest => some ([], rest))
        ((item (Text.skipBlanks cs)).bind fun p =>
          ifNext close (Text.skipBlanks p.2) (fun rest => some ([p.1], rest))
            (ifNext ',' (Text.skipBlanks p.2)
              (fun rest => (readItems item close fuel rest).map
                (Prod.map (p.1 :: ·) id))
              none)) := by
  simp only [Option.map_eq_bind]
  rw [readItems]
  cases Text.skipBlanks cs with
  | nil => rw [hitem]; rfl
  | cons c rest =>
      dsimp only [ifNext]
      split_ifs with hclose
      · rfl
      · refine congrArg (Option.bind _) (funext fun p => ?_)
        cases Text.skipBlanks p.2 with
        | nil => rfl
        | cons d rest => rfl

theorem readAfterColon_eq (cs : List Char) :
    readAfterColon item cs = ifNext ':' (Text.skipBlanks cs) item none := by
  rw [readAfterColon]
  split
  · rename_i rest hrest
    rw [hrest, ifNext_self]
  · rename_i hne
    rw [ifNext_of_ne fun h => (exists_of_head? h).elim hne]

theorem readMoreEntries_succ (cs : List Char) :
    readMoreEntries item (fuel + 1) cs =
      ifNext '}' (Text.skipBlanks cs) (fun rest => some ([], rest))
        (ifNext ',' (Text.skipBlanks cs)
          (fun rest => ifNext '}' (Text.skipBlanks rest)
            (fun rest => some ([], rest))
            ((item (Text.skipBlanks rest)).bind fun p =>
              ifNext ':' (Text.skipBlanks p.2)
                (fun rest => (item rest).bind fun q =>
                  (readMoreEntries item fuel q.2).map
                    (Prod.map ((p.1, q.1) :: ·) id))
                none))
          none) := by
  simp only [Option.map_eq_bind, ← ifNext_bind, ← readAfterColon_eq]
  rw [readMoreEntries]
  split
  · rename_i rest hrest
    rw [hrest, ifNext_self]
  · rename_i rest hrest
    rw [hrest, ifNext_of_ne (by simp), ifNext_self]
    split
    · rename_i rest' hrest'
      rw [hrest', ifNext_self]
    · rename_i hne
      rw [ifNext_of_ne fun h => (exists_of_head? h).elim hne]
      rfl
  · rename_i hbrace hcomma
    rw [ifNext_of_ne fun h => (exists_of_head? h).elim hbrace,
      ifNext_of_ne fun h => (exists_of_head? h).elim hcomma]

theorem readAfterFirst_eq (first : Value) (cs : List Char) :
    readAfterFirst fuel item first cs =
      ifNext ')' cs (fun rest => some (first, rest))
        (ifNext ',' cs
          (fun rest => (readItems item ')' fuel rest).map
            (Prod.map (.tuple <| first :: ·) id))
          none) := by
  simp only [Option.map_eq_bind]
  unfold readAfterFirst
  split
  · rw [ifNext_self]
  · rw [ifNext_of_ne (by simp), ifNext_self]
    rfl
  · rename_i hparen hcomma
    rw [ifNext_of_ne fun h => (exists_of_head? h).elim hparen,
      ifNext_of_ne fun h => (exists_of_head? h).elim hcomma]

/-- The imaginary part of a complex number. -/
def imaginaryPart? : Value → Option Binary64
  | .complex _ im => some im
  | _ => none

theorem readImaginary_eq (re : Binary64) (cs : List Char) :
    readImaginary re cs =
      (readNumber cs).bind fun p => (imaginaryPart? p.1).bind fun im =>
        ifNext ')' (Text.skipBlanks p.2)
          (fun rest => some (.complex re im, rest)) none := by
  rw [readImaginary]
  refine congrArg (Option.bind _) (funext fun p => ?_)
  dsimp only
  split
  · rename_i im rest hv hrest
    rw [hv, hrest, imaginaryPart?, Option.bind_some, ifNext_self]
  · rename_i hne
    cases him : imaginaryPart? p.1 with
    | none => rfl
    | some im =>
        obtain ⟨re', hv⟩ : ∃ re', p.1 = .complex re' im := by
          unfold imaginaryPart? at him
          split at him
          · cases him
            exact ⟨_, ‹_›⟩
          · cases him
        rw [Option.bind_some, ifNext_of_ne fun h =>
          (exists_of_head? h).elim (hne re' im · hv)]

theorem readParen_eq (cs : List Char) :
    readParen fuel item cs =
      ifNext ')' (Text.skipBlanks cs) (fun rest => some (.tuple [], rest))
        ((item (Text.skipBlanks cs)).bind fun p =>
          match realPart? ((Text.skipBlanks cs).head? == some '-') p.1 with
          | some re =>
            if startsWithSign (Text.skipBlanks p.2) then
              readImaginary re (Text.skipBlanks p.2)
            else readAfterFirst fuel item p.1 (Text.skipBlanks p.2)
          | none => readAfterFirst fuel item p.1 (Text.skipBlanks p.2)) := by
  rw [readParen]
  split
  · rename_i rest hrest
    rw [hrest, ifNext_self]
  · rename_i hne
    rw [ifNext_of_ne fun h => (exists_of_head? h).elim hne]
    rfl

theorem readBrace_eq (cs : List Char) :
    readBrace fuel item cs =
      ifNext '}' (Text.skipBlanks cs) (fun rest => some (.dict [], rest))
        ((item (Text.skipBlanks cs)).bind fun p =>
          ifNext ':' (Text.skipBlanks p.2)
            (fun rest => (item rest).bind fun q =>
              (readMoreEntries item fuel q.2).map
                (Prod.map (.dict <| (p.1, q.1) :: ·) id))
            (ifNext '}' (Text.skipBlanks p.2)
              (fun rest => some (.set [p.1], rest))
              (ifNext ',' (Text.skipBlanks p.2)
                (fun rest => (readItems item '}' fuel rest).map
                  (Prod.map (.set <| p.1 :: ·) id))
                none))) := by
  simp only [Option.map_eq_bind]
  rw [readBrace]
  split
  · rename_i rest hrest
    rw [hrest, ifNext_self]
  · rename_i hne
    rw [ifNext_of_ne fun h => (exists_of_head? h).elim hne]
    refine congrArg (Option.bind _) (funext fun p => ?_)
    dsimp only
    split
    · rename_i rest hrest
      rw [hrest, ifNext_self]
      rfl
    · rename_i rest hrest
      rw [hrest, ifNext_of_ne (by simp), ifNext_self]
    · rename_i rest hrest
      rw [hrest, ifNext_of_ne (by simp), ifNext_of_ne (by simp), ifNext_self]
      rfl
    · rename_i hcolon hbrace hcomma
      rw [ifNext_of_ne fun h => (exists_of_head? h).elim hcolon,
        ifNext_of_ne fun h => (exists_of_head? h).elim hbrace,
        ifNext_of_ne fun h => (exists_of_head? h).elim hcomma]

theorem readName_eq (cs : List Char) :
    readName fuel item cs =
      ifNext '(' (cs.dropWhile continuesName)
        (fun rest => (readItems item ')' fuel rest).map
          (Prod.map (construct (cs.takeWhile continuesName)) id))
        ((named? (cs.takeWhile continuesName)).map fun v =>
          (v, cs.dropWhile continuesName)) := by
  rw [readName]
  split
  · rename_i rest hrest
    rw [hrest, ifNext_self, Option.map_eq_bind]
    rfl
  · rename_i hne
    rw [ifNext_of_ne fun h => (exists_of_head? h).elim hne]

/-- Reads the bytes between quotes that follow a `b`. -/
def readBytes : Scan Value
  | [] => none
  | quote :: cs => (readQuotedBytes quote cs).map (Prod.map .bytes id)

theorem isPrefixOf_dots_iff {cs : List Char} :
    "...".toList.isPrefixOf cs = true ↔
      ∃ rest, cs = '.' :: '.' :: '.' :: rest := by
  rw [List.isPrefixOf_iff_prefix]
  constructor
  · rintro ⟨rest, rfl⟩
    exact ⟨rest, rfl⟩
  · rintro ⟨rest, rfl⟩
    exact ⟨rest, rfl⟩

theorem startsName_b : startsName 'b' = true := by
  decide

theorem readNested_of_skipBlanks {cs rest : List Char} {c : Char}
    (h : Text.skipBlanks cs = c :: rest) :
    readNested fuel item cs =
      if c = '[' then (readItems item ']' fuel rest).map (Prod.map .list id)
      else if c = '(' then readParen fuel item rest
      else if c = '{' then readBrace fuel item rest
      else if c = '<' then
        (readAngle 0 (c :: rest)).map
          (Prod.map (.verbatim <| String.ofList ·) id)
      else if isQuote c then
        (readQuoted c rest).map (Prod.map (.str <| String.ofList ·) id)
      else if c = 'b' && rest.head?.any isQuote then readBytes rest
      else if "...".toList.isPrefixOf (c :: rest) then
        some (.ellipsis, (c :: rest).drop 3)
      else if c.isDigit || isSign c || c == '.' then readNumber (c :: rest)
      else if startsName c then readName fuel item (c :: rest)
      else none := by
  rw [readNested, h]
  split
  · rename_i hnil
    cases hnil
  · rename_i rest' hdots
    obtain ⟨rfl, rfl⟩ := List.cons.inj hdots
    rfl
  · rename_i c' rest' hdots hcons
    obtain ⟨rfl, rfl⟩ := List.cons.inj hcons
    have hprefix : ¬ "...".toList.isPrefixOf (c :: rest) = true := by
      intro hprefix
      obtain ⟨after, hafter⟩ := isPrefixOf_dots_iff.mp hprefix
      obtain ⟨rfl, rfl⟩ := List.cons.inj hafter
      exact hdots after rfl rfl
    rw [if_neg hprefix]
    -- Only the `b` before a quote is told from a name by what follows it.
    by_cases hb : c = 'b'
    · subst hb
      cases rest with
      | nil => rfl
      | cons q after =>
          by_cases hquote : isQuote q = true
          · have hbytes : (decide ('b' = 'b') &&
                (q :: after).head?.any isQuote) = true := hquote
            rw [if_pos hbytes]
            exact if_pos hquote
          · have hname : ¬ (decide ('b' = 'b') &&
                (q :: after).head?.any isQuote) = true := hquote
            rw [if_neg hname]
            rw [if_pos startsName_b]
            exact if_neg hquote
    · have hbytes : ¬ (decide (c = 'b') && rest.head?.any isQuote) = true := by
        rw [decide_eq_false hb]
        exact Bool.false_ne_true
      rw [if_neg hbytes]
      refine if_congr Iff.rfl rfl (if_congr Iff.rfl rfl (if_congr Iff.rfl rfl
        (if_congr Iff.rfl rfl
        (if_congr Iff.rfl rfl (if_congr Iff.rfl rfl ?_)))))
      split
      · exact absurd rfl hb
      · rfl

end Value
end Concord
