/-
  TaskGrid.Worker.PythonInt — what `int` accepts, as a grammar.

  `IntLiteral cs n` is the grammar of the literals `int` reads: an optional
  sign and decimal digits with single underscores between them.
  `parseInt_strip_eq_some_iff` says that after `strip` the parser of
  `TaskGrid.Worker.TaskHandlers` accepts the literals and nothing else, with
  their values; `IntLiteral.strip_padded` and `intLiteral_str` say that white
  space around a printed number does no harm.
-/
import TaskGrid.Worker.TaskHandlers
import TaskGrid.Lib.Numeral
import Mathlib.Data.List.TakeWhile

namespace TaskGrid

open TaskGrid.Lib

/-! ## §1. `strip`. -/

section Strip

variable {p q : Char → Bool} {cs : List Char}

/-- What stands around a string is stripped when the string itself starts and ends with other
characters. -/
theorem stripWhile_padded {before after front rest : List Char} {c d : Char} (hc : p c = false)
    (hd : p d = false) (hfirst : cs = c :: rest) (hlast : cs = front ++ [d])
    (hb : ∀ e ∈ before, p e = true) (ha : ∀ e ∈ after, p e = true) :
    stripWhile p (before ++ cs ++ after) = cs := by
  have hneg : ∀ {e : Char}, p e = false → ¬ p e = true := by
    intro e he
    rw [he]
    decide
  have hfront : (before ++ cs ++ after).dropWhile p = cs ++ after := by
    rw [List.append_assoc, List.dropWhile_append_of_pos hb, hfirst]
    exact List.dropWhile_cons_of_neg (hneg hc)
  have hback : (cs ++ after).reverse.dropWhile p = cs.reverse := by
    rw [List.reverse_append, List.dropWhile_append_of_pos fun e he => ha e (List.mem_reverse.mp he),
      hlast, List.reverse_append]
    exact List.dropWhile_cons_of_neg (hneg hd)
  unfold stripWhile
  rw [hfront, hback, List.reverse_reverse]

/-- From such a string alone nothing is stripped. -/
theorem stripWhile_eq_self {front rest : List Char} {c d : Char} (hc : p c = false)
    (hd : p d = false) (hfirst : cs = c :: rest) (hlast : cs = front ++ [d]) :
    stripWhile p cs = cs := by
  have hpad := stripWhile_padded hc hd hfirst hlast (List.forall_mem_nil _) (List.forall_mem_nil _)
  rw [List.nil_append, List.append_nil] at hpad
  exact hpad

/-- A stripped string starts with no character that can be stripped. -/
theorem head_stripWhile {c : Char} {rest : List Char} (h : stripWhile p cs = c :: rest) :
    p c = false := by
  -- the string without its end starts like the string whose front has been dropped
  have hprefix : stripWhile p cs <+: cs.dropWhile p := by
    unfold stripWhile
    have hsuffix := List.dropWhile_suffix (l := (cs.dropWhile p).reverse) p
    rw [← List.reverse_prefix, List.reverse_reverse] at hsuffix
    exact hsuffix
  obtain ⟨tail, htail⟩ := hprefix
  rw [h] at htail
  have hhead := List.head?_dropWhile_not p cs
  rw [← htail] at hhead
  simpa using hhead

theorem last_stripWhile (p : Char → Bool) (cs : List Char) :
    stripWhile p cs = [] ∨ ∃ front d, stripWhile p cs = front ++ [d] ∧ p d = false := by
  cases hl : ((cs.dropWhile p).reverse.dropWhile p) with
  | nil =>
      left
      unfold stripWhile
      rw [hl]
      rfl
  | cons d front =>
      right
      have hd := List.head?_dropWhile_not p (cs.dropWhile p).reverse
      rw [hl] at hd
      refine ⟨front.reverse, d, ?_, by simpa using hd⟩
      unfold stripWhile
      rw [hl, List.reverse_cons]

/-- Stripping less afterwards changes nothing. -/
theorem stripWhile_stripWhile (h : ∀ c, q c = true → p c = true) (cs : List Char) :
    stripWhile q (stripWhile p cs) = stripWhile p cs := by
  have hfalse : ∀ c, p c = false → q c = false := by
    intro c hc
    cases hq : q c with
    | false => rfl
    | true =>
        rw [h c hq] at hc
        cases hc
  rcases last_stripWhile p cs with hnil | ⟨front, d, hlast, hd⟩
  · rw [hnil]
    rfl
  · cases hs : stripWhile p cs with
    | nil => rfl
    | cons c rest =>
        rw [← hs]
        exact stripWhile_eq_self (hfalse c (head_stripWhile hs)) (hfalse d hd) hs hlast

theorem length_stripWhile_le (p : Char → Bool) (cs : List Char) :
    (stripWhile p cs).length ≤ cs.length := by
  have hend := (List.dropWhile_suffix (l := (cs.dropWhile p).reverse) p).length_le
  have hfront := (List.dropWhile_suffix (l := cs) p).length_le
  unfold stripWhile
  rw [List.length_reverse] at hend ⊢
  omega

end Strip

/-! ## §2. Digits. -/

/-- A decimal digit is below ten. -/
theorem decimal?_lt (c : Char) (d : Nat) (h : decimal? c = some d) : d < 10 := by
  unfold decimal? at h
  obtain ⟨z, hz, rfl⟩ := Option.map_eq_some_iff.mp h
  have hrange := List.find?_some hz
  simp only [Bool.and_eq_true, decide_eq_true_eq] at hrange
  omega

/-- The ten ASCII digits have their values. -/
theorem decimal?_of_isDigit {c : Char} (h : c.isDigit = true) :
    decimal? c = some (c.toNat - '0'.toNat) := by
  have hrange : 48 ≤ c.toNat ∧ c.toNat ≤ 57 := by
    simpa [Char.isDigit, UInt32.le_iff_toNat_le] using h
  have hfind : zeroDigits.find? (fun z => z ≤ c.toNat && c.toNat < z + 10) = some 0x30 := by
    refine List.find?_cons_of_pos ?_
    simp only [Bool.and_eq_true, decide_eq_true_eq]
    omega
  unfold decimal?
  rw [hfind]
  rfl

/-- No white space is a digit. -/
theorem decimal?_of_isSpace {c : Char} (h : isSpace c = true) : decimal? c = none := by
  have hnone : ∀ n ∈ [0x9, 0xa, 0xb, 0xc, 0xd, 0x1c, 0x1d, 0x1e, 0x1f, 0x20, 0x85, 0xa0, 0x1680,
      0x2000, 0x2001, 0x2002, 0x2003, 0x2004, 0x2005, 0x2006, 0x2007, 0x2008, 0x2009, 0x200a,
      0x2028, 0x2029, 0x202f, 0x205f, 0x3000],
      zeroDigits.find? (fun z => z ≤ n && n < z + 10) = none := by decide
  have hmem := of_decide_eq_true h
  unfold decimal?
  rw [hnone _ hmem]
  rfl

theorem isSpace_of_decimal {c : Char} {d : Nat} (h : decimal? c = some d) : isSpace c = false := by
  cases hs : isSpace c with
  | false => rfl
  | true =>
      rw [decimal?_of_isSpace hs] at h
      cases h

theorem decimal?_underscore : decimal? '_' = none := by decide

theorem decimal?_minus : decimal? '-' = none := by decide

theorem decimal?_plus : decimal? '+' = none := by decide

theorem decimal?_comma : decimal? ',' = none := by decide

/-! ## §3. Literals. -/

/-- The digits of a literal, `digit (["_"] digit)*`, and their value. -/
abbrev DigitPart := Numeral 10 decimal? '_'

/-- A literal `int` reads, and its value. -/
inductive IntLiteral : List Char → Int → Prop where
  | unsigned {cs : List Char} {n : Nat} (h : DigitPart cs n) : IntLiteral cs n
  | plus {cs : List Char} {n : Nat} (h : DigitPart cs n) : IntLiteral ('+' :: cs) n
  | minus {cs : List Char} {n : Nat} (h : DigitPart cs n) : IntLiteral ('-' :: cs) (-n)

/-- What `moreDigits` accepts continues a numeral. -/
theorem digitPart_of_moreDigits {value n : Nat} {cs : List Char}
    (h : moreDigits value cs = some n) :
    ∀ front, DigitPart front value → DigitPart (front ++ cs) n := by
  fun_induction moreDigits value cs with
  | case1 value =>
      intro front hfront
      rw [Option.some.injEq] at h
      rw [List.append_nil, ← h]
      exact hfront
  | case2 value c cs digit hc ih =>
      -- an underscore and a digit
      intro front hfront
      have happend : front ++ '_' :: c :: cs = (front ++ ['_', c]) ++ cs := by
        rw [List.append_assoc]
        rfl
      rw [happend]
      exact ih h _ (.group hfront hc)
  | case3 => cases h
  | case4 value c cs _ digit hc ih =>
      intro front hfront
      have happend : front ++ c :: cs = (front ++ [c]) ++ cs := by
        rw [List.append_assoc]
        rfl
      rw [happend]
      exact ih h _ (.next hfront hc)
  | case5 => cases h

/-- `moreDigits` goes on where it has stopped. -/
theorem moreDigits_append {value n : Nat} {cs : List Char} (ds : List Char)
    (h : moreDigits value cs = some n) : moreDigits value (cs ++ ds) = moreDigits n ds := by
  fun_induction moreDigits value cs with
  | case1 value =>
      rw [Option.some.injEq] at h
      rw [List.nil_append, h]
  | case2 value c cs digit hc ih =>
      rw [← ih h]
      show moreDigits value ('_' :: c :: (cs ++ ds)) = _
      simp only [moreDigits, hc]
  | case3 => cases h
  | case4 value c cs hnot digit hc ih =>
      rw [← ih h]
      have hsep : c ≠ '_' := by
        rintro rfl
        rw [decimal?_underscore] at hc
        cases hc
      show moreDigits value (c :: (cs ++ ds)) = _
      rw [moreDigits.eq_3 _ _ _ (fun d ds heq _ => hsep heq), hc]
  | case5 => cases h

theorem parseDigits_append {cs : List Char} {n : Nat} (ds : List Char)
    (h : parseDigits cs = some n) : parseDigits (cs ++ ds) = moreDigits n ds := by
  cases cs with
  | nil => cases h
  | cons c cs =>
      obtain ⟨d, hd, hm⟩ := Option.bind_eq_some_iff.mp h
      show (decimal? c).bind (fun digit => moreDigits digit (cs ++ ds)) = _
      rw [hd, Option.bind_some, moreDigits_append ds hm]

/-- **`parseDigits` accepts the numerals and nothing else, with their values.** -/
theorem parseDigits_eq_some_iff {cs : List Char} {n : Nat} :
    parseDigits cs = some n ↔ DigitPart cs n := by
  constructor
  · intro h
    cases cs with
    | nil => cases h
    | cons c cs =>
        obtain ⟨d, hd, hm⟩ := Option.bind_eq_some_iff.mp h
        exact digitPart_of_moreDigits hm [c] (.single hd)
  · intro h
    induction h with
    | single h =>
        show (decimal? _).bind _ = _
        rw [h]
        rfl
    | next _ h ih =>
        rw [parseDigits_append _ ih]
        simp only [moreDigits, h]
    | group _ h ih =>
        rw [parseDigits_append _ ih]
        simp only [moreDigits, h]

/-- A numeral starts with no sign. -/
theorem not_sign_of_digitPart {c : Char} {cs : List Char} {n : Nat} (h : DigitPart (c :: cs) n) :
    c ≠ '-' ∧ c ≠ '+' := by
  obtain ⟨c', d, rest, heq, hd⟩ := h.exists_first
  rw [List.cons.injEq] at heq
  constructor
  · intro hc
    rw [← heq.1, hc, decimal?_minus] at hd
    cases hd
  · intro hc
    rw [← heq.1, hc, decimal?_plus] at hd
    cases hd

/-- A sign turns the value of the numeral behind it. -/
theorem parseSigned_minus (cs : List Char) :
    parseSigned ('-' :: cs) = (parseDigits cs).map fun n : Nat => -(Int.ofNat n) := by
  simp only [parseSigned]
  cases parseDigits cs <;> rfl

theorem parseSigned_plus (cs : List Char) :
    parseSigned ('+' :: cs) = (parseDigits cs).map Int.ofNat := by
  simp only [parseSigned]
  cases parseDigits cs <;> rfl

theorem parseSigned_unsigned {cs : List Char} (hminus : ∀ ds, cs ≠ '-' :: ds)
    (hplus : ∀ ds, cs ≠ '+' :: ds) : parseSigned cs = (parseDigits cs).map Int.ofNat := by
  unfold parseSigned
  split
  · exact absurd rfl (hminus _)
  · exact absurd rfl (hplus _)
  · cases parseDigits cs <;> rfl

/-- **`parseSigned` accepts the literals and nothing else, with their values.** -/
theorem parseSigned_eq_some_iff {cs : List Char} {n : Int} :
    parseSigned cs = some n ↔ IntLiteral cs n := by
  constructor
  · intro h
    by_cases hminus : ∃ ds, cs = '-' :: ds
    · obtain ⟨ds, rfl⟩ := hminus
      rw [parseSigned_minus] at h
      obtain ⟨m, hm, rfl⟩ := Option.map_eq_some_iff.mp h
      exact .minus (parseDigits_eq_some_iff.mp hm)
    by_cases hplus : ∃ ds, cs = '+' :: ds
    · obtain ⟨ds, rfl⟩ := hplus
      rw [parseSigned_plus] at h
      obtain ⟨m, hm, rfl⟩ := Option.map_eq_some_iff.mp h
      exact .plus (parseDigits_eq_some_iff.mp hm)
    · rw [parseSigned_unsigned (not_exists.mp hminus) (not_exists.mp hplus)] at h
      obtain ⟨m, hm, rfl⟩ := Option.map_eq_some_iff.mp h
      exact .unsigned (parseDigits_eq_some_iff.mp hm)
  · intro h
    cases h with
    | unsigned h =>
        have hminus : ∀ ds, cs ≠ '-' :: ds := by
          rintro ds rfl
          exact (not_sign_of_digitPart h).1 rfl
        have hplus : ∀ ds, cs ≠ '+' :: ds := by
          rintro ds rfl
          exact (not_sign_of_digitPart h).2 rfl
        rw [parseSigned_unsigned hminus hplus, parseDigits_eq_some_iff.mpr h]
        rfl
    | plus h =>
        rw [parseSigned_plus, parseDigits_eq_some_iff.mpr h]
        rfl
    | minus h =>
        rw [parseSigned_minus, parseDigits_eq_some_iff.mpr h]
        rfl

/-- **After `strip`, `int` accepts the literals and nothing else, with their values.** -/
theorem parseInt_strip_eq_some_iff {cs : List Char} {n : Int} :
    parseInt (strip cs) = some n ↔ IntLiteral (strip cs) n := by
  have hspace : ∀ c, isIntSpace c = true → isSpace c = true := by
    intro c hc
    unfold isIntSpace at hc
    exact (Bool.and_eq_true_iff.mp hc).1
  unfold parseInt strip
  rw [stripWhile_stripWhile hspace]
  exact parseSigned_eq_some_iff

/-- The value of a literal is bounded by its length. -/
theorem IntLiteral.natAbs_lt {cs : List Char} {n : Int} (h : IntLiteral cs n) :
    n.natAbs < 10 ^ cs.length := by
  have hstep : ∀ k : Nat, 10 ^ k ≤ 10 ^ (k + 1) :=
    fun k => Nat.pow_le_pow_right (by decide) (Nat.le_succ k)
  cases h with
  | @unsigned _ m h =>
      rw [Int.natAbs_natCast]
      exact h.lt_pow decimal?_lt
  | @plus cs m h =>
      rw [Int.natAbs_natCast, List.length_cons]
      exact Nat.lt_of_lt_of_le (h.lt_pow decimal?_lt) (hstep cs.length)
  | @minus cs m h =>
      rw [Int.natAbs_neg, Int.natAbs_natCast, List.length_cons]
      exact Nat.lt_of_lt_of_le (h.lt_pow decimal?_lt) (hstep cs.length)

/-! ## §4. Printed numbers. -/

/-- The digits of a number are a numeral of its value. -/
theorem digitPart_toDigits (n : Nat) : DigitPart (Nat.toDigits 10 n) n := by
  have hmore : ∀ (cs : List Char) (value : Nat), (∀ c ∈ cs, c.isDigit = true) →
      moreDigits value cs = some (Nat.ofDigitChars 10 cs value) := by
    intro cs
    induction cs with
    | nil => intro value _; rfl
    | cons c cs ih =>
        intro value hcs
        have hc := hcs c List.mem_cons_self
        have hsep : c ≠ '_' := by
          rintro rfl
          exact absurd hc (by decide)
        rw [moreDigits.eq_3 _ _ _ (fun d ds heq _ => hsep heq), decimal?_of_isDigit hc,
          Nat.ofDigitChars_cons]
        exact ih _ fun d hd => hcs d (List.mem_cons_of_mem c hd)
  have hdigits : ∀ c ∈ Nat.toDigits 10 n, c.isDigit = true :=
    fun c hc => Nat.isDigit_of_mem_toDigits (by decide) (by decide) hc
  have hvalue : Nat.ofDigitChars 10 (Nat.toDigits 10 n) 0 = n := Nat.ofDigitChars_ten_toDigits
  rw [← parseDigits_eq_some_iff]
  cases hl : Nat.toDigits 10 n with
  | nil => exact absurd hl Nat.toDigits_ne_nil
  | cons c cs =>
      rw [hl] at hdigits hvalue
      rw [Nat.ofDigitChars_cons, Nat.mul_zero, Nat.zero_add] at hvalue
      show (decimal? c).bind (fun digit => moreDigits digit cs) = some n
      rw [decimal?_of_isDigit (hdigits c List.mem_cons_self), Option.bind_some,
        hmore cs _ fun d hd => hdigits d (List.mem_cons_of_mem c hd), hvalue]

/-- **What `str` prints is a literal of the number.** -/
theorem intLiteral_str (n : Int) : IntLiteral (str n).toList n := by
  cases n with
  | ofNat m =>
      rw [toList_str_ofNat]
      exact .unsigned (digitPart_toDigits m)
  | negSucc m =>
      rw [toList_str_negSucc]
      exact .minus (digitPart_toDigits (m + 1))

/-- White space around a literal is stripped, and nothing of the literal. -/
theorem IntLiteral.strip_padded {cs : List Char} {n : Int} (h : IntLiteral cs n)
    {before after : List Char} (hb : ∀ c ∈ before, isSpace c = true)
    (ha : ∀ c ∈ after, isSpace c = true) : strip (before ++ cs ++ after) = cs := by
  obtain ⟨c, rest, hfirst, hc⟩ : ∃ c rest, cs = c :: rest ∧ isSpace c = false := by
    cases h with
    | unsigned h =>
        obtain ⟨c, d, rest, heq, hd⟩ := h.exists_first
        exact ⟨c, rest, heq, isSpace_of_decimal hd⟩
    | plus h => exact ⟨'+', _, rfl, by decide⟩
    | minus h => exact ⟨'-', _, rfl, by decide⟩
  obtain ⟨front, c', hlast, hc'⟩ : ∃ front c', cs = front ++ [c'] ∧ isSpace c' = false := by
    cases h with
    | unsigned h =>
        obtain ⟨front, c', d, heq, hd⟩ := h.exists_last
        exact ⟨front, c', heq, isSpace_of_decimal hd⟩
    | plus h =>
        obtain ⟨front, c', d, heq, hd⟩ := h.exists_last
        exact ⟨'+' :: front, c', by rw [heq]; rfl, isSpace_of_decimal hd⟩
    | minus h =>
        obtain ⟨front, c', d, heq, hd⟩ := h.exists_last
        exact ⟨'-' :: front, c', by rw [heq]; rfl, isSpace_of_decimal hd⟩
  exact stripWhile_padded hc hc' hfirst hlast hb ha

/-- There is no comma in a literal. -/
theorem IntLiteral.comma_not_mem {cs : List Char} {n : Int} (h : IntLiteral cs n) : ',' ∉ cs := by
  have hdigits : ∀ {cs : List Char} {m : Nat}, DigitPart cs m → ',' ∉ cs := by
    intro cs m hm hmem
    rcases hm.mem_cases hmem with heq | ⟨d, hd⟩
    · exact absurd heq (by decide)
    · rw [decimal?_comma] at hd
      cases hd
  cases h with
  | unsigned h => exact hdigits h
  | plus h =>
      intro hmem
      rcases List.mem_cons.mp hmem with heq | hmem
      · exact absurd heq (by decide)
      · exact hdigits h hmem
  | minus h =>
      intro hmem
      rcases List.mem_cons.mp hmem with heq | hmem
      · exact absurd heq (by decide)
      · exact hdigits h hmem

end TaskGrid
